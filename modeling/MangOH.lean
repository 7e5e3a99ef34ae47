import MangOH.ReceiveRuns
import MangOH.ReceiveSharing
import MangOH.QueueWrite
import MangOH.ResponseDispatch
import MangOH.ConnectionReports
import MangOH.ConnectionState
import MangOH.AccessPointLink
import MangOH.ScanRequest
import MangOH.OperatingMode
import MangOH.Credentials
import MangOH.AccessPointSecurity
import MangOH.TransmitOwnership
import MangOH.TransmitWakeup
import MangOH.SpiAccess
import MangOH.RedMux
import MangOH.SlotContent
import MangOH.SlotResources
import MangOH.RequestBytes
import MangOH.LockPaths
import MangOH.VifRegistry
import MangOH.UartReceive
import MangOH.TransportCalls
import MangOH.UartClose
import MangOH.MangohBoards
import MangOH.CombainRequests
import MangOH.LocationFlow
import MangOH.LocationStatus
import MangOH.WifiScan
import MangOH.CombainHttpRuns
import MangOH.LightLock
import MangOH.LightCache
import MangOH.RtcSync
import MangOH.NtagStore
import MangOH.NtagHostile
import MangOH.EinkDisplay
import MangOH.QueueRefusals
import MangOH.QueueOffsets
import MangOH.QueueInit
import MangOH.FieldReads
import MangOH.NotifyTx
import MangOH.UartTransfers
import MangOH.FieldBounds
import MangOH.LightThreshold
import MangOH.CombainTexts
import MangOH.EepromImage
import MangOH.ReceiveData
import MangOH.ChannelSelect
import MangOH.RangeReport
import MangOH.NtagBytes
import MangOH.PushNdef
import MangOH.WriteNdef
import MangOH.FieldDetect
import MangOH.ChargeLimits
import MangOH.RtcTime
import MangOH.EinkProbe
import MangOH.ChargerFields
import MangOH.ChargerFaults
import MangOH.TextEntry
import MangOH.NdefTag
import MangOH.TagClean
import MangOH.CmdEnding
import MangOH.CanTraffic
import MangOH.RecordHeap
import MangOH.TagSharing
import MangOH.IioRefusals
import MangOH.NumberText
