/-!
The requests to the Combain service: what a scan found of an access point, the
list of them that is built up, and the body made from it. Jansson, which is not
part of the repository, makes a JSON string only of valid UTF-8.
-/

namespace MangOH.Combain

abbrev Byte := BitVec 8

/-- `sizeof(WifiApScanItem::ssid)`. -/
def ssidSize : Nat := 32

/-- An access point that its constructor accepts. -/
structure WifiApScanItem where
  bssid : List Byte
  ssid : List Byte
  signalStrength : Int
  bssidLen : bssid.length = 6
  ssidLen : ssid.length ≤ ssidSize
  negative : signalStrength < 0
deriving DecidableEq

/-- The constructor, with `none` where it throws. -/
def WifiApScanItem.make (bssid ssid : List Byte) (signalStrength : Int) : Option WifiApScanItem :=
  if bssidLen : bssid.length = 6 then
    if ssidLen : ssid.length ≤ ssidSize then
      if negative : signalStrength < 0 then
        some ⟨bssid, ssid, signalStrength, bssidLen, ssidLen, negative⟩
      else none
    else none
  else none

/-- Cell towers are never added: the call for them ends in a TODO. -/
structure CombainRequestBuilder where
  wifiAps : List WifiApScanItem
deriving DecidableEq

def CombainRequestBuilder.appendWifiAccessPoint (ap : WifiApScanItem)
    (request : CombainRequestBuilder) : CombainRequestBuilder :=
  { request with wifiAps := request.wifiAps ++ [ap] }

def hexDigit (nibble : Nat) : Byte := BitVec.ofNat 8 (if nibble < 10 then 48 + nibble else 87 + nibble)

/-- Two digits, with a zero in front where one would do. -/
def hexByte (byte : Byte) : List Byte := [hexDigit (byte.toNat / 16), hexDigit (byte.toNat % 16)]

def colon : Byte := 58

/-- Bytes after the first have a colon before them. -/
def macAddrToString : List Byte → List Byte
  | [] => []
  | [last] => hexByte last
  | byte :: rest => hexByte byte ++ colon :: macAddrToString rest

/-- An object of the array `wifiAccessPoints`. A string that jansson does not
make leaves its field out. -/
structure JsonAp where
  macAddress : List Byte
  ssid : Option (List Byte)
  signalStrength : Int
deriving DecidableEq

/-- The body of a request; without access points it has no array of them. -/
structure Body where
  wifiAccessPoints : Option (List JsonAp)
deriving DecidableEq

/-- `c_str` of the string with these bytes, as `json_string` reads it. -/
def jsonString (utf8 : List Byte → Bool) (bytes : List Byte) : Option (List Byte) :=
  let text := bytes.takeWhile (· ≠ 0)
  if utf8 text then some text else none

def jsonAp (utf8 : List Byte → Bool) (ap : WifiApScanItem) : JsonAp where
  macAddress := macAddrToString ap.bssid
  ssid := jsonString utf8 ap.ssid
  signalStrength := ap.signalStrength

def CombainRequestBuilder.generateRequestBody (utf8 : List Byte → Bool)
    (request : CombainRequestBuilder) : Body where
  wifiAccessPoints :=
    if request.wifiAps.isEmpty then none else some (request.wifiAps.map (jsonAp utf8))

end MangOH.Combain
