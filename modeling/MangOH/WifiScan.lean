import MangOH.CombainLocation
import Mathlib.Data.List.Forall2
import Mathlib.Data.List.TakeWhile

/-!
A scan on its way into a request: the fetches of each access point, the parser of
the BSSID and the call that appends. The loop over the access points only logs
what a fetch or the parser refuses, and appends with what its variables hold.
-/

namespace MangOH.Combain

/-- The value of a hexadecimal digit. -/
def nibble (char : Byte) : Option Byte :=
  if 48 ≤ char ∧ char ≤ 57 then some (char - 48)
  else if 97 ≤ char ∧ char ≤ 102 then some (10 + char - 97)
  else if 65 ≤ char ∧ char ≤ 70 then some (10 + char - 65)
  else none

/-- What the character at an offset writes: the high half of a byte, or its low half. -/
def writeNibble (inputOffset : Nat) (value : Byte) (b : List Byte) : List Byte :=
  if inputOffset % 3 = 0 then b.set (inputOffset / 3) (value <<< 4)
  else b.modify (inputOffset / 3) (· ||| value)

/-- The loop with the characters that are left to it, and the check behind it. A read
behind the bytes of `s` is `none`. -/
def macLoop (s : List Byte) : Nat → Nat → List Byte → Option (Bool × List Byte)
  | 0, inputOffset, b => s[inputOffset]?.map fun char => (decide (char = 0), b)
  | left + 1, inputOffset, b =>
      match s[inputOffset]? with
      | none => none
      | some char =>
          if inputOffset % 3 = 2 then
            if char ≠ colon then some (false, b) else macLoop s left (inputOffset + 1) b
          else
            match nibble char with
            | none => some (false, b)
            | some value => macLoop s left (inputOffset + 1) (writeNibble inputOffset value b)

def macStrLen : Nat := 6 * 2 + (6 - 1)

def macAddrStringToBinary (s b : List Byte) : Option (Bool × List Byte) := macLoop s macStrLen 0 b

/-- `sizeof(bssid)`. -/
def bssidSize : Nat := macStrLen + 1

/-- An access point of a scan: what each fetch brings, with `none` where it fails, and
what the variables of the loop held before. The signal strength is the number that is
returned, for a failure too. -/
structure AccessPoint where
  ssid : Option (List Byte)
  bssid : Option (List Byte)
  signalStrength : Int
  bssidStack : List Byte
  bytesStack : List Byte
  ssidFits : ∀ bytes ∈ ssid, bytes.length ≤ ssidSize
  bssidFits : ∀ text ∈ bssid, text.length < bssidSize ∧ 0 ∉ text
  bssidStackFits : bssidStack.length = bssidSize
  bytesStackFits : bytesStack.length = 6

namespace AccessPoint

variable (ap : AccessPoint)

/-- The variables `ssid` and `bssid` behind their fetches. -/
def ssidVar : List Byte := ap.ssid.getD (List.replicate ssidSize 0)

def bssidVar : List Byte :=
  match ap.bssid with
  | some text => text ++ 0 :: ap.bssidStack.drop (text.length + 1)
  | none => ap.bssidStack

def bssidBytes : List Byte :=
  match macAddrStringToBinary ap.bssidVar ap.bytesStack with
  | some (_, b) => b
  | none => ap.bytesStack

/-- What the call to append takes the access point for. -/
def item : Option WifiApScanItem := WifiApScanItem.make ap.bssidBytes ap.ssidVar ap.signalStrength

end AccessPoint

/-- One turn of the loop. -/
def appendAccessPoint (request : CombainRequestBuilder) (ap : AccessPoint) : CombainRequestBuilder :=
  match ap.item with
  | some item => request.appendWifiAccessPoint item
  | none => request

def scanRequest (aps : List AccessPoint) : CombainRequestBuilder := aps.foldl appendAccessPoint ⟨[]⟩

def submittedAps (utf8 : List Byte → Bool) (aps : List AccessPoint) : List JsonAp :=
  ((scanRequest aps).generateRequestBody utf8).wifiAccessPoints.getD []

/-! What a MAC address is as a text: pairs of digits with colons between them. -/

def pairByte (high low : Byte) : Option Byte :=
  (nibble high).bind fun high => (nibble low).map fun low => high <<< 4 ||| low

def macPairs : Nat → List Byte → Option (List Byte)
  | 0, high :: low :: [] => (pairByte high low).map fun byte => [byte]
  | more + 1, high :: low :: char :: rest =>
      if char = colon then
        (pairByte high low).bind fun byte => (macPairs more rest).map fun mac => byte :: mac
      else none
  | _, _ => none

def macOf (text : List Byte) : Option (List Byte) := macPairs 5 text

/-- The MAC address that was fetched, if there was one. -/
def AccessPoint.mac (ap : AccessPoint) : Option (List Byte) := ap.bssid.bind macOf

/-- A failed fetch of the SSID leaves an empty one. -/
structure Carries (ap : AccessPoint) (entry : JsonAp) : Prop where
  mac : macOf entry.macAddress = ap.mac
  ssid : entry.ssid = some (ap.ssid.getD [])
  signalStrength : entry.signalStrength = ap.signalStrength

def ScanFaithful (utf8 : List Byte → Bool) (aps : List AccessPoint) : Prop :=
  List.Forall₂ Carries (aps.filter (·.mac.isSome)) (submittedAps utf8 aps)

/-- What the formatter writes is read back, and other texts are refused. The bytes that
the parser may read end with the zero byte. -/
structure ParserSound : Prop where
  accepts : ∀ mac stack : List Byte, mac.length = 6 → stack.length = 6 →
    macAddrStringToBinary (macAddrToString mac ++ [0]) stack = some (true, mac)
  rejects : ∀ text stack : List Byte, stack.length = 6 → 0 ∉ text → macOf text = none →
    ∃ b, macAddrStringToBinary (text ++ [0]) stack = some (false, b)

/-- An access point with a MAC address has a negative signal strength and an SSID that a
JSON string can hold; one without has a signal strength that the constructor refuses. -/
def ApSafe (utf8 : List Byte → Bool) (ap : AccessPoint) : Prop :=
  if ap.mac.isSome then
    ap.signalStrength < 0 ∧ 0 ∉ ap.ssid.getD [] ∧ utf8 (ap.ssid.getD []) = true
  else 0 ≤ ap.signalStrength

variable {s mac text behind b : List Byte} {high low : Byte}

/-! The parser, read on the text that is left. -/

/-- The loop where the text from the offset on is known. -/
def scanLoop : Nat → Nat → List Byte → List Byte → Option (Bool × List Byte)
  | _, _, [], _ => none
  | 0, _, char :: _, b => some (decide (char = 0), b)
  | left + 1, inputOffset, char :: rest, b =>
      if inputOffset % 3 = 2 then
        if char ≠ colon then some (false, b) else scanLoop left (inputOffset + 1) rest b
      else
        match nibble char with
        | none => some (false, b)
        | some value => scanLoop left (inputOffset + 1) rest (writeNibble inputOffset value b)

theorem macLoop_scan (left inputOffset : Nat) (b : List Byte) :
    macLoop s left inputOffset b = scanLoop left inputOffset (s.drop inputOffset) b := by
  induction left generalizing inputOffset b with
  | zero =>
      cases here : s.drop inputOffset with
      | nil => simp [macLoop, scanLoop, List.drop_eq_nil_iff.mp here]
      | cons char rest =>
          have read : s[inputOffset]? = some char := by
            rw [← List.head?_drop, here]
            rfl
          rw [macLoop, scanLoop, read]
          rfl
  | succ left ih =>
      cases here : s.drop inputOffset with
      | nil => simp [macLoop, scanLoop, List.drop_eq_nil_iff.mp here]
      | cons char rest =>
          have read : s[inputOffset]? = some char := by
            rw [← List.head?_drop, here]
            rfl
          have next : s.drop (inputOffset + 1) = rest := by
            rw [← List.tail_drop, here]
            rfl
          simp only [macLoop, scanLoop, read, ih, next]

@[simp] theorem writeNibble_length (inputOffset : Nat) (value : Byte) :
    (writeNibble inputOffset value b).length = b.length := by
  rw [writeNibble]
  split
  · exact List.length_set
  · exact List.length_modify _ _ _

theorem macLoop_length (left inputOffset : Nat) {accepted : Bool} {written : List Byte}
    (done : macLoop s left inputOffset b = some (accepted, written)) : written.length = b.length := by
  induction left generalizing inputOffset b with
  | zero =>
      obtain ⟨char, _, same⟩ := Option.map_eq_some_iff.mp done
      cases same
      rfl
  | succ left ih =>
      rw [macLoop] at done
      split at done
      · cases done
      · split at done
        · split at done
          · cases done
            rfl
          · exact ih _ done
        · split at done
          · cases done
            rfl
          · rw [ih _ done, writeNibble_length]

/-- Both halves of a byte. -/
theorem writeNibble_pair (known tail : List Byte) (last : Byte) :
    writeNibble (3 * known.length + 1) low
        (writeNibble (3 * known.length) high (known ++ last :: tail)) =
      known ++ (high <<< 4 ||| low) :: tail := by
  have first : 3 * known.length % 3 = 0 ∧ 3 * known.length / 3 = known.length := by omega
  have second : (3 * known.length + 1) % 3 ≠ 0 ∧ (3 * known.length + 1) / 3 = known.length := by
    omega
  rw [writeNibble, writeNibble, if_pos first.1, if_neg second.1, first.2, second.2]
  simp [List.modify_eq_take_cons_drop]

theorem nibble_zero : nibble 0 = none := rfl

theorem scan_digit (left : Nat) {inputOffset : Nat} (digit : inputOffset % 3 ≠ 2) (char : Byte)
    (rest : List Byte) :
    scanLoop (left + 1) inputOffset (char :: rest) b =
      match nibble char with
      | none => some (false, b)
      | some value => scanLoop left (inputOffset + 1) rest (writeNibble inputOffset value b) := by
  rw [scanLoop, if_neg digit]

theorem scan_colon (left offset : Nat) (char : Byte) (rest : List Byte) :
    scanLoop (left + 1) (3 * offset + 2) (char :: rest) b =
      if char ≠ colon then some (false, b) else scanLoop left (3 * offset + 2 + 1) rest b := by
  rw [scanLoop, if_pos (by omega)]

theorem scan_pair (left : Nat) (known tail rest : List Byte) {byte : Byte} (last : Byte)
    (pair : pairByte high low = some byte) :
    scanLoop (left + 2) (3 * known.length) (high :: low :: rest) (known ++ last :: tail) =
      scanLoop left (3 * known.length + 2) rest (known ++ byte :: tail) := by
  obtain ⟨first, highNibble, pair⟩ := Option.bind_eq_some_iff.mp pair
  obtain ⟨second, lowNibble, rfl⟩ := Option.map_eq_some_iff.mp pair
  rw [scan_digit (left + 1) (by omega), highNibble]
  simp only
  rw [scan_digit left (by omega), lowNibble]
  simp only
  rw [writeNibble_pair]

/-- The zero byte ends a text that has no pair to begin with. -/
theorem scan_no_pair (left offset : Nat) (b : List Byte)
    (noPair : ∀ high low rest, text = high :: low :: rest → pairByte high low = none) :
    ∃ b', scanLoop (left + 2) (3 * offset) (text ++ 0 :: behind) b = some (false, b') := by
  have zero (left inputOffset : Nat) (b : List Byte) (digit : inputOffset % 3 ≠ 2) :
      scanLoop (left + 1) inputOffset (0 :: behind) b = some (false, b) := by
    rw [scan_digit left digit, nibble_zero]
  cases text with
  | nil => exact ⟨_, zero (left + 1) _ _ (by omega)⟩
  | cons high text =>
      rw [List.cons_append, scan_digit (left + 1) (by omega)]
      cases highNibble : nibble high with
      | none => exact ⟨_, rfl⟩
      | some first =>
          cases text with
          | nil => exact ⟨_, zero left _ _ (by omega)⟩
          | cons low rest =>
              have lowNibble : nibble low = none := by
                have pair := noPair high low rest rfl
                rw [pairByte, highNibble] at pair
                exact Option.map_eq_none_iff.mp pair
              simp only [List.cons_append]
              rw [scan_digit left (by omega), lowNibble]
              exact ⟨_, rfl⟩

theorem macPairs_no_pair (more : Nat)
    (noPair : ∀ high low rest, text = high :: low :: rest → pairByte high low = none) :
    macPairs more text = none := by
  rcases text with _ | ⟨high, _ | ⟨low, rest⟩⟩
  · cases more <;> rfl
  · cases more <;> rfl
  · have pair := noPair high low rest rfl
    cases more <;> cases rest <;> simp [macPairs, pair]

theorem pair_or (text : List Byte) :
    (∀ high low rest, text = high :: low :: rest → pairByte high low = none) ∨
      ∃ high low rest byte, text = high :: low :: rest ∧ pairByte high low = some byte := by
  rcases text with _ | ⟨high, _ | ⟨low, rest⟩⟩
  · exact .inl fun _ _ _ shape => by cases shape
  · exact .inl fun _ _ _ shape => by cases shape
  · cases pair : pairByte high low with
    | none => exact .inl fun _ _ _ shape => by cases shape; exact pair
    | some byte => exact .inr ⟨high, low, rest, byte, rfl, pair⟩

/-- What is left of the text has the given number of pairs, with the zero byte behind:
`known` are the bytes before them. -/
def ReadsPairs (behind known tail : List Byte) (more : Nat) (text : List Byte) : Prop :=
  ∃ b, scanLoop (3 * more + 2) (3 * known.length) (text ++ 0 :: behind) (known ++ tail) =
      some ((macPairs more text).isSome, b) ∧
    ∀ mac, macPairs more text = some mac → b = known ++ mac

theorem reads_no_pair {known tail : List Byte} (more : Nat)
    (noPair : ∀ high low rest, text = high :: low :: rest → pairByte high low = none) :
    ReadsPairs behind known tail more text := by
  obtain ⟨b, refused⟩ :=
    @scan_no_pair text behind (3 * more) known.length (known ++ tail) noPair
  rw [ReadsPairs, macPairs_no_pair more noPair]
  exact ⟨b, refused, fun _ impossible => by cases impossible⟩

theorem reads_pairs {known tail : List Byte} (more : Nat) (room : tail.length = more + 1)
    (clean : 0 ∉ text) : ReadsPairs behind known tail more text := by
  induction more generalizing known tail text with
  | zero =>
      rcases pair_or text with noPair | ⟨high, low, rest, byte, rfl, pair⟩
      · exact reads_no_pair 0 noPair
      · obtain ⟨last, rfl⟩ := List.length_eq_one_iff.mp room
        rw [ReadsPairs, List.cons_append, List.cons_append, scan_pair _ known [] _ last pair]
        -- The last pair has nothing behind it.
        cases rest with
        | nil =>
            refine ⟨known ++ [byte], ?_, fun mac read => ?_⟩
            · rw [macPairs, pair]
              rfl
            · rw [macPairs, pair] at read
              cases read
              rfl
        | cons char rest =>
            have kept : char ≠ 0 := fun zero => clean (zero ▸ .tail _ (.tail _ (.head _)))
            refine ⟨known ++ [byte], ?_, fun mac read => by cases read⟩
            rw [List.cons_append, scanLoop, decide_eq_false kept]
            rfl
  | succ more ih =>
      rcases pair_or text with noPair | ⟨high, low, rest, byte, rfl, pair⟩
      · exact reads_no_pair (more + 1) noPair
      · obtain ⟨last, tail, rfl⟩ := List.exists_cons_of_length_eq_add_one room
        have offset : 3 * known.length + 2 + 1 = 3 * (known ++ [byte]).length := by
          rw [List.length_append, List.length_singleton]
          omega
        rw [ReadsPairs, List.cons_append, List.cons_append, scan_pair _ known tail _ last pair]
        have left : 3 * (more + 1) = 3 * more + 2 + 1 := by omega
        rw [left]
        cases rest with
        | nil =>
            refine ⟨_, scan_colon _ _ 0 behind, fun mac read => by cases read⟩
        | cons char rest =>
            rw [List.cons_append, scan_colon]
            -- Between two pairs there is a colon.
            by_cases isColon : char = colon
            · have inner : 0 ∉ rest := fun zero => clean (.tail _ (.tail _ (.tail _ zero)))
              obtain ⟨b, read, written⟩ :=
                @ih rest (known ++ [byte]) tail (Nat.succ.inj room) inner
              rw [if_neg (not_not.mpr isColon), offset, macPairs, if_pos isColon, pair]
              rw [List.append_assoc] at read
              refine ⟨b, ?_, fun mac whole => ?_⟩
              · exact read.trans (by rw [Option.bind_some, Option.isSome_map])
              · obtain ⟨others, found, rfl⟩ := Option.map_eq_some_iff.mp whole
                rw [written others found, List.append_assoc]
                rfl
            · refine ⟨known ++ byte :: tail, ?_, fun mac read => ?_⟩
              · rw [if_pos isColon, macPairs, if_neg isColon]
                rfl
              · rw [macPairs, if_neg isColon] at read
                cases read

/-- Whatever is behind the zero byte, the parser accepts the texts of MAC addresses. -/
theorem macAddrStringToBinary_eq (room : b.length = 6) (clean : 0 ∉ text) :
    ∃ b', macAddrStringToBinary (text ++ 0 :: behind) b = some ((macOf text).isSome, b') ∧
      ∀ mac, macOf text = some mac → b' = mac := by
  have loop : macAddrStringToBinary (text ++ 0 :: behind) b =
      scanLoop macStrLen 0 (text ++ 0 :: behind) b := macLoop_scan macStrLen 0 b
  rw [loop]
  exact @reads_pairs text behind [] b 5 room clean

/-! The formatter. -/

theorem nibble_hexDigit : ∀ value : Fin 16, nibble (hexDigit value) = some (BitVec.ofNat 8 value) := by
  decide

theorem hexDigit_ne_zero : ∀ value : Fin 16, hexDigit value ≠ 0 := by decide

theorem halves : ∀ high low : Fin 16,
    BitVec.ofNat 8 high <<< 4 ||| BitVec.ofNat 8 low = BitVec.ofNat 8 (16 * high + low) := by
  decide

theorem pairByte_hexByte (byte : Byte) :
    pairByte (hexDigit (byte.toNat / 16)) (hexDigit (byte.toNat % 16)) = some byte := by
  have high : byte.toNat / 16 < 16 := by omega
  have low : byte.toNat % 16 < 16 := by omega
  have whole : 16 * (byte.toNat / 16) + byte.toNat % 16 = byte.toNat := by omega
  rw [pairByte, nibble_hexDigit ⟨_, high⟩, nibble_hexDigit ⟨_, low⟩, Option.bind_some,
    Option.map_some, halves ⟨_, high⟩ ⟨_, low⟩]
  simp only
  rw [whole, BitVec.ofNat_toNat, BitVec.setWidth_eq]

theorem macPairs_macAddrToString (more : Nat) (shape : mac.length = more + 1) :
    macPairs more (macAddrToString mac) = some mac := by
  induction more generalizing mac with
  | zero =>
      obtain ⟨byte, rfl⟩ := List.length_eq_one_iff.mp shape
      rw [macAddrToString, hexByte, macPairs, pairByte_hexByte, Option.map_some]
  | succ more ih =>
      obtain ⟨byte, mac, rfl⟩ := List.exists_cons_of_length_eq_add_one shape
      have rest : mac.length = more + 1 := Nat.succ.inj shape
      obtain ⟨next, others, rfl⟩ := List.exists_cons_of_length_eq_add_one rest
      rw [macAddrToString, hexByte, List.cons_append, List.cons_append, List.nil_append, macPairs,
        if_pos rfl, pairByte_hexByte, Option.bind_some, ih rest, Option.map_some]
      exact List.cons_ne_nil _ _

theorem macAddrToString_clean (mac : List Byte) : 0 ∉ macAddrToString mac := by
  have digits (byte : Byte) : 0 ∉ hexByte byte := by
    have high := hexDigit_ne_zero ⟨byte.toNat / 16, by omega⟩
    have low := hexDigit_ne_zero ⟨byte.toNat % 16, by omega⟩
    rw [hexByte, List.mem_cons, List.mem_singleton, not_or]
    exact ⟨high.symm, low.symm⟩
  induction mac with
  | nil => exact List.not_mem_nil
  | cons byte rest ih =>
      cases rest with
      | nil => exact digits byte
      | cons next others =>
          rw [macAddrToString, List.mem_append, List.mem_cons, not_or, not_or]
          · exact ⟨digits byte, by decide, ih⟩
          · exact List.cons_ne_nil _ _

theorem macOf_macAddrToString (shape : mac.length = 6) : macOf (macAddrToString mac) = some mac :=
  macPairs_macAddrToString 5 shape

theorem parser_sound : ParserSound where
  accepts mac stack shape room := by
    have whole := macOf_macAddrToString shape
    obtain ⟨b, read, written⟩ :=
      @macAddrStringToBinary_eq _ [] stack room (macAddrToString_clean mac)
    rw [read, whole, written mac whole]
    rfl
  rejects text stack room clean refused := by
    obtain ⟨b, read, _⟩ := @macAddrStringToBinary_eq text [] stack room clean
    rw [refused] at read
    exact ⟨b, read⟩

/-! What a request has of a scan. -/

namespace AccessPoint

variable (ap : AccessPoint) {utf8 : List Byte → Bool}

theorem bssidBytes_length : ap.bssidBytes.length = 6 := by
  rw [bssidBytes]
  split
  · rename_i b read
    exact (macLoop_length _ _ read).trans ap.bytesStackFits
  · exact ap.bytesStackFits

theorem ssidVar_length : ap.ssidVar.length ≤ ssidSize := by
  rw [ssidVar]
  cases fetched : ap.ssid with
  | none => exact Nat.le_of_eq List.length_replicate
  | some bytes => exact ap.ssidFits bytes fetched

/-- A MAC address that was fetched is what the parser leaves. -/
theorem bssidBytes_mac (found : ap.mac = some mac) : ap.bssidBytes = mac := by
  obtain ⟨text, fetched, read⟩ := Option.bind_eq_some_iff.mp found
  obtain ⟨b, parsed, written⟩ :=
    @macAddrStringToBinary_eq text (ap.bssidStack.drop (text.length + 1)) ap.bytesStack
      ap.bytesStackFits (ap.bssidFits text fetched).2
  rw [bssidBytes, bssidVar, fetched]
  simp only
  rw [parsed]
  exact written mac read

/-- What the JSON of the request says of the access point, where it is appended. -/
def entry (utf8 : List Byte → Bool) : JsonAp where
  macAddress := macAddrToString ap.bssidBytes
  ssid := jsonString utf8 ap.ssidVar
  signalStrength := ap.signalStrength

def heard : Bool := decide (ap.signalStrength < 0)

theorem item_entry : ap.item.map (jsonAp utf8) = if ap.heard then some (ap.entry utf8) else none := by
  rw [item, WifiApScanItem.make, dif_pos ap.bssidBytes_length, dif_pos ap.ssidVar_length]
  by_cases negative : ap.signalStrength < 0
  · rw [dif_pos negative, heard, decide_eq_true negative]
    rfl
  · rw [dif_neg negative, heard, decide_eq_false negative]
    rfl

theorem jsonString_ssid :
    jsonString utf8 ap.ssidVar = some (ap.ssid.getD []) ↔
      0 ∉ ap.ssid.getD [] ∧ utf8 (ap.ssid.getD []) = true := by
  rw [ssidVar]
  cases ap.ssid with
  | none =>
      have empty : (List.replicate ssidSize (0 : Byte)).takeWhile (· ≠ 0) = [] := rfl
      rw [Option.getD_none, Option.getD_none, jsonString, empty]
      simp
  | some bytes =>
      have whole : bytes.takeWhile (· ≠ 0) = bytes ↔ 0 ∉ bytes := by
        rw [List.takeWhile_eq_self_iff]
        exact ⟨fun all zero => by simpa using all 0 zero,
          fun clean byte member => decide_eq_true fun zero => clean (zero ▸ member)⟩
      rw [Option.getD_some, Option.getD_some, jsonString, ← whole]
      constructor
      · intro string
        split at string
        · rename_i valid
          have kept := Option.some.inj string
          exact ⟨kept, kept ▸ valid⟩
        · cases string
      · rintro ⟨kept, valid⟩
        rw [kept]
        exact if_pos valid

theorem carries_entry (found : ap.mac.isSome) :
    Carries ap (ap.entry utf8) ↔ 0 ∉ ap.ssid.getD [] ∧ utf8 (ap.ssid.getD []) = true := by
  obtain ⟨mac, found⟩ := Option.isSome_iff_exists.mp found
  have bytes := ap.bssidBytes_mac found
  have same : macOf (ap.entry utf8).macAddress = ap.mac := by
    have six := ap.bssidBytes_length
    rw [bytes] at six
    rw [entry, bytes, found]
    exact macOf_macAddrToString six
  rw [← jsonString_ssid]
  exact ⟨fun carries => carries.ssid, fun ssid => ⟨same, ssid, rfl⟩⟩

end AccessPoint

theorem foldl_append (aps : List AccessPoint) (request : CombainRequestBuilder) :
    (aps.foldl appendAccessPoint request).wifiAps =
      request.wifiAps ++ aps.filterMap AccessPoint.item := by
  induction aps generalizing request with
  | nil => exact (List.append_nil _).symm
  | cons ap aps ih =>
      rw [List.foldl_cons, ih, appendAccessPoint, List.filterMap_cons]
      cases ap.item with
      | none => rfl
      | some item => exact List.append_assoc _ _ _

theorem submittedAps_eq (utf8 : List Byte → Bool) (aps : List AccessPoint) :
    submittedAps utf8 aps = (aps.filter AccessPoint.heard).map (AccessPoint.entry · utf8) := by
  have items : submittedAps utf8 aps = (scanRequest aps).wifiAps.map (jsonAp utf8) := by
    rw [submittedAps, CombainRequestBuilder.generateRequestBody]
    cases (scanRequest aps).wifiAps <;> rfl
  rw [items, scanRequest, foldl_append, List.nil_append, List.map_filterMap]
  rw [← List.filterMap_eq_filter, List.map_filterMap]
  congr 1
  funext ap
  rw [AccessPoint.item_entry, Option.guard]
  cases ap.heard <;> rfl

theorem matched_left {α β : Type} {R : α → β → Prop} {P : α → Prop} {Q : β → Prop} {left : List α}
    {right : List β} (passes : ∀ a b, R a b → Q b → P a) (matched : List.Forall₂ R left right)
    (all : ∀ b ∈ right, Q b) : ∀ a ∈ left, P a := by
  induction matched with
  | nil => exact fun _ member => by cases member
  | @cons a b left right related _ ih =>
      intro other member
      rcases List.mem_cons.mp member with rfl | later
      · exact passes other b related (all b (.head _))
      · exact ih (fun b later => all b (.tail _ later)) other later

/-- Two selections that are matched, where a match passes the second selection on, are the same. -/
theorem selections_agree {α : Type} {R : α → α → Prop} {wanted taken : α → Bool} {items : List α}
    (passes : ∀ a b, R a b → taken b = true → taken a = true)
    (matched : List.Forall₂ R (items.filter wanted) (items.filter taken)) :
    ∀ a ∈ items, wanted a = taken a := by
  have within : ∀ a ∈ items.filter wanted, taken a = true :=
    matched_left passes matched fun _ member => List.of_mem_filter member
  have part : (items.filter wanted).Sublist (items.filter taken) := by
    have both : ((items.filter taken).filter wanted).Sublist (items.filter taken) :=
      List.filter_sublist
    rwa [List.filter_comm, List.filter_eq_self.mpr within] at both
  have same : items.filter wanted = items.filter taken := part.eq_of_length matched.length_eq
  intro a member
  rw [Bool.eq_iff_iff]
  constructor
  · exact fun want => within a (List.mem_filter.mpr ⟨member, want⟩)
  · intro take
    have other : a ∈ items.filter wanted := same ▸ List.mem_filter.mpr ⟨member, take⟩
    exact List.of_mem_filter other

theorem scanFaithful_iff (utf8 : List Byte → Bool) (aps : List AccessPoint) :
    ScanFaithful utf8 aps ↔ ∀ ap ∈ aps, ApSafe utf8 ap := by
  rw [ScanFaithful, submittedAps_eq, List.forall₂_map_right_iff]
  constructor
  · intro matched
    -- Lists that match one to one have chosen the same access points.
    have agree : ∀ ap ∈ aps, ap.mac.isSome = ap.heard := by
      refine selections_agree (fun ap other carries heard => ?_) matched
      rw [AccessPoint.heard, ← carries.signalStrength]
      exact heard
    rw [← List.filter_congr agree, List.forall₂_same] at matched
    intro ap member
    have selected := agree ap member
    rw [ApSafe]
    split
    · rename_i found
      have carries := matched ap (List.mem_filter.mpr ⟨member, found⟩)
      rw [found] at selected
      exact ⟨of_decide_eq_true selected.symm, (ap.carries_entry found).mp carries⟩
    · rename_i missing
      rw [Bool.eq_false_iff.mpr missing] at selected
      exact Int.not_lt.mp (of_decide_eq_false selected.symm)
  · intro safe
    have agree : ∀ ap ∈ aps, ap.mac.isSome = ap.heard := by
      intro ap member
      have each := safe ap member
      rw [ApSafe] at each
      split at each
      · rename_i found
        rw [found, AccessPoint.heard, decide_eq_true each.1]
      · rename_i missing
        rw [Bool.eq_false_iff.mpr missing, AccessPoint.heard, decide_eq_false (Int.not_lt.mpr each)]
    rw [← List.filter_congr agree, List.forall₂_same]
    intro ap selected
    obtain ⟨member, found⟩ := List.mem_filter.mp selected
    have each := safe ap member
    rw [ApSafe, if_pos found] at each
    exact (ap.carries_entry found).mpr each.2

theorem scan_iff (utf8 : List Byte → Bool) (aps : List AccessPoint) :
    ScanFaithful utf8 aps ∧ ParserSound ↔ ∀ ap ∈ aps, ApSafe utf8 ap :=
  ⟨fun faithful => (scanFaithful_iff utf8 aps).mp faithful.1,
    fun safe => ⟨(scanFaithful_iff utf8 aps).mpr safe, parser_sound⟩⟩

/-- An access point whose BSSID is not fetched. -/
def withoutBssid : AccessPoint where
  ssid := some [109, 97, 110]
  bssid := none
  signalStrength := -50
  bssidStack := List.replicate bssidSize 0
  bytesStack := [222, 173, 190, 239, 0, 1]
  ssidFits _ fetched := by
    cases fetched
    decide
  bssidFits _ fetched := by cases fetched
  bssidStackFits := rfl
  bytesStackFits := rfl

/-- The request has an access point, with the bytes of the stack as its MAC address. -/
theorem lost_bssid_submitted :
    ¬∀ utf8 aps, ScanFaithful utf8 aps ∧ ParserSound := by
  intro always
  have lengths := (always (fun _ => true) [withoutBssid]).1.length_eq
  revert lengths
  decide

/-! The request of a scan, as the service takes it. -/

variable {Session Handler Value : Type} [DecidableEq Session]
  {record : RequestRecord Session Handler Value}
  {records : List (RequestRecord Session Handler Value)}

open Service

omit [DecidableEq Session] in
theorem find_writeFirst {found : RequestRecord Session Handler Value → Bool}
    {write : RequestRecord Session Handler Value → RequestRecord Session Handler Value}
    (keeps : ∀ record, found record = true → found (write record) = true) :
    (writeFirst found write records).find? found = (records.find? found).map write := by
  induction records with
  | nil => rfl
  | cons head rest ih =>
      rw [writeFirst]
      split
      · rename_i hit
        rw [List.find?_cons_of_pos hit, List.find?_cons_of_pos (keeps head hit), Option.map_some]
      · rename_i miss
        rw [List.find?_cons_of_neg miss, List.find?_cons_of_neg miss, ih]

/-- The calls of the loop, with the handle of the request that was created for the scan. -/
def appendScan (session : Session) (handle : Handle) (service : Service Session Handler Value)
    (aps : List AccessPoint) : Service Session Handler Value :=
  aps.foldl (fun service ap =>
    (service.appendWifiAccessPoint session handle ap.bssidBytes ap.ssidVar ap.signalStrength).1) service

/-- The request that a handle of the session has, while it is not submitted. -/
def Service.building (service : Service Session Handler Value) (session : Session) (handle : Handle) :
    Option CombainRequestBuilder :=
  (service.ownRecord session handle).bind (·.request)

variable {service : Service Session Handler Value} {session : Session} {handle : Handle}
  {request : CombainRequestBuilder}

theorem append_building (ap : AccessPoint) (building : service.building session handle = some request) :
    ∃ next, (service.appendWifiAccessPoint session handle ap.bssidBytes ap.ssidVar
        ap.signalStrength).1 = next ∧
      next.building session handle = some (appendAccessPoint request ap) ∧
      next.requestJson = service.requestJson ∧ next.combainApiKeySet = service.combainApiKeySet := by
  obtain ⟨record, own, made⟩ := Option.bind_eq_some_iff.mp building
  refine ⟨_, rfl, ?_⟩
  rw [Service.appendWifiAccessPoint, own, appendAccessPoint, AccessPoint.item]
  simp only [made]
  cases WifiApScanItem.make ap.bssidBytes ap.ssidVar ap.signalStrength with
  | none => exact ⟨building, rfl, rfl⟩
  | some item =>
      have find := @find_writeFirst Session Handler Value service.requests (·.isOf session handle)
        (fun record => { record with request := some (request.appendWifiAccessPoint item) })
        fun _ hit => hit
      refine ⟨?_, rfl, rfl⟩
      rw [Service.ownRecord] at own
      rw [Service.building, Service.ownRecord, find, own]
      rfl

theorem appendScan_building (aps : List AccessPoint)
    (building : service.building session handle = some request) :
    (appendScan session handle service aps).building session handle =
        some (aps.foldl appendAccessPoint request) ∧
      (appendScan session handle service aps).requestJson = service.requestJson ∧
      (appendScan session handle service aps).combainApiKeySet = service.combainApiKeySet := by
  induction aps generalizing service request with
  | nil => exact ⟨building, rfl, rfl⟩
  | cons ap aps ih =>
      obtain ⟨next, stepped, made, json, key⟩ := append_building ap building
      obtain ⟨built, laterJson, laterKey⟩ := ih made
      have split : appendScan session handle service (ap :: aps) =
          appendScan session handle next aps := by
        rw [appendScan, List.foldl_cons, stepped]
        rfl
      rw [split]
      exact ⟨built, laterJson.trans json, laterKey.trans key⟩

/-- With a handle that is new to the session, the body that goes out is that of the scan. -/
theorem scan_submitted (utf8 : List Byte → Bool) (responseHandler : Handler) (aps : List AccessPoint)
    (key : service.combainApiKeySet = true) (fresh : service.ownRecord session service.next = none) :
    ((appendScan session service.next (service.createLocationRequest session).1
        aps).submitLocationRequest utf8 session service.next responseHandler).1.requestJson =
      service.requestJson ++ [(service.next, (scanRequest aps).generateRequestBody utf8)] := by
  have created : (service.createLocationRequest session).1.building session service.next =
      some ⟨[]⟩ := by
    rw [Service.building, Service.ownRecord, createLocationRequest, List.find?_append]
    rw [Service.ownRecord] at fresh
    rw [fresh]
    simp [RequestRecord.isOf]
  obtain ⟨built, json, keySet⟩ := appendScan_building aps created
  obtain ⟨record, own, made⟩ := Option.bind_eq_some_iff.mp built
  have stillSet : (appendScan session service.next (service.createLocationRequest session).1
      aps).combainApiKeySet = true := keySet.trans key
  rw [submitLocationRequest, stillSet, own]
  simp only [made]
  rw [if_neg Bool.true_eq_false.mp, json]
  rfl

end MangOH.Combain
