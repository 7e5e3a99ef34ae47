import MangOH.CombainLocation
import MangOH.CString

/-!
The texts that a client gets for the response of the Combain server, as bytes
in its buffers. A result record keeps the response, which may hold any bytes;
what `json_loads` and `json_unpack` make of it is a parameter.

The texts of an error are copied up to the last byte but one of their buffers.
The text that could not be parsed is copied up to one byte behind its buffer.
-/

namespace MangOH.CombainTexts

open Combain (LeResult)
open CString

structure CombainError where
  domain : Text
  reason : Text
  message : Text

inductive CombainResult where
  | success
  | error (code : BitVec 16) (message : Text) (errors : List CombainError)
  | responseParseFailure (unparsed : List Byte)
  | communicationFailure

/-- What the two calls make of a text that ends with a zero byte. Their texts do, too. -/
inductive Parsed where
  | invalid
  | location
  | error (code : Int) (first : CombainError) (message : Text)
  | other

/-- The memory at `c_str()`. A zero byte may come before the last one. -/
def cStr (chars : List Byte) : Buffer := chars.map some ++ [some 0]

/-- What a C function takes for the text. -/
def visible (chars : List Byte) : List Byte := chars.takeWhile (· ≠ 0)

/-- `HandleResponseAvailable`: an empty response stands for a failed communication. -/
def resultOf (parse : List Byte → Parsed) (response : List Byte) : CombainResult :=
  if response = [] then .communicationFailure
  else
    match parse (visible response) with
    | .invalid | .other => .responseParseFailure response
    | .location => .success
    | .error code first message => .error (BitVec.ofInt 16 code) message [first]

/-- The request of a handle, if there is one, with its result, if there is one yet. -/
abbrev Record := Option (Option CombainResult)

def writeLast (dest : Buffer) : Except Fault Buffer :=
  if dest.length - 1 < dest.length then .ok (dest.set (dest.length - 1) (some 0)) else .error .pastEnd

/-- The length that is passed is the size of the buffer. -/
def copyTerminated (source : Text) (dest : Buffer) : Except Fault Buffer := do
  writeLast (← strncpy (dest.length - 1) source.buffer dest)

structure ErrorOutputs where
  firstDomain : Buffer
  firstReason : Buffer
  firstMessage : Buffer
  code : BitVec 16
  message : Buffer

def copyFirst (errors : List CombainError) (out : ErrorOutputs) : Except Fault ErrorOutputs :=
  match errors with
  | [] => .ok out
  | first :: _ => do
      let firstDomain ← copyTerminated first.domain out.firstDomain
      let firstReason ← copyTerminated first.reason out.firstReason
      let firstMessage ← copyTerminated first.message out.firstMessage
      .ok { out with firstDomain, firstReason, firstMessage }

def getErrorResponse (record : Record) (out : ErrorOutputs) :
    Except Fault (LeResult × ErrorOutputs) :=
  match record with
  | none => .ok (.badParameter, out)
  | some (some (.error code message errors)) => do
      let message ← copyTerminated message out.message
      let out ← copyFirst errors { out with code, message }
      .ok (.ok, out)
  | some _ => .ok (.unavailable, out)

def getParseFailureResult (record : Record) (unparsedResponse : Buffer) :
    Except Fault (LeResult × Buffer) :=
  match record with
  | none => .ok (.badParameter, unparsedResponse)
  | some (some (.responseParseFailure unparsed)) => do
      -- The zero byte is counted on both sides, though the buffer has no place for its own.
      let count := min (unparsed.length + 1) (unparsedResponse.length + 1)
      let unparsedResponse ← strncpy count (cStr unparsed) unparsedResponse
      .ok (.ok, unparsedResponse)
  | some _ => .ok (.unavailable, unparsedResponse)

/-! What the outputs are to be. -/

/-- A buffer of at least one byte. -/
structure Output where
  cells : Buffer
  sized : 0 < cells.length

structure FirstFits (size : Nat) (source chars : List Byte) : Prop where
  front : chars <+: source
  clean : 0 ∉ chars
  fits : chars.length < size

/-- The longest prefix of a source text that fits with its zero byte. -/
structure Longest (size : Nat) (source chars : List Byte) : Prop where
  fits : FirstFits size source chars
  longest : ∀ others, FirstFits size source others → others.length ≤ chars.length

/-- What a buffer holds after a copy of the source. -/
def Returned (source : List Byte) (before after : Buffer) : Prop :=
  after.length = before.length ∧
    ∃ chars, text after = .ok chars ∧ Longest before.length source chars

structure ErrorReturned (first : CombainError) (message : Text) (before after : ErrorOutputs) :
    Prop where
  domain : Returned first.domain.chars before.firstDomain after.firstDomain
  reason : Returned first.reason.chars before.firstReason after.firstReason
  firstMessage : Returned first.message.chars before.firstMessage after.firstMessage
  message : Returned message.chars before.message after.message

/-- No fault, and on success the texts of the error and of its first entry. -/
def ErrorSafe (record : Record) (out : ErrorOutputs) : Prop :=
  ∃ ret after, getErrorResponse record out = .ok (ret, after) ∧
    (ret = .ok → ∃ code message first rest,
      record = some (some (.error code message (first :: rest))) ∧
        ErrorReturned first message out after)

def FailureSafe (record : Record) (out : Buffer) : Prop :=
  ∃ ret after, getParseFailureResult record out = .ok (ret, after) ∧
    (ret = .ok → ∃ unparsed,
      record = some (some (.responseParseFailure unparsed)) ∧ Returned unparsed out after)

/-- The record after the responses so far: `found` is whether the handle has one. -/
def recordOf (parse : List Byte → Parsed) (found : Bool) (response : Option (List Byte)) : Record :=
  if found then some (response.map (resultOf parse)) else none

/-- A response that cannot be parsed is shorter than the buffer it is for. -/
def Fits (parse : List Byte → Parsed) (found : Bool) (response : Option (List Byte)) (size : Nat) :
    Prop :=
  ∀ text, found = true → response = some text →
    resultOf parse text = .responseParseFailure text → text.length < size

variable {source chars : List Byte} {dest : Buffer}

/-! Prefixes without zero bytes. -/

theorem visible_cons {char : Byte} (seen : char ≠ 0) (source : List Byte) :
    visible (char :: source) = char :: visible source :=
  List.takeWhile_cons_of_pos (decide_eq_true seen)

theorem clean_visible (source : List Byte) : 0 ∉ visible source := by
  induction source with
  | nil => exact List.not_mem_nil
  | cons char source ih =>
      by_cases zero : char = 0
      · simp [visible, zero]
      · rw [visible_cons zero]
        simp only [List.mem_cons, not_or]
        exact ⟨Ne.symm zero, ih⟩

theorem length_le_visible (front : chars <+: source) (clean : 0 ∉ chars) :
    chars.length ≤ (visible source).length := by
  induction chars generalizing source with
  | nil => exact Nat.zero_le _
  | cons char chars ih =>
      obtain ⟨behind, rfl⟩ := front
      have seen : char ≠ 0 := fun zero => clean (zero ▸ .head _)
      have rest := ih (List.prefix_append chars behind) fun zero => clean (.tail _ zero)
      rw [List.cons_append, visible_cons seen]
      exact Nat.succ_le_succ rest

theorem holds_cStr (source : List Byte) : Holds (visible source) (cStr source) := by
  refine ⟨clean_visible source, ?_⟩
  induction source with
  | nil => exact ⟨[], rfl⟩
  | cons char source ih =>
      by_cases zero : char = 0
      · exact ⟨cStr source, by simp [visible, cStr, zero]⟩
      · obtain ⟨behind, same⟩ := ih
        refine ⟨behind, ?_⟩
        rw [visible_cons zero, List.map_cons, List.cons_append, ← same]
        rfl

theorem longest_take {size : Nat} (clean : 0 ∉ source) (sized : 0 < size) :
    Longest size source (source.take (size - 1)) := by
  constructor
  · constructor
    · exact List.take_prefix _ _
    · exact fun zero => clean (List.mem_of_mem_take zero)
    · rw [List.length_take]
      omega
  · rintro others ⟨front, _, fits⟩
    have short := front.length_le
    rw [List.length_take]
    omega

theorem longest_visible {size : Nat} (short : source.length < size) :
    Longest size source (visible source) := by
  have front : visible source <+: source := List.takeWhile_prefix _
  constructor
  · exact ⟨front, clean_visible source, Nat.lt_of_le_of_lt front.length_le short⟩
  · rintro others ⟨before, clean, _⟩
    exact length_le_visible before clean

/-! The copies. -/

theorem copyTerminated_returned (source : Text) (sized : 0 < dest.length) :
    ∃ after, copyTerminated source dest = .ok after ∧ Returned source.chars dest after := by
  have room : dest.length - 1 ≤ dest.length := Nat.sub_le _ _
  obtain ⟨last, single⟩ := List.length_eq_one_iff.mp
    (show (dest.drop (dest.length - 1)).length = 1 by rw [List.length_drop]; omega)
  -- All cells but the last, as they are after the copy.
  let front := (source.chars.take (dest.length - 1)).map some ++
    List.replicate (dest.length - 1 - source.chars.length) (some 0)
  have length : front.length = dest.length - 1 := by
    simp only [front, List.length_append, List.length_map, List.length_take, List.length_replicate]
    omega
  have copied : strncpy (dest.length - 1) source.buffer dest = .ok (front ++ [last]) := by
    rw [strncpy_take room source.holds, single]
  have size (cell : Option Byte) : (front ++ [cell]).length = dest.length := by
    rw [List.length_append, length, List.length_singleton]
    omega
  have ended : (front ++ [last]).set (dest.length - 1) (some 0) = front ++ [some 0] := by
    rw [← length, List.set_append_right _ _ (Nat.le_refl _), Nat.sub_self]
    rfl
  refine ⟨front ++ [some 0], ?_, ?_, source.chars.take (dest.length - 1), ?_,
    longest_take source.clean sized⟩
  · rw [copyTerminated, copied]
    simp only [bind, Except.bind, writeLast, size, ended]
    rw [if_pos (by omega)]
  · exact size (some 0)
  · apply text_holds
    refine ⟨fun zero => source.clean (List.mem_of_mem_take zero),
      List.replicate (dest.length - 1 - source.chars.length) (some 0), ?_⟩
    simp only [front, List.append_assoc, ← List.replicate_succ', List.replicate_succ]

/-- Whatever the error, each of its texts ends up in its buffer. -/
theorem errorSafe_recordOf (parse : List Byte → Parsed) (found : Bool)
    (response : Option (List Byte)) (firstDomain firstReason firstMessage message : Output)
    (code : BitVec 16) : ErrorSafe (recordOf parse found response)
      ⟨firstDomain.cells, firstReason.cells, firstMessage.cells, code, message.cells⟩ := by
  cases found with
  | false => exact ⟨.badParameter, _, rfl, fun ok => nomatch ok⟩
  | true =>
      cases response with
      | none => exact ⟨.unavailable, _, rfl, fun ok => nomatch ok⟩
      | some response =>
          have record : recordOf parse true (some response) = some (some (resultOf parse response)) :=
            rfl
          rw [record]
          unfold resultOf
          split_ifs
          · exact ⟨.unavailable, _, rfl, fun ok => nomatch ok⟩
          · split
            · exact ⟨.unavailable, _, rfl, fun ok => nomatch ok⟩
            · exact ⟨.unavailable, _, rfl, fun ok => nomatch ok⟩
            · exact ⟨.unavailable, _, rfl, fun ok => nomatch ok⟩
            · rename_i code' first text _
              obtain ⟨messageAfter, copied, messageKept⟩ := copyTerminated_returned text message.sized
              obtain ⟨domainAfter, domain, domainKept⟩ :=
                copyTerminated_returned first.domain firstDomain.sized
              obtain ⟨reasonAfter, reason, reasonKept⟩ :=
                copyTerminated_returned first.reason firstReason.sized
              obtain ⟨firstAfter, copiedFirst, firstKept⟩ :=
                copyTerminated_returned first.message firstMessage.sized
              refine ⟨.ok, ⟨domainAfter, reasonAfter, firstAfter, BitVec.ofInt 16 code', messageAfter⟩,
                ?_, fun _ => ⟨_, text, first, [], rfl, domainKept, reasonKept, firstKept, messageKept⟩⟩
              simp only [getErrorResponse, copyFirst, copied, domain, reason, copiedFirst, bind,
                Except.bind]

theorem failureSafe_iff (unparsed : List Byte) (out : Output) :
    FailureSafe (some (some (.responseParseFailure unparsed))) out.cells ↔
      unparsed.length < out.cells.length := by
  constructor
  · rintro ⟨ret, after, done, _⟩
    by_contra long
    have count : min (unparsed.length + 1) (out.cells.length + 1) = out.cells.length + 1 := by omega
    have fault := strncpy_pastEnd (Nat.lt_succ_self out.cells.length) (holds_cStr unparsed)
    simp only [getParseFailureResult, count, fault, bind, Except.bind] at done
    cases done
  · intro short
    have count : min (unparsed.length + 1) (out.cells.length + 1) = unparsed.length + 1 := by omega
    have copied := strncpy_take (Nat.succ_le_of_lt short) (holds_cStr unparsed)
    have front : (visible unparsed).length ≤ unparsed.length :=
      (List.takeWhile_prefix _).length_le
    have all : (visible unparsed).take (unparsed.length + 1) = visible unparsed :=
      List.take_of_length_le (by omega)
    rw [all] at copied
    -- The text, padded up to its whole length, and what the copy does not reach.
    let after : Buffer := (visible unparsed).map some ++
      List.replicate (unparsed.length + 1 - (visible unparsed).length) (some 0) ++
        out.cells.drop (unparsed.length + 1)
    refine ⟨.ok, after, ?_, fun _ =>
      ⟨unparsed, rfl, ?_, visible unparsed, ?_, longest_visible short⟩⟩
    · simp only [getParseFailureResult, count, copied, bind, Except.bind, after]
    · simp only [after, List.length_append, List.length_map, List.length_replicate,
        List.length_drop]
      omega
    · apply text_holds
      refine ⟨clean_visible unparsed, List.replicate (unparsed.length - (visible unparsed).length)
        (some 0) ++ out.cells.drop (unparsed.length + 1), ?_⟩
      have padding : unparsed.length + 1 - (visible unparsed).length =
          unparsed.length - (visible unparsed).length + 1 := Nat.succ_sub front
      simp only [after, padding, List.replicate_succ, List.append_assoc, List.cons_append]

/-- The texts stay in their buffers, whole or cut off, exactly when a response that
cannot be parsed is shorter than its buffer. -/
theorem texts_returned_iff (parse : List Byte → Parsed) (found : Bool)
    (response : Option (List Byte)) (firstDomain firstReason firstMessage message unparsed : Output)
    (code : BitVec 16) :
    ErrorSafe (recordOf parse found response)
        ⟨firstDomain.cells, firstReason.cells, firstMessage.cells, code, message.cells⟩ ∧
      FailureSafe (recordOf parse found response) unparsed.cells ↔
      Fits parse found response unparsed.cells.length := by
  constructor
  · rintro ⟨_, safe⟩ text rfl rfl failure
    have record : recordOf parse true (some text) = some (some (.responseParseFailure text)) := by
      rw [← failure]
      rfl
    rw [record] at safe
    exact (failureSafe_iff text unparsed).mp safe
  · intro fits
    refine ⟨errorSafe_recordOf parse found response firstDomain firstReason firstMessage message code,
      ?_⟩
    cases found with
    | false => exact ⟨.badParameter, _, rfl, fun ok => nomatch ok⟩
    | true =>
        cases response with
        | none => exact ⟨.unavailable, _, rfl, fun ok => nomatch ok⟩
        | some text =>
            have record : recordOf parse true (some text) = some (some (resultOf parse text)) := rfl
            rw [record]
            cases result : resultOf parse text with
            | responseParseFailure kept =>
                -- The text that is kept is the response itself.
                have same : kept = text := by
                  unfold resultOf at result
                  split_ifs at result
                  split at result <;> cases result <;> rfl
                subst same
                exact (failureSafe_iff kept unparsed).mpr (fits kept rfl rfl result)
            | success => exact ⟨.unavailable, _, rfl, fun ok => nomatch ok⟩
            | error code message errors => exact ⟨.unavailable, _, rfl, fun ok => nomatch ok⟩
            | communicationFailure => exact ⟨.unavailable, _, rfl, fun ok => nomatch ok⟩

/-- A response of two bytes for a buffer of two. -/
theorem response_overruns : ¬∀ (parse : List Byte → Parsed) (found : Bool)
    (response : Option (List Byte)) (firstDomain firstReason firstMessage message unparsed : Output)
    (code : BitVec 16),
    ErrorSafe (recordOf parse found response)
        ⟨firstDomain.cells, firstReason.cells, firstMessage.cells, code, message.cells⟩ ∧
      FailureSafe (recordOf parse found response) unparsed.cells := by
  intro safe
  let out : Output := ⟨[none, none], by decide⟩
  obtain ⟨_, ret, after, done, _⟩ := safe (fun _ => .invalid) true (some [65, 66]) out out out out out 0
  cases done

end MangOH.CombainTexts
