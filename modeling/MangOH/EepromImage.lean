import MangOH.Emission
import MangOH.SlotEeprom

/-!
The generator of EEPROM images: a document of integers, strings, lists and
blocks is written as bytes, and each call returns how many it has written. The
bytes of a block's content are out before they are counted, so a document that
is refused may have left an output, too. `frames` are the calls that may still
be nested: without one left the interpreter raises an exception.
-/

namespace MangOH.EepromImage

open Emission

abbrev Byte := BitVec 8

/-- A code point of a string, with the surrogates. -/
abbrev CodePoint := Fin 0x110000

inductive Key where
  | size
  | content
  | fill
  | other
deriving DecidableEq

/-- What a document is made of. `other` are `None`, truth values, floating point
numbers and the like. -/
inductive Node where
  | int (value : Int)
  | str (chars : List CodePoint)
  | list (items : List Node)
  | dict (entries : List (Key × Node))
  | other

/-- The ways to end without success. The last three are exceptions. -/
inductive Exit where
  | contentTooLarge
  | outsideByteRange (value : Int)
  | sizeNotInteger
  | fillNotInteger
  | fillNotByte
  | unexpectedKey
  | unexpectedType
  | sizeMissing
  | notEncodable
  | recursion
deriving DecidableEq

abbrev Run := Emission Byte Exit Nat

/-- A surrogate cannot be encoded. -/
def utf8Char (char : CodePoint) : Option (List Byte) :=
  if valid : char.val.isValidChar then
    some ((String.utf8EncodeChar (Char.ofNatAux char.val valid)).map UInt8.toBitVec)
  else none

def utf8 : List CodePoint → Option (List Byte)
  | [] => some []
  | char :: rest => do some ((← utf8Char char) ++ (← utf8 rest))

/-- The parameters of a block; without content there is `None`. -/
structure Block where
  size : Option Int
  content : Node
  fill : Byte

def Block.initial : Block := ⟨none, .other, 0xFF⟩

/-- The loop over the entries of a dictionary. -/
def scan : List (Key × Node) → Block → Except Exit Block
  | [], block => .ok block
  | (.size, .int value) :: rest, block => scan rest { block with size := some value }
  | (.size, _) :: _, _ => .error .sizeNotInteger
  | (.content, value) :: rest, block => scan rest { block with content := value }
  | (.fill, .int value) :: rest, block =>
      if value < 0 ∨ 255 < value then .error .fillNotByte
      else scan rest { block with fill := BitVec.ofInt 8 value }
  | (.fill, _) :: _, _ => .error .fillNotInteger
  | (.other, _) :: _, _ => .error .unexpectedKey

mutual

/-- Without a size the comparison raises an exception. -/
def writeBlock : (frames : Nat) → Block → Run
  | 0, _ => fail .recursion
  | frames + 1, block => do
      let used ← writeBinFromYaml frames block.content
      match block.size with
      | none => fail .sizeMissing
      | some size =>
          if size < used then fail .contentTooLarge
          else do
            emit (List.replicate (size.toNat - used) block.fill)
            pure size.toNat

def writeBinFromYaml : (frames : Nat) → Node → Run
  | 0, _ => fail .recursion
  | _ + 1, .str chars =>
      match utf8 chars with
      | none => fail .notEncodable
      | some encoded => do
          emit encoded
          emit [0]
          pure (encoded.length + 1)
  | _ + 1, .int value =>
      if 255 < value ∨ value < 0 then fail (.outsideByteRange value)
      else do
        emit [BitVec.ofInt 8 value]
        pure 1
  | frames + 1, .list items => total (writeBinFromYaml frames) items 0
  | frames + 1, .dict entries =>
      match scan entries .initial with
      | .error exit => fail exit
      | .ok block => writeBlock frames block
  | _ + 1, .other => fail .unexpectedType

end

-- Their equations are made here, and not by whichever proof comes to them first.
attribute [local simp] writeBlock writeBinFromYaml

/-! What a document stands for. -/

mutual

inductive Encodes : Node → List Byte → Prop where
  | int {value : Int} (byte : 0 ≤ value ∧ value ≤ 255) : Encodes (.int value) [BitVec.ofInt 8 value]
  | str {chars : List CodePoint} {encoded : List Byte} (text : utf8 chars = some encoded) :
      Encodes (.str chars) (encoded ++ [0])
  | list {items : List Node} {pieces : List (List Byte)} (all : EncodesAll items pieces) :
      Encodes (.list items) pieces.flatten
  | block {entries : List (Key × Node)} {size : Nat} {content : Node} {fill : Byte}
      {bytes : List Byte} (parameters : scan entries .initial = .ok ⟨some size, content, fill⟩)
      (inside : Encodes content bytes) (fits : bytes.length ≤ size) :
      Encodes (.dict entries) (bytes ++ List.replicate (size - bytes.length) fill)

inductive EncodesAll : List Node → List (List Byte) → Prop where
  | nil : EncodesAll [] []
  | cons {item : Node} {rest : List Node} {piece : List Byte} {pieces : List (List Byte)}
      (first : Encodes item piece) (behind : EncodesAll rest pieces) :
      EncodesAll (item :: rest) (piece :: pieces)

end

/-- An element of a document at an offset: the sizes of what comes before it. -/
inductive Starts : Node → Node → Nat → Prop where
  | self (node : Node) : Starts node node 0
  | item {before behind : List Node} {item element : Node} {pieces : List (List Byte)}
      {offset : Nat} (sizes : EncodesAll before pieces) (inside : Starts item element offset) :
      Starts (.list (before ++ item :: behind)) element ((pieces.map List.length).sum + offset)
  | content {entries : List (Key × Node)} {block : Block} {element : Node} {offset : Nat}
      (parameters : scan entries .initial = .ok block)
      (inside : Starts block.content element offset) : Starts (.dict entries) element offset

inductive Contains : Node → Node → Prop where
  | self (node : Node) : Contains node node
  | item {items : List Node} {item element : Node} (member : item ∈ items)
      (inside : Contains item element) : Contains (.list items) element
  | content {entries : List (Key × Node)} {block : Block} {element : Node}
      (parameters : scan entries .initial = .ok block)
      (inside : Contains block.content element) : Contains (.dict entries) element

/-- An integer that is no byte, or a block that is too small for its content. -/
inductive Faulty : Node → Prop where
  | int {value : Int} (outside : value < 0 ∨ 255 < value) : Faulty (.int value)
  | block {entries : List (Key × Node)} {size : Int} {content : Node} {fill : Byte}
      {bytes : List Byte} (parameters : scan entries .initial = .ok ⟨some size, content, fill⟩)
      (inside : Encodes content bytes) (large : size < bytes.length) : Faulty (.dict entries)

variable {frames : Nat} {node document element : Node} {items : List Node} {bytes : List Byte}
  {pieces : List (List Byte)} {count offset : Nat}

/-! What is accepted is encoded. -/

theorem sum_length (pieces : List (List Byte)) :
    (pieces.map List.length).sum = pieces.flatten.length := List.length_flatten.symm

/-- One call, when the calls nested in it are right. -/
def Sound (frames : Nat) : Prop :=
  ∀ {node : Node} {bytes : List Byte} {count : Nat},
    (writeBinFromYaml frames node).Yields bytes count → Encodes node bytes ∧ count = bytes.length

theorem total_sound (sound : Sound frames) {start : Nat}
    (done : (total (writeBinFromYaml frames) items start).Yields bytes count) :
    ∃ pieces, EncodesAll items pieces ∧ bytes = pieces.flatten ∧ count = start + bytes.length := by
  induction items generalizing start bytes with
  | nil =>
      obtain ⟨rfl, rfl⟩ := yields_total_nil.mp done
      exact ⟨[], .nil, rfl, rfl⟩
  | cons item rest ih =>
      obtain ⟨piece, more, behind, first, later, rfl⟩ := yields_total_cons.mp done
      obtain ⟨encoded, rfl⟩ := sound first
      obtain ⟨pieces, all, rfl, rfl⟩ := ih later
      refine ⟨piece :: pieces, .cons encoded all, rfl, ?_⟩
      rw [List.length_append]
      omega

theorem writeBlock_sound (sound : Sound frames) {entries : List (Key × Node)} {block : Block}
    (parameters : scan entries .initial = .ok block)
    (done : (writeBlock (frames + 1) block).Yields bytes count) :
    Encodes (.dict entries) bytes ∧ count = bytes.length := by
  obtain ⟨size, content, fill⟩ := block
  rw [writeBlock, yields_bind] at done
  obtain ⟨inner, used, rest, inside, onward, rfl⟩ := done
  obtain ⟨encoded, rfl⟩ := sound inside
  cases size with
  | none => exact absurd onward not_yields_fail
  | some size =>
      dsimp only at onward
      split at onward
      · exact absurd onward not_yields_fail
      · rename_i fits
        obtain ⟨last, returned, rfl⟩ := yields_emit_bind.mp onward
        obtain ⟨rfl, rfl⟩ := yields_pure.mp returned
        -- A size that is not below a length is not negative.
        obtain ⟨room, rfl⟩ := Int.eq_ofNat_of_zero_le (show 0 ≤ size by omega)
        rw [List.append_nil]
        refine ⟨.block parameters encoded (by omega), ?_⟩
        simp only [List.length_append, List.length_replicate, Int.toNat_natCast]
        omega

theorem writeBinFromYaml_sound (frames : Nat) : Sound frames := by
  -- The calls that are left bound the depth: an item takes one, a block of a mapping two.
  induction frames using Nat.strongRecOn with
  | ind frames ih =>
      intro node bytes count done
      cases frames with
      | zero => exact absurd done (by rw [writeBinFromYaml]; exact not_yields_fail)
      | succ frames =>
          cases node with
          | other => exact absurd done (by rw [writeBinFromYaml]; exact not_yields_fail)
          | int value =>
              rw [writeBinFromYaml] at done
              split at done
              · exact absurd done not_yields_fail
              · rename_i byte
                obtain ⟨rest, returned, rfl⟩ := yields_emit_bind.mp done
                obtain ⟨rfl, rfl⟩ := yields_pure.mp returned
                exact ⟨.int (by omega), rfl⟩
          | str chars =>
              rw [writeBinFromYaml] at done
              cases text : utf8 chars with
              | none =>
                  rw [text] at done
                  exact absurd done not_yields_fail
              | some encoded =>
                  rw [text] at done
                  obtain ⟨rest, onward, rfl⟩ := yields_emit_bind.mp done
                  obtain ⟨last, returned, rfl⟩ := yields_emit_bind.mp onward
                  obtain ⟨rfl, rfl⟩ := yields_pure.mp returned
                  rw [List.append_nil]
                  exact ⟨.str text, by rw [List.length_append]; rfl⟩
          | list items =>
              rw [writeBinFromYaml] at done
              obtain ⟨pieces, all, rfl, rfl⟩ := total_sound (ih frames (Nat.lt_succ_self _)) done
              exact ⟨.list all, Nat.zero_add _⟩
          | dict entries =>
              rw [writeBinFromYaml] at done
              cases parameters : scan entries .initial with
              | error exit =>
                  rw [parameters] at done
                  exact absurd done not_yields_fail
              | ok block =>
                  rw [parameters] at done
                  cases frames with
                  | zero =>
                      simp only [writeBlock] at done
                      exact absurd done not_yields_fail
                  | succ frames => exact writeBlock_sound (ih frames (by omega)) parameters done

/-! What can be encoded is accepted, with enough calls. -/

/-- From some number of calls on, the document is written like this. -/
def Complete (node : Node) (bytes : List Byte) : Prop :=
  ∃ enough, ∀ frames ≥ enough, (writeBinFromYaml frames node).Yields bytes bytes.length

def CompleteAll (items : List Node) (pieces : List (List Byte)) : Prop :=
  ∃ enough, ∀ frames ≥ enough, ∀ start,
    (total (writeBinFromYaml frames) items start).Yields pieces.flatten
      (start + pieces.flatten.length)

theorem complete_int {value : Int} (byte : 0 ≤ value ∧ value ≤ 255) :
    Complete (.int value) [BitVec.ofInt 8 value] := by
  refine ⟨1, fun frames most => ?_⟩
  obtain ⟨frames, rfl⟩ := Nat.exists_eq_succ_of_ne_zero (by omega : frames ≠ 0)
  rw [Nat.succ_eq_add_one, writeBinFromYaml, if_neg (by omega)]
  exact yields_emit_bind.mpr ⟨[], yields_pure.mpr ⟨rfl, rfl⟩, rfl⟩

theorem complete_str {chars : List CodePoint} {encoded : List Byte}
    (text : utf8 chars = some encoded) : Complete (.str chars) (encoded ++ [0]) := by
  refine ⟨1, fun frames most => ?_⟩
  obtain ⟨frames, rfl⟩ := Nat.exists_eq_succ_of_ne_zero (by omega : frames ≠ 0)
  rw [Nat.succ_eq_add_one, writeBinFromYaml, text]
  refine yields_emit_bind.mpr ⟨[0], ?_, rfl⟩
  refine yields_emit_bind.mpr ⟨[], yields_pure.mpr ⟨rfl, ?_⟩, rfl⟩
  rw [List.length_append]
  rfl

theorem complete_list (all : CompleteAll items pieces) : Complete (.list items) pieces.flatten := by
  obtain ⟨enough, written⟩ := all
  refine ⟨enough + 1, fun frames most => ?_⟩
  obtain ⟨frames, rfl⟩ := Nat.exists_eq_succ_of_ne_zero (by omega : frames ≠ 0)
  rw [Nat.succ_eq_add_one, writeBinFromYaml]
  have counted := written frames (by omega) 0
  rwa [Nat.zero_add] at counted

theorem complete_block {entries : List (Key × Node)} {size : Nat} {content : Node} {fill : Byte}
    (parameters : scan entries .initial = .ok ⟨some size, content, fill⟩)
    (inside : Complete content bytes) (fits : bytes.length ≤ size) :
    Complete (.dict entries) (bytes ++ List.replicate (size - bytes.length) fill) := by
  obtain ⟨enough, written⟩ := inside
  refine ⟨enough + 2, fun frames most => ?_⟩
  obtain ⟨frames, rfl⟩ := Nat.exists_eq_add_of_le (Nat.le_trans (Nat.le_add_left 2 enough) most)
  rw [Nat.add_comm 2 frames, writeBinFromYaml, parameters]
  simp only [writeBlock]
  refine yields_bind.mpr ⟨_, _, _, written frames (by omega), ?_, rfl⟩
  rw [if_neg (by omega)]
  refine yields_emit_bind.mpr ⟨[], yields_pure.mpr ⟨rfl, ?_⟩, ?_⟩
  · simp only [List.length_append, List.length_replicate, Int.toNat_natCast]
    omega
  · rw [List.append_nil, Int.toNat_natCast]

theorem completeAll_cons {item : Node} {piece : List Byte} (first : Complete item piece)
    (behind : CompleteAll items pieces) : CompleteAll (item :: items) (piece :: pieces) := by
  obtain ⟨enough, written⟩ := first
  obtain ⟨more, rest⟩ := behind
  refine ⟨enough + more, fun frames most start => ?_⟩
  have later := rest frames (by omega) (start + piece.length)
  rw [Nat.add_assoc, ← List.length_append] at later
  exact yields_total_cons.mpr ⟨_, _, _, written frames (by omega), later, rfl⟩

theorem complete_of_encodes (encoded : Encodes document bytes) : Complete document bytes := by
  -- The derivation is followed together with those of the lists in it.
  refine @Encodes.rec (fun node bytes _ => Complete node bytes)
    (fun items pieces _ => CompleteAll items pieces) ?int ?str ?list ?block ?nil ?cons _ _ encoded
  case int =>
    intro value byte
    exact complete_int byte
  case str =>
    intro chars encoded text
    exact complete_str text
  case list =>
    intro items pieces _ all
    exact complete_list all
  case block =>
    intro entries size content fill bytes parameters _ fits inside
    exact complete_block parameters inside fits
  case nil => exact ⟨0, fun frames _ start => yields_total_nil.mpr ⟨rfl, rfl⟩⟩
  case cons =>
    intro item rest piece pieces _ _ first behind
    exact completeAll_cons first behind

/-- A document has one encoding: what the generator writes. -/
theorem encodes_unique {others : List Byte} (encoded : Encodes document bytes)
    (other : Encodes document others) : bytes = others := by
  obtain ⟨enough, written⟩ := complete_of_encodes encoded
  obtain ⟨more, rewritten⟩ := complete_of_encodes other
  have same := (written (max enough more) (Nat.le_max_left _ _)).symm.trans
    (rewritten (max enough more) (Nat.le_max_right _ _))
  exact (Emission.mk.inj same).1

theorem encodesAll_unique {others : List (List Byte)} (encoded : EncodesAll items pieces)
    (other : EncodesAll items others) : pieces = others := by
  induction items generalizing pieces others with
  | nil =>
      cases encoded
      cases other
      rfl
  | cons item rest ih =>
      cases encoded with
      | cons first behind =>
          cases other with
          | cons first' behind' => rw [encodes_unique first first', ih behind behind']

/-! Where the elements are. -/

theorem encodesAll_append {before behind : List Node}
    (all : EncodesAll (before ++ behind) pieces) :
    ∃ first rest, EncodesAll before first ∧ EncodesAll behind rest ∧ pieces = first ++ rest := by
  induction before generalizing pieces with
  | nil => exact ⟨[], pieces, .nil, all, rfl⟩
  | cons item before ih =>
      cases all with
      | cons encoded later =>
          obtain ⟨first, rest, front, back, rfl⟩ := ih later
          exact ⟨_ :: first, rest, .cons encoded front, back, rfl⟩

theorem drop_behind (bytes behind : List Byte) (offset : Nat) :
    bytes.drop offset <+: (bytes ++ behind).drop offset := by
  rw [List.drop_append]
  exact List.prefix_append _ _

/-- An element of an encoded document is encoded from its offset on. -/
theorem starts_encoded (starts : Starts document element offset) (encoded : Encodes document bytes) :
    ∃ inner, Encodes element inner ∧ inner <+: bytes.drop offset := by
  induction starts generalizing bytes with
  | self node => exact ⟨bytes, encoded, List.prefix_refl _⟩
  | item sizes inside ih =>
      cases encoded with
      | list all =>
          obtain ⟨first, rest, front, back, rfl⟩ := encodesAll_append all
          obtain rfl := encodesAll_unique sizes front
          cases back with
          | cons here later =>
              obtain ⟨inner, encoded, prefixed⟩ := ih here
              refine ⟨inner, encoded, ?_⟩
              rw [sum_length, List.flatten_append, ← List.drop_drop, List.drop_left,
                List.flatten_cons]
              exact prefixed.trans (drop_behind _ _ _)
  | content parameters inside ih =>
      cases encoded with
      | block parameters' inner fits =>
          obtain rfl := Except.ok.inj (parameters'.symm.trans parameters)
          obtain ⟨bytes, encoded, prefixed⟩ := ih inner
          exact ⟨bytes, encoded, prefixed.trans (drop_behind _ _ _)⟩

theorem contains_encoded (contains : Contains document element) (encoded : Encodes document bytes) :
    ∃ inner, Encodes element inner := by
  induction contains generalizing bytes with
  | self node => exact ⟨bytes, encoded⟩
  | item member inside ih =>
      cases encoded with
      | list all =>
          obtain ⟨before, behind, rfl⟩ := List.append_of_mem member
          obtain ⟨_, _, _, back, rfl⟩ := encodesAll_append all
          cases back with
          | cons here later => exact ih here
  | content parameters inside ih =>
      cases encoded with
      | block parameters' inner fits =>
          obtain rfl := Except.ok.inj (parameters'.symm.trans parameters)
          exact ih inner

theorem not_encodes_faulty (faulty : Faulty element) : ¬Encodes element bytes := by
  intro encoded
  cases faulty with
  | int outside =>
      cases encoded with
      | int byte => omega
  | block parameters inside large =>
      cases encoded with
      | block parameters' inner fits =>
          obtain ⟨⟨⟩, rfl, rfl⟩ := Block.mk.inj (Except.ok.inj (parameters'.symm.trans parameters))
          rw [encodes_unique inner inside] at fits
          omega

def IsBlock (size : Nat) (node : Node) : Prop :=
  ∃ entries content fill, node = .dict entries ∧
    scan entries .initial = .ok ⟨some size, content, fill⟩

theorem length_block {size : Nat} (block : IsBlock size node) (encoded : Encodes node bytes) :
    bytes.length = size := by
  obtain ⟨entries, content, fill, rfl, parameters⟩ := block
  cases encoded with
  | block parameters' inner fits =>
      obtain ⟨same, _, _⟩ := Block.mk.inj (Except.ok.inj (parameters'.symm.trans parameters))
      obtain rfl := Int.ofNat.inj (Option.some.inj same)
      rw [List.length_append, List.length_replicate]
      omega

theorem sum_blocks {size : Nat} (blocks : ∀ item ∈ items, IsBlock size item)
    (all : EncodesAll items pieces) : (pieces.map List.length).sum = size * items.length := by
  induction items generalizing pieces with
  | nil =>
      cases all
      rfl
  | cons item rest ih =>
      cases all with
      | cons first behind =>
          have tail := ih (fun item member => blocks item (List.mem_cons_of_mem _ member)) behind
          have head := length_block (blocks item List.mem_cons_self) first
          rw [List.map_cons, List.sum_cons, head, tail, List.length_cons, Nat.mul_succ, Nat.add_comm]

/-- In an accepted card of a header block and interface blocks of the kernel's
sizes, an interface starts where `eeprom_if_next` arrives. -/
theorem interface_starts {header interface : Node} {before behind : List Node}
    (encoded : Encodes (.list (header :: (before ++ interface :: behind))) bytes)
    (head : IsBlock SlotEeprom.eeprom1v0InterfaceOffset header)
    (blocks : ∀ item ∈ before, IsBlock SlotEeprom.sizeofIf1v0 item) :
    Starts (.list (header :: (before ++ interface :: behind))) interface
      (SlotEeprom.eeprom1v0InterfaceOffset + SlotEeprom.sizeofIf1v0 * before.length) := by
  cases encoded with
  | list all =>
      cases all with
      | cons first later =>
          obtain ⟨front, _, sizes, _, rfl⟩ := encodesAll_append later
          have starts := @Starts.item (header :: before) behind interface interface _ 0
            (.cons first sizes) (.self interface)
          rw [List.map_cons, List.sum_cons, length_block head first, sum_blocks blocks sizes] at starts
          exact starts

end MangOH.EepromImage
