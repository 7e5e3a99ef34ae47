import MangOH.Trace
import Mathlib.Algebra.Group.Nat.Defs
import Mathlib.Data.List.Basic

/-!
The SDIO and the PCM multiplexer of mangOH Red. Each is shared by clients that
ask for one of its two sides; a count of the clients served keeps the side, and
a GPIO switches it while the count is zero. The two copies of the code differ
in the side that the high level stands for.
-/

namespace MangOH.RedMux

open Trace

universe u

def ebusy : Int := 16
def eacces : Int := 13
def enolck : Int := 37

inductive SdioSelection where
  | sdCardSlot
  | iotSlot
deriving DecidableEq

inductive PcmSelection where
  | iotSlot
  | onboard
deriving DecidableEq

/-- The three variables of one multiplexer. `level` is what its GPIO drives. -/
structure Mux (Selection : Type) where
  currentSelection : Selection
  numRequested : BitVec 32
  level : Bool

section Calls
variable {Selection : Type} [DecidableEq Selection]

/-- `high` is the selection of the high level, `gpio` what `gpio_direction_output`
returns. It drives the line only when it returns 0. -/
def Mux.select (high selection : Selection) (gpio : Int) (mux : Mux Selection) :
    Mux Selection × Int :=
  if selection = mux.currentSelection then
    ({ mux with numRequested := mux.numRequested + 1 }, 0)
  else if mux.numRequested = 0 then
    if gpio ≠ 0 then (mux, gpio)
    else (⟨selection, mux.numRequested + 1, decide (selection = high)⟩, 0)
  else (mux, -ebusy)

def Mux.release (selection : Selection) (mux : Mux Selection) : Mux Selection × Int :=
  if selection ≠ mux.currentSelection then (mux, -eacces)
  else if mux.numRequested ≠ 0 then ({ mux with numRequested := mux.numRequested - 1 }, 0)
  else (mux, -enolck)

end Calls

def mangohRedMuxSdioSelect : SdioSelection → Int → Mux SdioSelection → Mux SdioSelection × Int :=
  Mux.select .sdCardSlot

def mangohRedMuxSdioRelease : SdioSelection → Mux SdioSelection → Mux SdioSelection × Int :=
  Mux.release

def mangohRedMuxPcmSelect : PcmSelection → Int → Mux PcmSelection → Mux PcmSelection × Int :=
  Mux.select .onboard

def mangohRedMuxPcmRelease : PcmSelection → Mux PcmSelection → Mux PcmSelection × Int :=
  Mux.release

structure Muxes where
  sdio : Mux SdioSelection
  pcm : Mux PcmSelection

/-- The two arguments are what the requests of the GPIOs return, each of which
leaves its line high. -/
def mangohRedMuxInit (sdioGpio pcmGpio : Int) : Except Int Muxes :=
  if sdioGpio ≠ 0 then .error sdioGpio
  else if pcmGpio ≠ 0 then .error pcmGpio
  else .ok ⟨⟨.sdCardSlot, 0, true⟩, ⟨.onboard, 0, true⟩⟩

section Clients
variable (Client : Type) (Selection : Type)

inductive Request where
  | select (client : Client) (selection : Selection) (gpio : Int)
  | release (client : Client) (selection : Selection)

/-- A multiplexer with the grants that no client has released. -/
structure Shared where
  mux : Mux Selection
  grants : List (Client × Selection)

end Clients

section Shared
variable {Client Selection : Type} [DecidableEq Client] [DecidableEq Selection]

/-- A select that returns 0 is a grant, and a release that returns 0 ends one. -/
def Shared.call (select : Selection → Int → Mux Selection → Mux Selection × Int)
    (release : Selection → Mux Selection → Mux Selection × Int) (shared : Shared Client Selection) :
    Request Client Selection → Shared Client Selection × Int
  | .select client selection gpio =>
      let answer := select selection gpio shared.mux
      (⟨answer.1, if answer.2 = 0 then (client, selection) :: shared.grants else shared.grants⟩,
        answer.2)
  | .release client selection =>
      let answer := release selection shared.mux
      (⟨answer.1, if answer.2 = 0 then shared.grants.erase (client, selection)
        else shared.grants⟩, answer.2)

/-- What the count, the selection and the level say of the grants. -/
structure Shared.Arbitrated (high : Selection) (shared : Shared Client Selection) : Prop where
  count : shared.mux.numRequested.toNat = shared.grants.length
  current : ∀ grant ∈ shared.grants, grant.2 = shared.mux.currentSelection
  level : shared.mux.level = decide (shared.mux.currentSelection = high)

/-- What one call does to the multiplexer that it meets. -/
structure Shared.Sound (shared : Shared Client Selection) (request : Request Client Selection)
    (next : Shared Client Selection × Int) : Prop where
  settled : shared.grants ≠ [] →
    next.1.mux.currentSelection = shared.mux.currentSelection ∧
      next.1.mux.level = shared.mux.level
  failed : next.2 ≠ 0 → next.1.mux = shared.mux
  idle : shared.grants = [] → ∀ client selection gpio,
    request = .select client selection gpio → next.2 ≠ 0 →
      selection ≠ shared.mux.currentSelection ∧ next.2 = gpio

/-- Clients release what they were granted. -/
def Shared.Entitled (shared : Shared Client Selection) : Request Client Selection → Prop
  | .select _ _ _ => True
  | .release client selection => (client, selection) ∈ shared.grants

/-- A select is made while the count has room for one more grant. -/
def Shared.Room (shared : Shared Client Selection) : Request Client Selection → Prop
  | .select _ _ _ => shared.grants.length + 1 < 2 ^ 32
  | .release _ _ => True

variable {high selection : Selection} {gpio : Int} {client : Client}
variable {shared : Shared Client Selection}

omit [DecidableEq Client] in
theorem zero_iff_idle (arbitrated : shared.Arbitrated high) :
    shared.mux.numRequested = 0#32 ↔ shared.grants = [] := by
  rw [← List.length_eq_zero_iff, ← arbitrated.count]
  exact BitVec.toNat_inj.symm

omit [DecidableEq Client] in
theorem count_grant (arbitrated : shared.Arbitrated high)
    (room : shared.grants.length + 1 < 2 ^ 32) :
    (shared.mux.numRequested + 1).toNat = shared.grants.length + 1 := by
  have count := arbitrated.count
  rw [BitVec.toNat_add, count]
  exact Nat.mod_eq_of_lt room

theorem count_release (arbitrated : shared.Arbitrated high)
    (held : (client, selection) ∈ shared.grants) :
    (shared.mux.numRequested - 1).toNat = (shared.grants.erase (client, selection)).length := by
  have count := arbitrated.count
  have positive := List.length_pos_of_mem held
  rw [List.length_erase_of_mem held]
  bv_omega

/-! The four outcomes of a select. -/

theorem select_same (same : selection = shared.mux.currentSelection) :
    shared.call (Mux.select high) Mux.release (.select client selection gpio) =
      (⟨{ shared.mux with numRequested := shared.mux.numRequested + 1 },
        (client, selection) :: shared.grants⟩, 0) := by
  simp [Shared.call, Mux.select, same]

theorem select_switched (other : selection ≠ shared.mux.currentSelection)
    (zero : shared.mux.numRequested = 0#32) :
    shared.call (Mux.select high) Mux.release (.select client selection 0) =
      (⟨⟨selection, shared.mux.numRequested + 1, decide (selection = high)⟩,
        (client, selection) :: shared.grants⟩, 0) := by
  simp [Shared.call, Mux.select, other, zero]

theorem select_unwritten (other : selection ≠ shared.mux.currentSelection)
    (zero : shared.mux.numRequested = 0#32) (write : gpio ≠ 0) :
    shared.call (Mux.select high) Mux.release (.select client selection gpio) =
      (shared, gpio) := by
  simp [Shared.call, Mux.select, other, zero, write]

theorem select_busy (other : selection ≠ shared.mux.currentSelection)
    (some : shared.mux.numRequested ≠ 0#32) :
    shared.call (Mux.select high) Mux.release (.select client selection gpio) =
      (shared, -ebusy) := by
  simp [Shared.call, Mux.select, other, some, ebusy]

theorem select_arbitrated (arbitrated : shared.Arbitrated high)
    (room : shared.grants.length + 1 < 2 ^ 32) :
    (shared.call (Mux.select high) Mux.release (.select client selection gpio)).1.Arbitrated
      high := by
  have counted := count_grant arbitrated room
  by_cases same : selection = shared.mux.currentSelection
  · rw [select_same same]
    exact ⟨counted, by simpa [same] using arbitrated.current, arbitrated.level⟩
  · by_cases zero : shared.mux.numRequested = 0#32
    · by_cases write : gpio = 0
      · have idle := (zero_iff_idle arbitrated).mp zero
        rw [write, select_switched same zero]
        exact ⟨counted, by simp [idle], rfl⟩
      · rw [select_unwritten same zero write]
        exact arbitrated
    · rw [select_busy same zero]
      exact arbitrated

theorem select_sound (arbitrated : shared.Arbitrated high) :
    shared.Sound (.select client selection gpio)
      (shared.call (Mux.select high) Mux.release (.select client selection gpio)) := by
  have idle := zero_iff_idle arbitrated
  by_cases same : selection = shared.mux.currentSelection
  · rw [select_same same]
    constructor <;> simp
  · by_cases zero : shared.mux.numRequested = 0#32
    · by_cases write : gpio = 0
      · rw [write, select_switched same zero]
        constructor <;> simp [idle.mp zero]
      · rw [select_unwritten same zero write]
        constructor
        · simp
        · simp
        · rintro _ client' selection' gpio' ⟨⟩ _
          exact ⟨same, rfl⟩
    · rw [select_busy same zero]
      constructor
      · simp
      · simp
      · exact fun none => absurd (idle.mpr none) zero

/-- A client that holds a grant of a selection holds one of the current selection,
and neither failure of a release is reached. -/
theorem release_served (arbitrated : shared.Arbitrated high)
    (held : (client, selection) ∈ shared.grants) :
    shared.call (Mux.select high) Mux.release (.release client selection) =
      (⟨{ shared.mux with numRequested := shared.mux.numRequested - 1 },
        shared.grants.erase (client, selection)⟩, 0) := by
  have same : selection = shared.mux.currentSelection := arbitrated.current _ held
  have some : shared.mux.numRequested ≠ 0 := fun zero =>
    List.ne_nil_of_mem held ((zero_iff_idle arbitrated).mp zero)
  rw [Shared.call, Mux.release, if_neg (not_not.mpr same), if_pos some]
  rfl

theorem release_arbitrated (arbitrated : shared.Arbitrated high)
    (held : (client, selection) ∈ shared.grants) :
    (shared.call (Mux.select high) Mux.release (.release client selection)).1.Arbitrated high := by
  rw [release_served arbitrated held]
  constructor
  · exact count_release arbitrated held
  · exact fun grant kept => arbitrated.current grant (List.mem_of_mem_erase kept)
  · exact arbitrated.level

theorem release_sound (arbitrated : shared.Arbitrated high)
    (held : (client, selection) ∈ shared.grants) :
    shared.Sound (.release client selection)
      (shared.call (Mux.select high) Mux.release (.release client selection)) := by
  rw [release_served arbitrated held]
  constructor <;> simp

theorem call_arbitrated {request : Request Client Selection} (arbitrated : shared.Arbitrated high)
    (entitled : shared.Entitled request) (room : shared.Room request) :
    (shared.call (Mux.select high) Mux.release request).1.Arbitrated high := by
  cases request with
  | select client selection gpio => exact select_arbitrated arbitrated room
  | release client selection => exact release_arbitrated arbitrated entitled

theorem call_sound {request : Request Client Selection} (arbitrated : shared.Arbitrated high)
    (entitled : shared.Entitled request) :
    shared.Sound request (shared.call (Mux.select high) Mux.release request) := by
  cases request with
  | select client selection gpio => exact select_sound arbitrated
  | release client selection => exact release_sound arbitrated entitled

end Shared

/-! Both multiplexers, with the calls of their clients in any order. Each call
is made under the mutex of its multiplexer, from its first test to its return. -/

section Board
variable (Client : Type)

structure Board where
  sdio : Shared Client SdioSelection
  pcm : Shared Client PcmSelection

inductive Call where
  | sdio (request : Request Client SdioSelection)
  | pcm (request : Request Client PcmSelection)

end Board

variable {Client : Type} [DecidableEq Client]

def start (muxes : Muxes) : Board Client := ⟨⟨muxes.sdio, []⟩, ⟨muxes.pcm, []⟩⟩

def Board.sdioCall (board : Board Client) (request : Request Client SdioSelection) :
    Shared Client SdioSelection × Int :=
  board.sdio.call mangohRedMuxSdioSelect mangohRedMuxSdioRelease request

def Board.pcmCall (board : Board Client) (request : Request Client PcmSelection) :
    Shared Client PcmSelection × Int :=
  board.pcm.call mangohRedMuxPcmSelect mangohRedMuxPcmRelease request

def step (board : Board Client) : Call Client → Board Client
  | .sdio request => { board with sdio := (board.sdioCall request).1 }
  | .pcm request => { board with pcm := (board.pcmCall request).1 }

def Entitled (board : Board Client) : Call Client → Prop
  | .sdio request => board.sdio.Entitled request
  | .pcm request => board.pcm.Entitled request

def Room (board : Board Client) : Call Client → Prop
  | .sdio request => board.sdio.Room request
  | .pcm request => board.pcm.Room request

/-- What the clients and the count ask of a call. -/
def Allowed (board : Board Client) (call : Call Client) : Prop :=
  Entitled board call ∧ Room board call

def Sound (board : Board Client) : Call Client → Prop
  | .sdio request => board.sdio.Sound request (board.sdioCall request)
  | .pcm request => board.pcm.Sound request (board.pcmCall request)

structure Arbitrated (board : Board Client) : Prop where
  sdio : board.sdio.Arbitrated .sdCardSlot
  pcm : board.pcm.Arbitrated .onboard

omit [DecidableEq Client] in
theorem init_arbitrated {sdioGpio pcmGpio : Int} {muxes : Muxes}
    (init : mangohRedMuxInit sdioGpio pcmGpio = .ok muxes) :
    Arbitrated (@start Client muxes) := by
  unfold mangohRedMuxInit at init
  split at init
  · cases init
  · split at init
    · cases init
    · cases init
      constructor <;> constructor <;> simp [start]

theorem step_arbitrated {board : Board Client} {call : Call Client} (arbitrated : Arbitrated board)
    (allowed : Allowed board call) : Arbitrated (step board call) := by
  cases call with
  | sdio request => exact ⟨call_arbitrated arbitrated.sdio allowed.1 allowed.2, arbitrated.pcm⟩
  | pcm request => exact ⟨arbitrated.sdio, call_arbitrated arbitrated.pcm allowed.1 allowed.2⟩

theorem step_sound {board : Board Client} {call : Call Client} (arbitrated : Arbitrated board)
    (entitled : Entitled board call) : Sound board call := by
  cases call with
  | sdio request => exact call_sound arbitrated.sdio entitled
  | pcm request => exact call_sound arbitrated.pcm entitled

/-- In every run, clients that release only what they were granted find the count,
the selection and the level of both multiplexers in step with the grants. -/
theorem muxes_arbitrated {sdioGpio pcmGpio : Int} {muxes : Muxes}
    (init : mangohRedMuxInit sdioGpio pcmGpio = .ok muxes) (calls : List (Call Client))
    (allowed : Along step Allowed (start muxes) calls) :
    Arbitrated (run step (start muxes) calls) ∧ Along step Sound (start muxes) calls := by
  have base := @init_arbitrated Client _ _ _ init
  have sound : ∀ {board : Board Client} {call}, Arbitrated board → Allowed board call →
      Sound board call := fun arbitrated allowed => step_sound arbitrated allowed.1
  constructor
  · exact along_invariant step_arbitrated base allowed
  · exact @along_imp _ _ step Allowed Sound Arbitrated sound step_arbitrated calls _ base allowed

/-- One client holds the IoT slot while the other asks for the card slot. -/
theorem muxes_arbitrated_contended :
    let calls := [Call.sdio (.select true .iotSlot 0), .sdio (.select false .sdCardSlot 0),
      .pcm (.select false .iotSlot 5), .sdio (.release true .iotSlot)]
    let board := start ⟨⟨.sdCardSlot, 0, true⟩, ⟨.onboard, 0, true⟩⟩
    Arbitrated (run step board calls) ∧ Along step Sound board calls := by
  have few : ∀ count : Nat, count < 2 → count + 1 < 2 ^ 32 := by omega
  apply muxes_arbitrated (show mangohRedMuxInit 0 0 = _ from rfl)
  exact ⟨⟨trivial, few 0 (by decide)⟩, ⟨trivial, few 1 (by decide)⟩, ⟨trivial, few 0 (by decide)⟩,
    ⟨List.mem_singleton_self _, trivial⟩, trivial⟩

/-! The count has 32 bits. -/

def cardSelects (count : Nat) (client : Client) : List (Call Client) :=
  List.replicate count (.sdio (.select client .sdCardSlot 0))

theorem card_selects_entitled (count : Nat) (client : Client) : ∀ board : Board Client,
    Along step Entitled board (cardSelects count client) := by
  induction count with
  | zero => exact fun _ => trivial
  | succ count ih => exact fun board => ⟨trivial, ih _⟩

/-- Every one of these selects is granted, and without the room the count wraps. -/
theorem card_selects_granted (count : Nat) (client : Client) {muxes : Muxes}
    (card : muxes.sdio.currentSelection = .sdCardSlot) :
    (run step (start muxes) (cardSelects count client)).sdio =
      ⟨{ muxes.sdio with numRequested := muxes.sdio.numRequested + BitVec.ofNat 32 count },
        List.replicate count (client, .sdCardSlot)⟩ := by
  induction count with
  | zero => simp [run, cardSelects, start]
  | succ count ih =>
      have last : run step (start muxes) (cardSelects (count + 1) client) =
          step (run step (start muxes) (cardSelects count client))
            (.sdio (.select client .sdCardSlot 0)) := by
        rw [cardSelects, List.replicate_succ']
        exact List.foldl_append
      have granted : (step (run step (start muxes) (cardSelects count client))
          (.sdio (.select client .sdCardSlot 0))).sdio = _ :=
        congrArg Prod.fst (select_same (by rw [ih]; exact card.symm))
      rw [last, granted, ih]
      simp [List.replicate_succ, BitVec.ofNat_add, BitVec.add_assoc]

theorem count_wraps : ¬ ∀ calls : List (Call Unit),
    Along step Entitled (start ⟨⟨.sdCardSlot, 0, true⟩, ⟨.onboard, 0, true⟩⟩) calls →
      Arbitrated (run step (start ⟨⟨.sdCardSlot, 0, true⟩, ⟨.onboard, 0, true⟩⟩) calls) ∧
        Along step Sound (start ⟨⟨.sdCardSlot, 0, true⟩, ⟨.onboard, 0, true⟩⟩) calls := by
  intro claimed
  have counted := (claimed _ (card_selects_entitled (2 ^ 32) () _)).1.sdio.count
  rw [card_selects_granted (2 ^ 32) () rfl, List.length_replicate] at counted
  exact absurd counted (by decide)

end MangOH.RedMux
