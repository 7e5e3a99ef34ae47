import Mathlib.Logic.Function.Basic

/-!
The byte registers of a device, and the transfers on the bus that read and write them.
-/

namespace MangOH.I2c

abbrev Byte := BitVec 8

/-- What each register holds, by its address. -/
abbrev Registers := Byte → Byte

/-- How a transfer ends. -/
inductive Transfer where
  | done
  /-- It fails after the device has taken so many of the bytes. -/
  | failed (errno taken : Nat)
deriving DecidableEq

def Transfer.ret : Transfer → Int
  | .done => 0
  | .failed errno _ => -(errno + 1 : Nat)

/-- Bytes for the registers from this one on. -/
def store (reg : Byte) : List Byte → Registers → Registers
  | [], registers => registers
  | byte :: rest, registers => store (reg + 1) rest (Function.update registers reg byte)

def read (transfer : Transfer) (registers : Registers) (reg : Byte) : Except Int Byte :=
  match transfer with
  | .done => .ok (registers reg)
  | .failed .. => .error transfer.ret

/-- The result, and what the registers hold then. -/
def write (transfer : Transfer) (reg : Byte) (bytes : List Byte) (registers : Registers) :
    Int × Registers :=
  match transfer with
  | .done => (0, store reg bytes registers)
  | .failed _ taken => (transfer.ret, store reg (bytes.take taken) registers)

theorem ret_neg {transfer : Transfer} (fails : transfer ≠ .done) : transfer.ret < 0 := by
  cases transfer with
  | done => exact absurd rfl fails
  | failed errno taken => simp only [Transfer.ret]; omega

@[simp] theorem write_ret (transfer : Transfer) (reg : Byte) (bytes : List Byte)
    (registers : Registers) : (write transfer reg bytes registers).1 = transfer.ret := by
  cases transfer <;> rfl

/-- A byte either goes to its register or nowhere. -/
theorem write_one (transfer : Transfer) (reg byte : Byte) (registers : Registers) :
    (write transfer reg [byte] registers).2 = Function.update registers reg byte ∨
      (write transfer reg [byte] registers).2 = registers ∧ transfer ≠ .done := by
  cases transfer with
  | done => exact .inl rfl
  | failed errno taken =>
      cases taken with
      | zero => exact .inr ⟨rfl, nofun⟩
      | succ taken => exact .inl (by simp [write, store])

/-- A register before the bytes keeps what it holds, unless the address wraps around. -/
theorem store_before {other : Byte} (bytes : List Byte) : ∀ {reg : Byte} {registers : Registers},
    reg.toNat + bytes.length ≤ 256 → other.toNat < reg.toNat → store reg bytes registers other = registers other := by
  induction bytes with
  | nil => exact fun _ _ => rfl
  | cons byte rest ih =>
      intro reg registers fits before
      have apart : other ≠ reg := fun same => by rw [same] at before; exact Nat.lt_irrefl _ before
      rw [store]
      rcases rest with _ | ⟨next, rest⟩
      · exact Function.update_of_ne apart _ _
      · have after : (reg + 1).toNat = reg.toNat + 1 := by
          rw [BitVec.toNat_add, Nat.mod_eq_of_lt]
          · rfl
          · simp only [List.length_cons] at fits
            simp
            omega
        rw [ih (by rw [after]; simp only [List.length_cons] at fits ⊢; omega) (by omega)]
        exact Function.update_of_ne apart _ _

end MangOH.I2c
