import MangOH.NtagCalls

/-!
The adapter for the SRAM, where every message that is let in has a size that a byte holds,
and a read that fails has no message. What is left to go wrong are the writes, whose
results are not looked at.
-/

namespace MangOH.Nfc

open Blocks

variable {works again : Nat → Bool}

/-! A wait leaves alone what it has nothing to do with. -/

theorem isRfBusy_mirror (poll : Poll) (ntag : Ntag) :
    (isRfBusy poll ntag).2.mirrorBaseBlockNr = ntag.mirrorBaseBlockNr := by
  rw [isRfBusy]
  split <;> rfl

theorem waitLoop_mirror (wait : Wait) (polls : List Poll) (ntag : Ntag) :
    (waitLoop wait polls ntag).2.mirrorBaseBlockNr = ntag.mirrorBaseBlockNr := by
  induction polls generalizing ntag with
  | nil => exact isRfBusy_mirror wait.last ntag
  | cons poll rest ih =>
      have next : (waitLoop wait rest (isRfBusy poll ntag).2).2.mirrorBaseBlockNr =
          ntag.mirrorBaseBlockNr := by
        rw [ih, isRfBusy_mirror]
      rw [waitLoop]
      by_cases time : poll.now < wait.startTime + wait.timeOut
      · cases busy : (isRfBusy poll ntag).1 with
        | false => simpa [time, busy] using isRfBusy_mirror poll ntag
        | true => simpa [time, busy] using next
      · simpa [time] using isRfBusy_mirror wait.last ntag

theorem waitUntilRfDone_mirror (wait : Wait) (ntag : Ntag) :
    (waitUntilRfDone wait ntag).2.mirrorBaseBlockNr = ntag.mirrorBaseBlockNr :=
  waitLoop_mirror wait _ ntag

namespace NtagSramAdapter

theorem length_encoded (message : List Byte) : (encoded message).length = 3 + message.length := by
  rw [encoded, List.length_append, List.length_append, List.length_cons, List.length_singleton,
    List.length_singleton]
  omega

theorem sram_valid (dt : DeviceType) {place : Nat} (below : place < 4) :
    isAddressValid dt .sram (0xF8 + place) = true := by
  simp only [isAddressValid, decide_eq_true_eq]
  omega

/-- The store. -/
def storing (works : Nat → Bool) (wait : Wait) (message : List Byte) (adapter : NtagSramAdapter)
    (memory : Content) : Bool × Ntag × Bus :=
  writeRest works (waitUntilRfDone wait adapter.ntag).2 .sram 0xF8 (encoded message) (Bus.start memory)

theorem write_eq (wait : Wait) (message : List Byte) (adapter : NtagSramAdapter) (memory : Content) :
    write works wait message adapter (Bus.start memory) =
      if !(waitUntilRfDone wait adapter.ntag).1 || 64 < (encoded message).length then
        (false, { adapter with ntag := (waitUntilRfDone wait adapter.ntag).2 }, Bus.start memory)
      else (true, { adapter with ntag := (storing works wait message adapter memory).2.1 },
        finish works (storing works wait message adapter memory)) := by
  have length := length_encoded message
  rw [write, sramSize]
  cases done : (waitUntilRfDone wait adapter.ntag).1 with
  | false => rfl
  | true =>
      by_cases long : 3 + message.length > 64
      · have more : 64 < (encoded message).length := by omega
        simp [more, long]
      · have less : ¬ 64 < (encoded message).length := by omega
        have whole : (encoded message).take (BitVec.ofNat 8 (3 + message.length)).toNat =
            encoded message := by
          rw [whole_iff.mpr (by omega : 3 + message.length < 256)]
          exact List.take_of_length_le (Nat.le_of_eq length)
        simp only [long, less, writeSram_start, whole]
        rfl

theorem storing_all {wait : Wait} {message : List Byte} {adapter : NtagSramAdapter} {memory : Content}
    (short : (encoded message).length ≤ 64)
    (through : ∀ transfer < transfers (encoded message).length, works transfer = true) :
    let stored := storing works wait message adapter memory
    stored.2.2.made = transfers (encoded message).length ∧
      Holds stored.2.2.memory 0xF8 (encoded message) ∧
      Acknowledged stored.2.2.sent 0xF8 (encoded message) ∧
      lastNdef stored.2.1 = count 16 (encoded message).length - 1 + adapter.ntag.mirrorBaseBlockNr := by
  have some_length : 3 ≤ (encoded message).length := by
    rw [length_encoded]
    omega
  obtain ⟨after, ran, stored⟩ := @writeLoop_all works (waitUntilRfDone wait adapter.ntag).2.dt .sram
    (encoded message).length 0xF8 (encoded message) (Bus.start memory) (by omega)
    (fun place inside => sram_valid _ (by omega))
    (fun transfer below => by
      have own := through transfer below
      rwa [← Nat.zero_add transfer] at own)
  have made := stored.made
  have zero : (Bus.start memory).made = 0 := rfl
  have result : storing works wait message adapter memory = (true,
      { (waitUntilRfDone wait adapter.ntag).2 with
        lastMemBlockWritten := (0xF8 + count 16 (encoded message).length + 255) % 256 }, after) := by
    simp only [storing, writeRest, ran, if_true]
  simp only [result]
  rw [zero, Nat.zero_add] at made
  refine ⟨made, stored.holds, stored.acknowledged, ?_⟩
  have blocks : 1 ≤ count 16 (encoded message).length ∧ count 16 (encoded message).length ≤ 4 := by
    simp only [count]
    omega
  have written : (0xF8 + count 16 (encoded message).length + 255) % 256 =
      0xF8 + (count 16 (encoded message).length - 1) := by
    omega
  have valid := sram_valid (waitUntilRfDone wait adapter.ntag).2.dt
    (by omega : count 16 (encoded message).length - 1 < 4)
  have base : sramBaseAddr >>> 4 = 0xF8 := rfl
  simp only [lastNdef, written, valid, if_true, waitUntilRfDone_mirror, base]
  omega

theorem storing_needed {wait : Wait} {message : List Byte} {adapter : NtagSramAdapter}
    {memory : Content} {last : Byte} (short : (encoded message).length ≤ 64)
    (needed : Needed (finish works (storing works wait message adapter memory)).sent 0xF8
      (encoded message) last) :
    ∀ transfer ≤ transfers (encoded message).length, works transfer = true := by
  have blocks_short : 0xF8 + count 16 (encoded message).length < 0xFE := by
    simp only [count]
    omega
  obtain ⟨_, blocks, last⟩ := @needed_through works (waitUntilRfDone wait adapter.ntag).2 .sram 0xF8
    (encoded message) (encoded message) (Bus.start memory) last (by decide) rfl blocks_short needed
  have through : ∀ transfer < transfers (encoded message).length, works transfer = true := by
    intro transfer below
    simp only [transfers] at below
    by_cases full : 16 * transfer + 16 ≤ (encoded message).length
    · have own := blocks transfer (by omega) (by omega) transfer
      rw [transferOf, if_pos full] at own
      simpa [Bus.start] using own (Nat.le_refl _)
    · -- The block that is not filled has two transfers.
      have rest : (encoded message).length % 16 ≠ 0 := by
        intro whole
        rw [if_pos whole] at below
        omega
      have part : ¬ 16 * ((encoded message).length / 16) + 16 ≤ (encoded message).length := by omega
      rw [if_neg rest] at below
      have own := blocks ((encoded message).length / 16) (by omega) (by omega) transfer
      rw [transferOf, if_neg part] at own
      simpa [Bus.start] using own (by omega)
  intro transfer bound
  rcases Nat.lt_or_eq_of_le bound with below | behind
  · exact through transfer below
  · have made := (@storing_all works wait message adapter memory short through).1
    rw [behind, ← made]
    exact last

theorem readSram_read (ntag : Ntag) (bus : Bus) :
    ∃ read, ReadOf works bus 0xF8 4 (16 * 4) read (readSram works ntag 0 (BitVec.ofNat 8 sramSize) bus) := by
  have start : readSram works ntag 0 (BitVec.ofNat 8 sramSize) bus =
      readLoop works ntag.dt .sram 0xFB 4 0xF8 0xF80 64 bus := rfl
  rw [start]
  exact readLoop_aligned 4 rfl rfl (by decide) (by decide) (fun place below => sram_valid ntag.dt below)

/-- The type is at the front, so nothing is skipped. -/
theorem decodeTlv_front {data rest : List Byte} {length : Byte}
    (front : data = messageTypeNdef :: length :: rest) : decodeTlv data = some (length.toNat, 2) := by
  rw [front]
  rfl

/-- What is found where a message that fits is stored. -/
theorem decodeTlv_stored {memory : Content} {message : List Byte}
    (short : (encoded message).length ≤ 64) (holds : Holds memory 0xF8 (encoded message)) :
    decodeTlv (contents memory 0xF8 4) = some (message.length, 2) := by
  have length := length_encoded message
  have number : (BitVec.ofNat 8 message.length).toNat = message.length :=
    whole_iff.mpr (by omega)
  have held := holds.take_contents (by decide) (by omega : (encoded message).length ≤ 16 * 4)
  have front : contents memory 0xF8 4 = messageTypeNdef :: BitVec.ofNat 8 message.length ::
      (message ++ [terminator] ++ (contents memory 0xF8 4).drop (encoded message).length) := by
    calc contents memory 0xF8 4
        = (contents memory 0xF8 4).take (encoded message).length ++
            (contents memory 0xF8 4).drop (encoded message).length :=
          (List.take_append_drop _ _).symm
      _ = encoded message ++ (contents memory 0xF8 4).drop (encoded message).length := by rw [held]
      _ = _ := by simp [encoded]
  rw [decodeTlv_front front, number]

theorem readBack {adapter : NtagSramAdapter} {memory : Content} {message : List Byte} (later : Wait)
    (short : (encoded message).length ≤ 64) (holds : Holds memory 0xF8 (encoded message)) :
    ReadBack message
      ((waitUntilRfDone later adapter.ntag).1 = true ∧ ∀ transfer, again transfer = true)
      (read again later adapter (Bus.start memory)).1 := by
  have length := length_encoded message
  obtain ⟨blocks, ran⟩ :=
    @readSram_read again (waitUntilRfDone later adapter.ntag).2 (Bus.start memory)
  have parts := @part_iff again _ _ _ _ _ [messageTypeNdef, BitVec.ofNat 8 message.length] message
    [terminator] ran holds (by simp only [List.length_cons, List.length_nil]; omega)
  have ok := ran.ok
  cases done : (waitUntilRfDone later adapter.ntag).1 with
  | false =>
      simp only [read, done, Bool.not_false, if_true]
      refine ⟨fun cells none => (by cases none), fun undisturbed => ?_⟩
      cases undisturbed.1
  | true =>
      by_cases all : blocks = 4
      · have result : (readSram again (waitUntilRfDone later adapter.ntag).2 0
            (BitVec.ofNat 8 sramSize) (Bus.start memory)).1 = true := by
          rw [ok, all]
          rfl
        have through : ∀ transfer < count 16
            ([messageTypeNdef, BitVec.ofNat 8 message.length].length + message.length),
            again ((Bus.start memory).made + transfer) = true := by
          intro transfer below
          apply ran.through
          simp only [count, List.length_cons, List.length_nil] at below
          omega
        have found := parts.mpr (Or.inr through)
        have decoded : decodeTlv (readSram again (waitUntilRfDone later adapter.ntag).2 0
            (BitVec.ofNat 8 sramSize) (Bus.start memory)).2.1 = some (message.length, 2) := by
          have whole : (contents memory 0xF8 4).length = 64 := length_contents memory 0xF8 4
          have start : (Bus.start memory).memory = memory := rfl
          rw [ran.front, all, start, List.take_of_length_le (Nat.le_of_eq whole)]
          exact decodeTlv_stored short holds
        simp only [read, done, result, decoded, Bool.not_true, Bool.false_eq_true, if_false]
        refine ⟨fun cells built => ?_, fun _ none => by cases none⟩
        rw [← Option.some.inj built]
        exact found
      · have result : (readSram again (waitUntilRfDone later adapter.ntag).2 0
            (BitVec.ofNat 8 sramSize) (Bus.start memory)).1 = false := by
          rw [ok]
          exact decide_eq_false all
        have less : blocks < 4 := by
          have bound := ran.bound
          omega
        simp only [read, done, result, Bool.not_true, Bool.not_false, Bool.false_eq_true, if_false,
          if_true]
        refine ⟨fun cells none => (by cases none), fun undisturbed => ?_⟩
        have failed := ran.failed less
        rw [undisturbed.2] at failed
        cases failed

/-- What is expected of a write and the read after it, which waits for itself. -/
def Kept (works again : Nat → Bool) (wait later : Wait) (message : List Byte)
    (adapter : NtagSramAdapter) (memory : Content) : Prop :=
  let written := write works wait message adapter (Bus.start memory)
  let tag := (read again later written.2.1 (Bus.start written.2.2.memory)).1
  (written.1 = true →
    Needed written.2.2.sent 0xF8 (encoded message)
        (BitVec.ofNat 8 (count 16 (encoded message).length - 1 + adapter.ntag.mirrorBaseBlockNr)) ∧
      ReadBack message ((waitUntilRfDone later written.2.1.ntag).1 = true ∧
        ∀ transfer, again transfer = true) tag ∧ Whole (3 + message.length)) ∧
    (64 < (encoded message).length → written.1 = false ∧ written.2.2.memory = memory)

/-- A write that the reader lets happen, of a message that fits, has none of its transfers
fail. -/
def Sound (works : Nat → Bool) (wait : Wait) (message : List Byte) (adapter : NtagSramAdapter) : Prop :=
  (waitUntilRfDone wait adapter.ntag).1 = true → (encoded message).length ≤ 64 →
    ∀ transfer ≤ transfers (encoded message).length, works transfer = true

theorem kept_iff (works again : Nat → Bool) (wait later : Wait) (message : List Byte)
    (adapter : NtagSramAdapter) (memory : Content) :
    Kept works again wait later message adapter memory ↔ Sound works wait message adapter := by
  have length := length_encoded message
  by_cases reaches : (waitUntilRfDone wait adapter.ntag).1 = true ∧ (encoded message).length ≤ 64
  · obtain ⟨done, short⟩ := reaches
    have enters : ¬ (!(waitUntilRfDone wait adapter.ntag).1 || 64 < (encoded message).length) = true := by
      simpa [done] using short
    have fits : ¬ 64 < (encoded message).length := Nat.not_lt.mpr short
    have written : write works wait message adapter (Bus.start memory) =
        (true, { adapter with ntag := (storing works wait message adapter memory).2.1 },
          finish works (storing works wait message adapter memory)) := by
      rw [write_eq, if_neg enters]
    simp only [Kept, Sound, written, done, short, fits, true_imp_iff, finish_memory, false_imp_iff,
      and_true]
    constructor
    · intro kept
      exact storing_needed short kept.1
    · intro through
      obtain ⟨made, holds, acknowledged, last⟩ := @storing_all works wait message adapter memory short
        (fun transfer below => through transfer (Nat.le_of_lt below))
      refine ⟨⟨fun place inside => ?_, ?_⟩, readBack later short holds, whole_iff.mpr (by omega)⟩
      · obtain ⟨rest, member⟩ := acknowledged place inside
        exact ⟨rest, finish_earlier member⟩
      · rw [← last]
        apply finish_last
        rw [made]
        exact through _ (Nat.le_refl _)
  · have refused : (!(waitUntilRfDone wait adapter.ntag).1 || 64 < (encoded message).length) = true := by
      rw [Bool.or_eq_true, Bool.not_eq_true', decide_eq_true_eq]
      rcases Bool.eq_false_or_eq_true (waitUntilRfDone wait adapter.ntag).1 with done | busy
      · exact Or.inr (Nat.lt_of_not_le fun short => reaches ⟨done, short⟩)
      · exact Or.inl busy
    have unsent : Kept works again wait later message adapter memory := by
      rw [Kept, write_eq, if_pos refused]
      exact ⟨fun sent => (by cases sent), fun _ => ⟨rfl, rfl⟩⟩
    exact ⟨fun _ done short => absurd ⟨done, short⟩ reaches, fun _ => unsent⟩

end NtagSramAdapter

end MangOH.Nfc
