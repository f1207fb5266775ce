import NextGCore.Library.Machine
import NextGCore.Library.SlidingWindow
import NextGCore.Sepp.N32f

/-!
# The replay window

The window over machine words stands for a sliding window over natural numbers.
-/

namespace NextGCore.Sepp

open Library UInt32 SlidingWindow

namespace ReplayWindow

variable {place : UInt32}

def sliding (window : ReplayWindow) : SlidingWindow 64 :=
  ⟨window.high.map UInt32.toNat, window.bitmap.toBitVec⟩

lemma toBitVec_shiftLeft (bits : UInt64) {shift : UInt32} (small : shift.toNat < 64) :
  (bits <<< shift.toUInt64).toBitVec = bits.toBitVec <<< shift.toNat := by
  have same : (shift.toUInt64.toBitVec % 64).toNat = shift.toNat := by
    simp only [BitVec.toNat_umod, UInt64.toNat_toBitVec, toNat_toUInt64]
    exact Nat.mod_eq_of_lt small
  rw [UInt64.toBitVec_shiftLeft, BitVec.shiftLeft_eq', same]

lemma toBitVec_bit (small : place.toNat < 64) :
  (1 <<< place.toUInt64 : UInt64).toBitVec = BitVec.twoPow 64 place.toNat := by
  rw [toBitVec_shiftLeft 1 small]
  rfl

lemma and_bit_ne_zero (bits : UInt64) (small : place.toNat < 64) :
  bits &&& 1 <<< place.toUInt64 ≠ 0 ↔ bits.toBitVec.getLsbD place.toNat = true := by
  rw [ne_eq, ← UInt64.toBitVec_inj, UInt64.toBitVec_and, toBitVec_bit small, BitVec.and_twoPow]
  cases bits.toBitVec.getLsbD place.toNat with
  | false => simp
  | true =>
    have bit : BitVec.twoPow 64 place.toNat ≠ 0 := by
      intro zero
      have set := congrArg (BitVec.getLsbD · place.toNat) zero
      simp [small] at set
    simpa using bit

lemma sliding_checkAndCommit (window : ReplayWindow) (seq : UInt32) :
  ((window.checkAndCommit seq).1.toOption.map fun _ => (window.checkAndCommit seq).2.sliding) =
    window.sliding.commit seq.toNat := by
  obtain ⟨_ | high, bitmap⟩ := window
  · rfl
  unfold checkAndCommit commit sliding
  simp only [Option.map_some]
  by_cases above : high < seq
  · have shift : (seq - high).toNat = seq.toNat - high.toNat :=
      UInt32.toNat_sub_of_le _ _ (UInt32.le_of_lt above)
    rw [if_pos above, if_pos (lt_iff_toNat_lt.mp above)]
    by_cases far : 64 ≤ seq - high
    · have beyond : 64 ≤ seq.toNat - high.toNat := shift ▸ le_iff_toNat_le.mp far
      rw [if_pos far, BitVec.shiftLeft_eq_zero beyond, BitVec.zero_or]
      rfl
    · have near : (seq - high).toNat < 64 :=
        lt_iff_toNat_lt.mp (UInt32.not_le.mp far)
      rw [if_neg far]
      simp only [Except.toOption, Option.map_some, UInt64.toBitVec_or, toBitVec_shiftLeft _ near,
        shift]
      rfl
  · have atMost : seq ≤ high := UInt32.not_lt.mp above
    have diff : (high - seq).toNat = high.toNat - seq.toNat :=
      UInt32.toNat_sub_of_le _ _ atMost
    rw [if_neg above, if_neg fun higher => above (lt_iff_toNat_lt.mpr higher)]
    by_cases old : 64 ≤ high - seq
    · have beyond : 64 ≤ high.toNat - seq.toNat := diff ▸ le_iff_toNat_le.mp old
      rw [if_pos old, if_pos (.inl beyond)]
      rfl
    · have near : (high - seq).toNat < 64 :=
        lt_iff_toNat_lt.mp (UInt32.not_le.mp old)
      have inside : ¬ 64 ≤ high.toNat - seq.toNat := diff ▸ Nat.not_le_of_lt near
      rw [if_neg old]
      by_cases seen : bitmap.toBitVec.getLsbD (high.toNat - seq.toNat) = true
      · have marked := (and_bit_ne_zero bitmap near).mpr (diff ▸ seen)
        rw [if_pos marked, if_pos (.inr seen)]
        rfl
      · have unmarked := mt (and_bit_ne_zero bitmap near).mp (diff ▸ seen)
        rw [if_neg unmarked, if_neg (not_or.mpr ⟨inside, seen⟩)]
        simp only [Except.toOption, Option.map_some, UInt64.toBitVec_or, toBitVec_bit near, diff]

lemma eq_of_error {window next : ReplayWindow} {seq : UInt32} {text : String}
  (refused : window.checkAndCommit seq = (.error text, next)) : next = window := by
  unfold checkAndCommit at refused
  split at refused
  · cases refused
  · dsimp only at refused
    split_ifs at refused <;> cases refused <;> rfl

def Refuses (window : ReplayWindow) (seq : UInt32) : Prop := window.sliding.Refused seq.toNat

variable {window next : ReplayWindow} {seq other : UInt32}

section

variable (committed : window.checkAndCommit seq = (.ok (), next))

include committed

lemma commit_of_ok : window.sliding.commit seq.toNat = some next.sliding := by
  rw [← sliding_checkAndCommit, committed]
  rfl

lemma not_refuses_of_ok : ¬ window.Refuses seq :=
  not_refused_of_commit (commit_of_ok committed)

lemma refuses_of_ok : next.Refuses seq :=
  refused_of_commit (commit_of_ok committed)

end

lemma Refuses.after_ok (refuses : window.Refuses other)
  (committed : window.checkAndCommit seq = (.ok (), next)) : next.Refuses other :=
  Refused.after_commit refuses (commit_of_ok committed)

lemma checkAndCommit_of_above (above : ∀ high ∈ window.high, high < seq) :
  ∃ next, window.checkAndCommit seq = (.ok (), next) ∧ next.high = some seq := by
  obtain ⟨_ | high, bitmap⟩ := window
  · exact ⟨_, rfl, rfl⟩
  · refine ⟨_, if_pos (above high rfl), rfl⟩

/-- The window beside the SEQs that were accepted. -/
def receiver : Machine (ReplayWindow × List UInt32) UInt32 (Except String Unit) where
  step state seq :=
    match state.1.checkAndCommit seq with
    | (.ok (), next) => ((next, seq :: state.2), .ok ())
    | (.error text, next) => ((next, state.2), .error text)

def received (seqs : List UInt32) : ReplayWindow × List UInt32 := receiver.run (.new, []) seqs

def Recorded (state : ReplayWindow × List UInt32) : Prop :=
  state.1.sliding.Records (state.2.map UInt32.toNat)

lemma recorded_step (state : ReplayWindow × List UInt32) (seq : UInt32)
  (recorded : Recorded state) :
  Recorded (receiver.step state seq).1 := by
  unfold receiver
  dsimp only
  split
  · next committed => exact recorded.commit (commit_of_ok committed)
  · next refused =>
      rw [eq_of_error refused]
      exact recorded

lemma recorded_run (seqs : List UInt32) : Recorded (received seqs) := by
  have start : Recorded (.new, []) := ⟨fun _ => rfl, nofun, nofun⟩
  exact receiver.invariant_run (fun state seq recorded _ => recorded_step state seq recorded) start
    (receiver.along_true _ seqs)

lemma refuses_iff {state : ReplayWindow × List UInt32} (recorded : Recorded state)
  (seq : UInt32) : state.1.Refuses seq ↔ seq ∈ state.2 ∨
    ∃ high ∈ state.2, (∀ earlier ∈ state.2, earlier ≤ high) ∧ seq.toNat + 64 ≤ high.toNat := by
  rw [Refuses, Records.refused_iff recorded]
  simp only [List.mem_map, UInt32.toNat_inj, exists_eq_right, exists_exists_and_eq_and,
    forall_exists_index, and_imp, forall_apply_eq_imp_iff₂, le_iff_toNat_le]

/-- After any SEQs one is accepted exactly when it was not before and is above the highest
accepted one less 64, and a call that refuses it leaves the window as it is. -/
theorem replayWindow_exact (seqs : List UInt32) (seq : UInt32) :
  ((receiver.step (received seqs) seq).2 = .ok () ↔ seq ∉ (received seqs).2 ∧
    ∀ high ∈ (received seqs).2, (∀ earlier ∈ (received seqs).2, earlier ≤ high) →
      high.toNat < seq.toNat + 64) ∧
  ((receiver.step (received seqs) seq).2 ≠ .ok () →
    (receiver.step (received seqs) seq).1 = received seqs) := by
  have refuses := refuses_iff (recorded_run seqs) seq
  generalize received seqs = state at refuses ⊢
  unfold receiver
  dsimp only
  split
  · next after committed =>
    have fresh := mt refuses.mpr (not_refuses_of_ok committed)
    rw [not_or] at fresh
    refine ⟨iff_of_true rfl ⟨fresh.1, fun high member highest => ?_⟩,
      fun failed => absurd rfl failed⟩
    exact Nat.lt_of_not_le fun far => fresh.2 ⟨high, member, highest, far⟩
  · next text left refused =>
    have refusal : state.1.Refuses seq := by
      rw [Refuses, ← commit_eq_none, ← sliding_checkAndCommit, refused]
      rfl
    refine ⟨iff_of_false nofun ?_, fun _ => by rw [eq_of_error refused]⟩
    rintro ⟨unseen, near⟩
    rcases refuses.mp refusal with among | ⟨high, member, highest, far⟩
    · exact unseen among
    · exact Nat.not_lt.mpr far (near high member highest)

end ReplayWindow

end NextGCore.Sepp
