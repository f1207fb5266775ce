import Mathlib.Data.List.Basic

/-!
# Sliding windows

A window over natural numbers: the highest number that was committed and a mark for each
number at most so far below it.  A number is committed at most once, and what has fallen out
of the window is never committed.
-/

namespace NextGCore.Library

structure SlidingWindow (width : ℕ) where
  high : Option ℕ
  /-- Bit `high - number` marks a number. -/
  marks : BitVec width

namespace SlidingWindow

variable {width : ℕ}

def empty : SlidingWindow width := ⟨none, 0⟩

def Refused (window : SlidingWindow width) (number : ℕ) : Prop :=
  ∃ high ∈ window.high, number ≤ high ∧
    (width ≤ high - number ∨ window.marks.getLsbD (high - number) = true)

def commit (window : SlidingWindow width) (number : ℕ) : Option (SlidingWindow width) :=
  match window.high with
  | none => some ⟨some number, .twoPow width 0⟩
  | some high =>
    if high < number then
      some ⟨some number, window.marks <<< (number - high) ||| .twoPow width 0⟩
    else if width ≤ high - number ∨ window.marks.getLsbD (high - number) = true then none
    else some ⟨some high, window.marks ||| .twoPow width (high - number)⟩

variable {window next : SlidingWindow width} {number other : ℕ}

lemma commit_eq_none : window.commit number = none ↔ window.Refused number := by
  obtain ⟨high, marks⟩ := window
  unfold commit Refused
  cases high with
  | none => simp
  | some high =>
    simp only [Option.mem_some_iff, exists_eq_left']
    by_cases above : high < number
    · simp [above, Nat.not_le_of_lt above]
    · simp only [above, Nat.le_of_not_lt above, if_false, true_and]
      split
      · simp only [true_iff]
        assumption
      · simp only [reduceCtorEq, false_iff]
        assumption

lemma not_refused_of_commit (committed : window.commit number = some next) :
  ¬ window.Refused number := by
  intro refused
  rw [commit_eq_none.mpr refused] at committed
  cases committed

lemma refused_of_commit (committed : window.commit number = some next) :
  next.Refused number := by
  obtain ⟨high, marks⟩ := window
  have atHigh : ∀ marks : BitVec width,
      (⟨some number, marks ||| .twoPow width 0⟩ : SlidingWindow width).Refused number := by
    refine fun marks => ⟨number, rfl, Nat.le_refl number, ?_⟩
    rcases Nat.eq_zero_or_pos width with none | some
    · exact .inl (by omega)
    · exact .inr (by simp [some])
  cases high with
  | none =>
    obtain rfl := Option.some.inj committed
    simpa using atHigh 0
  | some high =>
    unfold commit at committed
    dsimp only at committed
    split at committed
    · obtain rfl := Option.some.inj committed
      exact atHigh _
    · split at committed
      · cases committed
      · obtain rfl := Option.some.inj committed
        rename_i notAbove fresh
        refine ⟨high, rfl, Nat.le_of_not_lt notAbove, .inr ?_⟩
        have inside : high - number < width := by omega
        simp [inside]

lemma Refused.after_commit (refused : window.Refused other)
  (committed : window.commit number = some next) : next.Refused other := by
  obtain ⟨high, isHigh, atMost, marked⟩ := refused
  unfold commit at committed
  rw [Option.mem_def.mp isHigh] at committed
  dsimp only at committed
  split at committed
  · obtain rfl := Option.some.inj committed
    rename_i above
    refine ⟨number, rfl, by omega, ?_⟩
    by_cases inside : number - other < width
    · have shifted : number - other - (number - high) = high - other := by omega
      have beyond : ¬ number - other < number - high := by omega
      have stays : window.marks.getLsbD (high - other) = true :=
        marked.resolve_left (by omega)
      exact .inr (by
        simp [inside, beyond, shifted, stays])
    · exact .inl (by omega)
  · split at committed
    · cases committed
    · obtain rfl := Option.some.inj committed
      exact ⟨high, rfl, atMost, marked.imp_right fun mark => by simp [mark]⟩

/-- What a window knows of the numbers that were committed: the highest of them, and which of
those at most so far below it. -/
structure Records (window : SlidingWindow width) (past : List ℕ) : Prop where
  fresh : window.high = none → past = []
  highest : ∀ high ∈ window.high, high ∈ past ∧ ∀ earlier ∈ past, earlier ≤ high
  marks : ∀ high ∈ window.high, ∀ earlier ≤ high, high - earlier < width →
    (window.marks.getLsbD (high - earlier) = true ↔ earlier ∈ past)

namespace Records

variable {past : List ℕ} (records : window.Records past)

include records

lemma refused_iff : window.Refused number ↔ number ∈ past ∨
  ∃ high ∈ past, (∀ earlier ∈ past, earlier ≤ high) ∧ number + width ≤ high := by
  constructor
  · rintro ⟨high, isHigh, atMost, far | marked⟩
    · obtain ⟨member, highest⟩ := records.highest high isHigh
      exact .inr ⟨high, member, highest, by omega⟩
    · exact .inl ((records.marks high isHigh number atMost (BitVec.lt_of_getLsbD marked)).mp marked)
  · intro committed
    cases isHigh : window.high with
    | none =>
      rw [records.fresh isHigh] at committed
      simp at committed
    | some high =>
      obtain ⟨member, highest⟩ := records.highest high isHigh
      refine ⟨high, isHigh, ?_⟩
      rcases committed with among | ⟨other, isMember, -, far⟩
      · refine ⟨highest number among, ?_⟩
        rcases Nat.lt_or_ge (high - number) width with near | far
        · exact .inr ((records.marks high isHigh number (highest number among) near).mpr among)
        · exact .inl far
      · have below := highest other isMember
        exact ⟨by omega, .inl (by omega)⟩

lemma commit (committed : window.commit number = some next) : next.Records (number :: past) := by
  obtain ⟨high, marks⟩ := window
  unfold SlidingWindow.commit at committed
  cases high with
  | none =>
    obtain rfl := records.fresh rfl
    obtain rfl := Option.some.inj committed
    refine ⟨nofun, ?_, ?_⟩
    · rintro high ⟨⟩
      simp
    · rintro high ⟨⟩ earlier atMost near
      simp only [BitVec.getLsbD_twoPow, List.mem_singleton, Bool.and_eq_true, decide_eq_true_eq]
      omega
  | some high =>
    obtain ⟨member, highest⟩ := records.highest high rfl
    have known := records.marks high rfl
    dsimp only at committed known
    split at committed
    case isTrue above =>
      obtain rfl := Option.some.inj committed
      refine ⟨nofun, ?_, ?_⟩
      · rintro _ ⟨⟩
        refine ⟨List.mem_cons_self, fun earlier among => ?_⟩
        rcases List.mem_cons.mp among with rfl | before
        · exact Nat.le_refl _
        · exact Nat.le_of_lt (Nat.lt_of_le_of_lt (highest earlier before) above)
      · rintro _ ⟨⟩ earlier atMost near
        simp only [BitVec.getLsbD_or, BitVec.getLsbD_shiftLeft, BitVec.getLsbD_twoPow, near,
          decide_true, Bool.true_and, Bool.or_eq_true, Bool.and_eq_true, Bool.not_eq_true',
          decide_eq_false_iff_not, decide_eq_true_eq, List.mem_cons]
        rcases Nat.lt_or_ge high earlier with later | within
        · have absent : earlier ∉ past := fun among => Nat.not_lt.mpr (highest earlier among) later
          simp only [absent, or_false]
          omega
        · have shifted : number - earlier - (number - high) = high - earlier := by omega
          rw [shifted, known earlier within (by omega)]
          have apart : earlier ≠ number := by omega
          have old : ¬ number - earlier < number - high := by omega
          simp only [apart, old, not_false_iff, true_and, false_or, or_iff_left_iff_imp]
          omega
    case isFalse notAbove =>
      split at committed
      case isTrue => cases committed
      case isFalse fresh =>
        obtain rfl := Option.some.inj committed
        have atMost := Nat.le_of_not_lt notAbove
        refine ⟨nofun, ?_, ?_⟩
        · rintro _ ⟨⟩
          refine ⟨List.mem_cons_of_mem _ member, fun earlier among => ?_⟩
          rcases List.mem_cons.mp among with rfl | before
          · exact atMost
          · exact highest earlier before
        · rintro _ ⟨⟩ earlier below near
          rw [BitVec.getLsbD_or, Bool.or_eq_true, known earlier below near, BitVec.getLsbD_twoPow,
            Bool.and_eq_true, decide_eq_true_eq, decide_eq_true_eq, List.mem_cons, or_comm]
          refine or_congr ?_ Iff.rfl
          omega

end Records

end SlidingWindow

end NextGCore.Library
