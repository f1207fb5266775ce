import NextGCore.Library.Machine
import Mathlib.Data.UInt

/-!
# The TEID pool

`TeidPool` of `teid_pool.rs`, with the atomic operations of its callers interleaved.  A counter
that has reached the maximum is set back to the base, whatever has been handed out and not been
released.
-/

namespace NextGCore.Gtp

open Library List

structure TeidPool where
  counter : UInt32
  base : UInt32
  max : UInt32

namespace TeidPool

def new : TeidPool := ⟨1, 1, 0xFFFFFFFF⟩

def withRange (base max : UInt32) : Except String TeidPool :=
  if base = 0 then .error "TEID base must be greater than 0"
  else if max ≤ base then .error "TEID base must be less than max"
  else .ok ⟨base, base, max⟩

inductive Made : TeidPool → Prop
  | new : Made new
  | withRange {base max : UInt32} {pool : TeidPool} (made : withRange base max = .ok pool) :
    Made pool

end TeidPool

/-- The atomic operation of `allocate` that is next: the first `fetch_add`, the `store`, or the
second `fetch_add`. -/
inductive AllocatePhase where
  | first
  | wrap
  | again
  deriving DecidableEq

structure TeidCallers where
  pool : TeidPool
  phase : ℕ → AllocatePhase

inductive TeidStep where
  /-- The next atomic operation of a caller, who calls `allocate` again after each return. -/
  | allocate (caller : ℕ)
  | release (teid : UInt32)

namespace TeidCallers

def moved (callers : TeidCallers) (counter : UInt32) (caller : ℕ) (phase : AllocatePhase) :
  TeidCallers where
  pool := { callers.pool with counter := counter }
  phase := Function.update callers.phase caller phase

def step (callers : TeidCallers) : TeidStep → TeidCallers × Option (Except String UInt32)
  | .release _ => (callers, none)
  | .allocate caller =>
    let teid := callers.pool.counter
    match callers.phase caller with
    | .first =>
      if callers.pool.max ≤ teid then (callers.moved (teid + 1) caller .wrap, none)
      else (callers.moved (teid + 1) caller .first, some (.ok teid))
    | .wrap => (callers.moved callers.pool.base caller .again, none)
    | .again =>
      if callers.pool.max ≤ teid then
        (callers.moved (teid + 1) caller .first, some (.error "TEID pool exhausted"))
      else (callers.moved (teid + 1) caller .first, some (.ok teid))

def start (pool : TeidPool) : TeidCallers := ⟨pool, fun _ => .first⟩

end TeidCallers

def heldAfter (before : List UInt32) : TeidStep → Option (Except String UInt32) → List UInt32
  | .release teid, _ => before.erase teid
  | .allocate _, some (.ok teid) => teid :: before
  | .allocate _, _ => before

/-- What was returned and not released, and whether the counter had reached the maximum. -/
structure Issued where
  held : List UInt32
  full : Bool

def Issued.next (before : Issued) (callers : TeidCallers) (step : TeidStep)
  (answer : TeidCallers × Option (Except String UInt32)) : Issued where
  held := heldAfter before.held step answer.2
  full := before.full || decide (callers.pool.max ≤ callers.pool.counter)

def teidMachine : Machine (TeidCallers × Issued) TeidStep (Option (Except String UInt32)) :=
  (Machine.mk TeidCallers.step).observed Issued.next

def begin (pool : TeidPool) : TeidCallers × Issued := (.start pool, ⟨[], false⟩)

structure UniqueTeids (joint : TeidCallers × Issued) : Prop where
  once : joint.2.held.Nodup
  inRange : ∀ teid ∈ joint.2.held, joint.1.pool.base ≤ teid ∧ teid < joint.1.pool.max ∧ teid ≠ 0

/-- Once the counter has reached the maximum, a `fetch_add` that finds it below finds it where
nothing is held and not, past an overflow, below the base. -/
def FindsFree (joint : TeidCallers × Issued) : TeidStep → Prop
  | .release _ => True
  | .allocate caller =>
    joint.2.full = true → joint.1.phase caller ≠ .wrap → joint.1.pool.counter < joint.1.pool.max →
        joint.1.pool.base ≤ joint.1.pool.counter ∧ joint.1.pool.counter ∉ joint.2.held

/-- Up to the maximum the counter is above all that is held, and nobody is about to set it back. -/
structure Rising (joint : TeidCallers × Issued) : Prop where
  least : joint.1.pool.base ≤ joint.1.pool.counter
  below : ∀ teid ∈ joint.2.held, teid < joint.1.pool.counter
  first : ∀ caller, joint.1.phase caller = .first

structure TeidInvariant (joint : TeidCallers × Issued) : Prop where
  positive : joint.1.pool.base ≠ 0
  unique : UniqueTeids joint
  rising : joint.2.full = false → Rising joint

variable {joint : TeidCallers × Issued} {pool : TeidPool} {caller : ℕ} {step : TeidStep}

lemma pool_step (joint : TeidCallers × Issued) (step : TeidStep) :
  (teidMachine.step joint step).1.1.pool.base = joint.1.pool.base ∧
    (teidMachine.step joint step).1.1.pool.max = joint.1.pool.max := by
  cases step with
  | release => exact ⟨rfl, rfl⟩
  | allocate caller =>
    simp only [teidMachine, Machine.observed, TeidCallers.step]
    split
    · split <;> exact ⟨rfl, rfl⟩
    · exact ⟨rfl, rfl⟩
    · split <;> exact ⟨rfl, rfl⟩

lemma held_allocate (joint : TeidCallers × Issued) (caller : ℕ) :
  (teidMachine.step joint (.allocate caller)).1.2.held =
    if joint.1.phase caller ≠ .wrap ∧ joint.1.pool.counter < joint.1.pool.max then
      joint.1.pool.counter :: joint.2.held
    else joint.2.held := by
  simp only [teidMachine, Machine.observed, Issued.next, TeidCallers.step]
  cases phase : joint.1.phase caller with
  | wrap => simp [heldAfter]
  | first | again =>
    by_cases full : joint.1.pool.max ≤ joint.1.pool.counter
    · simp [heldAfter, full, UInt32.not_lt.mpr full]
    · simp [heldAfter, full, UInt32.not_le.mp full]

lemma TeidInvariant.counter_free (invariant : TeidInvariant joint)
  (free : FindsFree joint (.allocate caller)) (adds : joint.1.phase caller ≠ .wrap)
  (room : joint.1.pool.counter < joint.1.pool.max) :
  joint.1.pool.base ≤ joint.1.pool.counter ∧ joint.1.pool.counter ∉ joint.2.held := by
  cases full : joint.2.full with
  | true => exact free full adds room
  | false =>
    have rising := invariant.rising full
    exact ⟨rising.least, fun out => UInt32.lt_irrefl _ (rising.below _ out)⟩

lemma uniqueTeids_step (invariant : TeidInvariant joint) (free : FindsFree joint step) :
  UniqueTeids (teidMachine.step joint step).1 := by
  obtain ⟨base, max⟩ := pool_step joint step
  have unique := invariant.unique
  cases step with
  | release teid =>
    exact ⟨unique.once.erase teid, fun other out => unique.inRange other (mem_of_mem_erase out)⟩
  | allocate caller =>
    constructor
    · rw [held_allocate]
      split
      · next now =>
          exact nodup_cons.mpr ⟨(invariant.counter_free free now.1 now.2).2, unique.once⟩
      · exact unique.once
    · rw [held_allocate, base, max]
      split
      · next now =>
          have least := (invariant.counter_free free now.1 now.2).1
          refine forall_mem_cons.mpr ⟨⟨least, now.2, fun zero => ?_⟩, unique.inRange⟩
          rw [zero] at least
          exact invariant.positive (UInt32.le_zero_iff.mp least)
      · exact unique.inRange

lemma rising_step (rising : Rising joint)
  (notFull : (teidMachine.step joint step).1.2.full = false) :
  Rising (teidMachine.step joint step).1 := by
  cases step with
  | release teid =>
    exact ⟨rising.least, fun other out => rising.below other (mem_of_mem_erase out), rising.first⟩
  | allocate caller =>
    have below : joint.1.pool.counter < joint.1.pool.max := by
      have reached := (Bool.or_eq_false_iff.mp notFull).2
      exact UInt32.not_le.mp (of_decide_eq_false reached)
    have less : joint.1.pool.counter < joint.1.pool.counter + 1 := by
      have small := UInt32.lt_iff_toNat_lt.mp below
      have most := joint.1.pool.max.toNat_lt
      rw [UInt32.lt_iff_toNat_lt, UInt32.toNat_add, UInt32.toNat_one, Nat.mod_eq_of_lt (by omega)]
      omega
    have after : (teidMachine.step joint (.allocate caller)).1 =
        (joint.1.moved (joint.1.pool.counter + 1) caller .first,
          (Issued.mk (joint.1.pool.counter :: joint.2.held)
            (teidMachine.step joint (.allocate caller)).1.2.full)) := by
      simp only [teidMachine, Machine.observed, Issued.next, TeidCallers.step,
        rising.first caller, if_neg (UInt32.not_le.mpr below), heldAfter]
    rw [after]
    constructor
    · exact UInt32.le_trans rising.least (UInt32.le_of_lt less)
    · exact forall_mem_cons.mpr
        ⟨less, fun teid out => UInt32.lt_trans (rising.below teid out) less⟩
    · intro other
      change Function.update joint.1.phase caller .first other = .first
      rw [Function.update_apply, rising.first other, ite_self]

lemma teidInvariant_step (invariant : TeidInvariant joint) (free : FindsFree joint step) :
  TeidInvariant (teidMachine.step joint step).1 where
  positive := (pool_step joint step).1 ▸ invariant.positive
  unique := uniqueTeids_step invariant free
  rising notFull := rising_step (invariant.rising (Bool.or_eq_false_iff.mp notFull).1) notFull

lemma findsFree_of_uniqueTeids (unique : UniqueTeids (teidMachine.step joint step).1) :
  FindsFree joint step := by
  cases step with
  | release => trivial
  | allocate caller =>
    intro _ adds below
    obtain ⟨once, inRange⟩ := unique
    rw [held_allocate, if_pos ⟨adds, below⟩] at once inRange
    rw [(pool_step joint _).1] at inRange
    exact ⟨(inRange _ mem_cons_self).1, (nodup_cons.mp once).1⟩

lemma TeidPool.Made.start (made : pool.Made) : pool.base ≠ 0 ∧ pool.counter = pool.base := by
  cases made with
  | new => decide
  | withRange made =>
    unfold TeidPool.withRange at made
    split at made
    · cases made
    · next positive =>
        split at made
        · cases made
        · cases made
          exact ⟨positive, rfl⟩

/-- In every run, with the operations of any callers in any order, no TEID is out twice and all
are in range, exactly as long as every addition after the counter has reached the maximum finds a
free TEID. -/
theorem teids_unique_iff {pool : TeidPool} (made : pool.Made) (steps : List TeidStep) :
  (∀ count, UniqueTeids (teidMachine.run (begin pool) (steps.take count))) ↔
    teidMachine.Along FindsFree (begin pool) steps := by
  obtain ⟨positive, counter⟩ := made.start
  have initially : TeidInvariant (begin pool) := by
    refine ⟨positive, ⟨nodup_nil, fun _ => nofun⟩, fun _ => ⟨?_, fun _ => nofun, fun _ => rfl⟩⟩
    exact counter ▸ UInt32.le_refl _
  exact teidMachine.reached_iff_along
    (fun joint (invariant : TeidInvariant joint) => invariant.unique)
    (fun _ _ => teidInvariant_step) (fun _ _ _ => findsFree_of_uniqueTeids) initially steps

theorem teids_unique_sample : (∀ count, UniqueTeids (teidMachine.run (begin .new)
    ([.allocate 0, .allocate 1, .release 1].take count))) ↔
    teidMachine.Along FindsFree (begin .new) [.allocate 0, .allocate 1, .release 1] :=
  teids_unique_iff .new _

/-- The fifth allocation from the range 1 to 5 returns the TEID of the first, which is held.  Two
callers who find the maximum together both go back to the base, and the second returns what the
first did; and past the greatest number a third caller is given 0. -/
theorem teid_returned_twice :
  (¬∀ pool : TeidPool, pool.Made → ∀ (steps : List TeidStep) (count : ℕ),
    UniqueTeids (teidMachine.run (begin pool) (steps.take count))) ∧
  (teidMachine.run (begin ⟨1, 1, 2⟩) ([0, 0, 1, 0, 0, 1, 1].map .allocate)).2.held = [1, 1, 1] ∧
  (teidMachine.run (begin ⟨0xFFFFFFFE, 0xFFFFFFFE, 0xFFFFFFFF⟩)
    ([0, 0, 1].map .allocate)).2.held = [0, 0xFFFFFFFE] := by
  refine ⟨fun unique => ?_, by decide, by decide⟩
  have made : TeidPool.withRange 1 5 = .ok ⟨1, 1, 5⟩ := by rfl
  have once := (unique _ (.withRange made) (replicate 7 (.allocate 0)) 7).once
  revert once
  decide

end NextGCore.Gtp
