import Mathlib.Data.Prod.Lex
import Mathlib.Data.UInt
import NextGCore.Library.Machine
import NextGCore.Library.Ordered

/-!
# The timer manager

`timer.rs`: timers in numbered slots, and a tree that orders the running ones by their deadlines.
Instants are nanoseconds since the manager was made.  A call that panics leaves no manager.
-/

namespace NextGCore.Core

open Library List Option OrderedMap

universe u

variable {T : Type u}

abbrev TimerId := ℕ

def maxTimerId : TimerId := 2 ^ 64 - 1

structure Timer (T : Type u) where
  id : TimerId
  callback : Option (T → T)
  data : Option T
  running : Bool
  timeoutNanos : Option ℕ

namespace Timer

variable (timer : Timer T)

def new (id : TimerId) (callback : Option (T → T)) (data : Option T) : Timer T :=
  ⟨id, callback, data, false, none⟩

def clear : Timer T :=
  { timer with running := false, timeoutNanos := none }

def runUntil (timeout : ℕ) : Timer T :=
  { timer with running := true, timeoutNanos := some timeout }

def call : Timer T :=
  match timer.callback, timer.data with
  | some callback, some data => { timer with data := some (callback data) }
  | _, _ => timer

end Timer

structure TimerKey where
  timeout : ℕ
  id : TimerId

namespace TimerKey

variable {key other : TimerKey}

def pair (key : TimerKey) : ℕ ×ₗ TimerId := toLex (key.timeout, key.id)

lemma pair_injective : Function.Injective pair := by
  rintro ⟨timeout, id⟩ ⟨otherTimeout, otherId⟩ same
  cases toLex.injective same
  rfl

/-- The derived `Ord`: by the timeout, then by the timer. -/
instance : LinearOrder TimerKey := LinearOrder.lift' pair pair_injective

lemma le_iff : key ≤ other ↔
    key.timeout < other.timeout ∨ key.timeout = other.timeout ∧ key.id ≤ other.id :=
  Prod.Lex.toLex_le_toLex

lemma timeout_le_of_lt (before : key < other) : key.timeout ≤ other.timeout := by
  rcases le_iff.mp before.le with less | ⟨same, -⟩
  · exact less.le
  · exact same.le

end TimerKey

structure TimerMgr (T : Type u) where
  timers : List (Option (Timer T))
  freeIndices : List ℕ
  tree : OrderedMap TimerKey ℕ
  nextId : TimerId
  capacity : ℕ

namespace TimerMgr

variable (mgr : TimerMgr T)

def new (capacity : ℕ) : TimerMgr T where
  timers := replicate capacity none
  freeIndices := range capacity
  tree := .empty
  nextId := 1
  capacity := capacity

/-- `add` and `add_simple`.  The identifier after the last one is an overflow. -/
def addTimer (callback : Option (T → T)) (data : Option T) : Option (TimerMgr T × Option TimerId) :=
  match mgr.freeIndices with
  | [] => some (mgr, none)
  | index :: rest =>
    if mgr.nextId = maxTimerId then none
    else some
      ({ mgr with
          timers := mgr.timers.set index (some (.new mgr.nextId callback data))
          freeIndices := rest
          nextId := mgr.nextId + 1 },
        some mgr.nextId)

def add (callback : T → T) (data : T) : Option (TimerMgr T × Option TimerId) :=
  mgr.addTimer (some callback) (some data)

def addSimple : Option (TimerMgr T × Option TimerId) :=
  mgr.addTimer none none

def hasId (id : TimerId) (slot : Option (Timer T)) : Bool :=
  (slot.map fun timer => timer.id == id).getD false

def findIndex (id : TimerId) : Option ℕ :=
  mgr.timers.findIdx? (hasId id)

def unlinked (timer : Timer T) : OrderedMap TimerKey ℕ :=
  match timer.timeoutNanos with
  | none => mgr.tree
  | some timeout => mgr.tree.remove ⟨timeout, timer.id⟩

/-- The timer of a slot that was found; `expect("timer exists")` panics. -/
def expectTimer (index : ℕ) : Option (Timer T) :=
  mgr.timers[index]?.join

/-- `latest` is the last instant there is: `Instant::now() + duration` panics past it. -/
def start (latest : ℕ) (mgr : TimerMgr T) (now : ℕ) (id : TimerId) (duration : ℕ) :
  Option (TimerMgr T) :=
  match mgr.findIndex id with
  | none => some mgr
  | some index =>
    (mgr.expectTimer index).bind fun timer =>
      if latest < now + duration then none
      else some
        { mgr with
          timers := mgr.timers.set index (some (timer.runUntil (now + duration)))
          tree := (mgr.unlinked timer).insert ⟨now + duration, timer.id⟩ index }

def stop (id : TimerId) : Option (TimerMgr T) :=
  match mgr.findIndex id with
  | none => some mgr
  | some index =>
    (mgr.expectTimer index).map fun timer =>
      if timer.running then
        { mgr with
          timers := mgr.timers.set index (some timer.clear)
          tree := mgr.unlinked timer }
      else mgr

def delete (id : TimerId) : Option (TimerMgr T) :=
  match mgr.findIndex id with
  | none => some mgr
  | some index =>
    (mgr.stop id).map fun stopped =>
      { stopped with
        timers := stopped.timers.set index none
        freeIndices := index :: stopped.freeIndices }

def expiredData (now : ℕ) : List (TimerKey × ℕ) :=
  mgr.tree.upTo ⟨now, maxTimerId⟩

/-- The loop of `expire`.  In a coherent manager the slot of an entry is there; outside the slots
the source panics, and here the entry is passed over. -/
def expireKeys : List TimerKey → TimerMgr T → TimerMgr T × List TimerId
  | [], mgr => (mgr, [])
  | key :: rest, mgr =>
    match mgr.tree.lookup key with
    | none => expireKeys rest mgr
    | some index =>
      let removed := { mgr with tree := mgr.tree.remove key }
      match removed.timers[index]?.join with
      | none => expireKeys rest removed
      | some timer =>
        let answer := expireKeys rest
          { removed with timers := removed.timers.set index (some timer.clear) }
        (answer.1, timer.id :: answer.2)

def expire (now : ℕ) : TimerMgr T × List TimerId :=
  expireKeys ((mgr.expiredData now).map Prod.fst) mgr

/-- The loop of `expire_with_callbacks` over the entries: the timers it expires.  An entry is
passed over as in `expireKeys`. -/
def expireEntries (visit : Timer T → Timer T) :
    List (TimerKey × ℕ) → TimerMgr T → TimerMgr T × List TimerId
  | [], mgr => (mgr, [])
  | (key, index) :: rest, mgr =>
    let removed := { mgr with tree := mgr.tree.remove key }
    match removed.timers[index]?.join with
    | none => expireEntries visit rest removed
    | some timer =>
      let answer := expireEntries visit rest
        { removed with timers := removed.timers.set index (some (visit timer)) }
      (answer.1, timer.id :: answer.2)

def expireWithCallbacks (now : ℕ) : TimerMgr T × List TimerId :=
  expireEntries (fun timer => timer.clear.call) (mgr.expiredData now) mgr

/-- The time until the next deadline, in the 64 bits of `Duration::from_nanos`; without one there
is no limit. -/
def next (now : ℕ) : Option ℕ :=
  mgr.tree.entries.head?.map fun entry =>
    if now < entry.1.timeout then (entry.1.timeout - now) % 2 ^ 64 else 0

inductive Operation (T : Type u) where
  | add (callback : T → T) (data : T)
  | addSimple
  | start (id : TimerId) (duration : ℕ)
  | stop (id : TimerId)
  | delete (id : TimerId)
  | expire
  | expireWithCallbacks

def perform (latest : ℕ) (mgr : TimerMgr T) (now : ℕ) :
    Operation T → Option (TimerMgr T × List TimerId)
  | .add callback data => (mgr.add callback data).map fun answer => (answer.1, [])
  | .addSimple => mgr.addSimple.map fun answer => (answer.1, [])
  | .start id duration => (mgr.start latest now id duration).map (·, [])
  | .stop id => (mgr.stop id).map (·, [])
  | .delete id => (mgr.delete id).map (·, [])
  | .expire => some (mgr.expire now)
  | .expireWithCallbacks => some (mgr.expireWithCallbacks now)

end TimerMgr

structure Call (T : Type u) where
  elapsed : ℕ
  operation : TimerMgr.Operation T

structure Timers (T : Type u) where
  now : ℕ
  mgr : Option (TimerMgr T)

def timerMachine (latest : ℕ) : Machine (Timers T) (Call T) (List TimerId) where
  step timers call :=
    let now := timers.now + call.elapsed
    match timers.mgr.bind fun mgr => mgr.perform latest now call.operation with
    | none => (⟨now, none⟩, [])
    | some answer => (⟨now, some answer.1⟩, answer.2)

end NextGCore.Core

/-!
## The timers and the tree

The tree has the deadline and the slot of every running timer, and the slots that no timer has are
the free ones.  Every operation keeps both, and says what becomes of the deadlines.
-/

namespace NextGCore.Core.TimerMgr

open Library List Option OrderedMap

universe u

variable {T : Type u} {mgr : TimerMgr T} {index other : ℕ} {timer : Timer T} {id : TimerId}

def Holds (mgr : TimerMgr T) (index : ℕ) (timer : Timer T) : Prop :=
  mgr.timers[index]? = some (some timer)

/-- The slots, the free indices and the tree tell of the same timers. -/
structure Coherent (mgr : TimerMgr T) : Prop where
  size : mgr.timers.length = mgr.capacity
  nodup_free : mgr.freeIndices.Nodup
  free : ∀ index, index ∈ mgr.freeIndices ↔ mgr.timers[index]? = some none
  nextId_le : mgr.nextId ≤ maxTimerId
  below : ∀ {index timer}, mgr.Holds index timer → timer.id < mgr.nextId
  ids : ∀ {index other timer otherTimer}, mgr.Holds index timer → mgr.Holds other otherTimer →
    timer.id = otherTimer.id → index = other
  running : ∀ {index timer}, mgr.Holds index timer → timer.running = timer.timeoutNanos.isSome
  tree : ∀ key index, (key, index) ∈ mgr.tree.entries ↔
    ∃ timer, mgr.Holds index timer ∧ timer.id = key.id ∧ timer.timeoutNanos = some key.timeout

/-- The tree holds this deadline of the timer. -/
def Armed (mgr : TimerMgr T) (id : TimerId) (deadline : ℕ) : Prop :=
  ∃ index, (⟨deadline, id⟩, index) ∈ mgr.tree.entries

def Knows (mgr : TimerMgr T) (id : TimerId) : Prop :=
  ∃ index timer, mgr.Holds index timer ∧ timer.id = id

lemma slot_set {timers : List (Option (Timer T))} (inside : index < timers.length)
  (slot : Option (Timer T)) (other : ℕ) :
  (timers.set index slot)[other]? = if index = other then some slot else timers[other]? := by
  rw [List.getElem?_set, if_pos inside]

lemma expectTimer_eq_some_iff : mgr.expectTimer index = some timer ↔ mgr.Holds index timer := by
  rw [expectTimer, join_eq_some_iff, Holds]

lemma findIndex_eq_some (found : mgr.findIndex id = some index) :
  ∃ timer, mgr.Holds index timer ∧ timer.id = id := by
  obtain ⟨inside, has, -⟩ := findIdx?_eq_some_iff_getElem.mp found
  cases slot : mgr.timers[index] with
  | none => rw [slot] at has; cases has
  | some timer =>
    rw [slot] at has
    exact ⟨timer, by rw [Holds, List.getElem?_eq_getElem inside, slot], beq_iff_eq.mp has⟩

lemma findIndex_eq_none (absent : mgr.findIndex id = none) : ¬mgr.Knows id := by
  rintro ⟨index, timer, held, rfl⟩
  have lacks := findIdx?_eq_none_iff.mp absent _ (mem_of_getElem? held)
  simp [hasId] at lacks

lemma Holds.lt_length (held : mgr.Holds index timer) : index < mgr.timers.length :=
  (List.getElem?_eq_some_iff.mp held).choose

lemma Holds.unique {otherTimer : Timer T} (held : mgr.Holds index timer)
  (otherHeld : mgr.Holds index otherTimer) : timer = otherTimer := by
  rw [Holds, held] at otherHeld
  cases otherHeld
  rfl

namespace Coherent

variable {entries : List (TimerKey × ℕ)}

lemma new (capacity : ℕ) : (TimerMgr.new capacity : TimerMgr T).Coherent where
  size := length_replicate
  nodup_free := nodup_range
  free index := by simp [TimerMgr.new, List.getElem?_replicate]
  nextId_le := (by decide : 1 ≤ maxTimerId)
  below held := by simp [TimerMgr.new, Holds, List.getElem?_replicate] at held
  ids held := by simp [TimerMgr.new, Holds, List.getElem?_replicate] at held
  running held := by simp [TimerMgr.new, Holds, List.getElem?_replicate] at held
  tree key index := by
    simp [TimerMgr.new, Holds, List.getElem?_replicate, empty]

lemma mem_unlinked (coherent : mgr.Coherent) (held : mgr.Holds index timer) (key : TimerKey)
  (other : ℕ) :
  (key, other) ∈ (mgr.unlinked timer).entries ↔
    (key, other) ∈ mgr.tree.entries ∧ key.id ≠ timer.id := by
  have own (isIn : (key, other) ∈ mgr.tree.entries) (same : key.id = timer.id) :
      timer.timeoutNanos = some key.timeout := by
    obtain ⟨linked, linkedHeld, isId, deadline⟩ := (coherent.tree key other).mp isIn
    have isIndex := coherent.ids linkedHeld held (isId.trans same)
    subst isIndex
    rwa [← linkedHeld.unique held]
  unfold unlinked
  split
  · next idle =>
      refine ⟨fun isIn => ⟨isIn, fun same => ?_⟩, And.left⟩
      rw [own isIn same] at idle
      cases idle
  · next timeout runs =>
      rw [mem_remove]
      refine and_congr_right fun isIn => not_congr ⟨fun same => ?_, fun same => ?_⟩
      · exact congrArg TimerKey.id same
      · have isTimeout := own isIn same
        rw [runs] at isTimeout
        cases isTimeout
        rw [← same]

lemma replace (coherent : mgr.Coherent) (held : mgr.Holds index timer) (after : Timer T)
  (sameId : after.id = timer.id) (running : after.running = after.timeoutNanos.isSome)
  {tree : OrderedMap TimerKey ℕ}
  (linked : ∀ key other, (key, other) ∈ tree.entries ↔
    ((key, other) ∈ mgr.tree.entries ∧ key.id ≠ timer.id) ∨
      other = index ∧ key.id = timer.id ∧ after.timeoutNanos = some key.timeout) :
  Coherent { mgr with timers := mgr.timers.set index (some after), tree := tree } := by
  have holds (other : ℕ) (otherTimer : Timer T) :
      ({ mgr with timers := mgr.timers.set index (some after), tree := tree } : TimerMgr T).Holds
          other otherTimer ↔
        if index = other then after = otherTimer else mgr.Holds other otherTimer := by
    rw [Holds, slot_set held.lt_length]
    split
    · rw [Option.some.injEq, Option.some.injEq]
    · exact Iff.rfl
  have before {other : ℕ} {otherTimer : Timer T} (isIn : TimerMgr.Holds
      { mgr with timers := mgr.timers.set index (some after), tree := tree } other otherTimer) :
      ∃ old, mgr.Holds other old ∧ otherTimer.id = old.id := by
    rw [holds] at isIn
    split_ifs at isIn with same
    · subst same isIn
      exact ⟨timer, held, sameId⟩
    · exact ⟨otherTimer, isIn, rfl⟩
  constructor
  · rw [length_set]
    exact coherent.size
  · exact coherent.nodup_free
  · intro other
    rw [coherent.free, slot_set held.lt_length]
    split
    · next same =>
        rw [← same, show mgr.timers[index]? = some (some timer) from held]
        simp
    · exact Iff.rfl
  · exact coherent.nextId_le
  · intro other otherTimer isIn
    obtain ⟨old, oldHeld, same⟩ := before isIn
    rw [same]
    exact coherent.below oldHeld
  · intro first second firstTimer secondTimer firstIn secondIn same
    obtain ⟨firstOld, firstHeld, firstSame⟩ := before firstIn
    obtain ⟨secondOld, secondHeld, secondSame⟩ := before secondIn
    exact coherent.ids firstHeld secondHeld (by rw [← firstSame, ← secondSame, same])
  · intro other otherTimer isIn
    rw [holds] at isIn
    split_ifs at isIn
    · subst isIn
      exact running
    · exact coherent.running isIn
  · intro key other
    rw [linked, coherent.tree]
    simp only [holds]
    by_cases same : index = other
    · subst same
      have apart : ¬((∃ old, mgr.Holds index old ∧ old.id = key.id ∧
          old.timeoutNanos = some key.timeout) ∧ key.id ≠ timer.id) := by
        rintro ⟨⟨old, oldHeld, isId, -⟩, apart⟩
        rw [held.unique oldHeld] at apart
        exact apart isId.symm
      simp only [apart, if_true, false_or, true_and, exists_eq_left', sameId, eq_comm]
    · have notIndex : other ≠ index := Ne.symm same
      simp only [notIndex, false_and, or_false, if_neg same]
      refine ⟨And.left, fun exists_ => ⟨exists_, ?_⟩⟩
      obtain ⟨old, oldHeld, isId, -⟩ := exists_
      exact fun sameTimer => notIndex (coherent.ids oldHeld held (isId.trans sameTimer))

variable {after : TimerMgr T}

section

variable (coherent : mgr.Coherent)

include coherent

lemma addTimer {callback : Option (T → T)} {data : Option T} {added : Option TimerId}
  (returned : mgr.addTimer callback data = some (after, added)) :
  after.Coherent ∧ after.tree = mgr.tree := by
  unfold TimerMgr.addTimer at returned
  split at returned
  · cases returned
    exact ⟨coherent, rfl⟩
  · next index rest isFree =>
      split at returned
      · cases returned
      · next notLast =>
          cases returned
          have vacant : mgr.timers[index]? = some none :=
            (coherent.free index).mp (isFree ▸ mem_cons_self)
          have inside : index < mgr.timers.length := (List.getElem?_eq_some_iff.mp vacant).choose
          obtain ⟨gone, nodup⟩ := nodup_cons.mp (isFree ▸ coherent.nodup_free)
          have holds {other : ℕ} {timer : Timer T} :
              (mgr.timers.set index (some (.new mgr.nextId callback data)))[other]? =
                  some (some timer) ↔
                other = index ∧ Timer.new mgr.nextId callback data = timer ∨
                  mgr.Holds other timer := by
            rw [slot_set inside, Holds]
            split
            · next same =>
                rw [← same, vacant]
                simp
            · next apart => simp [Ne.symm apart]
          refine ⟨⟨?_, nodup, ?_, ?_, ?_, ?_, ?_, ?_⟩, rfl⟩
          · rw [length_set]
            exact coherent.size
          · intro other
            have before := coherent.free other
            rw [isFree, mem_cons] at before
            rw [slot_set inside]
            split
            · next same =>
                rw [← same]
                simp [gone]
            · next apart => rw [← before, or_iff_right (Ne.symm apart)]
          · exact Nat.succ_le_of_lt (lt_of_le_of_ne coherent.nextId_le notLast)
          · intro other timer isIn
            rcases holds.mp isIn with ⟨-, rfl⟩ | held
            · exact Nat.lt_succ_self _
            · exact (coherent.below held).trans (Nat.lt_succ_self _)
          · intro first second firstTimer secondTimer firstIn secondIn same
            rcases holds.mp firstIn with ⟨rfl, rfl⟩ | firstHeld <;>
              rcases holds.mp secondIn with ⟨rfl, rfl⟩ | secondHeld
            · rfl
            · exact absurd same.symm (coherent.below secondHeld).ne
            · exact absurd same (coherent.below firstHeld).ne
            · exact coherent.ids firstHeld secondHeld same
          · intro other timer isIn
            rcases holds.mp isIn with ⟨-, rfl⟩ | held
            · rfl
            · exact coherent.running held
          · intro key other
            rw [coherent.tree]
            refine exists_congr fun timer => ?_
            simp only [Holds, holds, or_and_right]
            refine ⟨.inr, fun either => either.resolve_left ?_⟩
            rintro ⟨⟨-, rfl⟩, -, idle⟩
            cases idle

lemma start {latest now duration : ℕ} (returned : mgr.start latest now id duration = some after) :
  after.Coherent ∧ ∀ other deadline, after.Armed other deadline ↔
    if other = id then mgr.Knows id ∧ deadline = now + duration
    else mgr.Armed other deadline := by
  unfold TimerMgr.start at returned
  split at returned
  · next absent =>
      cases returned
      refine ⟨coherent, fun other deadline => ?_⟩
      split
      · next same =>
          subst same
          have unknown := findIndex_eq_none absent
          simp only [unknown, false_and, iff_false]
          rintro ⟨index, linked⟩
          obtain ⟨timer, held, isId, -⟩ := (coherent.tree _ _).mp linked
          exact unknown ⟨index, timer, held, isId⟩
      · exact Iff.rfl
  · next index found =>
      obtain ⟨timer, held, rfl⟩ := findIndex_eq_some found
      rw [expectTimer_eq_some_iff.mpr held, bind_some] at returned
      split at returned
      · cases returned
      · cases returned
        have linked (key : TimerKey) (other : ℕ) :
            (key, other) ∈ ((mgr.unlinked timer).insert ⟨now + duration, timer.id⟩ index).entries ↔
              ((key, other) ∈ mgr.tree.entries ∧ key.id ≠ timer.id) ∨
                other = index ∧ key.id = timer.id ∧ some (now + duration) = some key.timeout := by
          obtain ⟨timeout, keyId⟩ := key
          rw [mem_insert, coherent.mem_unlinked held]
          simp only [Prod.mk.injEq, TimerKey.mk.injEq, Option.some.injEq]
          constructor
          · rintro (⟨⟨rfl, rfl⟩, rfl⟩ | ⟨isIn, -⟩)
            · exact .inr ⟨rfl, rfl, rfl⟩
            · exact .inl isIn
          · rintro (⟨isIn, apart⟩ | ⟨rfl, rfl, rfl⟩)
            · exact .inr ⟨⟨isIn, apart⟩, fun same => apart (TimerKey.mk.inj same).2⟩
            · exact .inl ⟨⟨rfl, rfl⟩, rfl⟩
        have coherentAfter :=
          coherent.replace held (timer.runUntil (now + duration)) rfl rfl linked
        refine ⟨coherentAfter, fun other deadline => ?_⟩
        simp only [Armed, linked]
        split
        · next same =>
            subst same
            have known : mgr.Knows timer.id := ⟨index, timer, held, rfl⟩
            simp [known, eq_comm]
        · next apart => simp [apart]

lemma stop (returned : mgr.stop id = some after) :
  after.Coherent ∧ ∀ other deadline, after.Armed other deadline ↔
    other ≠ id ∧ mgr.Armed other deadline := by
  unfold TimerMgr.stop at returned
  split at returned
  · next absent =>
      cases returned
      refine ⟨coherent, fun other deadline => (and_iff_right_of_imp ?_).symm⟩
      rintro ⟨index, linked⟩ rfl
      obtain ⟨timer, held, isId, -⟩ := (coherent.tree _ _).mp linked
      exact findIndex_eq_none absent ⟨index, timer, held, isId⟩
  · next index found =>
      obtain ⟨timer, held, rfl⟩ := findIndex_eq_some found
      rw [expectTimer_eq_some_iff.mpr held, map_some] at returned
      cases returned
      split
      · have linked (key : TimerKey) (other : ℕ) : (key, other) ∈ (mgr.unlinked timer).entries ↔
              ((key, other) ∈ mgr.tree.entries ∧ key.id ≠ timer.id) ∨
                other = index ∧ key.id = timer.id ∧ none = some key.timeout := by
          rw [coherent.mem_unlinked held]
          simp
        refine ⟨coherent.replace held timer.clear rfl rfl linked, fun other deadline => ?_⟩
        simp only [Armed, coherent.mem_unlinked held]
        rw [exists_and_right, and_comm]
      · next idle =>
          refine ⟨coherent, fun other deadline => (and_iff_right_of_imp ?_).symm⟩
          rintro ⟨slot, linked⟩ rfl
          obtain ⟨stored, storedHeld, isId, runs⟩ := (coherent.tree _ _).mp linked
          have isSlot := coherent.ids storedHeld held isId
          subst isSlot
          rw [storedHeld.unique held] at runs
          rw [coherent.running held, runs] at idle
          exact idle rfl

lemma vacate (held : mgr.Holds index timer) (idle : timer.timeoutNanos = none) :
  Coherent { mgr with
    timers := mgr.timers.set index none, freeIndices := index :: mgr.freeIndices } := by
  have holds {other : ℕ} {otherTimer : Timer T} :
      (mgr.timers.set index none)[other]? = some (some otherTimer) ↔
        index ≠ other ∧ mgr.Holds other otherTimer := by
    rw [slot_set held.lt_length]
    split
    · next same => simp [same]
    · next apart => simp [apart, Holds]
  have taken : index ∉ mgr.freeIndices := by
    rw [coherent.free, show mgr.timers[index]? = some (some timer) from held]
    simp
  constructor
  · rw [length_set]
    exact coherent.size
  · exact nodup_cons.mpr ⟨taken, coherent.nodup_free⟩
  · intro other
    rw [mem_cons, coherent.free, slot_set held.lt_length]
    split
    · next same => simp [same]
    · next apart => rw [or_iff_right (Ne.symm apart)]
  · exact coherent.nextId_le
  · exact fun isIn => coherent.below (holds.mp isIn).2
  · exact fun firstIn secondIn => coherent.ids (holds.mp firstIn).2 (holds.mp secondIn).2
  · exact fun isIn => coherent.running (holds.mp isIn).2
  · intro key other
    rw [coherent.tree]
    refine exists_congr fun otherTimer => ?_
    simp only [Holds, holds, and_assoc]
    refine (and_iff_right_of_imp ?_).symm
    rintro ⟨otherHeld, -, runs⟩ rfl
    rw [← held.unique otherHeld, idle] at runs
    cases runs

omit coherent in
lemma holds_stop (returned : mgr.stop id = some after) (held : mgr.Holds index timer) :
  ∃ left, after.Holds index left ∧ left.id = timer.id := by
  unfold TimerMgr.stop at returned
  split at returned
  · cases returned
    exact ⟨timer, held, rfl⟩
  · next slot found =>
      obtain ⟨stopped, stoppedHeld, -⟩ := findIndex_eq_some found
      rw [expectTimer_eq_some_iff.mpr stoppedHeld, map_some] at returned
      cases returned
      split
      · simp only [Holds, slot_set stoppedHeld.lt_length]
        split
        · next same =>
            subst same
            have isTimer := stoppedHeld.unique held
            subst isTimer
            exact ⟨stopped.clear, rfl, rfl⟩
        · exact ⟨timer, held, rfl⟩
      · exact ⟨timer, held, rfl⟩

lemma delete (returned : mgr.delete id = some after) :
  after.Coherent ∧ ∀ other deadline, after.Armed other deadline ↔
    other ≠ id ∧ mgr.Armed other deadline := by
  unfold TimerMgr.delete at returned
  split at returned
  · next absent =>
      cases returned
      have stopped : mgr.stop id = some mgr := by
        unfold TimerMgr.stop
        rw [absent]
      exact coherent.stop stopped
  · next index found =>
      obtain ⟨timer, held, rfl⟩ := findIndex_eq_some found
      obtain ⟨stopped, returnedStop, rfl⟩ := map_eq_some_iff.mp returned
      obtain ⟨coherentStopped, armed⟩ := coherent.stop returnedStop
      obtain ⟨left, leftHeld, isId⟩ := holds_stop returnedStop held
      refine ⟨coherentStopped.vacate leftHeld (eq_none_iff_forall_ne_some.mpr ?_), armed⟩
      intro deadline runs
      have linked := (coherentStopped.tree ⟨deadline, timer.id⟩ index).mpr
        ⟨left, leftHeld, isId, runs⟩
      exact ((armed timer.id deadline).mp ⟨index, linked⟩).1 rfl

end

lemma expireKeys_eq (stored : entries ⊆ mgr.tree.entries) (nodup : (entries.map Prod.fst).Nodup) :
  expireKeys (entries.map Prod.fst) mgr = expireEntries Timer.clear entries mgr := by
  induction entries generalizing mgr with
  | nil => rfl
  | cons entry rest ih =>
    obtain ⟨key, index⟩ := entry
    obtain ⟨absent, nodup⟩ := nodup_cons.mp nodup
    have found : mgr.tree.lookup key = some index :=
      OrderedMap.lookup_eq_some_iff.mpr (stored mem_cons_self)
    have storedAfter := subset_remove stored absent
    rw [map_cons, expireKeys, found]
    simp only [expireEntries]
    split
    · exact ih storedAfter nodup
    · rw [ih _ nodup]
      exact storedAfter

structure Stops (visit : Timer T → Timer T) : Prop where
  id : ∀ timer, (visit timer).id = timer.id
  running : ∀ timer, (visit timer).running = false
  timeoutNanos : ∀ timer, (visit timer).timeoutNanos = none

lemma expireEntries (coherent : mgr.Coherent) {visit : Timer T → Timer T} (stops : Stops visit)
  (stored : entries ⊆ mgr.tree.entries) (nodup : (entries.map Prod.fst).Nodup) :
  (expireEntries visit entries mgr).1.Coherent ∧
    (expireEntries visit entries mgr).2 = entries.map (·.1.id) ∧
    ∀ entry, entry ∈ (expireEntries visit entries mgr).1.tree.entries ↔
      entry ∈ mgr.tree.entries ∧ entry ∉ entries := by
  induction entries generalizing mgr with
  | nil => exact ⟨coherent, rfl, fun entry => by simp [TimerMgr.expireEntries]⟩
  | cons entry rest ih =>
    obtain ⟨key, index⟩ := entry
    obtain ⟨absent, nodup⟩ := nodup_cons.mp nodup
    obtain ⟨timer, held, isId, runs⟩ := (coherent.tree key index).mp (stored mem_cons_self)
    have storedAfter := subset_remove stored absent
    have unlinked : mgr.unlinked timer = mgr.tree.remove key := by
      rw [TimerMgr.unlinked, runs, isId]
    have linked (otherKey : TimerKey) (other : ℕ) :
        (otherKey, other) ∈ (mgr.tree.remove key).entries ↔
          ((otherKey, other) ∈ mgr.tree.entries ∧ otherKey.id ≠ timer.id) ∨
            other = index ∧ otherKey.id = timer.id ∧
              (visit timer).timeoutNanos = some otherKey.timeout := by
      rw [← unlinked, coherent.mem_unlinked held, stops.timeoutNanos]
      simp
    have idle : (visit timer).running = (visit timer).timeoutNanos.isSome := by
      rw [stops.running, stops.timeoutNanos]
      rfl
    have coherentAfter := coherent.replace held (visit timer) (stops.id timer) idle linked
    obtain ⟨coherentEnd, expired, left⟩ := ih coherentAfter storedAfter nodup
    have join : mgr.timers[index]?.join = some timer := expectTimer_eq_some_iff.mpr held
    simp only [TimerMgr.expireEntries, join]
    refine ⟨coherentEnd, by rw [expired, map_cons, isId], fun entry => ?_⟩
    rw [left, mem_remove, mem_cons, not_or, and_assoc]
    refine and_congr_right fun isIn => and_congr_left fun _ => not_congr ⟨fun same => ?_, ?_⟩
    · obtain ⟨_, other⟩ := entry
      subst same
      rw [eq_of_mem isIn (stored mem_cons_self)]
    · rintro rfl
      rfl

end Coherent

end NextGCore.Core.TimerMgr
