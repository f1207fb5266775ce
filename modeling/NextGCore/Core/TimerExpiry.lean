import NextGCore.Core.Timer

/-!
# Expiry

In every run under a clock that does not go back, the tree has one entry for each running timer,
every expiry takes the timers whose deadlines have passed in their order, and each of them comes
from the last start of the timer, which no other expiry comes from.
-/

namespace NextGCore.Core

open Library List Option

universe u

variable {T : Type u}

namespace TimerMgr

def Operation.Commands : Operation T → TimerId → Prop
  | .start id _, other => id = other
  | .stop id, other => id = other
  | .delete id, other => id = other
  | _, _ => False

def Operation.Expires (operation : Operation T) : Prop :=
  operation = .expire ∨ operation = .expireWithCallbacks

def Operation.Overflows (latest now : ℕ) (mgr : TimerMgr T) : Operation T → Prop
  | .start _ duration => latest < now + duration
  | .add _ _ | .addSimple => mgr.nextId = maxTimerId
  | _ => False

def Runs (mgr : TimerMgr T) (key : TimerKey) : Prop :=
  ∃ index timer, mgr.Holds index timer ∧ timer.running = true ∧ timer.id = key.id ∧
    timer.timeoutNanos = some key.timeout

/-- The entries of a running timer are one, with its deadline and its slot, and there are no
entries of others. -/
def OneEntryPerRunning (mgr : TimerMgr T) : Prop :=
  (∀ index timer, mgr.Holds index timer → timer.running = true →
    ∃ deadline, timer.timeoutNanos = some deadline ∧
      mgr.tree.entries.filter (fun entry => entry.1.id = timer.id) =
        [(⟨deadline, timer.id⟩, index)]) ∧
    ∀ key index, (key, index) ∈ mgr.tree.entries →
      ∃ timer, mgr.Holds index timer ∧ timer.running = true ∧ timer.id = key.id ∧
        timer.timeoutNanos = some key.timeout

def usedSlots (mgr : TimerMgr T) : List ℕ :=
  (range mgr.timers.length).filter fun index => mgr.timers[index]?.join.isSome

def SlotsPartitioned (mgr : TimerMgr T) : Prop :=
  (mgr.usedSlots ++ mgr.freeIndices).Perm (range mgr.capacity)

/-- The timers are the running ones whose deadlines are not after now, each once and in the order
of the deadlines. -/
def ExpiresDue (mgr : TimerMgr T) (now : ℕ) (ids : List TimerId) : Prop :=
  ∃ keys : List TimerKey, ids = keys.map TimerKey.id ∧ ids.Nodup ∧
    (keys.Pairwise fun first second => first.timeout ≤ second.timeout) ∧
    ∀ key, key ∈ keys ↔ key.timeout ≤ now ∧ mgr.Runs key

variable {mgr : TimerMgr T} {id : TimerId} {now : ℕ}

lemma expiredData_subset (mgr : TimerMgr T) (now : ℕ) :
  mgr.expiredData now ⊆ mgr.tree.entries :=
  fun _ isIn => mem_of_mem_filter isIn

lemma nodup_expiredData (mgr : TimerMgr T) (now : ℕ) :
  ((mgr.expiredData now).map Prod.fst).Nodup :=
  (filter_sublist.map Prod.fst).nodup mgr.tree.nodup_keys

lemma expire_eq (mgr : TimerMgr T) (now : ℕ) :
  mgr.expire now = expireEntries Timer.clear (mgr.expiredData now) mgr :=
  Coherent.expireKeys_eq (mgr.expiredData_subset now) (mgr.nodup_expiredData now)

namespace Coherent

section

variable (coherent : mgr.Coherent)

include coherent

lemma armed_iff_runs (key : TimerKey) : mgr.Armed key.id key.timeout ↔ mgr.Runs key := by
  refine exists_congr fun index => ?_
  rw [coherent.tree]
  refine exists_congr fun timer => and_congr_right fun held => (and_iff_right_of_imp ?_).symm
  rintro ⟨-, runs⟩
  rw [coherent.running held, runs]
  rfl

lemma armed_unique {deadline other : ℕ} (armed : mgr.Armed id deadline)
  (otherArmed : mgr.Armed id other) : deadline = other := by
  obtain ⟨index, linked⟩ := armed
  obtain ⟨otherIndex, otherLinked⟩ := otherArmed
  obtain ⟨timer, held, isId, runs⟩ := (coherent.tree _ _).mp linked
  obtain ⟨otherTimer, otherHeld, otherIsId, otherRuns⟩ := (coherent.tree _ _).mp otherLinked
  have same := coherent.ids held otherHeld (isId.trans otherIsId.symm)
  subst same
  rw [held.unique otherHeld, otherRuns] at runs
  exact (Option.some.inj runs).symm

lemma oneEntryPerRunning : mgr.OneEntryPerRunning := by
  constructor
  · intro index timer held running
    rw [coherent.running held] at running
    obtain ⟨deadline, runs⟩ := isSome_iff_exists.mp running
    refine ⟨deadline, runs, ?_⟩
    have linked := (coherent.tree ⟨deadline, timer.id⟩ index).mpr ⟨timer, held, rfl, runs⟩
    have only (entry : TimerKey × ℕ) (isIn : entry ∈ mgr.tree.entries)
        (isId : entry.1.id = timer.id) : entry = (⟨deadline, timer.id⟩, index) := by
      obtain ⟨⟨timeout, _⟩, slot⟩ := entry
      subst isId
      have same := coherent.armed_unique ⟨slot, isIn⟩ ⟨index, linked⟩
      subst same
      rw [OrderedMap.eq_of_mem isIn linked]
    have nodup : (mgr.tree.entries.filter fun entry => entry.1.id = timer.id).Nodup :=
      (Nodup.of_map _ mgr.tree.nodup_keys).filter _
    refine perm_singleton.mp ((perm_ext_iff_of_nodup nodup (nodup_singleton _)).mpr fun entry => ?_)
    rw [mem_filter, mem_singleton, decide_eq_true_iff]
    constructor
    · exact fun isIn => only entry isIn.1 isIn.2
    · rintro rfl
      exact ⟨linked, rfl⟩
  · intro key index linked
    obtain ⟨timer, held, isId, runs⟩ := (coherent.tree key index).mp linked
    refine ⟨timer, held, ?_, isId, runs⟩
    rw [coherent.running held, runs]
    rfl

lemma slotsPartitioned : mgr.SlotsPartitioned := by
  have used (index : ℕ) : index ∈ mgr.usedSlots ↔ ∃ timer, mgr.Holds index timer := by
    rw [usedSlots, mem_filter, isSome_iff_exists, mem_range]
    simp only [join_eq_some_iff]
    exact and_iff_right_of_imp fun ⟨timer, held⟩ => Holds.lt_length held
  have nodup : (mgr.usedSlots ++ mgr.freeIndices).Nodup := by
    refine Nodup.append (nodup_range.filter _) coherent.nodup_free ?_
    intro index isUsed isFree
    obtain ⟨timer, held⟩ := (used index).mp isUsed
    rw [coherent.free, show mgr.timers[index]? = some (some timer) from held] at isFree
    cases isFree
  refine (perm_ext_iff_of_nodup nodup nodup_range).mpr fun index => ?_
  rw [mem_append, used, coherent.free, mem_range, ← coherent.size]
  constructor
  · rintro (⟨timer, held⟩ | vacant)
    · exact held.lt_length
    · exact (List.getElem?_eq_some_iff.mp vacant).choose
  · intro inside
    cases slot : mgr.timers[index] with
    | none => exact .inr (by rw [List.getElem?_eq_getElem inside, slot])
    | some timer => exact .inl ⟨timer, by rw [Holds, List.getElem?_eq_getElem inside, slot]⟩

lemma mem_expiredData (key : TimerKey) (index : ℕ) :
  (key, index) ∈ mgr.expiredData now ↔ (key, index) ∈ mgr.tree.entries ∧ key.timeout ≤ now := by
  rw [expiredData, OrderedMap.mem_upTo, TimerKey.le_iff]
  refine and_congr_right fun linked => ?_
  obtain ⟨timer, held, isId, -⟩ := (coherent.tree key index).mp linked
  have small : key.id ≤ maxTimerId :=
    isId ▸ (coherent.below held).le.trans coherent.nextId_le
  simp only [small, and_true]
  exact le_iff_lt_or_eq.symm

lemma expiresDue : mgr.ExpiresDue now ((mgr.expiredData now).map (·.1.id)) := by
  have ordered : (mgr.expiredData now).Pairwise fun first second => first.1 < second.1 :=
    mgr.tree.ordered.filter _
  refine ⟨(mgr.expiredData now).map Prod.fst, (List.map_map).symm, ?_, ?_, fun key => ?_⟩
  · refine (Nodup.of_map _ (pairwise_map.mpr (ordered.imp ne_of_lt))).map_on ?_
    intro first isFirst second isSecond same
    obtain ⟨⟨timeout, _⟩, index⟩ := first
    obtain ⟨⟨other, _⟩, slot⟩ := second
    cases same
    have linked := ((coherent.mem_expiredData _ _).mp isFirst).1
    have otherLinked := ((coherent.mem_expiredData _ _).mp isSecond).1
    have sameTimeout := coherent.armed_unique ⟨index, linked⟩ ⟨slot, otherLinked⟩
    subst sameTimeout
    rw [OrderedMap.eq_of_mem linked otherLinked]
  · exact pairwise_map.mpr (ordered.imp TimerKey.timeout_le_of_lt)
  · rw [← coherent.armed_iff_runs, List.mem_map]
    constructor
    · rintro ⟨⟨_, index⟩, isIn, rfl⟩
      obtain ⟨linked, due⟩ := (coherent.mem_expiredData _ _).mp isIn
      exact ⟨due, index, linked⟩
    · rintro ⟨due, index, linked⟩
      exact ⟨(key, index), (coherent.mem_expiredData _ _).mpr ⟨linked, due⟩, rfl⟩

lemma expireVisiting {visit : Timer T → Timer T} (stops : Stops visit) :
  (TimerMgr.expireEntries visit (mgr.expiredData now) mgr).1.Coherent ∧
    (TimerMgr.expireEntries visit (mgr.expiredData now) mgr).2 =
      (mgr.expiredData now).map (·.1.id) ∧
    ∀ other deadline,
      (TimerMgr.expireEntries visit (mgr.expiredData now) mgr).1.Armed other deadline ↔
        mgr.Armed other deadline ∧ now < deadline := by
  obtain ⟨coherentAfter, expired, left⟩ := coherent.expireEntries stops
    (mgr.expiredData_subset now) (mgr.nodup_expiredData now)
  refine ⟨coherentAfter, expired, fun other deadline => ?_⟩
  rw [Armed, Armed, ← exists_and_right]
  refine exists_congr fun index => ?_
  rw [left, coherent.mem_expiredData, not_and, not_le]
  exact and_congr_right fun linked => ⟨fun late => late linked, fun late _ => late⟩

end

lemma stops_clear : Stops (Timer.clear : Timer T → Timer T) :=
  ⟨fun _ => rfl, fun _ => rfl, fun _ => rfl⟩

lemma stops_call : Stops fun timer : Timer T => timer.clear.call := by
  constructor <;>
  · intro timer
    unfold Timer.call
    split <;> rfl

variable {latest : ℕ} {operation : Operation T} {answer : TimerMgr T × List TimerId}

lemma perform_expires (coherent : mgr.Coherent) (expires : operation.Expires)
  (returned : mgr.perform latest now operation = some answer) :
  answer.1.Coherent ∧ answer.2 = (mgr.expiredData now).map (·.1.id) ∧
    ∀ other deadline, answer.1.Armed other deadline ↔
      mgr.Armed other deadline ∧ now < deadline := by
  rcases expires with rfl | rfl
  · cases returned
    rw [expire_eq]
    exact coherent.expireVisiting stops_clear
  · cases returned
    exact coherent.expireVisiting stops_call

lemma perform_commands (coherent : mgr.Coherent) (other : ¬operation.Expires)
  (returned : mgr.perform latest now operation = some answer) :
  answer.1.Coherent ∧ answer.2 = [] ∧ ∀ id deadline, answer.1.Armed id deadline ↔
    (∃ duration, operation = .start id duration ∧ mgr.Knows id ∧ deadline = now + duration) ∨
      mgr.Armed id deadline ∧ ¬operation.Commands id := by
  cases operation with
  | expire => exact absurd (.inl rfl) other
  | expireWithCallbacks => exact absurd (.inr rfl) other
  | add callback data | addSimple =>
    obtain ⟨⟨after, added⟩, done, rfl⟩ := map_eq_some_iff.mp returned
    obtain ⟨coherentAfter, tree⟩ := coherent.addTimer done
    exact ⟨coherentAfter, rfl, fun id deadline => by simp [Armed, tree, Operation.Commands]⟩
  | start started duration =>
    obtain ⟨after, done, rfl⟩ := map_eq_some_iff.mp returned
    obtain ⟨coherentAfter, armedAfter⟩ := coherent.start done
    refine ⟨coherentAfter, rfl, fun id deadline => ?_⟩
    rw [armedAfter]
    split_ifs with same
    · subst same
      simp [Operation.Commands]
    · simp [Operation.Commands, Ne.symm same]
  | stop stopped =>
    obtain ⟨after, done, rfl⟩ := map_eq_some_iff.mp returned
    obtain ⟨coherentAfter, armedAfter⟩ := coherent.stop done
    refine ⟨coherentAfter, rfl, fun id deadline => ?_⟩
    simp [armedAfter, Operation.Commands, and_comm, eq_comm]
  | delete deleted =>
    obtain ⟨after, done, rfl⟩ := map_eq_some_iff.mp returned
    obtain ⟨coherentAfter, armedAfter⟩ := coherent.delete done
    refine ⟨coherentAfter, rfl, fun id deadline => ?_⟩
    simp [armedAfter, Operation.Commands, and_comm, eq_comm]

lemma armed_kept (coherent : mgr.Coherent) {deadline : ℕ}
  (returned : mgr.perform latest now operation = some answer) (armed : mgr.Armed id deadline)
  (untouched : ¬operation.Commands id) (early : operation.Expires → now < deadline) :
  answer.1.Armed id deadline := by
  by_cases expires : operation.Expires
  · exact ((coherent.perform_expires expires returned).2.2 id deadline).mpr ⟨armed, early expires⟩
  · exact ((coherent.perform_commands expires returned).2.2 id deadline).mpr
      (.inr ⟨armed, untouched⟩)

lemma overflows_of_addTimer {callback : Option (T → T)} {data : Option T}
  (panics : mgr.addTimer callback data = none) : mgr.nextId = maxTimerId := by
  unfold TimerMgr.addTimer at panics
  split at panics
  · cases panics
  · exact of_not_not fun notLast => by rw [if_neg notLast] at panics; cases panics

lemma stop_ne_none (mgr : TimerMgr T) (id : TimerId) : mgr.stop id ≠ none := by
  unfold TimerMgr.stop
  split
  · exact some_ne_none _
  · next index found =>
      obtain ⟨timer, held, -⟩ := findIndex_eq_some found
      rw [expectTimer_eq_some_iff.mpr held]
      exact some_ne_none _

lemma overflows_of_perform (panics : mgr.perform latest now operation = none) :
  operation.Overflows latest now mgr := by
  cases operation with
  | expire | expireWithCallbacks => cases panics
  | add callback data | addSimple => exact overflows_of_addTimer (map_eq_none_iff.mp panics)
  | start id duration =>
    have panics := map_eq_none_iff.mp panics
    unfold TimerMgr.start at panics
    split at panics
    · cases panics
    · next index found =>
        obtain ⟨timer, held, -⟩ := findIndex_eq_some found
        rw [expectTimer_eq_some_iff.mpr held, bind_some] at panics
        split_ifs at panics with late
        exact late
  | stop id => exact absurd (map_eq_none_iff.mp panics) (stop_ne_none mgr id)
  | delete id =>
    have panics := map_eq_none_iff.mp panics
    unfold TimerMgr.delete at panics
    split at panics
    · cases panics
    · exact absurd (map_eq_none_iff.mp panics) (stop_ne_none mgr id)

lemma perform (coherent : mgr.Coherent)
  (returned : mgr.perform latest now operation = some answer) :
  answer.1.Coherent ∧ (∀ id deadline, answer.1.Armed id deadline →
      (∃ duration, operation = .start id duration ∧ deadline = now + duration) ∨
        mgr.Armed id deadline ∧ ¬operation.Commands id ∧ id ∉ answer.2) ∧
    ∀ id ∈ answer.2, ∃ deadline, mgr.Armed id deadline ∧ deadline ≤ now := by
  by_cases expires : operation.Expires
  · obtain ⟨coherentAfter, expired, armedAfter⟩ := coherent.perform_expires expires returned
    have due (id : TimerId) (isIn : id ∈ answer.2) :
        ∃ deadline, mgr.Armed id deadline ∧ deadline ≤ now := by
      rw [expired, List.mem_map] at isIn
      obtain ⟨⟨⟨deadline, _⟩, index⟩, isIn, rfl⟩ := isIn
      obtain ⟨linked, due⟩ := (coherent.mem_expiredData _ _).mp isIn
      exact ⟨deadline, ⟨index, linked⟩, due⟩
    refine ⟨coherentAfter, fun id deadline armed => .inr ?_, due⟩
    obtain ⟨armed, late⟩ := (armedAfter id deadline).mp armed
    refine ⟨armed, ?_, fun isIn => ?_⟩
    · rcases expires with rfl | rfl <;> exact fun commands => commands
    · obtain ⟨passed, armedPassed, early⟩ := due id isIn
      have same := coherent.armed_unique armed armedPassed
      omega
  · obtain ⟨coherentAfter, none, armedAfter⟩ := coherent.perform_commands expires returned
    refine ⟨coherentAfter, fun id deadline armed => ?_, by simp [none]⟩
    refine ((armedAfter id deadline).mp armed).imp
      (fun ⟨duration, starts, _, isDeadline⟩ => ⟨duration, starts, isDeadline⟩)
      fun left => ⟨left.1, left.2, ?_⟩
    rw [none]
    exact not_mem_nil

end Coherent

end TimerMgr

namespace Call

variable (latest capacity : ℕ) (calls : List (Call T)) {place last : ℕ} {call : Call T}
  {mgr : TimerMgr T}

def timersAt (place : ℕ) : Timers T :=
  (timerMachine latest).run ⟨0, some (.new capacity)⟩ (calls.take place)

def timeAt (place : ℕ) : ℕ :=
  (timersAt latest capacity calls (place + 1)).now

def expiredAt (place : ℕ) : List TimerId :=
  (calls[place]?.map fun call =>
    ((timerMachine latest).step (timersAt latest capacity calls place) call).2).getD []

def StartsAt (place : ℕ) (id : TimerId) (deadline : ℕ) : Prop :=
  ∃ call duration, calls[place]? = some call ∧ call.operation = .start id duration ∧
    deadline = timeAt latest capacity calls place + duration

def CommandsAt (place : ℕ) (id : TimerId) : Prop :=
  ∃ call, calls[place]? = some call ∧ call.operation.Commands id

/-- The expiry of a timer by a call comes from its start by an earlier call: the deadline has
passed, and no call between them starts, stops or deletes the timer. -/
structure Fires (first last : ℕ) (id : TimerId) : Prop where
  before : first < last
  due : ∃ deadline, StartsAt latest capacity calls first id deadline ∧
    deadline ≤ timeAt latest capacity calls last
  expires : id ∈ expiredAt latest capacity calls last
  undisturbed : ∀ place, first < place → place < last → ¬CommandsAt calls place id

variable {latest capacity calls}

lemma timersAt_succ (isCall : calls[place]? = some call) :
  timersAt latest capacity calls (place + 1) =
    ((timerMachine latest).step (timersAt latest capacity calls place) call).1 := by
  rw [timersAt, take_add_one, isCall, Machine.run_append]
  rfl

lemma timersAt_end (isNone : calls[place]? = none) :
  timersAt latest capacity calls (place + 1) = timersAt latest capacity calls place := by
  rw [timersAt, take_add_one, isNone, toList_none, append_nil, timersAt]

variable (latest) in
lemma step_cases (timers : Timers T) (call : Call T) : ∃ now,
    (timerMachine latest).step timers call = (⟨now, none⟩, []) ∧
        (∀ mgr, timers.mgr = some mgr → mgr.perform latest now call.operation = none) ∨
      ∃ mgr answer, timers.mgr = some mgr ∧ mgr.perform latest now call.operation = some answer ∧
        (timerMachine latest).step timers call = (⟨now, some answer.1⟩, answer.2) := by
  refine ⟨timers.now + call.elapsed, ?_⟩
  simp only [timerMachine]
  cases performed : timers.mgr.bind
      fun mgr => mgr.perform latest (timers.now + call.elapsed) call.operation with
  | none => exact .inl ⟨rfl, bind_eq_none_iff.mp performed⟩
  | some answer =>
    obtain ⟨mgr, isMgr, performed⟩ := bind_eq_some_iff.mp performed
    exact .inr ⟨mgr, answer, isMgr, performed, rfl⟩

variable (latest capacity) in
lemma performed_at (isCall : calls[place]? = some call) :
  ((timersAt latest capacity calls (place + 1)).mgr = none ∧
      expiredAt latest capacity calls place = [] ∧
      ∀ mgr, (timersAt latest capacity calls place).mgr = some mgr →
        mgr.perform latest (timeAt latest capacity calls place) call.operation = none) ∨
    ∃ mgr answer, (timersAt latest capacity calls place).mgr = some mgr ∧
      mgr.perform latest (timeAt latest capacity calls place) call.operation = some answer ∧
      (timersAt latest capacity calls (place + 1)).mgr = some answer.1 ∧
      expiredAt latest capacity calls place = answer.2 := by
  rw [timeAt, timersAt_succ isCall, expiredAt, isCall, map_some, getD_some]
  obtain ⟨now, ⟨step, panics⟩ | ⟨mgr, answer, isMgr, performed, step⟩⟩ :=
    step_cases latest (timersAt latest capacity calls place) call
  · rw [step]
    exact .inl ⟨rfl, rfl, panics⟩
  · rw [step]
    exact .inr ⟨mgr, answer, isMgr, performed, rfl, rfl⟩

lemma performed_of_mgr (isCall : calls[place]? = some call)
  (isMgr : (timersAt latest capacity calls (place + 1)).mgr = some mgr) :
  ∃ old answer, (timersAt latest capacity calls place).mgr = some old ∧
    old.perform latest (timeAt latest capacity calls place) call.operation = some answer ∧
    answer.1 = mgr ∧ expiredAt latest capacity calls place = answer.2 := by
  rcases performed_at latest capacity isCall with
    ⟨panics, -⟩ | ⟨old, answer, isOld, performed, isAfter, expired⟩
  · rw [panics] at isMgr
    cases isMgr
  · exact ⟨old, answer, isOld, performed, Option.some.inj (isAfter.symm.trans isMgr), expired⟩

lemma coherent_timersAt (isMgr : (timersAt latest capacity calls place).mgr = some mgr) :
  mgr.Coherent := by
  induction place generalizing mgr with
  | zero =>
    cases isMgr
    exact .new capacity
  | succ place ih =>
    cases isCall : calls[place]? with
    | none =>
      rw [timersAt_end isCall] at isMgr
      exact ih isMgr
    | some call =>
      obtain ⟨old, answer, isOld, performed, rfl, -⟩ := performed_of_mgr isCall isMgr
      exact ((ih isOld).perform performed).1

lemma started_of_armed {id : TimerId} {deadline : ℕ}
  (isMgr : (timersAt latest capacity calls place).mgr = some mgr)
  (armed : mgr.Armed id deadline) :
  ∃ first < place, StartsAt latest capacity calls first id deadline ∧
    ∀ between, first < between → between < place →
      ¬CommandsAt calls between id ∧ id ∉ expiredAt latest capacity calls between := by
  induction place generalizing mgr with
  | zero =>
    cases isMgr
    obtain ⟨index, linked⟩ := armed
    cases linked
  | succ place ih =>
    -- the start of a timer that already ran, unless the last call disturbs the timer
    have earlier {old : TimerMgr T} (isOld : (timersAt latest capacity calls place).mgr = some old)
        (armedOld : old.Armed id deadline)
        (kept : ¬CommandsAt calls place id ∧ id ∉ expiredAt latest capacity calls place) :
        ∃ first < place + 1, StartsAt latest capacity calls first id deadline ∧
          ∀ between, first < between → between < place + 1 → ¬CommandsAt calls between id ∧
              id ∉ expiredAt latest capacity calls between := by
      obtain ⟨first, before, starts, since⟩ := ih isOld armedOld
      refine ⟨first, before.trans (Nat.lt_succ_self _), starts, fun between after inside => ?_⟩
      rcases (Nat.lt_succ_iff.mp inside).lt_or_eq with inside | rfl
      · exact since between after inside
      · exact kept
    cases isCall : calls[place]? with
    | none =>
      rw [timersAt_end isCall] at isMgr
      exact earlier isMgr armed (by simp [CommandsAt, expiredAt, isCall])
    | some call =>
      obtain ⟨old, answer, isOld, performed, rfl, expired⟩ := performed_of_mgr isCall isMgr
      obtain ⟨-, from_, -⟩ := (coherent_timersAt isOld).perform performed
      rcases from_ id deadline armed with
        ⟨duration, starts, isDeadline⟩ | ⟨armedOld, undisturbed, kept⟩
      · exact ⟨place, Nat.lt_succ_self _, ⟨call, duration, isCall, starts, isDeadline⟩, by omega⟩
      · refine earlier isOld armedOld ⟨?_, by rwa [expired]⟩
        rintro ⟨other, isOther, commands⟩
        rw [isCall] at isOther
        cases isOther
        exact undisturbed commands

lemma fires_of_expires {id : TimerId} (expires : id ∈ expiredAt latest capacity calls last) :
  ∃ first, Fires latest capacity calls first last id ∧
    ∀ between, first < between → between < last →
      id ∉ expiredAt latest capacity calls between := by
  cases isCall : calls[last]? with
  | none => simp [expiredAt, isCall] at expires
  | some call =>
    rcases performed_at latest capacity isCall with
      ⟨-, none, -⟩ | ⟨mgr, answer, isMgr, performed, -, expired⟩
    · rw [none] at expires
      cases expires
    · obtain ⟨deadline, armed, due⟩ :=
        ((coherent_timersAt isMgr).perform performed).2.2 id (expired ▸ expires)
      obtain ⟨first, before, starts, since⟩ := started_of_armed isMgr armed
      exact ⟨first, ⟨before, ⟨deadline, starts, due⟩, expires,
        fun between after inside => (since between after inside).1⟩,
        fun between after inside => (since between after inside).2⟩

lemma Fires.starts_command {first : ℕ} {id : TimerId}
  (fires : Fires latest capacity calls first last id) : CommandsAt calls first id := by
  obtain ⟨deadline, ⟨call, duration, isCall, starts, -⟩, -⟩ := fires.due
  exact ⟨call, isCall, by rw [starts]; rfl⟩

lemma Fires.le_last {first other : ℕ} {id : TimerId}
  (fires : Fires latest capacity calls first last id)
  (otherFires : Fires latest capacity calls first other id) : other ≤ last := by
  by_contra later
  obtain ⟨source, sourceFires, since⟩ := fires_of_expires otherFires.expires
  -- the two starts of the later expiry are one, since nothing comes between either and it
  have same : source = first := by
    rcases lt_trichotomy source first with less | same | more
    · exact absurd fires.starts_command (sourceFires.undisturbed first less otherFires.before)
    · exact same
    · exact absurd sourceFires.starts_command
        (otherFires.undisturbed source more sourceFires.before)
  subst same
  exact since last fires.before (not_le.mp later) fires.expires

lemma expiresDue_at (isCall : calls[place]? = some call)
  (isMgr : (timersAt latest capacity calls place).mgr = some mgr)
  (expires : call.operation.Expires) :
  mgr.ExpiresDue (timeAt latest capacity calls place)
    (expiredAt latest capacity calls place) := by
  rcases performed_at latest capacity isCall with
    ⟨-, -, panics⟩ | ⟨old, answer, isOld, performed, -, expired⟩
  · have overflows := TimerMgr.Coherent.overflows_of_perform (panics mgr isMgr)
    rcases expires with is | is <;>
    · rw [is] at overflows
      cases overflows
  · rw [isMgr] at isOld
    cases isOld
    have coherent := coherent_timersAt isMgr
    rw [expired, (coherent.perform_expires expires performed).2.1]
    exact coherent.expiresDue

lemma overflows_of_end (isCall : calls[place]? = some call)
  (isMgr : (timersAt latest capacity calls place).mgr = some mgr)
  (ends : (timersAt latest capacity calls (place + 1)).mgr = none) :
  call.operation.Overflows latest (timeAt latest capacity calls place) mgr := by
  rcases performed_at latest capacity isCall with
    ⟨-, -, panics⟩ | ⟨old, answer, isOld, performed, goesOn, expired⟩
  · exact TimerMgr.Coherent.overflows_of_perform (panics mgr isMgr)
  · rw [goesOn] at ends
    cases ends

/-- The manager in every run: its tree and its slots, what an expiry takes, and which start it
comes from. -/
theorem timer_manager_sound (latest capacity : ℕ) (calls : List (Call T)) :
  (∀ place mgr, (timersAt latest capacity calls place).mgr = some mgr →
    mgr.OneEntryPerRunning ∧ mgr.SlotsPartitioned) ∧
  (∀ place mgr call, calls[place]? = some call →
    (timersAt latest capacity calls place).mgr = some mgr → call.operation.Expires →
      mgr.ExpiresDue (timeAt latest capacity calls place)
        (expiredAt latest capacity calls place)) ∧
  (∀ place mgr call, calls[place]? = some call →
    (timersAt latest capacity calls place).mgr = some mgr →
      (timersAt latest capacity calls (place + 1)).mgr = none →
        call.operation.Overflows latest (timeAt latest capacity calls place) mgr) ∧
  (∀ last, ∀ id ∈ expiredAt latest capacity calls last,
    ∃ first, Fires latest capacity calls first last id) ∧
  ∀ first last other id, Fires latest capacity calls first last id →
    Fires latest capacity calls first other id → last = other := by
  refine ⟨fun place mgr isMgr => ?_, fun place mgr call isCall isMgr expires =>
    expiresDue_at isCall isMgr expires, fun place mgr call isCall isMgr ends =>
    overflows_of_end isCall isMgr ends, fun last id expires => ?_,
    fun first last other id fires otherFires =>
      le_antisymm (otherFires.le_last fires) (fires.le_last otherFires)⟩
  · have coherent := coherent_timersAt isMgr
    exact ⟨coherent.oneEntryPerRunning, coherent.slotsPartitioned⟩
  · obtain ⟨first, fires, -⟩ := fires_of_expires expires
    exact ⟨first, fires⟩

def ExpiresAt (calls : List (Call T)) (place : ℕ) : Prop :=
  ∃ call, calls[place]? = some call ∧ call.operation.Expires

lemma armed_of_starts {first deadline : ℕ} {id : TimerId} {earlier : TimerMgr T}
  (starts : StartsAt latest capacity calls first id deadline)
  (isEarlier : (timersAt latest capacity calls first).mgr = some earlier)
  (known : earlier.Knows id) (before : first < place)
  (undisturbed : ∀ between, first < between → between < place → ¬CommandsAt calls between id)
  (early : ∀ between, first < between → between < place → ExpiresAt calls between →
    timeAt latest capacity calls between < deadline)
  (isMgr : (timersAt latest capacity calls place).mgr = some mgr) : mgr.Armed id deadline := by
  induction place, before using Nat.le_induction generalizing mgr with
  | base =>
    obtain ⟨call, duration, isCall, isStart, rfl⟩ := starts
    obtain ⟨old, answer, isOld, performed, rfl, -⟩ := performed_of_mgr isCall isMgr
    rw [isEarlier] at isOld
    cases isOld
    have commands : ¬call.operation.Expires := by
      rw [isStart]
      rintro (is | is) <;> cases is
    exact (((coherent_timersAt isEarlier).perform_commands commands performed).2.2 _ _).mpr
      (.inl ⟨duration, isStart, known, rfl⟩)
  | succ place after ih =>
    have armed {old : TimerMgr T} (isOld : (timersAt latest capacity calls place).mgr = some old) :
        old.Armed id deadline :=
      ih (fun between later inside => undisturbed between later (inside.trans place.lt_succ_self))
        (fun between later inside => early between later (inside.trans place.lt_succ_self)) isOld
    cases isCall : calls[place]? with
    | none =>
      rw [timersAt_end isCall] at isMgr
      exact armed isMgr
    | some call =>
      obtain ⟨old, answer, isOld, performed, rfl, -⟩ := performed_of_mgr isCall isMgr
      exact (coherent_timersAt isOld).armed_kept performed (armed isOld)
        (fun commands => undisturbed place after place.lt_succ_self ⟨call, isCall, commands⟩)
        fun expires => early place after place.lt_succ_self ⟨call, isCall, expires⟩

/-- A start that is not disturbed fires: a call that starts a timer the manager has, with no
command to the timer after it, is answered by the first expiry at or after its deadline. -/
theorem start_fires {first deadline : ℕ} {id : TimerId}
  (starts : StartsAt latest capacity calls first id deadline)
  (isMgr : (timersAt latest capacity calls first).mgr = some mgr) (known : mgr.Knows id)
  (before : first < last)
  (undisturbed : ∀ place, first < place → place < last → ¬CommandsAt calls place id)
  (early : ∀ place, first < place → place < last → ExpiresAt calls place →
    timeAt latest capacity calls place < deadline)
  (goesOn : (timersAt latest capacity calls last).mgr ≠ none) (expires : ExpiresAt calls last)
  (due : deadline ≤ timeAt latest capacity calls last) :
  Fires latest capacity calls first last id := by
  refine ⟨before, ⟨deadline, starts, due⟩, ?_, undisturbed⟩
  obtain ⟨later, isLater⟩ := ne_none_iff_exists'.mp goesOn
  have armed := armed_of_starts starts isMgr known before undisturbed early isLater
  obtain ⟨call, isCall, isExpiry⟩ := expires
  obtain ⟨keys, isKeys, -, -, dueKeys⟩ := expiresDue_at isCall isLater isExpiry
  have runs := ((coherent_timersAt isLater).armed_iff_runs ⟨deadline, id⟩).mp armed
  rw [isKeys]
  exact List.mem_map_of_mem ((dueKeys ⟨deadline, id⟩).mpr ⟨due, runs⟩)

/-- The timer outlives the expiry before its deadline and not the one on it. -/
theorem start_fires_second :
  Fires 100 1 ([⟨0, .addSimple⟩, ⟨0, .start 1 5⟩, ⟨3, .expire⟩, ⟨2, .expireWithCallbacks⟩] :
    List (Call ℕ)) 1 3 1 := by
  refine start_fires ⟨_, _, rfl, rfl, rfl⟩ rfl ⟨0, _, rfl, rfl⟩ (by decide) ?_ ?_
    (Option.some_ne_none _) ⟨_, rfl, .inr rfl⟩ (by decide)
  · intro place after inside
    obtain rfl : place = 2 := by omega
    rintro ⟨call, isCall, commands⟩
    cases isCall
    exact commands
  · intro place after inside _
    obtain rfl : place = 2 := by omega
    decide

end Call

end NextGCore.Core
