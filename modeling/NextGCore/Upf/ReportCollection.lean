import NextGCore.Library.Tasks
import NextGCore.Upf.DataPlane

/-!
# Collecting usage reports

`collect_urr_reports` reads the sessions and their URRs under guards, and resets the counters of a
URR that it reports under the write locks of its two times.  The second of its loops resets them
while it still holds the guard under which it has read the time of the last report.
-/

namespace NextGCore.Upf

open Library List Locking

inductive CollectLock where
  | seidMap
  | urrs (upfSeid : UInt64)
  | firstPktTime (upfSeid : UInt64) (urrId : UInt32)
  | lastReportTime (upfSeid : UInt64) (urrId : UInt32)

namespace DataPlaneUrr

variable (urr : DataPlaneUrr) (upfSeid : UInt64)

def resetLocks : Locking CollectLock :=
  .seq (.holding (.write (.firstPktTime upfSeid urr.urrId)) .skip)
    (.holding (.write (.lastReportTime upfSeid urr.urrId)) .skip)

def thresholdLocks : Locking CollectLock :=
  if urr.thresholdExceeded then urr.resetLocks upfSeid else .skip

/-- A turn of the second loop; `last_report` is held to the end of it. -/
def periodLocks (now : ℕ) : Locking CollectLock :=
  if !urr.thresholdExceeded && urr.measurementPeriodSecs.isSome then
    .holding (.read (.lastReportTime upfSeid urr.urrId))
      (if urr.elapsed now urr.measurementPeriodSecs && decide (0 < urr.accTotalBytes)
      then urr.resetLocks upfSeid else .skip)
  else .skip

end DataPlaneUrr

/-- The times at which each URR is reset by the first loop and looked at by the second. -/
structure CollectClock where
  resets : UInt64 → UInt32 → ℕ
  looks : UInt64 → UInt32 → ℕ

namespace DataPlaneSession

variable (session : DataPlaneSession) (clock : CollectClock)

def collectedUrrs : List DataPlaneUrr :=
  session.urrs.records.map fun urr => urr.collected (clock.resets session.upfSeid urr.urrId)

def collectLocks : Locking CollectLock :=
  .holding (.read (.urrs session.upfSeid)) (.seq
      (.each (session.urrs.records.map fun urr => urr.thresholdLocks session.upfSeid))
      (.each ((session.collectedUrrs clock).map fun urr =>
        urr.periodLocks session.upfSeid (clock.looks session.upfSeid urr.urrId))))

end DataPlaneSession

def collectUrrReportsLocks (sessions : List DataPlaneSession) (clock : CollectClock) :
  Locking CollectLock :=
  .holding (.read .seidMap) (.each (sessions.map fun session => session.collectLocks clock))

namespace DataPlaneUrr

variable {urr : DataPlaneUrr} {upfSeid : UInt64} {held : List (Guard CollectLock)}

def TimesFree (held : List (Guard CollectLock)) (upfSeid : UInt64) (urrId : UInt32) : Prop :=
  ∀ guard ∈ held, guard.lock ≠ .firstPktTime upfSeid urrId ∧
    guard.lock ≠ .lastReportTime upfSeid urrId

lemma completes_resetLocks (free : TimesFree held upfSeid urr.urrId) :
  (urr.resetLocks upfSeid).Completes held := by
  refine ⟨⟨fun guard isHeld same => ?_, trivial⟩, ⟨fun guard isHeld same => ?_, trivial⟩⟩
  · exact absurd same (free guard isHeld).1
  · exact absurd same (free guard isHeld).2

lemma completes_thresholdLocks (free : TimesFree held upfSeid urr.urrId) :
  (urr.thresholdLocks upfSeid).Completes held := by
  unfold thresholdLocks
  split
  · exact completes_resetLocks free
  · trivial

lemma not_completes_resetLocks :
  ¬ (urr.resetLocks upfSeid).Completes (.read (.lastReportTime upfSeid urr.urrId) :: held) := by
  rintro ⟨-, compatible, -⟩
  exact absurd (compatible _ mem_cons_self rfl).2 (by simp [Guard.write])

lemma completes_periodLocks (free : TimesFree held upfSeid urr.urrId) (now : ℕ) :
  (urr.periodLocks upfSeid now).Completes held ↔ urr.due now = false := by
  unfold periodLocks due
  cases exceeded : urr.thresholdExceeded with
  | true => simp
  | false =>
    cases period : urr.measurementPeriodSecs with
    | none => simp [elapsed]
    | some secs =>
      simp only [Bool.not_false, Option.isSome_some, Bool.and_true, if_true,
        completes_holding, Bool.true_and]
      have granted : ∀ other ∈ held, other.Compatible (.read (.lastReportTime upfSeid urr.urrId)) :=
        fun other isHeld same => absurd same (free other isHeld).2
      cases urr.elapsed now (some secs) && decide (0 < urr.accTotalBytes) with
      | true => simp [not_completes_resetLocks]
      | false => simpa using granted

lemma due_collected (reset now : ℕ) : (urr.collected reset).due now = urr.due now := by
  unfold collected
  split
  · rename_i exceeded
    have empty : decide (0 < (urr.nextUrSeqn.resetCounters reset).accTotalBytes) = false := rfl
    rw [due, due, empty, exceeded]
    simp
  · rfl

end DataPlaneUrr

namespace DataPlaneSession

lemma completes_collectLocks (session : DataPlaneSession) (clock : CollectClock) :
  (session.collectLocks clock).Completes [.read .seidMap] ↔ ∀ urr ∈ session.urrs.records,
      urr.due (clock.looks session.upfSeid urr.urrId) = false := by
  have free : ∀ urrId, DataPlaneUrr.TimesFree
      [.read (.urrs session.upfSeid), .read .seidMap] session.upfSeid urrId := by
    intro urrId guard isHeld
    rcases mem_pair.mp isHeld with rfl | rfl <;> exact ⟨nofun, nofun⟩
  have own : ∀ other ∈ ([.read .seidMap] : List (Guard CollectLock)),
      other.Compatible (.read (.urrs session.upfSeid)) := by
    intro other isHeld same
    cases mem_singleton.mp isHeld
    cases same
  rw [collectLocks, completes_holding, completes_seq, completes_each,
    completes_each, forall_mem_map, forall_mem_map, collectedUrrs,
    forall_mem_map]
  simp only [DataPlaneUrr.completes_periodLocks (free _), DataPlaneUrr.due_collected,
    DataPlaneUrr.urrId_collected]
  exact ⟨fun whole => whole.2.2, fun none =>
    ⟨own, fun urr _ => DataPlaneUrr.completes_thresholdLocks (free _), none⟩⟩

/-- At one time for all URRs, the turn of a session gives its entries if and only if its locks are
granted. -/
lemma isSome_collectUrrReports_iff (session : DataPlaneSession) (now : ℕ) :
  (session.collectUrrReports now).2.isSome ↔
    (session.collectLocks ⟨fun _ _ => now, fun _ _ => now⟩).Completes [.read .seidMap] := by
  have turns : (session.collectUrrReports now).2.isSome ↔
      session.urrs.records.find? (fun urr => (urr.collected now).due now) = none := by
    unfold collectUrrReports
    dsimp only [KeyedTable.map]
    rw [find?_map, Function.comp_def]
    cases session.urrs.records.find? _ <;> simp
  rw [turns, completes_collectLocks, find?_eq_none]
  simp only [DataPlaneUrr.due_collected, Bool.not_eq_true]

end DataPlaneSession

/-- The call returns exactly when no URR is found, whose threshold is not exceeded, with its
measurement period over and something to report. -/
theorem collectUrrReports_completes_iff (sessions : List DataPlaneSession) (clock : CollectClock) :
  (collectUrrReportsLocks sessions clock).Completes [] ↔
    ∀ session ∈ sessions, ∀ urr ∈ session.urrs.records,
      urr.due (clock.looks session.upfSeid urr.urrId) = false := by
  rw [collectUrrReportsLocks, completes_holding, completes_each,
    forall_mem_map]
  simp only [DataPlaneSession.completes_collectLocks, not_mem_nil, false_implies,
    implies_true, true_and]

def overdue : DataPlaneUrr :=
  { DataPlaneUrr.new 1 0 with measurementPeriodSecs := some 1, accTotalBytes := 5 }

def measured : DataPlaneSession :=
  { DataPlaneSession.newEmpty 1 1 none 1 1 ⟨.v4 0, GTPU_PORT⟩ none with
    urrs := KeyedTable.empty.insert overdue }

/-- The call blocks on the overdue URR. -/
theorem collectUrrReports_blocks :
  ¬ ∀ sessions clock, (collectUrrReportsLocks sessions clock).Completes [] := by
  intro completes
  obtain ⟨-, each⟩ := completes [measured] ⟨fun _ _ => 2 * 10 ^ 9, fun _ _ => 2 * 10 ^ 9⟩
  have idle := (measured.completes_collectLocks _).mp
    (completes_each.mp each _ mem_cons_self)
  exact absurd (idle overdue mem_cons_self) (by decide)

end NextGCore.Upf
