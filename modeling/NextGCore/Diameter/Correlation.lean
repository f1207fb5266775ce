import NextGCore.Diameter.Session

/-!
# Requests and their answers

Whatever the interleaving, a caller gets an answer to its own identifier, no answer goes to two
callers, and the map is empty when all calls have returned.  Nobody takes away another's entry
as long as no request is registered under the identifier of one that is outstanding.
-/

namespace NextGCore.Diameter

open Library Function

namespace CallPhase

def Past : CallPhase → Prop
  | idle | registering => False
  | _ => True

def InFlight : CallPhase → Prop
  | sending | waiting | failing _ => True
  | _ => False

def Awaits : CallPhase → Prop
  | sending | waiting => True
  | _ => False

def Over : CallPhase → Prop
  | idle | returned _ => True
  | _ => False

lemma InFlight.past : {phase : CallPhase} → phase.InFlight → phase.Past
  | sending, _ | waiting, _ | failing _, _ => trivial

lemma InFlight.notOver : {phase : CallPhase} → phase.InFlight → ¬ phase.Over
  | sending, _ | waiting, _ | failing _, _ => nofun

end CallPhase

namespace DiameterSession

variable {session : DiameterSession} {caller : ℕ}

@[simp]
lemma callers_setPhase (session : DiameterSession) (caller : ℕ) (phase : CallPhase)
  (other : ℕ) : (session.setPhase caller phase).callers other =
    if other = caller then { session.callers other with phase := phase }
    else session.callers other := by
  unfold setPhase setCaller
  by_cases same : other = caller
  · subst same
    simp
  · simp [same]

@[simp]
lemma callers_setChannel (session : DiameterSession) (caller : ℕ) (channel : Channel)
  (other : ℕ) : (session.setChannel caller channel).callers other =
    if other = caller then { session.callers other with channel := channel }
    else session.callers other := by
  unfold setChannel setCaller
  by_cases same : other = caller
  · subst same
    simp
  · simp [same]

@[simp]
lemma callers_dropSender (session : DiameterSession) (entry : Option ℕ) (other : ℕ) :
  (session.dropSender entry).callers other =
    if entry = some other then { session.callers other with channel := .closed }
    else session.callers other := by
  cases entry with
  | none => simp [dropSender]
  | some caller => simp [dropSender, eq_comm]

@[simp]
lemma pending_dropSender (session : DiameterSession) (entry : Option ℕ) :
  (session.dropSender entry).pending = session.pending := by
  cases entry <;> rfl

@[simp]
lemma reader_dropSender (session : DiameterSession) (entry : Option ℕ) :
  (session.dropSender entry).reader = session.reader := by
  cases entry <;> rfl

@[simp]
lemma arrivals_dropSender (session : DiameterSession) (entry : Option ℕ) :
  (session.dropSender entry).arrivals = session.arrivals := by
  cases entry <;> rfl

def takeEntry (session : DiameterSession) (id : UInt32) : DiameterSession :=
  (session.dropSender (session.pending id)).setEntry id none

lemma pending_setEntry (session : DiameterSession) (id : UInt32) (entry : Option ℕ)
  (other : UInt32) : (session.setEntry id entry).pending other =
    if other = id then entry else session.pending other :=
  update_apply _ _ _ _

lemma pending_takeEntry (session : DiameterSession) (id other : UInt32) :
  (session.takeEntry id).pending other = if other = id then none else session.pending other := by
  rw [takeEntry, pending_setEntry, pending_dropSender]

structure Routed (session : DiameterSession) : Prop where
  entry : ∀ id caller, session.pending id = some caller →
    (session.callers caller).hopByHopId = id ∧ (session.callers caller).phase.InFlight ∧
      (session.callers caller).channel = .open ∧
      ∀ arrival answer, session.reader ≠ .delivering caller arrival answer
  held : ∀ caller arrival answer, session.reader = .delivering caller arrival answer →
    answer.header.hopByHopId = (session.callers caller).hopByHopId ∧
      (session.callers caller).channel = .open ∧ (session.callers caller).phase.Past ∧
      arrival < session.arrivals ∧
      ∀ other answer', (session.callers other).channel ≠ .answered arrival answer'
  answered : ∀ caller arrival answer, (session.callers caller).channel = .answered arrival answer →
    answer.header.hopByHopId = (session.callers caller).hopByHopId ∧ arrival < session.arrivals
  once : ∀ first second arrival answer answer',
    (session.callers first).channel = .answered arrival answer →
    (session.callers second).channel = .answered arrival answer' → first = second
  returned : ∀ caller answer, (session.callers caller).phase = .returned (.ok answer) →
    ∃ arrival, (session.callers caller).channel = .answered arrival answer
  early : ∀ caller, ¬ (session.callers caller).phase.Past → (session.callers caller).channel = .open

namespace Routed

variable {caller : ℕ}

lemma congr {after : DiameterSession} (routed : session.Routed)
  (pending : after.pending = session.pending) (callers : after.callers = session.callers)
  (reader : ∀ caller arrival answer, after.reader ≠ .delivering caller arrival answer)
  (arrivals : session.arrivals ≤ after.arrivals) : after.Routed where
  entry id caller found := by
    rw [pending] at found
    rw [callers]
    obtain ⟨own, inFlight, isOpen, -⟩ := routed.entry id caller found
    exact ⟨own, inFlight, isOpen, reader caller⟩
  held caller arrival answer held := absurd held (reader caller arrival answer)
  answered caller arrival answer found := by
    rw [callers] at found ⊢
    obtain ⟨own, earlier⟩ := routed.answered caller arrival answer found
    exact ⟨own, Nat.lt_of_lt_of_le earlier arrivals⟩
  once := callers ▸ routed.once
  returned := callers ▸ routed.returned
  early := callers ▸ routed.early

section

variable (routed : session.Routed)

include routed

lemma setPhase (caller : ℕ) {phase : CallPhase} (past : phase.Past)
  (inFlight : ∀ id, session.pending id = some caller → phase.InFlight)
  (result : ∀ answer, phase = .returned (.ok answer) →
    ∃ arrival, (session.callers caller).channel = .answered arrival answer) :
  (session.setPhase caller phase).Routed := by
  have channel (other : ℕ) : ((session.setPhase caller phase).callers other).channel =
      (session.callers other).channel := by
    rw [callers_setPhase]
    split <;> rfl
  have hopByHopId (other : ℕ) : ((session.setPhase caller phase).callers other).hopByHopId =
      (session.callers other).hopByHopId := by
    rw [callers_setPhase]
    split <;> rfl
  refine ⟨?_, ?_, ?_, ?_, ?_, ?_⟩
  · intro id other found
    obtain ⟨own, flies, isOpen, notHeld⟩ := routed.entry id other found
    refine ⟨(hopByHopId other).trans own, ?_, (channel other).trans isOpen, notHeld⟩
    rw [callers_setPhase]
    split
    case isTrue same => exact inFlight id (same ▸ found)
    case isFalse => exact flies
  · intro other arrival answer held
    obtain ⟨own, isOpen, wasPast, earlier, fresh⟩ := routed.held other arrival answer held
    refine ⟨own.trans (hopByHopId other).symm, (channel other).trans isOpen, ?_, earlier,
      fun third answer' => channel third ▸ fresh third answer'⟩
    rw [callers_setPhase]
    split
    case isTrue => exact past
    case isFalse => exact wasPast
  · intro other arrival answer found
    rw [hopByHopId]
    exact routed.answered other arrival answer ((channel other).symm.trans found)
  · intro first second arrival answer answer' found found'
    exact routed.once first second arrival answer answer' ((channel first).symm.trans found)
      ((channel second).symm.trans found')
  · intro other answer found
    rw [channel]
    rw [callers_setPhase] at found
    split at found
    case isTrue same => exact same ▸ result answer found
    case isFalse => exact routed.returned other answer found
  · intro other early
    rw [channel]
    rw [callers_setPhase] at early
    split at early
    case isTrue => exact absurd past early
    case isFalse => exact routed.early other early

lemma takeEntry (id : UInt32) : (session.takeEntry id).Routed := by
  cases found : session.pending id with
  | none =>
    have same : session.takeEntry id = session := by
      unfold DiameterSession.takeEntry
      rw [found]
      have pending : update session.pending id none = session.pending := by
        rw [← found, update_eq_self]
      unfold setEntry dropSender
      rw [pending]
    rwa [same]
  | some caller =>
  obtain ⟨own, flies, isOpen, notHeld⟩ := routed.entry id caller found
  have callers (other : ℕ) : (session.takeEntry id).callers other =
      if other = caller then { session.callers other with channel := .closed }
      else session.callers other := by
    unfold DiameterSession.takeEntry setEntry
    simp [found, eq_comm]
  have reader : (session.takeEntry id).reader = session.reader := by
    simp [DiameterSession.takeEntry, setEntry]
  have arrivals : (session.takeEntry id).arrivals = session.arrivals := by
    simp [DiameterSession.takeEntry, setEntry]
  have answered {other : ℕ} {arrival : ℕ} {answer : DiameterMessage}
      (found : ((session.takeEntry id).callers other).channel = .answered arrival answer) :
      (session.takeEntry id).callers other = session.callers other := by
    rw [callers] at found ⊢
    split at found
    case isTrue => cases found
    case isFalse different => rw [if_neg different]
  refine ⟨?_, ?_, ?_, ?_, ?_, ?_⟩
  · intro id' other found'
    rw [pending_takeEntry] at found'
    split at found'
    case isTrue => cases found'
    case isFalse different =>
      have entry := routed.entry id' other found'
      have apart : other ≠ caller := by
        rintro rfl
        exact different (entry.1.symm.trans own)
      rw [callers, if_neg apart, reader]
      exact entry
  · intro other arrival answer held
    rw [reader] at held
    have apart : other ≠ caller := by
      rintro rfl
      exact notHeld arrival answer held
    obtain ⟨same, isOpen', past, earlier, fresh⟩ := routed.held other arrival answer held
    rw [callers, if_neg apart, arrivals]
    refine ⟨same, isOpen', past, earlier, fun third answer' found => ?_⟩
    rw [answered found] at found
    exact fresh third answer' found
  · intro other arrival answer found'
    have same := answered found'
    rw [same] at found' ⊢
    rw [arrivals]
    exact routed.answered other arrival answer found'
  · intro first second arrival answer answer' found' found''
    rw [answered found'] at found'
    rw [answered found''] at found''
    exact routed.once first second arrival answer answer' found' found''
  · intro other answer found'
    rw [callers] at found' ⊢
    split at found'
    case isTrue same =>
      subst same
      have found' : (session.callers other).phase = .returned (.ok answer) := found'
      rw [found'] at flies
      cases flies
    case isFalse different =>
      rw [if_neg different]
      exact routed.returned other answer found'
  · intro other early
    rw [callers] at early ⊢
    split at early
    case isTrue same =>
      subst same
      exact absurd flies.past early
    case isFalse different =>
      rw [if_neg different]
      exact routed.early other early

lemma call (idle : (session.callers caller).phase = .idle) (message : DiameterMessage) :
  (session.call caller message).Routed := by
  have callers {other : ℕ} (different : other ≠ caller) :
      (session.call caller message).callers other = session.callers other :=
    update_of_ne different _ _
  have own : ((session.call caller message).callers caller).phase = .registering ∧
      ((session.call caller message).callers caller).channel = .open := by
    simp [DiameterSession.call, setCaller]
  have notPast : ¬ (session.callers caller).phase.Past := by
    rw [idle]
    exact id
  have answered {other : ℕ} {arrival : ℕ} {answer : DiameterMessage}
      (found : ((session.call caller message).callers other).channel = .answered arrival answer) :
      other ≠ caller := by
    rintro rfl
    rw [own.2] at found
    cases found
  refine ⟨?_, ?_, ?_, ?_, ?_, ?_⟩
  · intro id other found
    have entry := routed.entry id other found
    have apart : other ≠ caller := by
      rintro rfl
      exact notPast entry.2.1.past
    rw [callers apart]
    exact entry
  · intro other arrival answer held
    obtain ⟨same, isOpen, past, earlier, fresh⟩ := routed.held other arrival answer held
    have apart : other ≠ caller := by
      rintro rfl
      exact notPast past
    rw [callers apart]
    refine ⟨same, isOpen, past, earlier, fun third answer' found => ?_⟩
    rw [callers (answered found)] at found
    exact fresh third answer' found
  · intro other arrival answer found
    have apart := answered found
    rw [callers apart] at found ⊢
    exact routed.answered other arrival answer found
  · intro first second arrival answer answer' found found'
    rw [callers (answered found)] at found
    rw [callers (answered found')] at found'
    exact routed.once first second arrival answer answer' found found'
  · intro other answer found
    have apart : other ≠ caller := by
      rintro rfl
      rw [own.1] at found
      cases found
    rw [callers apart] at found ⊢
    exact routed.returned other answer found
  · intro other early
    by_cases same : other = caller
    · rw [same]
      exact own.2
    · rw [callers same] at early ⊢
      exact routed.early other early

lemma enter (registering : (session.callers caller).phase = .registering) :
  ((session.setEntry (session.callers caller).hopByHopId (some caller)).setPhase caller
    .sending).Routed := by
  have notPast : ¬ (session.callers caller).phase.Past := by
    rw [registering]
    exact id
  have entered : (session.setEntry (session.callers caller).hopByHopId none).Routed := by
    refine ⟨fun id other found => ?_, routed.held, routed.answered, routed.once, routed.returned,
      routed.early⟩
    rw [pending_setEntry] at found
    split at found
    case isTrue => cases found
    case isFalse => exact routed.entry id other found
  have sending : ((session.setEntry (session.callers caller).hopByHopId none).setPhase caller
      .sending).Routed := entered.setPhase caller trivial (fun _ _ => trivial) nofun
  refine ⟨fun id other found => ?_, sending.held, sending.answered, sending.once, sending.returned,
    sending.early⟩
  have found : (session.setEntry (session.callers caller).hopByHopId (some caller)).pending id =
      some other := found
  rw [pending_setEntry] at found
  split at found
  case isFalse different =>
    refine sending.entry id other ?_
    change (session.setEntry (session.callers caller).hopByHopId none).pending id = some other
    rw [pending_setEntry, if_neg different]
    exact found
  case isTrue same =>
    cases found
    rw [callers_setPhase, if_pos rfl]
    refine ⟨same.symm, trivial, routed.early caller notPast, fun arrival answer held => ?_⟩
    exact notPast (routed.held caller arrival answer held).2.2.1

lemma register (registering : (session.callers caller).phase = .registering) :
  (session.register caller).Routed := by
  have notPast : ¬ (session.callers caller).phase.Past := by
    rw [registering]
    exact id
  have taken := routed.takeEntry (session.callers caller).hopByHopId
  have same : (session.takeEntry (session.callers caller).hopByHopId).callers caller =
      session.callers caller := by
    unfold DiameterSession.takeEntry setEntry
    rw [callers_dropSender, if_neg]
    intro found
    exact notPast (routed.entry _ caller found).2.1.past
  have entered := taken.enter (by rw [same]; exact registering)
  rw [same] at entered
  have overwritten : session.register caller =
      ((session.takeEntry (session.callers caller).hopByHopId).setEntry
        (session.callers caller).hopByHopId (some caller)).setPhase caller .sending := by
    simp [DiameterSession.register, DiameterSession.takeEntry, setEntry]
  rwa [overwritten]

lemma cleanUp (caller : ℕ) (failure : Failure) : (session.cleanUp caller failure).Routed := by
  refine (routed.takeEntry (session.callers caller).hopByHopId).setPhase caller trivial ?_ nofun
  intro id found
  rw [pending_takeEntry] at found
  split at found
  case isTrue => cases found
  case isFalse different => exact absurd (routed.entry id caller found).1.symm different

lemma route (free : ∀ caller arrival answer, session.reader ≠ .delivering caller arrival answer)
  (answer : DiameterMessage) :
  Routed { session.route answer with arrivals := session.arrivals + 1 } := by
  unfold DiameterSession.route
  split
  case h_1 => exact routed.congr rfl rfl free (Nat.le_succ _)
  case h_2 caller found =>
    obtain ⟨own, flies, isOpen, -⟩ := routed.entry _ caller found
    refine ⟨fun id other found' => ?_, fun other arrival answer' held => ?_,
      fun other arrival answer' found' => ?_, routed.once, routed.returned, routed.early⟩
    · have found' : (session.setEntry answer.header.hopByHopId none).pending id = some other :=
        found'
      rw [pending_setEntry] at found'
      split at found'
      case isTrue => cases found'
      case isFalse different =>
        obtain ⟨own', flies', isOpen', -⟩ := routed.entry id other found'
        refine ⟨own', flies', isOpen', fun arrival answer' held => ?_⟩
        cases held
        exact different (own'.symm.trans own)
    · cases held
      refine ⟨own.symm, isOpen, flies.past, Nat.lt_succ_self _, fun third answer' answered => ?_⟩
      exact Nat.lt_irrefl _ (routed.answered third _ answer' answered).2
    · obtain ⟨same, earlier⟩ := routed.answered other arrival answer' found'
      exact ⟨same, Nat.lt_succ_of_lt earlier⟩

lemma deliver {arrival : ℕ} {answer : DiameterMessage}
  (held : session.reader = .delivering caller arrival answer) :
  (session.deliver caller arrival answer).Routed := by
  obtain ⟨own, isOpen, past, earlier, fresh⟩ := routed.held caller arrival answer held
  unfold DiameterSession.deliver
  generalize sent : (session.callers caller).phase.sent arrival answer = channel
  have onlyThis : ∀ arrival' answer', channel = .answered arrival' answer' →
      arrival' = arrival ∧ answer' = answer := by
    rintro arrival' answer' rfl
    cases phase : (session.callers caller).phase <;> rw [phase] at sent <;> cases sent
    all_goals exact ⟨rfl, rfl⟩
  have answered {other arrival' : ℕ} {answer' : DiameterMessage}
      (found : ((session.setChannel caller channel).callers other).channel =
        .answered arrival' answer') :
      other = caller ∧ arrival' = arrival ∧ answer' = answer ∨
        (session.callers other).channel = .answered arrival' answer' := by
    rw [callers_setChannel] at found
    split at found
    case isTrue same => exact .inl ⟨same, onlyThis arrival' answer' found⟩
    case isFalse => exact .inr found
  have hopByHopId (other : ℕ) : ((session.setChannel caller channel).callers other).hopByHopId =
      (session.callers other).hopByHopId := by
    rw [callers_setChannel]
    split <;> rfl
  have phase (other : ℕ) : ((session.setChannel caller channel).callers other).phase =
      (session.callers other).phase := by
    rw [callers_setChannel]
    split <;> rfl
  refine ⟨?_, nofun, ?_, ?_, ?_, ?_⟩
  · intro id other found
    obtain ⟨same, flies, isOpen', notHeld⟩ := routed.entry id other found
    have apart : other ≠ caller := by
      rintro rfl
      exact notHeld arrival answer held
    refine ⟨(hopByHopId other).trans same, (phase other).symm ▸ flies, ?_, nofun⟩
    change ((session.setChannel caller channel).callers other).channel = .open
    rw [callers_setChannel, if_neg apart]
    exact isOpen'
  · intro other arrival' answer' found
    change _ = ((session.setChannel caller channel).callers other).hopByHopId ∧ _
    rw [hopByHopId]
    rcases answered found with ⟨rfl, rfl, rfl⟩ | before
    · exact ⟨own, earlier⟩
    · exact routed.answered other arrival' answer' before
  · intro first second arrival' answer' answer'' found found'
    rcases answered found with ⟨rfl, rfl, rfl⟩ | before
    · rcases answered found' with ⟨rfl, -, -⟩ | before'
      · rfl
      · exact absurd before' (fresh second answer'')
    · rcases answered found' with ⟨rfl, rfl, rfl⟩ | before'
      · exact absurd before (fresh first answer')
      · exact routed.once first second arrival' answer' answer'' before before'
  · intro other answer' found
    have before := routed.returned other answer' ((phase other).symm.trans found)
    have apart : other ≠ caller := by
      rintro rfl
      obtain ⟨arrival', answeredBefore⟩ := before
      rw [isOpen] at answeredBefore
      cases answeredBefore
    change ∃ arrival', ((session.setChannel caller channel).callers other).channel = _
    rw [callers_setChannel, if_neg apart]
    exact before
  · intro other early
    have notPast : ¬ (session.callers other).phase.Past := phase other ▸ early
    have apart : other ≠ caller := by
      rintro rfl
      exact notPast past
    change ((session.setChannel caller channel).callers other).channel = .open
    rw [callers_setChannel, if_neg apart]
    exact routed.early other notPast

lemma clear : session.clear.Routed := by
  have answered {other arrival : ℕ} {answer : DiameterMessage}
      (found : (session.clear.callers other).channel = .answered arrival answer) :
      session.clear.callers other = session.callers other := by
    unfold DiameterSession.clear at found ⊢
    dsimp only at found ⊢
    split at found
    case isTrue => cases found
    case isFalse different => rw [if_neg different]
  refine ⟨nofun, nofun, ?_, ?_, ?_, ?_⟩
  · intro other arrival answer found
    have same := answered found
    rw [same] at found ⊢
    exact routed.answered other arrival answer found
  · intro first second arrival answer answer' found found'
    rw [answered found] at found
    rw [answered found'] at found'
    exact routed.once first second arrival answer answer' found found'
  · intro other answer found
    unfold DiameterSession.clear at found ⊢
    dsimp only at found ⊢
    split at found
    case isTrue registered =>
      have flies := (routed.entry _ other registered).2.1
      have found : (session.callers other).phase = .returned (.ok answer) := found
      rw [found] at flies
      cases flies
    case isFalse different =>
      rw [if_neg different]
      exact routed.returned other answer found
  · intro other early
    unfold DiameterSession.clear at early ⊢
    dsimp only at early ⊢
    split at early
    case isTrue registered =>
      exact absurd (routed.entry _ other registered).2.1.past early
    case isFalse different =>
      rw [if_neg different]
      exact routed.early other early

lemma enqueue (caller : ℕ) : (session.enqueue caller).Routed := by
  have queued (outbound : List DiameterMessage) : Routed { session with outbound := outbound } :=
    ⟨routed.entry, routed.held, routed.answered, routed.once, routed.returned, routed.early⟩
  unfold DiameterSession.enqueue
  split
  · exact routed.setPhase caller trivial (fun _ _ => trivial) nofun
  · split
    · exact (queued _).setPhase caller trivial (fun _ _ => trivial) nofun
    · exact routed

lemma noEntry (settled : (session.callers caller).channel ≠ .open) (id : UInt32) :
  session.pending id ≠ some caller :=
  fun found => settled (routed.entry id caller found).2.2.1

lemma poll (caller : ℕ) : (session.poll caller).Routed := by
  unfold DiameterSession.poll
  cases channel : (session.callers caller).channel with
  | «open» => exact routed
  | closed => exact routed.setPhase caller trivial (fun _ _ => trivial) nofun
  | answered arrival answer =>
    have settled : (session.callers caller).channel ≠ .open := by
      rw [channel]
      nofun
    refine routed.setPhase caller trivial
      (fun id found => absurd found (routed.noEntry settled id)) ?_
    rintro answer' ⟨⟩
    exact ⟨arrival, channel⟩

lemma timeOut (caller : ℕ) : (session.timeOut caller).Routed := by
  unfold DiameterSession.timeOut
  split
  · exact routed.setPhase caller trivial (fun _ _ => trivial) nofun
  · exact routed.poll caller

end

section

variable (routed : session.Routed)
  (free : ∀ caller arrival answer, session.reader ≠ .delivering caller arrival answer)

include routed free

lemma handle (message : DiameterMessage) (transport : TransportOp → Except DiameterError Unit) :
  Routed { session.handle message transport with arrivals := session.arrivals + 1 } := by
  unfold DiameterSession.handle
  dsimp only
  split
  · split <;> exact routed.congr rfl rfl free (Nat.le_succ _)
  · exact routed.congr rfl rfl nofun (Nat.le_succ _)
  · exact routed.congr rfl rfl free (Nat.le_succ _)
  · exact routed.congr rfl rfl nofun (Nat.le_succ _)

lemma read (message : DiameterMessage) (transport : TransportOp → Except DiameterError Unit) :
  (session.read message transport).Routed := by
  unfold DiameterSession.read
  dsimp only
  split
  · exact routed.route free message
  · exact routed.handle free message transport

lemma write (transport : TransportOp → Except DiameterError Unit) :
  (session.write transport).Routed := by
  unfold DiameterSession.write
  split
  · exact routed
  · dsimp only
    split
    · exact routed.congr rfl rfl free (Nat.le_refl _)
    · exact routed.congr rfl rfl nofun (Nat.le_refl _)

end

lemma step (routed : session.Routed) (input : SessionInput) :
  (machine.step session input).1.Routed := by
  unfold machine
  cases input with
  | call caller message =>
    dsimp only
    split
    case h_1 idle => exact routed.call idle message
    case h_2 => exact routed
  | register caller =>
    dsimp only
    split
    case h_1 registering => exact routed.register registering
    case h_2 => exact routed
  | enqueue caller =>
    dsimp only
    split
    case h_1 => exact routed.enqueue caller
    case h_2 => exact routed
  | poll caller =>
    dsimp only
    split
    case h_1 => exact routed.poll caller
    case h_2 => exact routed
  | timeOut caller =>
    dsimp only
    split
    case h_1 => exact routed.timeOut caller
    case h_2 => exact routed
  | cleanUp caller =>
    dsimp only
    split
    case h_1 failure _ => exact routed.cleanUp caller failure
    case h_2 => exact routed
  | read result transport =>
    dsimp only
    split
    case h_1 message reader =>
      exact routed.read (fun _ _ _ held => by cases reader.symm.trans held) message transport
    case h_2 => exact routed.congr rfl rfl nofun (Nat.le_refl _)
    case h_3 => exact routed
  | write transport =>
    dsimp only
    split
    case h_1 reader =>
      exact routed.write (fun _ _ _ held => by cases reader.symm.trans held) transport
    case h_2 => exact routed
  | deliver =>
    dsimp only
    split
    case h_1 held => exact routed.deliver held
    case h_2 => exact routed
  | clear =>
    dsimp only
    split
    case h_1 => exact routed.clear
    case h_2 => exact routed
  | stop =>
    dsimp only
    split
    case h_1 => exact routed.congr rfl rfl nofun (Nat.le_refl _)
    case h_2 => exact routed

end Routed

lemma routed_start (peer : DiameterPeer) (hopSeed endSeed : UInt32) :
  (start peer hopSeed endSeed).Routed :=
  ⟨nofun, nofun, nofun, nofun, nofun, fun _ _ => rfl⟩

def Outstanding (caller : Caller) : Prop :=
  caller.phase = .sending ∨
    (caller.phase = .waiting ∧ ∀ arrival answer, caller.channel ≠ .answered arrival answer) ∨
    ∃ failure, caller.phase = .failing failure

def BlamesPeer (caller : Caller) : Prop :=
  (caller.phase.Awaits ∧ caller.channel = .closed) ∨ caller.phase = .failing .peerDisconnected ∨
    caller.phase = .returned (.error .peerDisconnected)

def Lost (session : DiameterSession) : Prop :=
  session.reader = .cleared ∨ session.reader = .stopped

structure Kept (session : DiameterSession) : Prop where
  apart : ∀ first second, Outstanding (session.callers first) →
    Outstanding (session.callers second) →
    (session.callers first).hopByHopId = (session.callers second).hopByHopId → first = second
  kept : ∀ caller, (session.callers caller).phase.Awaits →
    (session.callers caller).channel = .open →
    session.pending (session.callers caller).hopByHopId = some caller ∨
      ∃ arrival answer, session.reader = .delivering caller arrival answer
  lost : ∀ caller, BlamesPeer (session.callers caller) → session.Lost

/-- A request is registered under an identifier that no outstanding one has. -/
def Distinct (session : DiameterSession) (input : SessionInput) : Prop :=
  ∀ caller, input = .register caller → ∀ other, other ≠ caller →
    Outstanding (session.callers other) →
      (session.callers other).hopByHopId ≠ (session.callers caller).hopByHopId

lemma distinct_register
  (others : ∀ other, other ≠ caller → (session.callers other).phase = .idle ∨
    (session.callers other).hopByHopId ≠ (session.callers caller).hopByHopId) :
  Distinct session (.register caller) := by
  rintro _ ⟨⟩ other different outstanding
  rcases others other different with idle | apart
  · simp [Outstanding, idle] at outstanding
  · exact apart

lemma Routed.outstanding (routed : session.Routed) {id : UInt32}
  (found : session.pending id = some caller) : Outstanding (session.callers caller) := by
  obtain ⟨-, flies, isOpen, -⟩ := routed.entry id caller found
  cases phase : (session.callers caller).phase with
  | sending => exact .inl phase
  | waiting =>
    refine .inr (.inl ⟨phase, fun arrival answer answered => ?_⟩)
    rw [isOpen] at answered
    cases answered
  | failing failure => exact .inr (.inr ⟨failure, phase⟩)
  | idle | registering | returned =>
    rw [phase] at flies
    exact flies.elim

namespace Kept

variable {caller : ℕ}

lemma congr {after : DiameterSession} (kept : session.Kept)
  (pending : after.pending = session.pending) (callers : after.callers = session.callers)
  (reader : ∀ caller arrival answer, session.reader ≠ .delivering caller arrival answer)
  (lost : session.Lost → after.Lost) : after.Kept where
  apart := callers ▸ kept.apart
  kept caller awaits isOpen := by
    rw [callers] at awaits isOpen ⊢
    rw [pending]
    rcases kept.kept caller awaits isOpen with entry | ⟨arrival, answer, held⟩
    · exact .inl entry
    · exact absurd held (reader caller arrival answer)
  lost caller blames := lost (kept.lost caller (callers ▸ blames))

section

variable (kept : session.Kept)

include kept

lemma setPhase (caller : ℕ) {phase : CallPhase}
  (outstanding : Outstanding { session.callers caller with phase := phase } →
    Outstanding (session.callers caller))
  (awaits : phase.Awaits → (session.callers caller).phase.Awaits)
  (blames : BlamesPeer { session.callers caller with phase := phase } → session.Lost) :
  (session.setPhase caller phase).Kept := by
  have before {other : ℕ} (is : Outstanding ((session.setPhase caller phase).callers other)) :
      Outstanding (session.callers other) := by
    rw [callers_setPhase] at is
    split at is
    case isTrue same =>
      subst same
      exact outstanding is
    case isFalse => exact is
  have hopByHopId (other : ℕ) : ((session.setPhase caller phase).callers other).hopByHopId =
      (session.callers other).hopByHopId := by
    rw [callers_setPhase]
    split <;> rfl
  refine ⟨fun first second is is' same => ?_, fun other awaiting isOpen => ?_,
    fun other blamed => ?_⟩
  · rw [hopByHopId, hopByHopId] at same
    exact kept.apart first second (before is) (before is') same
  · rw [hopByHopId]
    rw [callers_setPhase] at awaiting isOpen
    split at awaiting
    case isTrue same =>
      subst same
      rw [if_pos rfl] at isOpen
      exact kept.kept other (awaits awaiting) isOpen
    case isFalse different =>
      rw [if_neg different] at isOpen
      exact kept.kept other awaiting isOpen
  · rw [callers_setPhase] at blamed
    split at blamed
    case isTrue same =>
      subst same
      exact blames blamed
    case isFalse => exact kept.lost other blamed

lemma call (caller : ℕ) (message : DiameterMessage) : (session.call caller message).Kept := by
  have callers {other : ℕ} (different : other ≠ caller) :
      (session.call caller message).callers other = session.callers other :=
    update_of_ne different _ _
  have own : ((session.call caller message).callers caller).phase = .registering := by
    simp [DiameterSession.call, setCaller]
  have notOutstanding {other : ℕ}
      (is : Outstanding ((session.call caller message).callers other)) : other ≠ caller := by
    rintro rfl
    simp [Outstanding, own] at is
  refine ⟨fun first second is is' same => ?_, fun other awaiting isOpen => ?_,
    fun other blamed => ?_⟩
  · have different := notOutstanding is
    have different' := notOutstanding is'
    rw [callers different] at is same
    rw [callers different'] at is' same
    exact kept.apart first second is is' same
  · have different : other ≠ caller := by
      rintro rfl
      rw [own] at awaiting
      exact awaiting
    rw [callers different] at awaiting isOpen ⊢
    exact kept.kept other awaiting isOpen
  · have different : other ≠ caller := by
      rintro rfl
      rcases blamed with ⟨awaits, -⟩ | failing | returned
      · rw [own] at awaits
        exact awaits
      · cases own.symm.trans failing
      · cases own.symm.trans returned
    rw [callers different] at blamed
    exact kept.lost other blamed

lemma register (routed : session.Routed)
  (registering : (session.callers caller).phase = .registering)
  (distinct : Distinct session (.register caller)) : (session.register caller).Kept := by
  have free : session.pending (session.callers caller).hopByHopId = none := by
    cases found : session.pending (session.callers caller).hopByHopId with
    | none => rfl
    | some other =>
      obtain ⟨own, flies, -, -⟩ := routed.entry _ other found
      have apart : other ≠ caller := by
        rintro rfl
        rw [registering] at flies
        exact flies
      exact absurd own (distinct caller rfl other apart (routed.outstanding found))
  have registered : session.register caller =
      (session.setEntry (session.callers caller).hopByHopId (some caller)).setPhase caller
        .sending := by
    unfold DiameterSession.register
    dsimp only
    rw [free]
    rfl
  rw [registered]
  have callers {other : ℕ} (different : other ≠ caller) :
      (((session.setEntry (session.callers caller).hopByHopId (some caller)).setPhase caller
        .sending).callers other) = session.callers other := by
    rw [callers_setPhase, if_neg different]
    rfl
  have own : ((session.setEntry (session.callers caller).hopByHopId (some caller)).setPhase caller
      .sending).callers caller = { session.callers caller with phase := .sending } := by
    rw [callers_setPhase, if_pos rfl]
    rfl
  refine ⟨fun first second is is' same => ?_, fun other awaiting isOpen => ?_,
    fun other blamed => ?_⟩
  · by_cases isFirst : first = caller
    · by_cases isSecond : second = caller
      · rw [isFirst, isSecond]
      · rw [callers isSecond] at is' same
        rw [isFirst, own] at same
        exact absurd same.symm (distinct caller rfl second isSecond is')
    · rw [callers isFirst] at is same
      by_cases isSecond : second = caller
      · rw [isSecond, own] at same
        exact absurd same (distinct caller rfl first isFirst is)
      · rw [callers isSecond] at is' same
        exact kept.apart first second is is' same
  · change (session.setEntry (session.callers caller).hopByHopId (some caller)).pending _ = _ ∨ _
    rw [pending_setEntry]
    by_cases same : other = caller
    · subst same
      rw [own]
      exact .inl (if_pos rfl)
    · rw [callers same] at awaiting isOpen ⊢
      rcases kept.kept other awaiting isOpen with entry | held
      · have apart : (session.callers other).hopByHopId ≠ (session.callers caller).hopByHopId := by
          intro equal
          rw [equal, free] at entry
          cases entry
        rw [if_neg apart]
        exact .inl entry
      · exact .inr held
  · by_cases same : other = caller
    · subst same
      rw [own] at blamed
      rcases blamed with ⟨-, isClosed⟩ | failing | returned
      · have isOpen := routed.early other (by rw [registering]; exact id)
        cases isOpen.symm.trans isClosed
      · cases failing
      · cases returned
    · rw [callers same] at blamed
      exact kept.lost other blamed

lemma enqueue (sending : (session.callers caller).phase = .sending) :
  (session.enqueue caller).Kept := by
  have queued (outbound : List DiameterMessage) : Kept { session with outbound := outbound } :=
    ⟨kept.apart, kept.kept, kept.lost⟩
  unfold DiameterSession.enqueue
  split
  · refine kept.setPhase caller (fun _ => .inl sending) nofun ?_
    rintro (⟨awaits, -⟩ | failing | returned)
    · exact awaits.elim
    · cases failing
    · cases returned
  · split
    · refine (queued _).setPhase caller (fun _ => .inl sending) (fun _ => ?_) ?_
      · rw [show ({ session with outbound := _ } : DiameterSession).callers caller =
          session.callers caller from rfl, sending]
        trivial
      · rintro (⟨-, isClosed⟩ | failing | returned)
        · exact kept.lost caller (.inl ⟨by rw [sending]; trivial, isClosed⟩)
        · cases failing
        · cases returned
    · exact kept

lemma poll (waiting : (session.callers caller).phase = .waiting) :
  (session.poll caller).Kept := by
  have awaits : (session.callers caller).phase.Awaits := by
    rw [waiting]
    trivial
  unfold DiameterSession.poll
  cases channel : (session.callers caller).channel with
  | «open» => exact kept
  | closed =>
    refine kept.setPhase caller (fun _ => .inr (.inl ⟨waiting, fun arrival answer found => ?_⟩))
      nofun fun _ => kept.lost caller (.inl ⟨awaits, channel⟩)
    rw [channel] at found
    cases found
  | answered arrival answer =>
    refine kept.setPhase caller ?_ nofun ?_
    · rintro (sending | ⟨waiting, -⟩ | ⟨failure, failing⟩)
      · cases sending
      · cases waiting
      · cases failing
    · rintro (⟨awaits, -⟩ | failing | returned)
      · exact awaits.elim
      · cases failing
      · cases returned

lemma timeOut (waiting : (session.callers caller).phase = .waiting) :
  (session.timeOut caller).Kept := by
  unfold DiameterSession.timeOut
  split
  case h_1 channel =>
    refine kept.setPhase caller (fun _ => .inr (.inl ⟨waiting, fun arrival answer found => ?_⟩))
      nofun ?_
    · rw [channel] at found
      cases found
    · rintro (⟨awaits, -⟩ | failing | returned)
      · exact awaits.elim
      · cases failing
      · cases returned
  case h_2 => exact kept.poll waiting

lemma cleanUp (routed : session.Routed) {failure : Failure}
  (failing : (session.callers caller).phase = .failing failure) :
  (session.cleanUp caller failure).Kept := by
  have outstanding : Outstanding (session.callers caller) := .inr (.inr ⟨failure, failing⟩)
  -- An entry under the identifier is the caller's own.
  have own : ∀ other, session.pending (session.callers caller).hopByHopId = some other →
      other = caller := fun other found =>
    kept.apart other caller (routed.outstanding found) outstanding (routed.entry _ other found).1
  have callers {other : ℕ} (different : other ≠ caller) :
      (session.cleanUp caller failure).callers other = session.callers other := by
    unfold DiameterSession.cleanUp
    rw [callers_setPhase, if_neg different]
    change (session.dropSender _).callers other = _
    rw [callers_dropSender, if_neg]
    exact fun found => different (own other found)
  have phase : ((session.cleanUp caller failure).callers caller).phase =
      .returned (.error failure) := by
    unfold DiameterSession.cleanUp
    rw [callers_setPhase, if_pos rfl]
  have notOutstanding {other : ℕ}
      (is : Outstanding ((session.cleanUp caller failure).callers other)) : other ≠ caller := by
    rintro rfl
    simp [Outstanding, phase] at is
  have reader : (session.cleanUp caller failure).reader = session.reader :=
    reader_dropSender session _
  refine ⟨fun first second is is' same => ?_, fun other awaiting isOpen => ?_,
    fun other blamed => ?_⟩
  · have different := notOutstanding is
    have different' := notOutstanding is'
    rw [callers different] at is same
    rw [callers different'] at is' same
    exact kept.apart first second is is' same
  · have different : other ≠ caller := by
      rintro rfl
      rw [phase] at awaiting
      exact awaiting
    rw [callers different] at awaiting isOpen ⊢
    rw [reader]
    rcases kept.kept other awaiting isOpen with entry | held
    · have apart : (session.callers other).hopByHopId ≠ (session.callers caller).hopByHopId := by
        intro equal
        rw [equal] at entry
        exact different (own other entry)
      refine .inl ?_
      change (session.takeEntry (session.callers caller).hopByHopId).pending _ = _
      rw [pending_takeEntry, if_neg apart]
      exact entry
    · exact .inr held
  · unfold Lost
    rw [reader]
    by_cases same : other = caller
    · subst same
      rcases blamed with ⟨awaits, -⟩ | fails | returned
      · rw [phase] at awaits
        exact awaits.elim
      · cases phase.symm.trans fails
      · cases phase.symm.trans returned
        exact kept.lost other (.inr (.inl failing))
    · rw [callers same] at blamed
      exact kept.lost other blamed

end

section

variable (kept : session.Kept) (selecting : session.reader = .selecting)

include kept selecting

lemma route (answer : DiameterMessage) :
  Kept { session.route answer with arrivals := session.arrivals + 1 } := by
  unfold DiameterSession.route
  split
  case h_1 => exact ⟨kept.apart, kept.kept, kept.lost⟩
  case h_2 caller found =>
    refine ⟨kept.apart, fun other awaiting isOpen => ?_, fun other blamed => ?_⟩
    · rcases kept.kept other awaiting isOpen with entry | ⟨arrival, answer', held⟩
      · by_cases same : (session.callers other).hopByHopId = answer.header.hopByHopId
        · rw [same, found] at entry
          cases entry
          exact .inr ⟨_, _, rfl⟩
        · refine .inl ?_
          change (session.setEntry answer.header.hopByHopId none).pending _ = _
          rw [pending_setEntry]
          exact (if_neg same).trans entry
      · cases selecting.symm.trans held
    · rcases kept.lost other blamed with cleared | stopped
      · cases selecting.symm.trans cleared
      · cases selecting.symm.trans stopped

lemma handle (message : DiameterMessage) (transport : TransportOp → Except DiameterError Unit) :
  Kept { session.handle message transport with arrivals := session.arrivals + 1 } := by
  have free : ∀ caller arrival answer, session.reader ≠ .delivering caller arrival answer :=
    fun _ _ _ held => by cases selecting.symm.trans held
  have notLost : ¬ session.Lost := by simp [Lost, selecting]
  unfold DiameterSession.handle
  dsimp only
  split
  · split <;> exact kept.congr rfl rfl free id
  · exact kept.congr rfl rfl free fun lost => (notLost lost).elim
  · exact kept.congr rfl rfl free id
  · exact kept.congr rfl rfl free fun lost => (notLost lost).elim

lemma read (message : DiameterMessage) (transport : TransportOp → Except DiameterError Unit) :
  (session.read message transport).Kept := by
  unfold DiameterSession.read
  dsimp only
  split
  · exact kept.route selecting message
  · exact kept.handle selecting message transport

lemma leave : session.leave.Kept := by
  have notLost : ¬ session.Lost := by simp [Lost, selecting]
  exact kept.congr rfl rfl (fun _ _ _ held => by cases selecting.symm.trans held)
    fun lost => (notLost lost).elim

lemma write (transport : TransportOp → Except DiameterError Unit) :
  (session.write transport).Kept := by
  have after (outbound : List DiameterMessage) (peer : DiameterPeer) :
      Kept { session with outbound := outbound, peer := peer } :=
    ⟨kept.apart, kept.kept, kept.lost⟩
  unfold DiameterSession.write
  split
  · exact kept
  · dsimp only
    split
    · exact after _ _
    · exact (after _ _).leave selecting

end

lemma deliver (kept : session.Kept) {arrival : ℕ} {answer : DiameterMessage}
  (held : session.reader = .delivering caller arrival answer) :
  (session.deliver caller arrival answer).Kept := by
  have notLost : ¬ session.Lost := by simp [Lost, held]
  have callers (other : ℕ) : (session.deliver caller arrival answer).callers other =
      if other = caller then { session.callers other with
        channel := (session.callers caller).phase.sent arrival answer }
      else session.callers other := callers_setChannel session caller _ other
  have before {other : ℕ}
      (is : Outstanding ((session.deliver caller arrival answer).callers other)) :
      Outstanding (session.callers other) := by
    rw [callers] at is
    split at is
    case isFalse => exact is
    case isTrue same =>
      subst same
      rcases is with sending | ⟨waiting, unanswered⟩ | failing
      · exact .inl sending
      · have waiting : (session.callers other).phase = .waiting := waiting
        exact absurd (by rw [waiting]; rfl) (unanswered arrival answer)
      · exact .inr (.inr failing)
  have hopByHopId (other : ℕ) : ((session.deliver caller arrival answer).callers other).hopByHopId =
        (session.callers other).hopByHopId := by
    rw [callers]
    split <;> rfl
  refine ⟨fun first second is is' same => ?_, fun other awaiting isOpen => ?_,
    fun other blamed => ?_⟩
  · rw [hopByHopId, hopByHopId] at same
    exact kept.apart first second (before is) (before is') same
  · rw [hopByHopId]
    rw [callers] at awaiting isOpen
    split at awaiting
    case isTrue same =>
      subst same
      rw [if_pos rfl] at isOpen
      have awaiting : (session.callers other).phase.Awaits := awaiting
      cases phase : (session.callers other).phase with
      | sending | waiting =>
        rw [phase] at isOpen
        cases isOpen
      | idle | registering | failing | returned =>
        rw [phase] at awaiting
        exact awaiting.elim
    case isFalse different =>
      rw [if_neg different] at isOpen
      rcases kept.kept other awaiting isOpen with entry | ⟨arrival', answer', held'⟩
      · refine .inl ?_
        rw [← entry]
        rfl
      · cases held.symm.trans held'
        exact absurd rfl different
  · rw [callers] at blamed
    split at blamed
    case isFalse => exact absurd (kept.lost other blamed) notLost
    case isTrue same =>
      subst same
      rcases blamed with ⟨awaits, isClosed⟩ | failing | returned
      · have awaits : (session.callers other).phase.Awaits := awaits
        cases phase : (session.callers other).phase with
        | sending | waiting =>
          rw [phase] at isClosed
          cases isClosed
        | idle | registering | failing | returned =>
          rw [phase] at awaits
          exact awaits.elim
      · exact absurd (kept.lost other (.inr (.inl failing))) notLost
      · exact absurd (kept.lost other (.inr (.inr returned))) notLost

lemma clear (kept : session.Kept) (routed : session.Routed)
  (clearing : session.reader = .clearing) : session.clear.Kept := by
  have callers (other : ℕ) : session.clear.callers other =
      if session.pending (session.callers other).hopByHopId = some other
      then { session.callers other with channel := .closed } else session.callers other := rfl
  have hopByHopId (other : ℕ) : (session.clear.callers other).hopByHopId =
      (session.callers other).hopByHopId := by
    rw [callers]
    split <;> rfl
  have before {other : ℕ} (is : Outstanding (session.clear.callers other)) :
      Outstanding (session.callers other) := by
    rw [callers] at is
    split at is
    case isFalse => exact is
    case isTrue entry => exact routed.outstanding entry
  refine ⟨fun first second is is' same => ?_, fun other awaiting isOpen => ?_, fun _ _ => .inl rfl⟩
  · rw [hopByHopId, hopByHopId] at same
    exact kept.apart first second (before is) (before is') same
  · rw [callers] at awaiting isOpen
    split at isOpen
    case isTrue => cases isOpen
    case isFalse noEntry =>
      rw [if_neg noEntry] at awaiting
      rcases kept.kept other awaiting isOpen with entry | ⟨arrival, answer, held⟩
      · exact absurd entry noEntry
      · cases clearing.symm.trans held

lemma step (kept : session.Kept) (routed : session.Routed) (input : SessionInput)
  (distinct : Distinct session input) : (machine.step session input).1.Kept := by
  unfold machine
  cases input with
  | call caller message =>
    dsimp only
    split
    case h_1 => exact kept.call caller message
    case h_2 => exact kept
  | register caller =>
    dsimp only
    split
    case h_1 registering => exact kept.register routed registering distinct
    case h_2 => exact kept
  | enqueue caller =>
    dsimp only
    split
    case h_1 sending => exact kept.enqueue sending
    case h_2 => exact kept
  | poll caller =>
    dsimp only
    split
    case h_1 waiting => exact kept.poll waiting
    case h_2 => exact kept
  | timeOut caller =>
    dsimp only
    split
    case h_1 waiting => exact kept.timeOut waiting
    case h_2 => exact kept
  | cleanUp caller =>
    dsimp only
    split
    case h_1 failing => exact kept.cleanUp routed failing
    case h_2 => exact kept
  | read result transport =>
    dsimp only
    split
    case h_1 message selecting => exact kept.read selecting message transport
    case h_2 selecting => exact kept.leave selecting
    case h_3 => exact kept
  | write transport =>
    dsimp only
    split
    case h_1 selecting => exact kept.write selecting transport
    case h_2 => exact kept
  | deliver =>
    dsimp only
    split
    case h_1 held => exact kept.deliver held
    case h_2 => exact kept
  | clear =>
    dsimp only
    split
    case h_1 clearing => exact kept.clear routed clearing
    case h_2 => exact kept
  | stop =>
    dsimp only
    split
    case h_1 cleared =>
      exact kept.congr rfl rfl (fun _ _ _ held => by cases cleared.symm.trans held)
        fun _ => .inr rfl
    case h_2 => exact kept

end Kept

lemma kept_start (peer : DiameterPeer) (hopSeed endSeed : UInt32) :
  (start peer hopSeed endSeed).Kept := by
  refine ⟨?_, nofun, ?_⟩
  · rintro first second (sending | ⟨waiting, -⟩ | ⟨failure, failing⟩)
    · cases sending
    · cases waiting
    · cases failing
  · rintro caller (⟨awaits, -⟩ | failing | returned)
    · exact awaits.elim
    · cases failing
    · cases returned

/-- Each caller gets its own answer, once, and no entry is left when all are done. -/
structure Correlated (session : DiameterSession) : Prop where
  own : ∀ caller answer, (session.callers caller).phase = .returned (.ok answer) →
    answer.header.hopByHopId = (session.callers caller).hopByHopId
  once : ∀ first second arrival answer answer',
    (session.callers first).channel = .answered arrival answer →
    (session.callers second).channel = .answered arrival answer' → first = second
  /-- A request that is neither answered nor failed has its entry, or its answer is on the way. -/
  kept : ∀ caller, (session.callers caller).phase.Awaits →
    (session.callers caller).channel = .open →
    session.pending (session.callers caller).hopByHopId = some caller ∨
      ∃ arrival answer, session.reader = .delivering caller arrival answer
  blames : ∀ caller, BlamesPeer (session.callers caller) → session.Lost
  drained : (∀ caller, (session.callers caller).phase.Over) → ∀ id, session.pending id = none

lemma Routed.drained (routed : session.Routed)
  (ended : ∀ caller, (session.callers caller).phase.Over) (id : UInt32) :
  session.pending id = none := by
  cases found : session.pending id with
  | none => rfl
  | some caller => exact absurd (ended caller) (routed.entry id caller found).2.1.notOver

lemma Routed.own (routed : session.Routed) {answer : DiameterMessage}
  (returned : (session.callers caller).phase = .returned (.ok answer)) :
  answer.header.hopByHopId = (session.callers caller).hopByHopId := by
  obtain ⟨arrival, answered⟩ := routed.returned caller answer returned
  exact (routed.answered caller arrival answer answered).1

/-- In every run whose outstanding identifiers are distinct, each caller gets the answer to its
own request, once. -/
theorem correlated_run (peer : DiameterPeer) (hopSeed endSeed : UInt32)
  {inputs : List SessionInput}
  (distinct : machine.Along Distinct (start peer hopSeed endSeed) inputs) :
  (machine.run (start peer hopSeed endSeed) inputs).Correlated := by
  have preserved : ∀ session input, session.Routed ∧ session.Kept → Distinct session input →
      (machine.step session input).1.Routed ∧ (machine.step session input).1.Kept :=
    fun session input sound distinct =>
      ⟨sound.1.step input, sound.2.step sound.1 input distinct⟩
  have sound := machine.invariant_run preserved
    ⟨routed_start peer hopSeed endSeed, kept_start peer hopSeed endSeed⟩ distinct
  exact ⟨fun _ _ => sound.1.own, sound.1.once, sound.2.kept, sound.2.lost, sound.1.drained⟩

def client : DiameterPeer :=
  { DiameterPeer.newInitiator ⟨"mme", "r", .new "mme", []⟩ 0 0 0 with state := .open }

def air (hopByHopId : UInt32) : DiameterMessage :=
  ⟨{ DiameterHeader.newRequest 318 16777251 with hopByHopId := hopByHopId }, []⟩

def aia (hopByHopId : UInt32) : DiameterMessage := .newAnswer (air hopByHopId)

def transmits (_ : TransportOp) : Except DiameterError Unit := .ok ()

/-- Two requests under 7 and an assigned number, whose answers come in the other order. -/
def crossing : List SessionInput :=
  [.call 0 (air 7), .register 0, .call 1 (air 0), .enqueue 0, .write transmits, .register 1,
    .enqueue 1, .write transmits, .read (.ok (aia 1)) transmits, .deliver,
    .read (.ok (aia 7)) transmits, .deliver, .poll 0, .timeOut 1]

theorem correlated_run_crossing : (machine.run (start client 0 0) crossing).Correlated ∧
  ((machine.run (start client 0 0) crossing).callers 0).phase = .returned (.ok (aia 7)) ∧
  ((machine.run (start client 0 0) crossing).callers 1).phase = .returned (.ok (aia 1)) := by
  refine ⟨correlated_run client 0 0 ⟨nofun, ?_, nofun, nofun, nofun, ?_, nofun, nofun, nofun,
    nofun, nofun, nofun, nofun, nofun, trivial⟩, rfl, rfl⟩
  · refine distinct_register fun other different => ?_
    match other with
    | 0 => exact absurd rfl different
    | _ + 1 => exact .inl rfl
  · refine distinct_register fun other different => ?_
    match other with
    | 0 => exact .inr (by decide)
    | 1 => exact absurd rfl different
    | _ + 2 => exact .inl rfl

/-- Both callers supply 7: the second registration drops the sender of the first, whose cleanup
drops that of the second, while the connection is there. -/
def colliding : List SessionInput :=
  [.call 0 (air 7), .register 0, .enqueue 0, .call 1 (air 7), .register 1, .poll 0, .cleanUp 0]

theorem colliding_fails : ¬ (machine.run (start client 0 0) colliding).Correlated ∧
  ((machine.run (start client 0 0) colliding).callers 0).phase =
    .returned (.error .peerDisconnected) ∧
  ((machine.run (start client 0 0) colliding).callers 1).channel = .closed ∧
  (machine.run (start client 0 0) colliding).reader = .selecting := by
  refine ⟨fun correlated => ?_, rfl, rfl, rfl⟩
  rcases correlated.blames 1 (.inl ⟨trivial, rfl⟩) with cleared | stopped
  · cases cleared
  · cases stopped

end DiameterSession

end NextGCore.Diameter
