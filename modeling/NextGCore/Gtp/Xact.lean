import NextGCore.Gtp.Message
import NextGCore.Library.Machine

/-!
# GTPv2-C transactions

The requests that `Gtp2XactMgr` tracks, each filed under its own sequence number.  The order in
which `poll` walks over the table is left open: its answer tells of each number.
-/

namespace NextGCore.Gtp

open Library Function

variable {Peer : Type}

structure Gtp2LocalXact (Peer : Type) where
  sequenceNumber : UInt32
  messageType : UInt8
  peer : Peer
  encoded : Bytes
  data : UInt64
  deadline : ℕ
  retriesLeft : ℕ

structure Gtp2XactConfig where
  t3Response : ℕ
  n3Requests : ℕ

def triggeredMessageType (requestType : UInt8) : Option UInt8 :=
  -- Of all sixteen pairs the response is numbered next to the request.
  if requestType ∈ [1, 32, 34, 36, 38, 95, 97, 99, 166, 168, 170, 176, 211, 160, 101, 200] then
    some (requestType + 1)
  else none

abbrev LocalXacts (Peer : Type) := UInt32 → Option (Gtp2LocalXact Peer)

inductive XactCall (Peer : Type) where
  | registerRequest (now : ℕ) (sequenceNumber : UInt32) (messageType : UInt8) (peer : Peer)
    (encoded : Bytes) (data : UInt64)
  | matchResponse (sequenceNumber : UInt32) (responseType : UInt8)
  | poll (now : ℕ)

structure XactAnswer (Peer : Type) where
  completed : Option (Gtp2LocalXact Peer) := none
  retransmits : UInt32 → Option (Peer × Bytes) := fun _ => none
  exhausted : LocalXacts Peer := fun _ => none

variable (config : Gtp2XactConfig)

/-- What `poll` leaves of an entry, what it sends again and what it reports. -/
def polled (now : ℕ) (xact : Gtp2LocalXact Peer) :
  Option (Gtp2LocalXact Peer) × Option (Peer × Bytes) × Option (Gtp2LocalXact Peer) :=
  if now < xact.deadline then (some xact, none, none)
  else if xact.retriesLeft = 0 then (none, none, some xact)
  else
    (some { xact with
        retriesLeft := xact.retriesLeft - 1, deadline := now + config.t3Response },
      some (xact.peer, xact.encoded), none)

def xactMgr : Machine (LocalXacts Peer) (XactCall Peer) (XactAnswer Peer) where
  step xacts
    | .registerRequest now sequenceNumber messageType peer encoded data =>
      (update xacts sequenceNumber (some ⟨sequenceNumber, messageType, peer, encoded, data,
        now + config.t3Response, config.n3Requests⟩), {})
    | .matchResponse sequenceNumber responseType =>
      match xacts sequenceNumber with
      | some xact =>
        if triggeredMessageType xact.messageType = some responseType then
          (update xacts sequenceNumber none, { completed := some xact })
        else (xacts, {})
      | none => (xacts, {})
    | .poll now =>
      (fun number => (xacts number).bind fun xact => (polled config now xact).1,
        { retransmits := fun number => (xacts number).bind fun xact => (polled config now xact).2.1
          exhausted := fun number => (xacts number).bind fun xact => (polled config now xact).2.2 })

/-- The requests registered under one number and what became of them, and how often the last one
was sent again. -/
structure Ledger where
  registered : ℕ := 0
  replaced : ℕ := 0
  completed : ℕ := 0
  exhausted : ℕ := 0
  resent : ℕ := 0

variable (number : UInt32)

def Ledger.note (ledger : Ledger) (xacts : LocalXacts Peer) (call : XactCall Peer)
  (answer : LocalXacts Peer × XactAnswer Peer) : Ledger :=
  match call with
  | .registerRequest _ other .. =>
    if other = number then
      { ledger with
        registered := ledger.registered + 1
        replaced := ledger.replaced + (xacts number).toList.length
        resent := 0 }
    else ledger
  | .matchResponse other _ =>
    if other = number then
      { ledger with completed := ledger.completed + answer.2.completed.toList.length }
    else ledger
  | .poll _ => { ledger with
      exhausted := ledger.exhausted + (answer.2.exhausted number).toList.length
      resent := ledger.resent + (answer.2.retransmits number).toList.length }

def audited : Machine (LocalXacts Peer × Ledger) (XactCall Peer) (XactAnswer Peer) :=
  (xactMgr config).observed (Ledger.note number)

/-- Each request is accounted for once, and the retries made and left add up to N3-REQUESTS. -/
structure Accounted (state : LocalXacts Peer × Ledger) : Prop where
  conserved : state.2.registered = state.2.replaced + state.2.completed + state.2.exhausted +
    (state.1 number).toList.length
  budget : state.2.resent ≤ config.n3Requests
  retries : ∀ xact ∈ state.1 number, state.2.resent + xact.retriesLeft = config.n3Requests

lemma accounted_step (state : LocalXacts Peer × Ledger) (call : XactCall Peer)
  (accounted : Accounted config number state) :
  Accounted config number ((audited config number).step state call).1 := by
  obtain ⟨xacts, ledger⟩ := state
  obtain ⟨conserved, budget, retries⟩ := accounted
  dsimp only at conserved budget retries
  unfold audited xactMgr
  cases call with
  | registerRequest now other messageType peer encoded data =>
    by_cases same : other = number
    · subst same
      constructor <;> simp [Ledger.note]
      omega
    · constructor <;> simp_all [Ledger.note, update_of_ne (Ne.symm same)]
  | matchResponse other responseType =>
    by_cases same : other = number
    · subst same
      cases found : xacts other with
      | none => constructor <;> simp_all [Ledger.note]
      | some xact =>
        by_cases expected : triggeredMessageType xact.messageType = some responseType <;>
          constructor <;> simp_all [Ledger.note]
        omega
    · have apart := update_of_ne (Ne.symm same) none xacts
      cases found : xacts other with
      | none => constructor <;> simp_all [Ledger.note]
      | some xact =>
        by_cases expected : triggeredMessageType xact.messageType = some responseType <;>
          constructor <;> simp_all [Ledger.note]
  | poll now =>
    cases found : xacts number with
    | none => constructor <;> simp_all [Ledger.note]
    | some xact =>
      have left := retries xact found
      by_cases waiting : now < xact.deadline
      · have kept : polled config now xact = (some xact, none, none) := if_pos waiting
        constructor <;> simp_all [Ledger.note]
      · by_cases spent : xact.retriesLeft = 0
        · have givenUp : polled config now xact = (none, none, some xact) := by
            rw [polled, if_neg waiting, if_pos spent]
          constructor <;> simp_all [Ledger.note]
          omega
        · have again : polled config now xact = _ := (if_neg waiting).trans (if_neg spent)
          constructor <;> simp_all [Ledger.note] <;> omega

def account (calls : List (XactCall Peer)) : LocalXacts Peer × Ledger :=
  (audited config number).run (fun _ => none, {}) calls

lemma completed_matchResponse {xacts : LocalXacts Peer} {responseType : UInt8}
  {xact : Gtp2LocalXact Peer}
  (completed : ((xactMgr config).step xacts (.matchResponse number responseType)).2.completed =
    some xact) :
  xacts number = some xact ∧ triggeredMessageType xact.messageType = some responseType := by
  simp only [xactMgr] at completed
  split at completed
  · next found outstanding =>
      split at completed
      · next expected =>
          cases completed
          exact ⟨outstanding, expected⟩
      · cases completed
  · cases completed

/-- A response to another kind of request, which has another number, completes none. -/
lemma succ_of_triggeredMessageType {requestType responseType : UInt8}
  (triggered : triggeredMessageType requestType = some responseType) :
  responseType = requestType + 1 := by
  unfold triggeredMessageType at triggered
  split_ifs at triggered
  exact (Option.some.inj triggered).symm

/-- After every run each request registered was replaced, completed or given up once, or is still
outstanding, none was sent again more often than N3-REQUESTS, one that is given up was sent
again exactly so often, and one that is completed had been outstanding and is completed by the
response numbered next to it. -/
theorem accounts_for_requests (calls : List (XactCall Peer)) (now : ℕ) :
  Accounted config number (account config number calls) ∧
    (((xactMgr config).step (account config number calls).1 (.poll now)).2.exhausted number ≠
        none → (account config number calls).2.resent = config.n3Requests) ∧
    ∀ responseType xact, ((xactMgr config).step (account config number calls).1
        (.matchResponse number responseType)).2.completed = some xact →
      (account config number calls).1 number = some xact ∧
        triggeredMessageType xact.messageType = some responseType ∧
        responseType = xact.messageType + 1 := by
  have accounted : Accounted config number (account config number calls) :=
    (audited config number).invariant_run_always (accounted_step config number)
      ⟨rfl, Nat.zero_le _, by simp⟩ calls
  refine ⟨accounted, fun givenUp => ?_, fun responseType xact completed => ?_⟩
  case refine_2 =>
    obtain ⟨outstanding, triggered⟩ := completed_matchResponse config number completed
    exact ⟨outstanding, triggered, succ_of_triggeredMessageType triggered⟩
  obtain ⟨xact, exhausted⟩ := Option.ne_none_iff_exists'.mp givenUp
  obtain ⟨found, outstanding, reported⟩ := Option.bind_eq_some_iff.mp exhausted
  have retries := accounted.retries found outstanding
  unfold polled at reported
  split at reported
  · cases reported
  · split at reported
    case isTrue spent => rwa [spent] at retries
    case isFalse => cases reported

end NextGCore.Gtp
