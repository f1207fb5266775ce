import NextGCore.Library.Machine
import NextGCore.Upf.ReportCollection

/-!
# Usage is conserved

A run of a session, with a ledger of what was forwarded under each URR and of what was reported
for it.  What is reported and what is accumulated make up what was forwarded as long as a packet
that is recorded is then forwarded, and a packet of a PDR with a URR is not sent out of the
buffer, where nothing is recorded.
-/

namespace NextGCore.Upf

open Library List Option KeyedTable PacketTuple UInt64

namespace DataPlaneUrr

lemma accTotalBytes_recordTotal (urr : DataPlaneUrr) (now : ℕ) :
  (urr.recordTotal now).accTotalBytes = urr.accTotalBytes := by
  unfold recordTotal
  dsimp only
  split <;> rfl

lemma accTotalBytes_record (urr : DataPlaneUrr) (bytes : UInt64) (isUplink : Bool) (now : ℕ) :
  (urr.record bytes isUplink now).accTotalBytes = urr.accTotalBytes + bytes := by
  unfold record
  dsimp only
  split <;> split
  · rfl
  · exact accTotalBytes_recordTotal ..
  · rfl
  · exact accTotalBytes_recordTotal ..

end DataPlaneUrr

namespace DataPlaneSession

variable (session : DataPlaneSession)

variable {session : DataPlaneSession}

def accumulated (urrId : UInt32) : ℕ :=
  ((session.urrs.lookup urrId).map fun urr => urr.accTotalBytes.toNat).getD 0

def HasUrr (urrId : UInt32) : Prop :=
  (session.urrs.lookup urrId).isSome

instance (session : DataPlaneSession) (urrId : UInt32) : Decidable (session.HasUrr urrId) :=
  inferInstanceAs (Decidable ((session.urrs.lookup urrId).isSome = true))

/-- Each URR of the session that is listed is listed once, and its counter does not wrap. -/
def RecordsOnce (urrIds : List UInt32) (bytes : ℕ) : Prop :=
  ∀ urrId ∈ urrIds, session.HasUrr urrId →
    urrIds.count urrId = 1 ∧ session.accumulated urrId + bytes < 2 ^ 64

instance (session : DataPlaneSession) (urrIds : List UInt32) (bytes : ℕ) :
  Decidable (session.RecordsOnce urrIds bytes) :=
  decidableBAll _ _

lemma lookup_recordUrrs (urrIds : List UInt32) (bytes : UInt64) (isUplink : Bool) (now : ℕ)
  (urrId : UInt32) :
  (session.recordUrrs urrIds bytes isUplink now).urrs.lookup urrId =
    (session.urrs.lookup urrId).map
      (fun urr => urr.record bytes isUplink now)^[urrIds.count urrId] := by
  unfold recordUrrs
  generalize session.urrs = urrs
  induction urrIds generalizing urrs with
  | nil => simp
  | cons first rest ih =>
    change (rest.foldl _ (urrs.update first _ _)).lookup urrId = _
    rw [ih, lookup_update]
    by_cases same : urrId = first
    · subst same
      rw [if_pos rfl, count_cons_self, Function.iterate_succ, Option.map_map]
    · rw [if_neg same, count_cons_of_ne (Ne.symm same)]

lemma accumulated_recordUrrs {urrIds : List UInt32} {bytes : ℕ}
  (once : session.RecordsOnce urrIds bytes) (isUplink : Bool) (now : ℕ) (urrId : UInt32) :
  (session.recordUrrs urrIds (ofNat bytes) isUplink now).accumulated urrId =
    session.accumulated urrId + if urrId ∈ urrIds ∧ session.HasUrr urrId then bytes else 0 := by
  unfold accumulated
  rw [lookup_recordUrrs]
  cases found : session.urrs.lookup urrId with
  | none =>
    have absent : ¬ session.HasUrr urrId := by simp [HasUrr, found]
    simp [absent]
  | some urr =>
    have present : session.HasUrr urrId := by simp [HasUrr, found]
    by_cases member : urrId ∈ urrIds
    · obtain ⟨counted, small⟩ := once urrId member present
      have held : session.accumulated urrId = urr.accTotalBytes.toNat := by
        simp [accumulated, found]
      have fits : bytes < size := by
        change bytes < 2 ^ 64
        omega
      rw [counted, if_pos ⟨member, present⟩]
      simp only [map_some, getD_some, Function.iterate_one, DataPlaneUrr.accTotalBytes_record]
      rw [UInt64.toNat_add, toNat_ofNat_of_lt' fits, Nat.mod_eq_of_lt (by omega)]
    · rw [count_eq_zero_of_not_mem member, if_neg fun both => member both.1]
      simp

def uplinkPasses (payload : Bytes) (pktQfi : Option UInt8) (withinRate : Bool) : Option Admitted :=
  if session.spoofs payload then none
  else (session.judge SRC_INTF_ACCESS (fromIpv4Packet payload) pktQfi
    withinRate).toOption.filter fun admitted => admitted.decision.forwards

/-- How a downlink packet goes through the MTU guard, the PDR, the QER and the FAR. -/
def downlinkPasses (pkt : Bytes) (withinRate : Bool) : Option Admitted :=
  if TUN_MTU < pkt.length then none
  else (session.judge SRC_INTF_CORE (downlinkTuple pkt) none withinRate).toOption.filter
    fun admitted => admitted.decision.forwards

def matchedUrrs (sourceInterface : UInt8) (packet : Option PacketTuple) (pktQfi : Option UInt8) :
  List UInt32 :=
  ((session.matchPdrWithPacket sourceInterface packet pktQfi).map DataPlanePdr.urrIds).getD []

lemma matchedUrrs_of_judge {sourceInterface : UInt8} {packet : Option PacketTuple}
  {pktQfi : Option UInt8} {withinRate : Bool} {admitted : Admitted}
  (answer : session.judge sourceInterface packet pktQfi withinRate = .ok admitted) :
  session.matchedUrrs sourceInterface packet pktQfi = admitted.pdr.urrIds := by
  unfold judge at answer
  unfold matchedUrrs
  cases found : session.matchPdrWithPacket sourceInterface packet pktQfi with
  | none =>
    rw [found] at answer
    cases answer
  | some pdr =>
    simp only [found] at answer
    split at answer
    · cases answer
      rfl
    · cases answer

lemma handleUplinkPacket_cases (payload : Bytes) (pktQfi : Option UInt8)
  (withinRate written : Bool) (now : ℕ) :
  (∃ cause, session.handleUplinkPacket payload pktQfi withinRate written now =
      (session, .dropped cause)) ∨
    ∃ admitted, session.uplinkPasses payload pktQfi withinRate = some admitted ∧
      session.matchedUrrs SRC_INTF_ACCESS (fromIpv4Packet payload) pktQfi = admitted.pdr.urrIds ∧
      (session.handleUplinkPacket payload pktQfi withinRate written now).1.urrs =
        (session.recordUrrs admitted.pdr.urrIds (ofNat payload.length) true now).urrs ∧
      (session.handleUplinkPacket payload pktQfi withinRate written now).1.dlBuffer =
        session.dlBuffer ∧
      (session.handleUplinkPacket payload pktQfi withinRate written now).2.buffers = false ∧
      (payload.length ≤ TUN_MTU → written = true →
        (session.handleUplinkPacket payload pktQfi withinRate written now).2.forwards =
          true) := by
  unfold handleUplinkPacket
  by_cases spoofed : session.spoofs payload
  · exact .inl ⟨.spoofed, by rw [if_pos spoofed]⟩
  · rw [if_neg spoofed]
    cases answer : session.judge SRC_INTF_ACCESS (fromIpv4Packet payload) pktQfi
        withinRate with
    | error cause => exact .inl ⟨cause, rfl⟩
    | ok admitted =>
      cases decided : admitted.decision with
      | drop | buffer nocp barId => exact .inl ⟨.far, by simp [decided]⟩
      | forward ohcTeid ohcAddr =>
        have passes : session.uplinkPasses payload pktQfi withinRate = some admitted := by
          simp [uplinkPasses, spoofed, answer, Except.toOption, decided, FarDecision.forwards]
        refine .inr ⟨admitted, passes, matchedUrrs_of_judge answer, ?_⟩
        simp only [decided]
        split
        case isTrue oversize => exact ⟨rfl, rfl, rfl, fun fits => absurd fits (by omega)⟩
        case isFalse fits =>
          cases written with
          | false => exact ⟨rfl, rfl, rfl, nofun⟩
          | true => exact ⟨rfl, rfl, rfl, fun _ _ => rfl⟩

lemma handleDownlinkPacket_cases (pkt : Bytes) (withinRate sent : Bool) (now : ℕ) :
  (∃ verdict, session.handleDownlinkPacket pkt withinRate sent now = (session, verdict) ∧
      verdict.forwards = false ∧ verdict.buffers = false) ∨
    (∃ report, session.handleDownlinkPacket pkt withinRate sent now =
      ({ session with dlBuffer := session.dlBuffer ++ [pkt], ddnSent := true },
        .buffered report)) ∨
    ∃ admitted, session.downlinkPasses pkt withinRate = some admitted ∧
      session.matchedUrrs SRC_INTF_CORE (downlinkTuple pkt) none = admitted.pdr.urrIds ∧
      (session.handleDownlinkPacket pkt withinRate sent now).1.urrs =
        (session.recordUrrs admitted.pdr.urrIds (ofNat pkt.length) false now).urrs ∧
      (session.handleDownlinkPacket pkt withinRate sent now).1.dlBuffer = session.dlBuffer ∧
      (session.handleDownlinkPacket pkt withinRate sent now).2.buffers = false ∧
      (sent = true →
        (session.handleDownlinkPacket pkt withinRate sent now).2.forwards = true) := by
  unfold handleDownlinkPacket
  by_cases empty : pkt.isEmpty
  · exact .inl ⟨.ignored, by rw [if_pos empty], rfl, rfl⟩
  rw [if_neg empty]
  by_cases oversize : TUN_MTU < pkt.length
  · exact .inl ⟨.dropped .oversize, by rw [if_pos oversize], rfl, rfl⟩
  rw [if_neg oversize]
  cases answer : session.judge SRC_INTF_CORE (downlinkTuple pkt) none withinRate with
  | error cause => exact .inl ⟨.dropped cause, rfl, rfl, rfl⟩
  | ok admitted =>
    cases decided : admitted.decision with
    | drop => exact .inl ⟨.dropped .far, by simp only [decided], rfl, rfl⟩
    | buffer nocp barId =>
      by_cases full : session.dlBufferCapacity barId ≤ session.dlBuffer.length
      · refine .inl ⟨.dropped .bufferFull, ?_, rfl, rfl⟩
        simp only [decided, bufferDlPacket, if_pos full]
      · refine .inr (.inl ⟨if !session.ddnSent && nocp then
          some (session.reportedPdr admitted.pdr.farId, admitted.qfi.or session.qfi)
          else none, ?_⟩)
        simp only [decided, bufferDlPacket, if_neg full]
    | forward ohcTeid ohcAddr =>
      have passes : session.downlinkPasses pkt withinRate = some admitted := by
        simp [downlinkPasses, oversize, answer, Except.toOption, decided, FarDecision.forwards]
      refine .inr (.inr ⟨admitted, passes, matchedUrrs_of_judge answer, ?_⟩)
      simp only [decided]
      cases sent with
      | false => exact ⟨rfl, rfl, rfl, nofun⟩
      | true => exact ⟨rfl, rfl, rfl, fun _ => rfl⟩

end DataPlaneSession

/-- What was forwarded under each URR and reported for it, and the URRs of the PDR that each
buffered packet matched. -/
structure Ledger where
  reported : UInt32 → ℕ
  forwarded : UInt32 → ℕ
  waiting : List (List UInt32)

namespace Ledger

variable (ledger : Ledger)

def empty : Ledger := ⟨fun _ => 0, fun _ => 0, []⟩

def forward (session : DataPlaneSession) (urrIds : List UInt32) (bytes : ℕ) : Ledger :=
  { ledger with forwarded := fun urrId =>
      ledger.forwarded urrId + if urrId ∈ urrIds ∧ session.HasUrr urrId then bytes else 0 }

def buffer (urrIds : List UInt32) : Ledger :=
  { ledger with waiting := ledger.waiting ++ [urrIds] }

def flush (session : DataPlaneSession) (flushed : List Flushed) (left : ℕ) : Ledger :=
  let sent := (ledger.waiting.zip flushed).filter fun packet => packet.2.sent
  { ledger with
    forwarded := fun urrId => ledger.forwarded urrId +
      ((sent.filter fun packet => urrId ∈ packet.1 ∧ session.HasUrr urrId).map
        fun packet => packet.2.gpdu.inner.length).sum
    waiting := ledger.waiting.take left }

def report (entries : List UrrReportEntry) : Ledger :=
  { ledger with reported := fun urrId => ledger.reported urrId +
      ((entries.filter fun entry => entry.urrId = urrId).map
        fun entry => entry.totalBytes.toNat).sum }

end Ledger

structure UsageRun where
  session : Option DataPlaneSession
  ledger : Ledger

inductive UsageEvent where
  | uplink (payload : Bytes) (pktQfi : Option UInt8) (withinRate written : Bool) (now : ℕ)
  | downlink (pkt : Bytes) (withinRate sent : Bool) (now : ℕ)
  | modified (modified : SessionModified) (hasSocket : Bool) (sends : ℕ → Bool) (tos : UInt8)
  | flushBufferedDl (hasSocket : Bool) (sends : ℕ → Bool) (tos : UInt8)
  | collectUrrReports (now : ℕ)
  | collectFinalUsageReports
  /-- The final reports, and nothing between them and the removal of the session. -/
  | deleted

namespace DataPlaneSession

def noted (session : DataPlaneSession) (ledger : Ledger) (urrIds : List UInt32) (bytes : ℕ)
  (verdict : Verdict) : Ledger :=
  if verdict.forwards then ledger.forward session urrIds bytes
  else if verdict.buffers then ledger.buffer urrIds
  else ledger

def stepUsage (session : DataPlaneSession) (ledger : Ledger) : UsageEvent → UsageRun
  | .uplink payload pktQfi withinRate written now =>
    let result := session.handleUplinkPacket payload pktQfi withinRate written now
    ⟨some result.1, session.noted ledger (session.matchedUrrs SRC_INTF_ACCESS
      (fromIpv4Packet payload) pktQfi) payload.length result.2⟩
  | .downlink pkt withinRate sent now =>
    let result := session.handleDownlinkPacket pkt withinRate sent now
    ⟨some result.1, session.noted ledger (session.matchedUrrs SRC_INTF_CORE
      (downlinkTuple pkt) none) pkt.length result.2⟩
  | .modified modified hasSocket sends tos =>
    let result := session.handleSessionModified modified hasSocket sends tos
    ⟨some result.1, ledger.flush session result.2 result.1.dlBuffer.length⟩
  | .flushBufferedDl hasSocket sends tos =>
    let result := session.flushBufferedDl hasSocket sends tos
    ⟨some result.1, ledger.flush session result.2 result.1.dlBuffer.length⟩
  | .collectUrrReports now =>
    let result := session.collectUrrReports now
    ⟨some result.1, ledger.report (result.2.getD [])⟩
  | .collectFinalUsageReports =>
    let result := session.collectFinalUsageReports
    ⟨some result.1, ledger.report result.2⟩
  | .deleted => ⟨none, ledger.report session.collectFinalUsageReports.2⟩

end DataPlaneSession

def usage : Machine UsageRun UsageEvent Unit where
  step run event :=
    ((run.session.map fun session => session.stepUsage run.ledger event).getD run, ())

namespace UsageRun

def accumulated (run : UsageRun) (urrId : UInt32) : ℕ :=
  (run.session.map fun session => session.accumulated urrId).getD 0

/-- What is reported and what is accumulated make up what was forwarded. -/
def Conserved (run : UsageRun) : Prop :=
  ∀ urrId, run.ledger.reported urrId + run.accumulated urrId = run.ledger.forwarded urrId

/-- What is conserved, and each buffered packet has its PDR on the ledger. -/
structure Balanced (run : UsageRun) : Prop where
  conserved : run.Conserved
  waits : ∀ session ∈ run.session, run.ledger.waiting.length = session.dlBuffer.length

def start (session : DataPlaneSession) : UsageRun := ⟨some session, .empty⟩

end UsageRun

namespace DataPlaneSession

variable {session next : DataPlaneSession} {ledger : Ledger} {now : ℕ} {hasSocket : Bool}
  {sends : ℕ → Bool} {withinRate : Bool}

/-- No packet of a PDR with a URR of the session is sent out of the buffer. -/
def FlushSpares (session : DataPlaneSession) (ledger : Ledger) (hasSocket : Bool)
  (sends : ℕ → Bool) : Prop :=
  session.forwardingFar.isSome → hasSocket = true → ∀ packet ∈ ledger.waiting.zipIdx,
    sends packet.2 = true → ∀ urrId ∈ packet.1, ¬ session.HasUrr urrId

instance (session : DataPlaneSession) (ledger : Ledger) (hasSocket : Bool) (sends : ℕ → Bool) :
  Decidable (session.FlushSpares ledger hasSocket sends) :=
  have (packet : List UInt32 × ℕ) :
      Decidable (∀ urrId ∈ packet.1, ¬ session.HasUrr urrId) :=
    decidableBAll _ _
  inferInstanceAs (Decidable (_ → _ → ∀ packet ∈ ledger.waiting.zipIdx,
    sends packet.2 = true → ∀ urrId ∈ packet.1, ¬ session.HasUrr urrId))

/-- What is recorded is then forwarded, once for each URR; nothing that was not recorded is
forwarded; the collector is not held up; the counters are not kept after a report. -/
def Settles (session : DataPlaneSession) (ledger : Ledger) : UsageEvent → Prop
  | .uplink payload pktQfi withinRate written _ =>
    ∀ admitted ∈ session.uplinkPasses payload pktQfi withinRate,
      (∃ urrId ∈ admitted.pdr.urrIds, session.HasUrr urrId) →
        session.RecordsOnce admitted.pdr.urrIds payload.length ∧
          payload.length ≤ TUN_MTU ∧ written = true
  | .downlink pkt withinRate sent _ =>
    ∀ admitted ∈ session.downlinkPasses pkt withinRate,
      (∃ urrId ∈ admitted.pdr.urrIds, session.HasUrr urrId) →
        session.RecordsOnce admitted.pdr.urrIds pkt.length ∧ sent = true
  | .modified modified hasSocket sends _ =>
    modified.flushes = true → (session.modifyRules modified).FlushSpares ledger hasSocket sends
  | .flushBufferedDl hasSocket sends _ => session.FlushSpares ledger hasSocket sends
  | .collectUrrReports now => ∀ urr ∈ session.urrs.records, urr.due now = false
  | .collectFinalUsageReports => ∀ urr ∈ session.urrs.records, urr.accTotalBytes = 0
  | .deleted => True

instance (session : DataPlaneSession) (ledger : Ledger) (event : UsageEvent) :
  Decidable (session.Settles ledger event) :=
  -- Not by trying every number of 32 bits.
  have (admitted : Admitted) :
      Decidable (∃ urrId ∈ admitted.pdr.urrIds, session.HasUrr urrId) :=
    decidableBEx _ _
  match event with
  | .uplink payload pktQfi withinRate _ _ =>
    inferInstanceAs (Decidable (∀ admitted ∈ session.uplinkPasses payload pktQfi withinRate,
      (∃ urrId ∈ admitted.pdr.urrIds, session.HasUrr urrId) → _ ∧ _ ∧ _))
  | .downlink pkt withinRate _ _ =>
    inferInstanceAs (Decidable (∀ admitted ∈ session.downlinkPasses pkt withinRate,
      (∃ urrId ∈ admitted.pdr.urrIds, session.HasUrr urrId) → _ ∧ _))
  | .modified .. => inferInstanceAs (Decidable (_ → _))
  | .flushBufferedDl hasSocket sends _ =>
    inferInstanceAs (Decidable (session.FlushSpares ledger hasSocket sends))
  | .collectUrrReports now =>
    inferInstanceAs (Decidable (∀ urr ∈ session.urrs.records, urr.due now = false))
  | .collectFinalUsageReports =>
    inferInstanceAs (Decidable (∀ urr ∈ session.urrs.records, urr.accTotalBytes = 0))
  | .deleted => inferInstanceAs (Decidable True)

lemma accumulated_eq_zero (none : ∀ urr ∈ session.urrs.records, urr.accTotalBytes = 0)
  (urrId : UInt32) : session.accumulated urrId = 0 := by
  unfold accumulated
  cases found : session.urrs.lookup urrId with
  | none => rfl
  | some urr =>
    have zero := none urr (List.mem_of_find?_eq_some found)
    simp [zero]

lemma accumulated_congr {other : DataPlaneSession} (same : session.urrs = other.urrs)
  (urrId : UInt32) : session.accumulated urrId = other.accumulated urrId := by
  rw [accumulated, same, accumulated]

variable (balanced : UsageRun.Balanced ⟨some session, ledger⟩)

include balanced

lemma balanced_noted {urrIds : List UInt32} {bytes : ℕ} {isUplink : Bool} {verdict : Verdict}
  (recorded : next.urrs = (session.recordUrrs urrIds (ofNat bytes) isUplink now).urrs)
  (buffer : next.dlBuffer = session.dlBuffer) (unbuffered : verdict.buffers = false)
  (settles : (∃ urrId ∈ urrIds, session.HasUrr urrId) →
    session.RecordsOnce urrIds bytes ∧ verdict.forwards = true) :
  UsageRun.Balanced ⟨some next, session.noted ledger urrIds bytes verdict⟩ := by
  have once : session.RecordsOnce urrIds bytes := fun urrId member has =>
    (settles ⟨urrId, member, has⟩).1 urrId member has
  have accumulated (urrId : UInt32) : next.accumulated urrId = session.accumulated urrId +
      if urrId ∈ urrIds ∧ session.HasUrr urrId then bytes else 0 := by
    rw [accumulated_congr recorded, accumulated_recordUrrs once]
  unfold noted
  cases forwarded : verdict.forwards with
  | true =>
    refine ⟨fun urrId => ?_, fun next' isNext => ?_⟩
    · have before := balanced.conserved urrId
      change ledger.reported urrId + session.accumulated urrId = ledger.forwarded urrId at before
      change ledger.reported urrId + next.accumulated urrId = ledger.forwarded urrId + _
      rw [accumulated]
      omega
    · cases isNext
      rw [buffer]
      exact balanced.waits session rfl
  | false =>
    have unmeasured (urrId : UInt32) : ¬ (urrId ∈ urrIds ∧ session.HasUrr urrId) := by
      rintro ⟨member, has⟩
      exact absurd (settles ⟨urrId, member, has⟩).2 (by simp [forwarded])
    rw [if_neg Bool.false_ne_true, unbuffered, if_neg Bool.false_ne_true]
    refine ⟨fun urrId => ?_, fun next' isNext => ?_⟩
    · have before := balanced.conserved urrId
      change ledger.reported urrId + session.accumulated urrId = ledger.forwarded urrId at before
      change ledger.reported urrId + next.accumulated urrId = ledger.forwarded urrId
      rw [accumulated, if_neg (unmeasured urrId)]
      exact before
    · cases isNext
      rw [buffer]
      exact balanced.waits session rfl

lemma balanced_same
  (urrs : next.urrs = session.urrs) (buffer : next.dlBuffer = session.dlBuffer) :
  UsageRun.Balanced ⟨some next, ledger⟩ := by
  refine ⟨fun urrId => ?_, fun next' isNext => ?_⟩
  · change ledger.reported urrId + next.accumulated urrId = ledger.forwarded urrId
    rw [accumulated_congr urrs]
    exact balanced.conserved urrId
  · cases isNext
    rw [buffer]
    exact balanced.waits session rfl

lemma balanced_uplink {payload : Bytes} {pktQfi : Option UInt8} {written : Bool}
  (settles : session.Settles ledger (.uplink payload pktQfi withinRate written now)) :
  (session.stepUsage ledger (.uplink payload pktQfi withinRate written now)).Balanced := by
  rcases session.handleUplinkPacket_cases payload pktQfi withinRate written now with
    ⟨cause, dropped⟩ | ⟨admitted, passes, urrIds, recorded, buffer, unbuffered, forwards⟩
  · simp only [stepUsage, dropped]
    exact balanced
  · simp only [stepUsage, urrIds]
    refine balanced_noted balanced recorded buffer unbuffered fun measured => ?_
    obtain ⟨once, fits, isWritten⟩ := settles admitted passes measured
    exact ⟨once, forwards fits isWritten⟩

lemma balanced_downlink {pkt : Bytes} {sent : Bool}
  (settles : session.Settles ledger (.downlink pkt withinRate sent now)) :
  (session.stepUsage ledger (.downlink pkt withinRate sent now)).Balanced := by
  rcases session.handleDownlinkPacket_cases pkt withinRate sent now with
    ⟨verdict, same, unforwarded, unbuffered⟩ | ⟨report, buffered⟩ |
      ⟨admitted, passes, urrIds, recorded, buffer, unbuffered, forwards⟩
  · simp only [stepUsage, same, noted, unforwarded, unbuffered]
    exact balanced
  · simp only [stepUsage, buffered]
    refine ⟨balanced.conserved, fun next isNext => ?_⟩
    cases isNext
    have before := balanced.waits session rfl
    change (ledger.waiting ++ [_]).length = (session.dlBuffer ++ [pkt]).length
    rw [length_append, length_append]
    exact congrArg (· + 1) before
  · simp only [stepUsage, urrIds]
    refine balanced_noted balanced recorded buffer unbuffered fun measured => ?_
    obtain ⟨once, isSent⟩ := settles admitted passes measured
    exact ⟨once, forwards isSent⟩

omit balanced

lemma urrs_countDl (flushed : List Flushed) (session : DataPlaneSession) :
  (flushed.foldl (fun session each => session.countDl (ofNat each.gpdu.inner.length))
    session).urrs = session.urrs ∧
  (flushed.foldl (fun session each => session.countDl (ofNat each.gpdu.inner.length))
    session).dlBuffer = session.dlBuffer := by
  induction flushed generalizing session with
  | nil => exact ⟨rfl, rfl⟩
  | cons each rest ih => exact ih _

lemma flushBufferedDl_cases (session : DataPlaneSession) (hasSocket : Bool) (sends : ℕ → Bool)
  (tos : UInt8) :
  session.flushBufferedDl hasSocket sends tos = (session, []) ∨
    (session.flushBufferedDl hasSocket sends tos).1.urrs = session.urrs ∧
      (session.flushBufferedDl hasSocket sends tos).1.dlBuffer = [] ∧
      ((session.flushBufferedDl hasSocket sends tos).2 = [] ∨
        session.forwardingFar.isSome ∧ hasSocket = true ∧ ∃ gpdu : Bytes × ℕ → GPdu,
          (session.flushBufferedDl hasSocket sends tos).2 =
            session.dlBuffer.zipIdx.map fun entry => ⟨gpdu entry, sends entry.2⟩) := by
  unfold flushBufferedDl
  cases found : session.forwardingFar with
  | none => exact .inl rfl
  | some far =>
    cases hasSocket with
    | false => exact .inr ⟨rfl, rfl, .inl rfl⟩
    | true =>
      obtain ⟨urrs, buffer⟩ := urrs_countDl _ session.drainDlBuffer
      exact .inr ⟨urrs, buffer, .inr ⟨rfl, rfl, _, rfl⟩⟩

include balanced in
lemma balanced_flush {flushed : List Flushed} (urrs : next.urrs = session.urrs)
  (buffer : next.dlBuffer = session.dlBuffer ∨ next.dlBuffer = [])
  (spares : ∀ packet ∈ ledger.waiting.zip flushed, packet.2.sent = true →
    ∀ urrId ∈ packet.1, ¬ session.HasUrr urrId) :
  UsageRun.Balanced ⟨some next, ledger.flush session flushed next.dlBuffer.length⟩ := by
  have none (urrId : UInt32) : ((ledger.waiting.zip flushed).filter fun packet =>
      packet.2.sent).filter (fun packet => urrId ∈ packet.1 ∧ session.HasUrr urrId) = [] := by
    rw [filter_eq_nil_iff]
    intro packet member
    obtain ⟨zipped, sent⟩ := mem_filter.mp member
    simpa using spares packet zipped sent urrId
  refine ⟨fun urrId => ?_, fun next' isNext => ?_⟩
  · change ledger.reported urrId + next.accumulated urrId = ledger.forwarded urrId +
      (List.map _ (((ledger.waiting.zip flushed).filter fun packet => packet.2.sent).filter
        (fun packet => urrId ∈ packet.1 ∧ session.HasUrr urrId))).sum
    rw [none, accumulated_congr urrs]
    exact balanced.conserved urrId
  · cases isNext
    have before := balanced.waits session rfl
    change (ledger.waiting.take next.dlBuffer.length).length = next.dlBuffer.length
    rcases buffer with same | empty
    · rw [same, ← before, take_length]
    · rw [empty, length_nil, take_zero, length_nil]

lemma spared_of_flushSpares (spares : session.FlushSpares ledger hasSocket sends) (tos : UInt8) :
  ∀ packet ∈ ledger.waiting.zip (session.flushBufferedDl hasSocket sends tos).2,
    packet.2.sent = true → ∀ urrId ∈ packet.1, ¬ session.HasUrr urrId := by
  intro packet member sent
  rcases session.flushBufferedDl_cases hasSocket sends tos with
    unchanged | ⟨-, -, none | ⟨forwards, socket, gpdu, all⟩⟩
  · rw [unchanged, zip_nil_right] at member
    exact absurd member not_mem_nil
  · rw [none, zip_nil_right] at member
    exact absurd member not_mem_nil
  · rw [all] at member
    obtain ⟨index, zipped⟩ := mem_iff_getElem?.mp member
    obtain ⟨waiting, flushed⟩ := List.getElem?_zip_eq_some.mp zipped
    rw [List.getElem?_map, List.getElem?_zipIdx] at flushed
    have sends_index : packet.2.sent = sends index := by
      cases queued : session.dlBuffer[index]? with
      | none => simp [queued] at flushed
      | some pkt =>
        simp only [queued, map_some, Option.some.injEq, Nat.zero_add] at flushed
        rw [← flushed]
    rw [sends_index] at sent
    exact spares forwards socket (packet.1, index)
      (List.mk_mem_zipIdx_iff_getElem?.mpr waiting) sent

include balanced in
lemma balanced_flushBufferedDl
  (settles : session.FlushSpares ledger hasSocket sends) (tos : UInt8) :
  UsageRun.Balanced ⟨some (session.flushBufferedDl hasSocket sends tos).1, ledger.flush session
    (session.flushBufferedDl hasSocket sends tos).2
    (session.flushBufferedDl hasSocket sends tos).1.dlBuffer.length⟩ := by
  have spared := spared_of_flushSpares settles tos
  rcases session.flushBufferedDl_cases hasSocket sends tos with
    unchanged | ⟨urrs, empty, -⟩
  · rw [unchanged] at spared ⊢
    exact balanced_flush balanced rfl (.inl rfl) spared
  · exact balanced_flush balanced urrs (.inr empty) spared

lemma urrs_modifyRules (session : DataPlaneSession) (modified : SessionModified) :
  (session.modifyRules modified).urrs = session.urrs := by
  unfold modifyRules
  dsimp only
  split <;> split <;> rfl

lemma dlBuffer_modifyRules (session : DataPlaneSession) (modified : SessionModified) :
  (session.modifyRules modified).dlBuffer =
    if modified.dropBuffered then [] else session.dlBuffer := by
  unfold modifyRules
  dsimp only
  split <;> split <;> rfl

include balanced in
lemma balanced_modified {modified : SessionModified} {tos : UInt8}
  (settles : session.Settles ledger (.modified modified hasSocket sends tos)) :
  (session.stepUsage ledger (.modified modified hasSocket sends tos)).Balanced := by
  have urrs := session.urrs_modifyRules modified
  have buffer := session.dlBuffer_modifyRules modified
  simp only [stepUsage]
  unfold handleSessionModified
  cases flushes : modified.flushes with
  | true =>
    have kept : modified.dropBuffered = false := by
      simpa using (Bool.and_eq_true_iff.mp flushes).2
    rw [kept, if_neg Bool.false_ne_true] at buffer
    have same : ∀ urrId, session.HasUrr urrId ↔ (session.modifyRules modified).HasUrr urrId :=
      fun urrId => by rw [HasUrr, HasUrr, urrs]
    have flushed := balanced_flushBufferedDl (balanced_same balanced urrs buffer)
      (settles flushes) tos
    rw [if_pos rfl]
    refine (congrArg UsageRun.Balanced ?_).mp flushed
    simp only [Ledger.flush, same]
  | false =>
    rw [if_neg Bool.false_ne_true]
    have noneSent : ∀ packet ∈ ledger.waiting.zip ([] : List Flushed), packet.2.sent = true →
        ∀ urrId ∈ packet.1, ¬ session.HasUrr urrId := by
      intro packet member
      rw [zip_nil_right] at member
      exact absurd member not_mem_nil
    refine balanced_flush balanced urrs ?_ noneSent
    rw [buffer]
    split
    · exact .inr rfl
    · exact .inl rfl

lemma sum_entries (records : List DataPlaneUrr) (exceeded : DataPlaneUrr → Bool)
  (urrId : UInt32) :
  ((((records.filter exceeded).map DataPlaneUrr.entry).filter fun entry =>
      entry.urrId = urrId).map fun entry => entry.totalBytes.toNat).sum =
    ((records.filter fun urr => urr.urrId = urrId).map fun urr =>
      if exceeded urr then urr.accTotalBytes.toNat else 0).sum := by
  induction records with
  | nil => rfl
  | cons urr rest ih =>
    have named : urr.entry.urrId = urr.urrId := rfl
    have counted : urr.entry.totalBytes = urr.accTotalBytes := rfl
    by_cases reports : exceeded urr <;> by_cases same : urr.urrId = urrId <;>
      simp [reports, same, named, counted, ih]

lemma reported_entries (session : DataPlaneSession) (exceeded : DataPlaneUrr → Bool)
  (urrId : UInt32) :
  ((((session.urrs.records.filter exceeded).map DataPlaneUrr.entry).filter fun entry =>
      entry.urrId = urrId).map fun entry => entry.totalBytes.toNat).sum =
    ((session.urrs.lookup urrId).map fun urr =>
      if exceeded urr then urr.accTotalBytes.toNat else 0).getD 0 := by
  rw [sum_entries, sum_under_key]

lemma collectUrrReports_of_not_due (settles : ∀ urr ∈ session.urrs.records, urr.due now = false) :
  (session.collectUrrReports now).1.dlBuffer = session.dlBuffer ∧
    (∀ urrId, (session.collectUrrReports now).1.urrs.lookup urrId =
      (session.urrs.lookup urrId).map fun urr => urr.collected now) ∧
    (session.collectUrrReports now).2 =
      some ((session.urrs.records.filter DataPlaneUrr.thresholdExceeded).map
        DataPlaneUrr.entry) := by
  unfold collectUrrReports
  dsimp only
  split
  case h_1 =>
    exact ⟨rfl, lookup_map session.urrs _ fun urr => urr.urrId_collected now, rfl⟩
  case h_2 blocked found =>
    obtain ⟨urr, stored, rfl⟩ := List.mem_map.mp (List.mem_of_find?_eq_some found)
    have isDue := List.find?_some found
    rw [DataPlaneUrr.due_collected, settles urr stored] at isDue
    exact absurd isDue Bool.false_ne_true

include balanced in
lemma balanced_collect (settles : session.Settles ledger (.collectUrrReports now)) :
  (session.stepUsage ledger (.collectUrrReports now)).Balanced := by
  obtain ⟨buffer, lookup, reports⟩ := collectUrrReports_of_not_due settles
  refine ⟨fun urrId => ?_, fun next isNext => ?_⟩
  · have before := balanced.conserved urrId
    change ledger.reported urrId + session.accumulated urrId = ledger.forwarded urrId at before
    change ledger.reported urrId + (List.map _ (filter _ _)).sum +
      (session.collectUrrReports now).1.accumulated urrId = ledger.forwarded urrId
    rw [reports, getD_some, reported_entries, accumulated, lookup]
    rw [accumulated] at before
    cases found : session.urrs.lookup urrId with
    | none => simpa [found] using before
    | some urr =>
      rw [found] at before
      simp only [map_some, getD_some, DataPlaneUrr.collected] at before ⊢
      cases urr.thresholdExceeded with
      | true | false => exact before
  · cases isNext
    rw [buffer]
    exact balanced.waits session rfl

lemma reported_final (session : DataPlaneSession) (urrId : UInt32) :
  ((session.collectFinalUsageReports.2.filter fun entry => entry.urrId = urrId).map
    fun entry => entry.totalBytes.toNat).sum = session.accumulated urrId := by
  have all := session.reported_entries (fun _ => true) urrId
  rw [filter_true] at all
  simpa [collectFinalUsageReports, accumulated] using all

lemma accumulated_final (session : DataPlaneSession) (urrId : UInt32) :
  session.collectFinalUsageReports.1.accumulated urrId = session.accumulated urrId := by
  have lookup : session.collectFinalUsageReports.1.urrs.lookup urrId =
      (session.urrs.lookup urrId).map DataPlaneUrr.nextUrSeqn :=
    lookup_map session.urrs DataPlaneUrr.nextUrSeqn (fun _ => rfl) urrId
  rw [accumulated, lookup, Option.map_map]
  rfl

include balanced

lemma balanced_final (settles : session.Settles ledger .collectFinalUsageReports) :
  (session.stepUsage ledger .collectFinalUsageReports).Balanced := by
  refine ⟨fun urrId => ?_, fun next isNext => ?_⟩
  · have before := balanced.conserved urrId
    change ledger.reported urrId + session.accumulated urrId = ledger.forwarded urrId at before
    change ledger.reported urrId + (List.map _ (filter _ _)).sum +
      session.collectFinalUsageReports.1.accumulated urrId = ledger.forwarded urrId
    have none := accumulated_eq_zero settles urrId
    rw [reported_final, accumulated_final, none]
    rw [none] at before
    exact before
  · cases isNext
    exact balanced.waits session rfl

lemma balanced_deleted : (session.stepUsage ledger .deleted).Balanced := by
  refine ⟨fun urrId => ?_, nofun⟩
  change ledger.reported urrId + (List.map _ (filter _ _)).sum + 0 = ledger.forwarded urrId
  rw [reported_final]
  exact balanced.conserved urrId

lemma balanced_stepUsage {event : UsageEvent} (settles : session.Settles ledger event) :
  (session.stepUsage ledger event).Balanced := by
  cases event with
  | uplink payload pktQfi withinRate written now => exact balanced_uplink balanced settles
  | downlink pkt withinRate sent now => exact balanced_downlink balanced settles
  | modified modified hasSocket sends tos => exact balanced_modified balanced settles
  | flushBufferedDl hasSocket sends tos => exact balanced_flushBufferedDl balanced settles tos
  | collectUrrReports now => exact balanced_collect balanced settles
  | collectFinalUsageReports => exact balanced_final balanced settles
  | deleted => exact balanced_deleted balanced

omit balanced

end DataPlaneSession

namespace UsageRun

def Fresh (session : DataPlaneSession) : Prop :=
  (∀ urr ∈ session.urrs.records, urr.accTotalBytes = 0) ∧ session.dlBuffer = []

def Settles (run : UsageRun) (event : UsageEvent) : Prop :=
  ∀ session ∈ run.session, session.Settles run.ledger event

instance (run : UsageRun) (event : UsageEvent) : Decidable (run.Settles event) :=
  inferInstanceAs (Decidable (∀ session ∈ run.session, session.Settles run.ledger event))

lemma balanced_start {session : DataPlaneSession} (fresh : Fresh session) :
  (start session).Balanced := by
  refine ⟨fun urrId => ?_, fun next isNext => ?_⟩
  · exact (Nat.zero_add _).trans (DataPlaneSession.accumulated_eq_zero fresh.1 urrId)
  · cases isNext
    exact (congrArg List.length fresh.2).symm

lemma balanced_step {run : UsageRun} {event : UsageEvent} (balanced : run.Balanced)
  (settles : run.Settles event) : (usage.step run event).1.Balanced := by
  obtain ⟨session, ledger⟩ := run
  cases session with
  | none => exact balanced
  | some session => exact DataPlaneSession.balanced_stepUsage balanced (settles session rfl)

/-- What is reported for each URR and what is accumulated in it make up what was forwarded under
it, in every state of a run whose steps settle what they record.  A step is a whole operation: a
collection is not interleaved with a packet. -/
theorem usage_conserved (session : DataPlaneSession) (fresh : Fresh session)
  (events : List UsageEvent) (settles : usage.Along Settles (start session) events) :
  (usage.run (start session) events).Conserved :=
  (usage.invariant_run (fun _ _ => balanced_step) (balanced_start fresh) settles).conserved

/-- An uplink and a downlink PDR with one URR, and a downlink FAR with this action. -/
def metered (applyAction : UInt16) : DataPlaneSession :=
  { DataPlaneSession.newEmpty 0x77 0x1077 none 100 200 ⟨.v4 0x0A000001, 2152⟩ none with
    pdrs := [⟨1, 100, SRC_INTF_ACCESS, some 1, none, [1], none, none⟩,
      ⟨2, 100, SRC_INTF_CORE, some 2, none, [1], none, none⟩]
    fars := KeyedTable.empty.insert ⟨1, FAR_ACTION_FORW, SRC_INTF_CORE, none, none, none⟩ |>.insert
      ⟨2, applyAction, SRC_INTF_ACCESS, some 200, none, none⟩
    urrs := KeyedTable.empty.insert
      { DataPlaneUrr.new 1 0 with volumeThresholdTotal := some 40 } }

def inner (length : ℕ) : Bytes := 0x45 :: replicate (length - 1) 0

/-- Two packets are forwarded and reported, a third is reported when the session is deleted. -/
def metering : List UsageEvent :=
  [.uplink (inner 20) none true true 1, .downlink (inner 20) true true 2, .collectUrrReports 3,
    .downlink (inner 24) true true 4, .deleted]

theorem usage_conserved_metering : Fresh (metered FAR_ACTION_FORW) ∧
    (usage.run (start (metered FAR_ACTION_FORW)) metering).ledger.forwarded 1 = 64 ∧
    (usage.run (start (metered FAR_ACTION_FORW)) metering).Conserved :=
  ⟨⟨by decide, rfl⟩, by decide,
    usage_conserved (metered FAR_ACTION_FORW) ⟨by decide, rfl⟩ metering (by decide)⟩

def resuming : List UsageEvent :=
  [.downlink (inner 20) true true 1,
    .modified ⟨none, none, [⟨2, FAR_ACTION_FORW, some ⟨SRC_INTF_ACCESS, none,
      some ⟨0x0200, 200, none, some 1, none⟩⟩, none⟩], [], [], false⟩ true (fun _ => true) 0]

/-- A flushed packet is not recorded, and a packet that does not fit the TUN device is. -/
theorem flushed_unrecorded_oversize_recorded : (Fresh (metered FAR_ACTION_BUFF) ∧
      ¬ (usage.run (start (metered FAR_ACTION_BUFF)) resuming).Conserved) ∧
    Fresh (metered FAR_ACTION_FORW) ∧ ¬ (usage.run (start (metered FAR_ACTION_FORW))
        [.uplink (inner 1401) none true true 1]).Conserved := by
  refine ⟨⟨⟨by decide, rfl⟩, fun conserved => ?_⟩, ⟨by decide, rfl⟩,
    fun conserved => ?_⟩
  · exact absurd (conserved 1) (by decide)
  · exact absurd (conserved 1) (by decide +kernel)

end UsageRun

end NextGCore.Upf
