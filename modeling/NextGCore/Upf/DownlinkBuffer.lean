import NextGCore.Library.Machine
import NextGCore.Upf.DataPlane

/-!
# The downlink buffer

Packets under a FAR that buffers wait in a queue of bounded length.  The first packet of a
buffering episode, which lasts until the queue is drained, is reported; the BARs, and with them the
bound, can change at any time.
-/

namespace NextGCore.Upf

open Library List

variable (session : DataPlaneSession)

inductive BufferCall where
  | buffer (pkt : Bytes) (barId : Option UInt8)
  | drain
  | updateBars (bars : KeyedTable DataPlaneBar DataPlaneBar.barId)

inductive BufferAnswer where
  /-- The packet, whether it was taken, and whether it started an episode. -/
  | buffered (pkt : Bytes) (accepted firstPacket : Bool)
  | drained (pkts : List Bytes)
  | updated

namespace DataPlaneSession

/-- The session after the call, and what the call returns: `(buffered, first_packet)`. -/
def bufferDl (session : DataPlaneSession) (pkt : Bytes) (barId : Option UInt8) :
  DataPlaneSession × Bool × Bool :=
  match session.bufferDlPacket pkt barId with
  | none => (session, false, false)
  | some next => (next, true, !session.ddnSent)

end DataPlaneSession

def bufferCalls : Machine DataPlaneSession BufferCall BufferAnswer where
  step
    | session, .buffer pkt barId =>
      let (next, accepted, firstPacket) := session.bufferDl pkt barId
      (next, .buffered pkt accepted firstPacket)
    | session, .drain => (session.drainDlBuffer, .drained session.dlBuffer)
    | session, .updateBars bars => ({ session with bars }, .updated)

namespace BufferAnswer

def accepted : BufferAnswer → List Bytes
  | buffered pkt true _ => [pkt]
  | _ => []

def reported : BufferAnswer → List Bytes
  | buffered pkt _ true => [pkt]
  | _ => []

def drainedPackets : BufferAnswer → List Bytes
  | drained pkts => pkts
  | _ => []

end BufferAnswer

def bufferAnswers (calls : List BufferCall) : List BufferAnswer :=
  (bufferCalls.trace session calls).map Prod.snd

def acceptedPackets (calls : List BufferCall) : List Bytes :=
  (bufferAnswers session calls).flatMap BufferAnswer.accepted

def reportedPackets (calls : List BufferCall) : List Bytes :=
  (bufferAnswers session calls).flatMap BufferAnswer.reported

def drainedPackets (session : DataPlaneSession) (calls : List BufferCall) : List Bytes :=
  (bufferAnswers session calls).flatMap BufferAnswer.drainedPackets

/-- Nothing drains the buffer. -/
def WithinEpisode (calls : List BufferCall) : Prop := ∀ call ∈ calls, call ≠ .drain

section

variable (call : BufferCall) (calls : List BufferCall)

include call calls

lemma acceptedPackets_cons :
  acceptedPackets session (call :: calls) = (bufferCalls.step session call).2.accepted ++
      acceptedPackets (bufferCalls.step session call).1 calls := rfl

lemma reportedPackets_cons :
  reportedPackets session (call :: calls) = (bufferCalls.step session call).2.reported ++
      reportedPackets (bufferCalls.step session call).1 calls := rfl

lemma drainedPackets_cons :
  drainedPackets session (call :: calls) = (bufferCalls.step session call).2.drainedPackets ++
      drainedPackets (bufferCalls.step session call).1 calls := rfl

end

lemma bufferDl_cases (pkt : Bytes) (barId : Option UInt8) :
  session.dlBufferCapacity barId ≤ session.dlBuffer.length ∧
      session.bufferDl pkt barId = (session, false, false) ∨
    session.dlBuffer.length < session.dlBufferCapacity barId ∧ session.bufferDl pkt barId =
        ({ session with dlBuffer := session.dlBuffer ++ [pkt], ddnSent := true }, true,
          !session.ddnSent) := by
  unfold DataPlaneSession.bufferDl DataPlaneSession.bufferDlPacket
  by_cases full : session.dlBufferCapacity barId ≤ session.dlBuffer.length
  · exact .inl ⟨full, by rw [if_pos full]⟩
  · exact .inr ⟨not_le.mp full, by rw [if_neg full]⟩

lemma conserves_step (call : BufferCall) : (bufferCalls.step session call).2.drainedPackets ++
      (bufferCalls.step session call).1.dlBuffer =
    session.dlBuffer ++ (bufferCalls.step session call).2.accepted := by
  cases call with
  | buffer pkt barId =>
    simp only [bufferCalls]
    rcases bufferDl_cases session pkt barId with ⟨-, refused⟩ | ⟨-, taken⟩
    · rw [refused]
      exact (append_nil _).symm
    · rw [taken]
      rfl
  | drain => rfl
  | updateBars bars => exact (append_nil _).symm

lemma length_step (pkt : Bytes) (barId : Option UInt8) :
  (bufferCalls.step session (.buffer pkt barId)).1.dlBuffer.length ≤
    max session.dlBuffer.length (session.dlBufferCapacity barId) := by
  simp only [bufferCalls]
  rcases bufferDl_cases session pkt barId with ⟨-, refused⟩ | ⟨room, taken⟩
  · rw [refused]
    exact le_max_left _ _
  · rw [taken, length_append, length_singleton]
    exact le_max_of_le_right room

lemma accepted_step (pkt : Bytes) (barId : Option UInt8) :
  (bufferCalls.step session (.buffer pkt barId)).2.accepted =
    if session.dlBuffer.length < session.dlBufferCapacity barId then [pkt] else [] := by
  simp only [bufferCalls]
  rcases bufferDl_cases session pkt barId with ⟨full, refused⟩ | ⟨room, taken⟩
  · rw [refused, if_neg (not_lt.mpr full)]
    rfl
  · rw [taken, if_pos room]
    rfl

lemma reports_step {call : BufferCall} (within : call ≠ .drain) :
  (bufferCalls.step session call).2.reported =
      (if session.ddnSent then [] else (bufferCalls.step session call).2.accepted) ∧
    (bufferCalls.step session call).1.ddnSent =
      (session.ddnSent || !(bufferCalls.step session call).2.accepted.isEmpty) := by
  cases call with
  | buffer pkt barId =>
    simp only [bufferCalls]
    rcases bufferDl_cases session pkt barId with ⟨-, refused⟩ | ⟨-, taken⟩
    · rw [refused]
      cases session.ddnSent <;> exact ⟨rfl, rfl⟩
    · rw [taken]
      cases session.ddnSent <;> exact ⟨rfl, rfl⟩
  | drain => exact absurd rfl within
  | updateBars bars =>
    cases sent : session.ddnSent <;>
      simp [bufferCalls, BufferAnswer.reported, BufferAnswer.accepted, sent]

lemma accepted_of_first {session : DataPlaneSession} {call : BufferCall} {pkt : Bytes}
  {accepted : Bool} (answer : (bufferCalls.step session call).2 = .buffered pkt accepted true) :
  accepted = true := by
  cases call with
  | buffer pkt barId =>
    simp only [bufferCalls] at answer
    rcases bufferDl_cases session pkt barId with ⟨-, refused⟩ | ⟨-, taken⟩
    · rw [refused] at answer
      simp at answer
    · rw [taken] at answer
      simp only [BufferAnswer.buffered.injEq] at answer
      exact answer.2.1.symm
  | drain | updateBars bars => cases answer

lemma conserves_run (calls : List BufferCall) :
  drainedPackets session calls ++ (bufferCalls.run session calls).dlBuffer =
    session.dlBuffer ++ acceptedPackets session calls := by
  induction calls generalizing session with
  | nil => exact (append_nil _).symm
  | cons call rest ih =>
    rw [drainedPackets_cons, acceptedPackets_cons, Machine.run_cons, append_assoc,
      ih, ← append_assoc, conserves_step, append_assoc]

lemma reports_run {episode : List BufferCall} (within : WithinEpisode episode) :
  reportedPackets session episode =
    if session.ddnSent then [] else (acceptedPackets session episode).take 1 := by
  induction episode generalizing session with
  | nil => cases session.ddnSent <;> rfl
  | cons call rest ih =>
    obtain ⟨report, sent⟩ := reports_step session (within call mem_cons_self)
    have later := ih (bufferCalls.step session call).1
      fun other isOther => within other (mem_cons_of_mem _ isOther)
    rw [reportedPackets_cons, acceptedPackets_cons, later, report, sent]
    cases session.ddnSent with
    | true => rfl
    | false =>
      cases (bufferCalls.step session call).2 with
      | buffered pkt accepted firstPacket => cases accepted <;> rfl
      | drained pkts => rfl
      | updated => rfl

lemma accepted_of_first_run {session : DataPlaneSession} {calls : List BufferCall} {pkt : Bytes}
  {accepted : Bool} (answered : .buffered pkt accepted true ∈ bufferAnswers session calls) :
  accepted = true := by
  induction calls generalizing session with
  | nil => cases answered
  | cons call rest ih =>
    rcases mem_cons.mp answered with now | later
    · exact accepted_of_first now.symm
    · exact ih later

/-- The packets drained and those still queued are the accepted ones, in order; a packet is
accepted when there is room, and stays within the capacity of the moment; and an episode reports the first packet that it accepts, with the call
that accepts it. -/
theorem downlink_buffering (session : DataPlaneSession) (calls : List BufferCall) :
  drainedPackets session calls ++ (bufferCalls.run session calls).dlBuffer =
      session.dlBuffer ++ acceptedPackets session calls ∧
    (∀ pkt barId,
      (bufferCalls.step (bufferCalls.run session calls) (.buffer pkt barId)).1.dlBuffer.length ≤
        max (bufferCalls.run session calls).dlBuffer.length
          ((bufferCalls.run session calls).dlBufferCapacity barId)) ∧
    (∀ pkt barId,
      (bufferCalls.step (bufferCalls.run session calls) (.buffer pkt barId)).2.accepted =
        if (bufferCalls.run session calls).dlBuffer.length <
            (bufferCalls.run session calls).dlBufferCapacity barId then [pkt] else []) ∧
    (∀ pkt accepted, .buffered pkt accepted true ∈ bufferAnswers session calls →
      accepted = true) ∧
    (WithinEpisode calls → reportedPackets session calls =
      if session.ddnSent then [] else (acceptedPackets session calls).take 1) ∧
    ∀ episode, WithinEpisode episode →
      reportedPackets (bufferCalls.run session (calls ++ [.drain])) episode =
        (acceptedPackets (bufferCalls.run session (calls ++ [.drain])) episode).take 1 := by
  refine ⟨conserves_run session calls, fun pkt barId => length_step _ pkt barId,
    fun pkt barId => accepted_step _ pkt barId,
    fun pkt accepted answered => accepted_of_first_run answered, reports_run session,
    fun episode within => ?_⟩
  have fresh : (bufferCalls.run session (calls ++ [.drain])).ddnSent = false := by
    rw [Machine.run_append]
    rfl
  rw [reports_run _ within, fresh]
  rfl

/-- With room for one, the second packet is refused, and after a drain the third is taken and
reported as the first was. -/
example : bufferAnswers (.newEmpty 1 2 none 100 200 ⟨.v4 0, 2152⟩ none)
  [.updateBars (KeyedTable.empty.insert ⟨7, some 1, none⟩), .buffer [1] (some 7),
    .buffer [2] (some 7), .drain, .buffer [3] (some 7)] =
  [.updated, .buffered [1] true true, .buffered [2] false false, .drained [[1]],
    .buffered [3] true true] := rfl

end NextGCore.Upf
