import NextGCore.Diameter.CodecRoundTrip
import NextGCore.Library.Machine

/-!
# Messages off a stream

The framing of `DiameterTransport`.  Whatever pieces the stream arrives in and wherever a `recv` is
dropped, the messages come off it whole and in order.
-/

namespace NextGCore.Diameter

open Library List

def MAX_MESSAGE_SIZE : ℕ := 65536

inductive TransportError where
  | invalidMessage (text : String)
  | decode (fault : Fault DiameterError)
  | io (text : String)

/-- The length in octets 1 to 3 of the buffer. -/
def frameLength (readBuf : Bytes) : ℕ := beValue ((readBuf.drop 1).take 3)

def tryParseMessage (readBuf : Bytes) : Bytes × Except TransportError (Option DiameterMessage) :=
  if readBuf.length < DIAMETER_HEADER_SIZE then (readBuf, .ok none)
  else
    let msgLen := frameLength readBuf
    if msgLen < DIAMETER_HEADER_SIZE then
      (readBuf, .error (.invalidMessage s!"message length {msgLen} is less than header size"))
    else if MAX_MESSAGE_SIZE < msgLen then
      (readBuf, .error (.invalidMessage
        s!"message length {msgLen} exceeds maximum {MAX_MESSAGE_SIZE}"))
    else if readBuf.length < msgLen then (readBuf, .ok none)
    else (readBuf.drop msgLen, match DiameterMessage.decode (readBuf.take msgLen) with
      | .ok (message, _) => .ok (some message)
      | .error fault => .error (.decode fault))

/-- A caller enters `recv`, also after it dropped one that waited, or the read that `recv` waits
for returns. -/
inductive RecvStep where
  | enter
  | read (octets : Bytes)

def RecvStep.octets : RecvStep → Bytes
  | enter => []
  | read octets => octets

/-- `recv` over the read buffer; where the answer is `ok none` it waits for a read. -/
def recv : Machine Bytes RecvStep (Except TransportError (Option DiameterMessage)) where
  step readBuf
    | .enter => tryParseMessage readBuf
    | .read [] => (readBuf, .error (.io "connection closed by peer"))
    | .read octets => tryParseMessage (readBuf ++ octets)

def returned : Bytes × Except TransportError (Option DiameterMessage) →
    Option (Except TransportError DiameterMessage)
  | (_, .ok message) => message.map .ok
  | (_, .error error) => some (.error error)

structure Transportable (message : DiameterMessage) : Prop where
  flagged : AllVendorFlagged message.avps
  version : message.header.version = DIAMETER_VERSION
  commandCode : message.header.commandCode.toNat < 2 ^ 24
  small : message.totalLength ≤ MAX_MESSAGE_SIZE

/-- What is received for a message: its header with the length filled in, and its AVPs. -/
structure ReceivedAs (message found : DiameterMessage) : Prop where
  header : found.header = { message.header with length := message.calculateLength }
  avps : AllRecovered message.avps found.avps

/-- A frame that is cut and decoded as `found` as soon as it is whole. -/
structure Frame (message found : DiameterMessage) : Prop where
  short : message.encode.length ≤ MAX_MESSAGE_SIZE
  long : DIAMETER_HEADER_SIZE ≤ message.encode.length
  length : ∀ buf, DIAMETER_HEADER_SIZE ≤ buf.length →
    (buf <+: message.encode ∨ message.encode <+: buf) → frameLength buf = message.encode.length
  reads : ReadsBack id DiameterMessage.decode message.encode found

lemma exists_frame {message : DiameterMessage} (fits : Transportable message) :
  ∃ found, Frame message found ∧ ReceivedAs message found := by
  have bounded : message.totalLength < 2 ^ 24 := Nat.lt_of_le_of_lt fits.small (by decide)
  have size := message.length_encode fits.flagged
  obtain ⟨avps, recovered, reads⟩ :=
    DiameterMessage.readsBack_decode fits.flagged fits.version fits.commandCode bounded
  have long : DIAMETER_HEADER_SIZE ≤ message.encode.length := size ▸ Nat.le_add_right ..
  refine ⟨_, ⟨size ▸ fits.small, long, ?_, reads⟩, rfl, recovered⟩
  intro buf whole near
  have octets : (buf.drop 1).take 3 = putU24 message.totalLength := by
    have inside : (message.encode.drop 1).take 3 = putU24 message.totalLength := by
      rw [DiameterMessage.encode, DiameterHeader.encode, message.calculateLength_toNat bounded]
      simp only [append_assoc]
      rw [drop_left' (length_beOctets ..), take_left' (length_putU24 _)]
    rw [← inside, take_drop, take_drop]
    obtain ⟨tail, same⟩ | ⟨tail, same⟩ := near
    · rw [← same, take_append_of_le_length (Nat.le_trans (by decide) whole)]
    · rw [← same, take_append_of_le_length (Nat.le_trans (by decide) long)]
  rw [frameLength, octets, beValue_putU24 bounded, size]

variable {messages found : List DiameterMessage} {readBuf : Bytes}

def wire (messages : List DiameterMessage) : Bytes := messages.flatMap DiameterMessage.encode

/-- The next message is taken off the buffer once it is there, and is waited for before. -/
lemma tryParseMessage_cases (frames : Forall₂ Frame messages found)
  (front : readBuf <+: wire messages) :
  (tryParseMessage readBuf = (readBuf, .ok none) ∧
    ∀ next ∈ messages.head?, readBuf.length < next.encode.length) ∨
  ∃ next after first later left, messages = next :: after ∧ found = first :: later ∧
    readBuf = next.encode ++ left ∧ tryParseMessage readBuf = (left, .ok (some first)) := by
  unfold tryParseMessage
  cases frames with
  | nil =>
    obtain rfl : readBuf = [] := prefix_nil.mp front
    exact .inl ⟨rfl, nofun⟩
  | @cons next first after later frame _ =>
    have near : readBuf <+: next.encode ∨ next.encode <+: readBuf :=
      prefix_or_prefix_of_prefix front (prefix_append next.encode (wire after))
    by_cases headless : readBuf.length < DIAMETER_HEADER_SIZE
    · refine .inl ⟨if_pos headless, fun message isNext => ?_⟩
      obtain rfl := Option.some.inj isNext
      exact Nat.lt_of_lt_of_le headless frame.long
    have length := frame.length readBuf (Nat.not_lt.mp headless) near
    simp only [if_neg headless, length, if_neg (Nat.not_lt.mpr frame.long),
      if_neg (Nat.not_lt.mpr frame.short)]
    by_cases cut : readBuf.length < next.encode.length
    · refine .inl ⟨if_pos cut, fun message isNext => ?_⟩
      obtain rfl := Option.some.inj isNext
      exact cut
    · have whole : next.encode <+: readBuf := near.elim
        (fun within => (within.eq_of_length (by have := within.length_le; omega)) ▸ prefix_rfl) id
      obtain ⟨left, rfl⟩ := whole
      obtain ⟨rest, decoded, -⟩ := frame.reads next.encode [] (append_nil _).symm
      refine .inr ⟨next, after, first, later, left, rfl, rfl, rfl, ?_⟩
      rw [if_neg cut, take_left, drop_left, decoded]

/-- What `recv` returns from the buffer on, and what is then in the buffer. -/
structure Reassembled (messages found : List DiameterMessage) (readBuf : Bytes)
  (steps : List RecvStep) (count : ℕ) : Prop where
  returns : recv.emitted returned readBuf steps = (found.take count).map .ok
  unread : readBuf ++ steps.flatMap RecvStep.octets =
    wire (messages.take count) ++ recv.run readBuf steps
  waits : (recv.step (recv.run readBuf steps) .enter).2 = .ok none ↔
    ∀ next ∈ (messages.drop count).head?, (recv.run readBuf steps).length < next.encode.length

lemma reassembled_run (frames : Forall₂ Frame messages found) (steps : List RecvStep)
  (open' : .read [] ∉ steps)
  (front : readBuf ++ steps.flatMap RecvStep.octets <+: wire messages) :
  ∃ count, Reassembled messages found readBuf steps count := by
  induction steps generalizing messages found readBuf with
  | nil =>
    rw [flatMap_nil, append_nil] at front
    refine ⟨0, rfl, append_nil readBuf, ?_⟩
    change (tryParseMessage readBuf).2 = _ ↔ ∀ next ∈ messages.head?, _
    rcases tryParseMessage_cases frames front with ⟨waits, short⟩ | ⟨next, _, _, _, left, same⟩
    · exact iff_of_true (congrArg Prod.snd waits) short
    · obtain ⟨rfl, rfl, rfl, parsed⟩ := same
      refine iff_of_false (by rw [parsed]; nofun) fun short => ?_
      have := short next rfl
      rw [Machine.run_nil, length_append] at this
      omega
  | cons step rest ih =>
    have now : recv.step readBuf step = tryParseMessage (readBuf ++ step.octets) := by
      match step, open' with
      | .enter, _ => exact congrArg tryParseMessage (append_nil readBuf).symm
      | .read [], closed => exact absurd mem_cons_self closed
      | .read (_ :: _), _ => rfl
    rw [flatMap_cons, ← append_assoc] at front
    have later := fun absent => open' (mem_cons_of_mem step absent)
    rcases tryParseMessage_cases frames ((prefix_append ..).trans front) with
      ⟨waits, -⟩ | ⟨next, after, first, others, left, same⟩
    · rw [waits] at now
      obtain ⟨count, returns, unread, waits⟩ := ih frames later front
      refine ⟨count, ?_, ?_, ?_⟩
      · rw [Machine.emitted_cons, now, ← returns]
        rfl
      · rw [flatMap_cons, ← append_assoc, unread, Machine.run_cons, now]
      · rwa [Machine.run_cons, now]
    · obtain ⟨rfl, rfl, whole, parsed⟩ := same
      rw [parsed] at now
      rw [whole, append_assoc, wire, flatMap_cons, prefix_append_right_inj] at front
      obtain ⟨-, frames⟩ := forall₂_cons.mp frames
      obtain ⟨count, returns, unread, waits⟩ := ih frames later front
      refine ⟨count + 1, ?_, ?_, ?_⟩
      · rw [Machine.emitted_cons, now, returns]
        rfl
      · rw [flatMap_cons, ← append_assoc, whole, append_assoc, unread, Machine.run_cons, now]
        exact (append_assoc ..).symm
      · rwa [Machine.run_cons, now]

/-- However the octets are split over the reads, and wherever a `recv` is dropped and entered again:
what is returned are the first of the messages sent, and the octets behind them are unread. -/
def Reassembles (messages : List DiameterMessage) : Prop :=
  ∃ found, Forall₂ ReceivedAs messages found ∧ ∀ steps : List RecvStep, .read [] ∉ steps →
    steps.flatMap RecvStep.octets <+: wire messages →
      ∃ count, Reassembled messages found [] steps count

/-- However the octets of the messages are cut into reads, and however often `recv` is given up
and entered again, the messages come out whole and in order. -/
theorem reassembles_run (messages : List DiameterMessage)
  (fits : ∀ message ∈ messages, Transportable message) : Reassembles messages := by
  have frames : ∃ found, Forall₂ ReceivedAs messages found ∧ Forall₂ Frame messages found := by
    induction messages with
    | nil => exact ⟨[], .nil, .nil⟩
    | cons message rest ih =>
      obtain ⟨found, received, frames⟩ := ih fun other member => fits other (.tail message member)
      obtain ⟨first, frame, isReceived⟩ := exists_frame (fits message mem_cons_self)
      exact ⟨first :: found, .cons isReceived received, .cons frame frames⟩
  obtain ⟨found, received, frames⟩ := frames
  exact ⟨found, received, fun steps open' front => reassembled_run frames steps open' front⟩

def watchdog : DiameterMessage :=
  { DiameterMessage.newRequest 280 0 with
    avps := [.mandatory avp_code.ORIGIN_HOST (.diameterIdentity "mme"),
      .mandatory avp_code.ORIGIN_REALM (.diameterIdentity "r")] }

theorem reassembles_watchdogs : Reassembles (replicate 2 watchdog) :=
  reassembles_run _ fun _ member =>
    eq_of_mem_replicate member ▸
      ⟨⟨⟨rfl, trivial⟩, ⟨rfl, trivial⟩, trivial⟩, rfl, by decide, by decide⟩

end NextGCore.Diameter
