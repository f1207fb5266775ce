import NextGCore.Library.Counters
import NextGCore.Nas.Security

/-!
# The NAS channel

A sender protects a list of messages and the network delivers some of the
frames: it loses them, repeats them and brings old ones back.  The receiver is
compared with a high-water mark over the positions of the frames.  It answers
every frame above the mark with its plaintext, holding the COUNT the sender
used, and refuses every other one without moving.
-/

namespace NextGCore.Nas

open Crypt Library Prod NasSecurityContext

variable (crypt : Primitives) (direction : UInt8) {ctx : NasSecurityContext}
  {messages : List (Bytes × Bool)} {next : NasSecurityContext} {message : Bytes} {ciphered : Bool}

structure Sent where
  count : NasCount
  message : Bytes
  ciphered : Bool
  frame : Bytes

variable {sent : Sent}

/-- The frames the sender makes of a list of messages, each with its choice of
ciphering.  A message that cannot be protected makes no frame. -/
def protectAll : NasSecurityContext → List (Bytes × Bool) → List Sent
  | _, [] => []
  | ctx, (message, ciphered) :: rest =>
    match protectNasMessage crypt ctx direction message ciphered with
    | (next, .ok frame) =>
      ⟨ctx.count direction, message, ciphered, frame⟩ :: protectAll next rest
    | (next, .error _) => protectAll next rest

def deliver (sent : List Sent) :
  Machine NasSecurityContext (Fin sent.length) (Except NasError Bytes) where
  step ctx position :=
    unprotectNasMessage crypt ctx direction sent[position].frame sent[position].ciphered

def ProtectedBy (ctx : NasSecurityContext) (sent : Sent) : Prop :=
  ∃ body mac,
    (if sent.ciphered then ctx.cipher crypt direction 1 sent.count.value sent.message
      else .ok sent.message) = .ok body ∧
    ctx.calculateMac crypt direction 1 sent.count.value (sent.count.sqn :: body) = .ok mac ∧
    sent.frame = mac.toList ++ sent.count.sqn :: body

def Verifies (ctx : NasSecurityContext) (frame : Bytes) : Prop :=
  ∃ (mac : Vector UInt8 4) (sqn : UInt8) (body : Bytes), frame = mac.toList ++ sqn :: body ∧
    ctx.calculateMac crypt direction 1 (ctx.candidate direction sqn).value (sqn :: body) = .ok mac

def Restores (ctx : NasSecurityContext) (messages : List (Bytes × Bool)) : Prop :=
  ∀ message, (message, true) ∈ messages → ∀ count text,
    ctx.cipher crypt direction 1 count message = .ok text →
    ctx.cipher crypt direction 1 count text = .ok message

def receiverAt (receiver : NasSecurityContext) (sent : List Sent) :
    Option (Fin sent.length) → NasSecurityContext
  | none => receiver
  | some furthest => receiver.commit direction sent[furthest].count

/-- The frames the network may deliver next: the first one; one that comes
after fewer than 128 lost ones; one at most 127 behind; or one further behind,
unless its MAC verifies at the COUNT it is mistaken for. -/
def Deliverable (receiver : NasSecurityContext) (sent : List Sent)
  (furthest : Option (Fin sent.length)) (position : Fin sent.length) : Prop :=
  match furthest with
  | none => position.val = 0
  | some furthest =>
    (furthest.val < position.val ∧ position.val ≤ furthest.val + 128) ∨
    (position.val ≤ furthest.val ∧ (furthest.val ≤ position.val + 127 ∨ ¬ Verifies crypt direction
          (receiver.commit direction sent[furthest].count) sent[position].frame))

/-- A frame above the mark is answered with its message, any other refused. -/
def AnswersWith (sent : List Sent) (accepted : Option (Fin sent.length))
  (answer : Except NasError Bytes) : Prop :=
  match accepted with
  | some position => answer = .ok sent[position].message
  | none => ∃ error, answer = .error error

variable {crypt direction}

lemma restores_of_short
  (short : ctx.algorithms.ciphering = 3 →
    ∀ message, (message, true) ∈ messages → message.length < 2 ^ 29) :
  Restores crypt direction ctx messages :=
  fun message membership _ _ enciphered =>
    ctx.cipher_cipher crypt (fun algorithm => short algorithm message membership) enciphered

lemma ProtectedBy.sameKeys {left right : NasSecurityContext} (same : left.SameKeys right)
  (made : ProtectedBy crypt direction left sent) : ProtectedBy crypt direction right sent := by
  obtain ⟨body, mac, enciphered, calculated, layout⟩ := made
  refine ⟨body, mac, ?_, ?_, layout⟩
  · rw [← same.cipher crypt]
    exact enciphered
  · rw [← same.calculateMac crypt]
    exact calculated

lemma protect_ok {frame : Bytes}
  (answered : protectNasMessage crypt ctx direction message ciphered = (next, .ok frame)) :
  next = ctx.setCount direction (ctx.count direction).increment ∧
    ProtectedBy crypt direction ctx ⟨ctx.count direction, message, ciphered, frame⟩ := by
  simp only [protectNasMessage] at answered
  split at answered
  · simp at answered
  · next body enciphered =>
      split at answered
      · simp at answered
      · next mac calculated =>
          obtain ⟨moved, layout⟩ := Prod.mk.inj answered
          exact ⟨moved.symm, body, mac, enciphered, calculated, (Except.ok.inj layout).symm⟩

lemma protect_error {error : NasError}
  (answered : protectNasMessage crypt ctx direction message ciphered = (next, .error error)) :
  next = ctx := by
  simp only [protectNasMessage] at answered
  split at answered
  · exact (Prod.mk.inj answered).1.symm
  · split at answered
    · exact (Prod.mk.inj answered).1.symm
    · simp at answered

lemma protectAll_getElem?
  (noWrap : (ctx.count direction).value.toNat + messages.length ≤ 2 ^ 32) {position : ℕ}
  (found : (protectAll crypt direction ctx messages)[position]? = some sent) :
  ProtectedBy crypt direction ctx sent ∧
    sent.count.value.toNat = (ctx.count direction).value.toNat + position ∧
    (sent.message, sent.ciphered) ∈ messages := by
  induction messages generalizing ctx position with
  | nil => simp [protectAll] at found
  | cons head rest ih =>
    obtain ⟨message, ciphered⟩ := head
    simp only [List.length_cons] at noWrap
    simp only [protectAll] at found
    split at found
    · next next frame answered =>
        obtain ⟨rfl, made⟩ := protect_ok answered
        cases position with
        | zero =>
          obtain rfl : _ = sent := by simpa using found
          exact ⟨made, rfl, List.mem_cons_self⟩
        | succ position =>
          have rest_lt : 0 < rest.length := by
            rw [List.length_pos_iff]
            rintro rfl
            simp [protectAll] at found
          have moved : ((ctx.setCount direction
              (ctx.count direction).increment).count direction).value.toNat =
              (ctx.count direction).value.toNat + 1 := by
            rw [setCount_count, NasCount.toNat_value_increment]
            omega
          have tail : (protectAll crypt direction (ctx.setCount direction
              (ctx.count direction).increment) rest)[position]? = some sent := by
            simpa using found
          obtain ⟨later, number, membership⟩ := ih (by omega) tail
          exact ⟨later.sameKeys (ctx.setCount_sameKeys direction _),
            by omega, List.mem_cons_of_mem _ membership⟩
    · next next error answered =>
        obtain rfl := protect_error answered
        obtain ⟨later, number, membership⟩ := ih (by omega) found
        exact ⟨later, number, List.mem_cons_of_mem _ membership⟩

section Receiver

variable {ctx : NasSecurityContext} {sent : Sent}

section

variable (made : ProtectedBy crypt direction ctx sent)

include made

lemma deliver_fresh
  (restores : sent.ciphered → ∀ text,
    ctx.cipher crypt direction 1 sent.count.value sent.message = .ok text →
      ctx.cipher crypt direction 1 sent.count.value text = .ok sent.message)
  (recognised : ctx.candidate direction sent.count.sqn = sent.count)
  (forward : ctx.established direction = false ∨ (ctx.count direction).value < sent.count.value) :
  unprotectNasMessage crypt ctx direction sent.frame sent.ciphered =
    (ctx.commit direction sent.count, .ok sent.message) := by
  obtain ⟨body, mac, enciphered, calculated, layout⟩ := made
  have verified : ctx.calculateMac crypt direction 1
      (ctx.candidate direction sent.count.sqn).value (sent.count.sqn :: body) = .ok mac := by
    rw [recognised]
    exact calculated
  rw [← recognised] at forward
  rw [layout, unprotect_accepts verified forward, recognised]
  cases ciphered : sent.ciphered with
  | false =>
    rw [ciphered] at enciphered
    obtain rfl : sent.message = body := by simpa using enciphered
    rfl
  | true =>
    rw [ciphered] at enciphered
    simp only [if_true] at enciphered ⊢
    rw [restores ciphered body enciphered]

lemma deliver_stale (recognised : ctx.candidate direction sent.count.sqn = sent.count)
  (established : ctx.established direction = true) (integrity : ctx.algorithms.integrity ≠ 0)
  (passed : sent.count.value ≤ (ctx.count direction).value) :
  unprotectNasMessage crypt ctx direction sent.frame sent.ciphered =
    (ctx, .error .replayedSequenceNumber) := by
  obtain ⟨body, mac, -, calculated, layout⟩ := made
  have verified : ctx.calculateMac crypt direction 1
      (ctx.candidate direction sent.count.sqn).value (sent.count.sqn :: body) = .ok mac := by
    rw [recognised]
    exact calculated
  rw [← recognised] at passed
  rw [layout, unprotect_replayed verified established integrity passed]

lemma deliver_unverified
  (integrity : ctx.algorithms.integrity = 1 ∨ ctx.algorithms.integrity = 2 ∨
    ctx.algorithms.integrity = 3)
  (unverified : ¬ Verifies crypt direction ctx sent.frame) :
  unprotectNasMessage crypt ctx direction sent.frame sent.ciphered =
    (ctx, .error .macVerificationFailed) := by
  obtain ⟨body, mac, -, -, layout⟩ := made
  obtain ⟨calculated, calculation⟩ := ctx.exists_calculateMac crypt integrity direction 1
    (ctx.candidate direction sent.count.sqn).value (sent.count.sqn :: body)
  rw [layout, unprotect_forged calculation]
  rintro rfl
  exact unverified ⟨mac, _, body, layout, calculation⟩

end

end Receiver

structure Session (crypt : Primitives) (direction : UInt8)
  (sender receiver : NasSecurityContext) (messages : List (Bytes × Bool)) : Prop where
  sameKeys : receiver.SameKeys sender
  integrity : sender.algorithms.integrity = 1 ∨ sender.algorithms.integrity = 2 ∨
    sender.algorithms.integrity = 3
  sameCount : receiver.count direction = sender.count direction
  notEstablished : receiver.established direction = false
  restores : Restores crypt direction sender messages
  noWrap : (sender.count direction).value.toNat + messages.length ≤ 2 ^ 32

namespace Session

variable {sender receiver : NasSecurityContext} {messages : List (Bytes × Bool)}

section

variable (session : Session crypt direction sender receiver messages)

include session

lemma receiverIntegrity :
  receiver.algorithms.integrity = 1 ∨ receiver.algorithms.integrity = 2 ∨
    receiver.algorithms.integrity = 3 := by
  rw [session.sameKeys.algorithms]
  exact session.integrity

lemma frame (position : Fin (protectAll crypt direction sender messages).length)
  {ctx : NasSecurityContext} (same : ctx.SameKeys receiver) :
  let sent := (protectAll crypt direction sender messages)[position]
  ProtectedBy crypt direction ctx sent ∧ sent.count.value.toNat =
      (receiver.count direction).value.toNat + position.val ∧
    (sent.ciphered → ∀ text,
      ctx.cipher crypt direction 1 sent.count.value sent.message = .ok text →
      ctx.cipher crypt direction 1 sent.count.value text = .ok sent.message) := by
  intro sent
  have keys := same.trans session.sameKeys
  have found : (protectAll crypt direction sender messages)[position.val]? = some sent :=
    List.getElem?_eq_getElem position.isLt
  obtain ⟨made, number, membership⟩ := protectAll_getElem? session.noWrap found
  refine ⟨made.sameKeys ⟨keys.algorithms.symm, keys.knasEnc.symm, keys.knasInt.symm⟩,
    by rw [session.sameCount]; exact number, ?_⟩
  intro ciphered text enciphered
  rw [ciphered] at membership
  rw [keys.cipher crypt] at enciphered ⊢
  exact session.restores _ membership _ _ enciphered

lemma value_sent (position : Fin (protectAll crypt direction sender messages).length)
  {ctx : NasSecurityContext} (same : ctx.SameKeys receiver) :
  (protectAll crypt direction sender messages)[position].count.value.toNat =
    (receiver.count direction).value.toNat + position.val :=
  (session.frame position same).2.1

lemma first {position : Fin (protectAll crypt direction sender messages).length}
  (zero : position.val = 0) :
  let sent := protectAll crypt direction sender messages
  (deliver crypt direction sent).step receiver position =
    (receiver.commit direction sent[position].count, .ok sent[position].message) := by
  intro sent
  obtain ⟨made, number, restores⟩ := session.frame position (.refl receiver)
  refine deliver_fresh made restores ?_ (.inl session.notEstablished)
  exact NasCount.estimate_ahead number (by omega)

end

variable {furthest position : Fin (protectAll crypt direction sender messages).length}

section

variable (session : Session crypt direction sender receiver messages)

include session

lemma ahead (later : furthest.val < position.val) (window : position.val ≤ furthest.val + 128) :
  let sent := protectAll crypt direction sender messages
  (deliver crypt direction sent).step (receiver.commit direction sent[furthest].count) position =
    (receiver.commit direction sent[position].count, .ok sent[position].message) := by
  intro sent
  have same := receiver.commit_sameKeys direction sent[furthest].count
  have reached : sent[furthest].count.value.toNat = _ := session.value_sent furthest same
  have number : sent[position].count.value.toNat = _ := session.value_sent position same
  obtain ⟨made, -, restores⟩ := session.frame position same
  have recognised : (receiver.commit direction sent[furthest].count).candidate direction
      sent[position].count.sqn = sent[position].count := by
    rw [candidate, commit_count]
    have ahead : sent[position].count.value.toNat =
        sent[furthest].count.value.toNat + (position.val - furthest.val) := by omega
    exact NasCount.estimate_ahead ahead (by omega)
  have forward : sent[furthest].count.value < sent[position].count.value := by
    rw [UInt32.lt_iff_toNat_lt]
    omega
  have answer := deliver_fresh made restores recognised
    (.inr (by rw [commit_count]; exact forward))
  rw [commit_commit] at answer
  exact answer

lemma behind (earlier : position.val ≤ furthest.val)
  (window : furthest.val ≤ position.val + 127) :
  let sent := protectAll crypt direction sender messages
  (deliver crypt direction sent).step (receiver.commit direction sent[furthest].count) position =
    (receiver.commit direction sent[furthest].count, .error .replayedSequenceNumber) := by
  intro sent
  have same := receiver.commit_sameKeys direction sent[furthest].count
  have reached : sent[furthest].count.value.toNat = _ := session.value_sent furthest same
  have number : sent[position].count.value.toNat = _ := session.value_sent position same
  obtain ⟨made, -, -⟩ := session.frame position same
  have recognised : (receiver.commit direction sent[furthest].count).candidate direction
      sent[position].count.sqn = sent[position].count := by
    rw [candidate, commit_count]
    have behind : sent[furthest].count.value.toNat =
        sent[position].count.value.toNat + (furthest.val - position.val) := by omega
    exact NasCount.estimate_behind behind (by omega)
  refine deliver_stale made recognised (by simp) ?_ ?_
  · rw [same.algorithms]
    rcases session.receiverIntegrity with algorithm | algorithm | algorithm <;>
      rw [algorithm] <;> decide
  · rw [commit_count, UInt32.le_iff_toNat_le]
    omega

lemma farBehind :
  let sent := protectAll crypt direction sender messages
  ¬ Verifies crypt direction (receiver.commit direction sent[furthest].count)
    sent[position].frame →
  (deliver crypt direction sent).step (receiver.commit direction sent[furthest].count) position =
    (receiver.commit direction sent[furthest].count, .error .macVerificationFailed) := by
  intro sent unverified
  have same := receiver.commit_sameKeys direction sent[furthest].count
  obtain ⟨made, -, -⟩ := session.frame position same
  refine deliver_unverified made ?_ unverified
  rw [same.algorithms]
  exact session.receiverIntegrity

end

end Session

/-- The channel keeps step with a high-water mark over the positions: every
frame above the mark is answered with the sender's message and leaves the
sender's COUNT behind, every other one is refused and changes nothing. -/
theorem channel_agreement {sender receiver : NasSecurityContext}
  {messages : List (Bytes × Bool)}
  (session : Session crypt direction sender receiver messages)
  {deliveries : List (Fin (protectAll crypt direction sender messages).length)}
  (delivered : (highWater _).Along
    (Deliverable crypt direction receiver (protectAll crypt direction sender messages))
    none deliveries) :
  let sent := protectAll crypt direction sender messages
  List.Forall₂
    (fun mark receives =>
      receives.1 = receiverAt direction receiver sent mark.1 ∧ AnswersWith sent mark.2 receives.2)
    ((highWater (Fin sent.length)).trace none deliveries)
    ((deliver crypt direction sent).trace receiver deliveries) := by
  intro sent
  refine (highWater (Fin sent.length)).simulation (deliver crypt direction sent)
    (fun mark ctx => ctx = receiverAt direction receiver sent mark) (AnswersWith sent)
    ?_ rfl delivered
  rintro mark ctx position rfl deliverable
  cases mark with
  | none =>
    rw [highWater_accepts (below_none position)]
    have step := session.first deliverable
    exact ⟨congrArg fst step, congrArg snd step⟩
  | some furthest =>
    rcases deliverable with ⟨later, window⟩ | ⟨earlier, stale⟩
    · rw [highWater_accepts ((below_some furthest position).mpr later)]
      have step := session.ahead later window
      exact ⟨congrArg fst step, congrArg snd step⟩
    · have notAbove : ¬ Below (some furthest) position := fun above =>
        absurd ((below_some furthest position).mp above) (Nat.not_lt.mpr earlier)
      rw [highWater_refuses notAbove]
      rcases stale with window | unverified
      · have step := session.behind earlier window
        exact ⟨congrArg fst step, _, congrArg snd step⟩
      · have step := session.farBehind unverified
        exact ⟨congrArg fst step, _, congrArg snd step⟩

/-- A downlink channel under 128-NIA1 and 128-NEA1, three messages, of which the
second is lost and the first and the third arrive twice. -/
theorem channel_agreement_sample :
  let key : Key := Vector.replicate 16 7
  let ctx := new ⟨1, 1⟩ key key
  let sent := protectAll .sample 1 ctx [([0x7e], false), ([0x7e, 1], true), ([0x7e, 2], true)]
  let deliveries : List (Fin sent.length) :=
    [⟨0, by decide⟩, ⟨0, by decide⟩, ⟨2, by decide⟩, ⟨0, by decide⟩, ⟨2, by decide⟩]
  List.Forall₂
    (fun mark receives =>
      receives.1 = receiverAt 1 ctx sent mark.1 ∧ AnswersWith sent mark.2 receives.2)
    ((highWater (Fin sent.length)).trace none deliveries)
    ((deliver .sample 1 sent).trace ctx deliveries) := by
  intro key ctx sent deliveries
  have session : Session .sample 1 ctx ctx
      [([0x7e], false), ([0x7e, 1], true), ([0x7e, 2], true)] :=
    { sameKeys := .refl ctx
      integrity := .inl rfl
      sameCount := rfl
      notEstablished := rfl
      restores := restores_of_short (fun algorithm => absurd algorithm (by decide))
      noWrap := by decide }
  refine channel_agreement session ⟨rfl, .inr ⟨?_, .inl ?_⟩, .inl ⟨?_, ?_⟩,
    .inr ⟨?_, .inl ?_⟩, .inr ⟨?_, .inl ?_⟩, trivial⟩ <;> decide

end NextGCore.Nas
