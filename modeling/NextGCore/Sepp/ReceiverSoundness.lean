import NextGCore.Sepp.PrinsReceiver
import NextGCore.Sepp.ReplayWindow

/-!
# What a PRINS receiver accepts

An accepted message has passed every check, and no SEQ of a sequence space is accepted
twice.  The SEQ of an authentic message is used up before the message is rebuilt, so a
message that is refused after that has used it up too.
-/

namespace NextGCore.Sepp

open Crypt (Bytes)
open Library Sbi Function

/-- The JWE opens under this key, with its header and AAD as they were sent. -/
def Opens (prins : Prins) (key : Bytes) (jwe : FlatJwe) (plaintext : Bytes) : Prop :=
  ∃ enc : JweEnc, ∃ iv ciphertext tag : Bytes,
    prins.b64urlDecode jwe.iv = .ok iv ∧ prins.b64urlDecode jwe.ciphertext = .ok ciphertext ∧
      prins.b64urlDecode jwe.tag = .ok tag ∧
      prins.gcmDecrypt enc (key.take enc.keyLen) iv
        (Jose.jweAadInput jwe.protectedHeader jwe.aad) ciphertext tag = some plaintext

/-- The entry is signed with the registered key of the identity that it claims, for this
tag and for modifications that the policy allows. -/
structure VerifiedEntry (prins : Prins) (ctx : PrinsContext) (jweTag : String) (jws : FlatJws)
  (payload : ModificationsBlockPayload) : Prop where
  es256 : ∃ header octets, prins.b64urlDecode jws.protectedHeader = .ok octets ∧
    prins.jwsHeaders.read octets = .ok header ∧ header.alg = "ES256" ∧
      header.kid = some payload.identity
  verified : ∃ verifyingKey signature, ctx.verifyingKeyOf payload.identity = some verifyingKey ∧
    prins.b64urlDecode jws.signature = .ok signature ∧
      prins.es256Verify verifyingKey (Jose.signingInput jws) signature = true
  signed : ∃ octets, prins.b64urlDecode jws.payload = .ok octets ∧
    prins.modifications.read octets = .ok payload
  bound : payload.tag = jweTag
  allowed : ∀ operation ∈ payload.operations,
    Prins.operationPath operation ∈ ctx.modificationPolicy.allowedPaths

structure Authentic (prins : Prins) (ctx : PrinsContext) (direction : N32fDirection)
  (msg : N32fReformattedMessage) (message : Prins.Authenticated) : Prop where
  block : ∃ aad octets, msg.reformattedData.aad = some aad ∧
    prins.b64urlDecode aad = .ok octets ∧ prins.blocks.read octets = .ok message.block
  addressed : message.block.metaData.n32fContextId = ctx.localContextId
  opened : ∃ plaintext,
    Opens prins (ctx.unprotectKey direction).1.toList msg.reformattedData plaintext ∧
      prins.cipherBlocks.read plaintext = .ok ⟨message.dataToEncrypt⟩
  seq : prins.jweSeq msg.reformattedData = some message.seq
  modified : msg.modificationsBlock ≠ []
  entries : ∃ payloads,
    List.Forall₂ (VerifiedEntry prins ctx msg.reformattedData.tag) msg.modificationsBlock payloads ∧
      message.operations = payloads.flatMap ModificationsBlockPayload.operations

section Checks

variable {prins : Prins} {ctx : PrinsContext} {direction : N32fDirection}
  {msg : N32fReformattedMessage} {messageId : String} {operations : List Json} {jws : FlatJws}
  {octets : Bytes} {jweTag : String} {index : ℕ}

@[simp]
lemma decode_eq_ok_iff {text : String} :
  prins.decode text = .ok octets ↔ prins.b64urlDecode text = .ok octets :=
  mapError_eq_ok_iff

lemma opens_of_jweDecrypt {key plaintext : Bytes} {jwe : FlatJwe}
  (opened : prins.jweDecrypt key jwe = .ok plaintext) : Opens prins key jwe plaintext := by
  simp only [Jose.jweDecrypt, bind_eq_ok_iff, refuse_eq_ok_iff, given_eq_ok_iff,
    decode_eq_ok_iff] at opened
  obtain ⟨_, _, _, _, _, _, enc, _, _, _, iv, isIv, ciphertext, isCiphertext, tag, isTag, _, _, _,
    _, opens⟩ := opened
  exact ⟨enc, iv, ciphertext, tag, isIv, isCiphertext, isTag, opens⟩

lemma of_checkPolicy {identity : String} {done : Unit}
  (allowed : Prins.checkPolicy ctx messageId identity operations = .ok done) :
  ∀ operation ∈ operations,
    Prins.operationPath operation ∈ ctx.modificationPolicy.allowedPaths := by
  induction operations with
  | nil => simp
  | cons operation rest ih =>
    simp only [Prins.checkPolicy, bind_eq_ok_iff, refuse_eq_ok_iff, not_not] at allowed
    obtain ⟨_, first, others⟩ := allowed
    exact List.forall_mem_cons.mpr ⟨first, ih others⟩

lemma of_jwsPeekHeader {header : JwsHeader} (read : prins.jwsPeekHeader jws = .ok header) :
  ∃ octets, prins.b64urlDecode jws.protectedHeader = .ok octets ∧
    prins.jwsHeaders.read octets = .ok header := by
  simpa only [Jose.jwsPeekHeader, bind_eq_ok_iff, mapError_eq_ok_iff, decode_eq_ok_iff] using read

lemma of_jwsVerifyEs256 {verifyingKey : VerifyingKey}
  (verified : prins.jwsVerifyEs256 verifyingKey jws = .ok octets) :
  prins.b64urlDecode jws.payload = .ok octets ∧
    ∃ signature, prins.b64urlDecode jws.signature = .ok signature ∧
      prins.es256Verify verifyingKey (Jose.signingInput jws) signature = true := by
  simp only [Jose.jwsVerifyEs256, bind_eq_ok_iff, refuse_eq_ok_iff, decode_eq_ok_iff,
    Bool.not_eq_false] at verified
  obtain ⟨_, _, _, _, signature, isSignature, _, valid, payload⟩ := verified
  exact ⟨payload, signature, isSignature, valid⟩

lemma of_verifyEntry
  (verified : prins.verifyEntry ctx messageId jweTag index jws = .ok operations) :
  ∃ payload, VerifiedEntry prins ctx jweTag jws payload ∧ operations = payload.operations := by
  simp only [Prins.verifyEntry, bind_eq_ok_iff, refuse_eq_ok_iff, given_eq_ok_iff,
    mapError_eq_ok_iff, pure_eq_ok_iff, not_not] at verified
  obtain ⟨header, isHeader, _, isEs256, signer, isSigner, verifyingKey, registered, octets,
    signature, payload, isPayload, _, sameIdentity, _, bound, _, allowed, rfl⟩ := verified
  obtain ⟨signed, valid⟩ := of_jwsVerifyEs256 signature
  obtain ⟨headerOctets, decoded, isJson⟩ := of_jwsPeekHeader isHeader
  subst sameIdentity
  exact ⟨payload,
    { es256 := ⟨header, headerOctets, decoded, isJson, isEs256, isSigner⟩
      verified := ⟨verifyingKey, valid.choose, registered, valid.choose_spec⟩
      signed := ⟨octets, signed, isPayload⟩
      bound := bound
      allowed := of_checkPolicy allowed },
    rfl⟩

lemma of_verifyEntries {entries : List FlatJws}
  (verified : prins.verifyEntries ctx messageId jweTag index entries = .ok operations) :
  ∃ payloads, List.Forall₂ (VerifiedEntry prins ctx jweTag) entries payloads ∧
    operations = payloads.flatMap ModificationsBlockPayload.operations := by
  induction entries generalizing index operations with
  | nil =>
    obtain rfl := Except.ok.inj verified
    exact ⟨[], .nil, rfl⟩
  | cons jws rest ih =>
    simp only [Prins.verifyEntries, bind_eq_ok_iff, pure_eq_ok_iff] at verified
    obtain ⟨first, isFirst, others, areOthers, rfl⟩ := verified
    obtain ⟨payload, entry, rfl⟩ := of_verifyEntry isFirst
    obtain ⟨payloads, entries, rfl⟩ := ih areOthers
    exact ⟨payload :: payloads, .cons entry entries, by rw [List.flatMap_cons]⟩

lemma of_readBlock {block : DataToIntegrityProtectBlock}
  (read : prins.readBlock ctx msg = .ok block) :
  (∃ aad octets, msg.reformattedData.aad = some aad ∧ prins.b64urlDecode aad = .ok octets ∧
    prins.blocks.read octets = .ok block) ∧
      block.metaData.n32fContextId = ctx.localContextId := by
  simp only [Prins.readBlock, bind_eq_ok_iff, refuse_eq_ok_iff, given_eq_ok_iff, mapError_eq_ok_iff,
    decode_eq_ok_iff, pure_eq_ok_iff, not_not] at read
  obtain ⟨aad, isAad, octets, decoded, block, isBlock, _, addressed, rfl⟩ := read
  exact ⟨⟨aad, octets, isAad, decoded, isBlock⟩, addressed⟩

lemma authentic_of_authenticate {message : Prins.Authenticated}
  (authenticated : prins.authenticate ctx direction msg = .ok message) :
  Authentic prins ctx direction msg message := by
  simp only [Prins.authenticate, Prins.verifyModifications, Prins.openCipherBlock, Prins.readSeq,
    bind_eq_ok_iff, refuse_eq_ok_iff, given_eq_ok_iff, mapError_eq_ok_iff,
    pure_eq_ok_iff] at authenticated
  obtain ⟨block, isBlock, operations, ⟨_, modified, entries⟩, cipherBlock,
    ⟨plaintext, opened, isCipherBlock⟩, seq, isSeq, rfl⟩ := authenticated
  obtain ⟨read, addressed⟩ := of_readBlock isBlock
  exact {
    block := read
    addressed := addressed
    opened := ⟨plaintext, opens_of_jweDecrypt opened, isCipherBlock⟩
    seq := isSeq
    modified := modified
    entries := of_verifyEntries entries }

end Checks

/-- A message that arrives, and the context and direction that it is taken for. -/
structure Arrival where
  ctx : PrinsContext
  direction : N32fDirection
  msg : N32fReformattedMessage

structure UsedSeq where
  kid : String
  originator : N32fRole
  direction : N32fDirection
  seq : UInt32

namespace Prins

variable (prins : Prins)

def receive (windows : ReplayWindows) (arrival : Arrival) :
  Except N32fUnprotectError Unprotected × ReplayWindows :=
  prins.unprotectCommon arrival.ctx arrival.direction arrival.msg windows

def acceptedSeq (windows : ReplayWindows) (arrival : Arrival) : Option UsedSeq :=
  match (prins.receive windows arrival).1 with
  | .error _ => none
  | .ok _ =>
    (prins.jweSeq arrival.msg.reformattedData).map
      (⟨arrival.ctx.kid, arrival.ctx.role.opposite, arrival.direction, ·⟩)

def receiver : Machine ReplayWindows Arrival (Option UsedSeq) where
  step windows arrival := ((prins.receive windows arrival).2, prins.acceptedSeq windows arrival)

end Prins

def Spent (windows : ReplayWindows) (used : UsedSeq) : Prop :=
  (windows (seqKey used.kid used.originator used.direction)).Refuses used.seq

def freshWindows : ReplayWindows := fun _ => .new

section Steps

variable {prins : Prins} {windows : ReplayWindows} {arrival : Arrival} {ctx : PrinsContext}
  {used : UsedSeq}

def Arrival.uses (arrival : Arrival) (seq : UInt32) : UsedSeq :=
  ⟨arrival.ctx.kid, arrival.ctx.role.opposite, arrival.direction, seq⟩

def Prins.rebuild (prins : Prins) (arrival : Arrival) (message : Authenticated) :
  Except N32fUnprotectError Unprotected :=
  (prins.reassemble arrival.ctx message.block message.operations message.dataToEncrypt).map
    fun rebuilt => ⟨message.block, rebuilt.1, rebuilt.2⟩

lemma receive_cases (prins : Prins) (windows : ReplayWindows) (arrival : Arrival) :
  (∃ problem, prins.receive windows arrival = (.error problem, windows)) ∨
    ∃ message next, prins.authenticate arrival.ctx arrival.direction arrival.msg = .ok message ∧
      (windows (Prins.peerSeqKey arrival.ctx arrival.direction)).checkAndCommit message.seq =
        (.ok (), next) ∧
      prins.receive windows arrival = (prins.rebuild arrival message,
          update windows (Prins.peerSeqKey arrival.ctx arrival.direction) next) := by
  unfold Prins.receive Prins.unprotectCommon
  cases authenticated : prins.authenticate arrival.ctx arrival.direction arrival.msg with
  | error problem => exact .inl ⟨problem, rfl⟩
  | ok message =>
    dsimp only [checkRecvSeq]
    cases committed : (windows (Prins.peerSeqKey arrival.ctx arrival.direction)).checkAndCommit
        message.seq with
    | mk result next =>
      cases result with
      | error reason =>
        obtain rfl := ReplayWindow.eq_of_error committed
        exact .inl ⟨_, by rw [update_eq_self]⟩
      | ok => exact .inr ⟨message, next, rfl, committed, rfl⟩

lemma allowed_of_verified {jweTag : String} {entries : List FlatJws}
  {payloads : List ModificationsBlockPayload}
  (verified : List.Forall₂ (VerifiedEntry prins ctx jweTag) entries payloads) :
  ∀ operation ∈ payloads.flatMap ModificationsBlockPayload.operations,
    Prins.operationPath operation ∈ ctx.modificationPolicy.allowedPaths := by
  induction verified with
  | nil => simp
  | cons entry _ ih =>
    intro operation membership
    rw [List.flatMap_cons, List.mem_append] at membership
    exact membership.elim (entry.allowed operation) (ih operation)

lemma Authentic.operations_allowed {direction : N32fDirection} {msg : N32fReformattedMessage}
  {message : Prins.Authenticated} (authentic : Authentic prins ctx direction msg message) :
  ∀ operation ∈ message.operations,
    Prins.operationPath operation ∈ ctx.modificationPolicy.allowedPaths := by
  obtain ⟨payloads, verified, operations⟩ := authentic.entries
  rw [operations]
  exact allowed_of_verified verified

lemma Spent.after_receive (spent : Spent windows used) :
  Spent (prins.receive windows arrival).2 used := by
  rcases receive_cases prins windows arrival with ⟨problem, answer⟩ |
    ⟨message, next, -, committed, answer⟩
  · rwa [answer]
  · rw [answer]
    dsimp only [Spent] at spent ⊢
    by_cases same : seqKey used.kid used.originator used.direction =
        Prins.peerSeqKey arrival.ctx arrival.direction
    · rw [same, update_self]
      exact (same ▸ spent).after_ok committed
    · rwa [update_of_ne same]

lemma spent_of_commit {seq : UInt32} {next : ReplayWindow}
  (committed : (windows (Prins.peerSeqKey arrival.ctx arrival.direction)).checkAndCommit seq =
    (.ok (), next)) :
  ¬ Spent windows (arrival.uses seq) ∧
    Spent (update windows (Prins.peerSeqKey arrival.ctx arrival.direction) next)
      (arrival.uses seq) := by
  refine ⟨ReplayWindow.not_refuses_of_ok committed, ?_⟩
  change (update windows (Prins.peerSeqKey arrival.ctx arrival.direction) next
    (Prins.peerSeqKey arrival.ctx arrival.direction)).Refuses seq
  rw [update_self]
  exact ReplayWindow.refuses_of_ok committed

lemma acceptedSeq_eq_some (accepted : prins.acceptedSeq windows arrival = some used) :
  ¬ Spent windows used ∧ Spent (prins.receive windows arrival).2 used := by
  unfold Prins.acceptedSeq at accepted
  rcases receive_cases prins windows arrival with ⟨problem, answer⟩ |
    ⟨message, next, authenticated, committed, answer⟩
  · rw [answer] at accepted
    cases accepted
  · have seq := (authentic_of_authenticate authenticated).seq
    rw [answer] at accepted ⊢
    cases rebuilt : prins.rebuild arrival message with
    | error problem =>
      rw [rebuilt] at accepted
      cases accepted
    | ok unprotected =>
      rw [rebuilt, seq] at accepted
      obtain rfl : arrival.uses message.seq = used := Option.some.inj accepted
      exact spent_of_commit committed

end Steps

/-- An accepted message is authentic and rebuilt with operations that the policy allows.  A
message that is refused changes no window, unless it is authentic, its SEQ was fresh and it
is refused while it is rebuilt. -/
structure ReceivesSoundly (prins : Prins) (windows : ReplayWindows) (arrival : Arrival) :
  Prop where
  accepted : ∀ unprotected, (prins.receive windows arrival).1 = .ok unprotected →
    ∃ message, Authentic prins arrival.ctx arrival.direction arrival.msg message ∧
      (∀ operation ∈ message.operations,
        Prins.operationPath operation ∈ arrival.ctx.modificationPolicy.allowedPaths) ∧
      prins.rebuild arrival message = .ok unprotected
  refused : ∀ problem, (prins.receive windows arrival).1 = .error problem →
    (prins.receive windows arrival).2 = windows ∨
      ∃ message, Authentic prins arrival.ctx arrival.direction arrival.msg message ∧
        ¬ Spent windows (arrival.uses message.seq) ∧
        Spent (prins.receive windows arrival).2 (arrival.uses message.seq) ∧
        prins.rebuild arrival message = .error problem

lemma receivesSoundly (prins : Prins) (windows : ReplayWindows) (arrival : Arrival) :
  ReceivesSoundly prins windows arrival := by
  rcases receive_cases prins windows arrival with ⟨problem, answer⟩ |
    ⟨message, next, authenticated, committed, answer⟩
  · exact {
      accepted := fun unprotected accepted => by
        rw [answer] at accepted
        cases accepted
      refused := fun _ _ => .inl (congrArg Prod.snd answer) }
  · have authentic := authentic_of_authenticate authenticated
    obtain ⟨fresh, spent⟩ := spent_of_commit committed
    exact {
      accepted := fun unprotected accepted =>
        ⟨message, authentic, authentic.operations_allowed,
          (congrArg Prod.fst answer).symm.trans accepted⟩
      refused := fun problem refused =>
        .inr ⟨message, authentic, fresh, answer ▸ spent,
          (congrArg Prod.fst answer).symm.trans refused⟩ }

/-- In every sequence of messages the accepted ones are sound, and no SEQ of a sequence
space is accepted twice. -/
theorem receiver_sound (prins : Prins) (arrivals : List Arrival) :
  prins.receiver.Along (ReceivesSoundly prins) freshWindows arrivals ∧
    (prins.receiver.emitted Prod.snd freshWindows arrivals).Nodup := by
  refine ⟨prins.receiver.along_of_forall (receivesSoundly prins) _ _, ?_⟩
  have always : prins.receiver.Along (fun _ _ => True) freshWindows arrivals :=
    prins.receiver.along_of_forall (fun _ _ => trivial) freshWindows arrivals
  refine (prins.receiver.emitted_pairwise Spent ?_ ?_ ?_ always).1
  · rintro windows arrival used - accepted earlier spent rfl
    exact (acceptedSeq_eq_some accepted).1 spent
  · exact fun windows arrival used _ spent => spent.after_receive
  · exact fun windows arrival used _ accepted => (acceptedSeq_eq_some accepted).2

def oneMessage (block : DataToIntegrityProtectBlock) : Prins where
  b64urlEncode _ := ""
  b64urlDecode text := .ok (asBytes text)
  jweHeaders := ⟨fun _ => [], fun _ => .ok ⟨"dir", "A256GCM", none⟩⟩
  jwsHeaders := ⟨fun _ => [], fun _ => .ok ⟨"ES256", some "sepp.home"⟩⟩
  gcmEncrypt _ _ _ _ _ := .ok ([], [])
  gcmDecrypt _ _ _ _ _ _ := some []
  es256Sign _ _ := []
  es256Verify _ _ _ := true
  verifyingKey _ := []
  json := ⟨fun _ => [], fun _ => .ok .null⟩
  blocks := ⟨fun _ => [], fun _ => .ok block⟩
  cipherBlocks := ⟨fun _ => [], fun _ => .ok ⟨[]⟩⟩
  modifications := ⟨fun _ => [], fun _ => .ok ⟨"sepp.home", [], "0123456789abcdef"⟩⟩
  display _ := ""

def strangeBlock : DataToIntegrityProtectBlock where
  metaData := ⟨"visited-context", "message-1", "NULL", some ⟨"999", "70"⟩⟩
  requestLine := none
  statusLine := none
  headers := []
  payload := []

def visitedArrival : Arrival where
  ctx := {
    localContextId := "visited-context"
    peerContextId := "home-context"
    keyMaterial :=
      let keys : KeyPair := (.replicate 32 7, .replicate 8 1)
      ⟨keys, keys, keys, keys⟩
    role := .responder
    kid := "home-context-visited-context"
    localFqdn := "sepp.visited"
    localSigningKey := none
    peerVerifyingKeys := [("sepp.home", [])]
    profiles := []
    modificationPolicy := ⟨[]⟩
    jweEnc := .a256Gcm
    localPlmnIds := []
    peerPlmnIds := [⟨1, 1, 2⟩] }
  direction := .request
  msg := {
    reformattedData := ⟨"", some "", "12octetnonce", "", "0123456789abcdef"⟩
    modificationsBlock := [⟨"", "", ""⟩] }

/-- A message from a network that is not the peer's is refused, and its SEQ is used up. -/
theorem strange_plmn_uses_seq :
  let answer := (oneMessage strangeBlock).receive freshWindows visitedArrival
  answer.1.isOk = false ∧ answer.2 "home-context-visited-context|Initiator|Request" ≠
      freshWindows "home-context-visited-context|Initiator|Request" := by
  decide

end NextGCore.Sepp
