import NextGCore.Sbi.Message
import NextGCore.Sbi.Text

/-!
# EAP-AKA'

`eap_aka_prime.rs`: the packets, the key hierarchy, and the session that the
AUSF keeps between its challenge and the answer of the UE.  HMAC-SHA-256 and
the key derivations of `nextgcore-crypt` are parameters.
-/

namespace NextGCore.Ausf

open Sbi
open Crypt (Bytes)

variable {fuel : ℕ} {octets raw : Bytes} {ending : Ending} {accepted : Bool}

structure AusfPrimitives where
  hmacSha256 : Bytes → Bytes → Vector UInt8 32
  /-- `nextgcore_kdf_hxres_star(rand, xres_star)`. -/
  kdfHxresStar : Vector UInt8 16 → Vector UInt8 16 → Vector UInt8 16
  /-- `nextgcore_kdf_kseaf(serving_network_name, kausf)`. -/
  kdfKseaf : String → Vector UInt8 32 → Vector UInt8 32

variable {primitives : AusfPrimitives}

def octetsAt (count offset : ℕ) (bytes : Bytes) : Vector UInt8 count :=
  .ofFn fun index => bytes.getD (offset + index.val) 0

def fromBe16 (high low : UInt8) : ℕ :=
  256 * high.toNat + low.toNat

def toBe16 (value : ℕ) : Bytes :=
  [UInt8.ofNat (value / 256), UInt8.ofNat value]

inductive EapCode where
  | request
  | response
  | success
  | failure
  deriving DecidableEq

namespace EapCode

def toU8 : EapCode → UInt8
  | request => 1
  | response => 2
  | success => 3
  | failure => 4

def fromU8 (octet : UInt8) : Option EapCode :=
  if octet = 1 then some request
  else if octet = 2 then some response
  else if octet = 3 then some success
  else if octet = 4 then some failure
  else none

end EapCode

inductive EapType where
  | identity
  | notification
  | nak
  | akaPrime

namespace EapType

def toU8 : EapType → UInt8
  | identity => 1
  | notification => 2
  | nak => 3
  | akaPrime => 50

def fromU8 (octet : UInt8) : Option EapType :=
  if octet = 1 then some identity
  else if octet = 2 then some notification
  else if octet = 3 then some nak
  else if octet = 50 then some akaPrime
  else none

end EapType

inductive AkaPrimeSubtype where
  | challenge
  | authenticationReject
  | synchronizationFailure
  | identity
  | notification
  | reauthenticationReq
  | clientError
  deriving DecidableEq

namespace AkaPrimeSubtype

def toU8 : AkaPrimeSubtype → UInt8
  | challenge => 1
  | authenticationReject => 2
  | synchronizationFailure => 4
  | identity => 5
  | notification => 12
  | reauthenticationReq => 13
  | clientError => 14

def fromU8 (octet : UInt8) : Option AkaPrimeSubtype :=
  if octet = 1 then some challenge
  else if octet = 2 then some authenticationReject
  else if octet = 4 then some synchronizationFailure
  else if octet = 5 then some identity
  else if octet = 12 then some notification
  else if octet = 13 then some reauthenticationReq
  else if octet = 14 then some clientError
  else none

end AkaPrimeSubtype

inductive AkaPrimeAttribute where
  | atRand
  | atAutn
  | atRes
  | atAuts
  | atMac
  | atKdfInput
  | atKdf
  | atBidding

def AkaPrimeAttribute.toU8 : AkaPrimeAttribute → UInt8
  | atRand => 1
  | atAutn => 2
  | atRes => 3
  | atAuts => 4
  | atMac => 11
  | atKdfInput => 23
  | atKdf => 24
  | atBidding => 136

structure EapPacket where
  code : EapCode
  identifier : UInt8
  eapType : Option EapType
  subtype : Option AkaPrimeSubtype
  attributes : List (UInt8 × Bytes)

/-- The attributes of a packet, from the octets after its header; `fuel` bounds
their number.  An attribute of length zero is sliced backwards: a panic. -/
def parseAttributes : ℕ → Bytes → Except Ending (List (UInt8 × Bytes))
  | fuel + 1, attrType :: words :: rest =>
    let size := 4 * words.toNat
    if rest.length + 2 < size then .ok []
    else if size = 0 then .error .panic
    else
      (parseAttributes fuel (rest.drop (size - 2))).map ((attrType, rest.take (size - 2)) :: ·)
  | _, _ => .ok []

def macOffset : ℕ → ℕ → Bytes → Option ℕ
  | fuel + 1, offset, attrType :: words :: rest =>
    let size := 4 * words.toNat
    if size = 0 ∨ rest.length + 2 < size then none
    else if attrType = AkaPrimeAttribute.atMac.toU8 ∧ 20 ≤ size then some (offset + 4)
    else macOffset fuel (offset + size) (rest.drop (size - 2))
  | _, _, _ => none

namespace EapPacket

def decode (data : Bytes) : Except Ending (Option EapPacket) :=
  match data with
  | codeOctet :: identifier :: lengthHigh :: lengthLow :: _ =>
    match EapCode.fromU8 codeOctet with
    | none => .ok none
    | some code =>
      let length := fromBe16 lengthHigh lengthLow
      if data.length < length then .ok none
      else
        match code with
        | .success | .failure => .ok (some ⟨code, identifier, none, none, []⟩)
        | .request | .response =>
          match data.take length with
          | _ :: _ :: _ :: _ :: typeOctet :: subtypeOctet :: _ :: _ :: octets =>
            match EapType.fromU8 typeOctet, AkaPrimeSubtype.fromU8 subtypeOctet with
            | some eapType, some subtype =>
              (parseAttributes octets.length octets).map fun attributes =>
                some ⟨code, identifier, some eapType, some subtype, attributes⟩
            | _, _ => .ok none
          -- A length below eight.
          | _ => .ok none
  | _ => .ok none

def findAttribute (packet : EapPacket) (attrType : AkaPrimeAttribute) : Option Bytes :=
  (packet.attributes.find? fun entry => entry.1 == attrType.toU8).map Prod.snd

def newAkaChallenge (identifier : UInt8) (rand autn : Vector UInt8 16) (kdfInput : String)
  (mac : Vector UInt8 16) : EapPacket :=
  let kdfBytes := asBytes kdfInput
  let kdfAttr := toBe16 kdfBytes.length ++ kdfBytes
  { code := .request
    identifier := identifier
    eapType := some .akaPrime
    subtype := some .challenge
    attributes :=
      [(AkaPrimeAttribute.atRand.toU8, [0, 0] ++ rand.toList),
        (AkaPrimeAttribute.atAutn.toU8, [0, 0] ++ autn.toList),
        (AkaPrimeAttribute.atKdfInput.toU8,
          kdfAttr ++ List.replicate ((4 - (kdfAttr.length + 2) % 4) % 4) 0),
        (AkaPrimeAttribute.atKdf.toU8, [0, 1]),
        (AkaPrimeAttribute.atMac.toU8, [0, 0] ++ mac.toList)] }

def encodeAttribute (entry : UInt8 × Bytes) : Bytes :=
  let size := entry.2.length + 2
  entry.1 :: UInt8.ofNat ((size + 3) / 4) :: entry.2 ++ List.replicate ((4 - size % 4) % 4) 0

def encode (packet : EapPacket) : Bytes :=
  match packet.code with
  | .success | .failure => [packet.code.toU8, packet.identifier, 0, 4]
  | .request | .response =>
    let data := packet.attributes.flatMap encodeAttribute
    [packet.code.toU8, packet.identifier] ++ toBe16 (8 + data.length) ++
      [(packet.eapType.getD .akaPrime).toU8, (packet.subtype.getD .challenge).toU8, 0, 0] ++
      data

def setMac (packet : EapPacket) (mac : Vector UInt8 16) : EapPacket :=
  { packet with
    attributes := packet.attributes.map fun (attrType, data) =>
      if attrType = AkaPrimeAttribute.atMac.toU8 ∧ 18 ≤ data.length
      then (attrType, data.take 2 ++ mac.toList ++ data.drop 18)
      else (attrType, data) }

def receivedMac (packet : EapPacket) : Option Bytes :=
  match packet.findAttribute .atMac with
  | some data => if 18 ≤ data.length then some ((data.drop 2).take 16) else none
  | none => none

def receivedRes (packet : EapPacket) : Option Bytes :=
  match packet.findAttribute .atRes with
  | some (bitsHigh :: bitsLow :: value) =>
    let size := (fromBe16 bitsHigh bitsLow + 7) / 8
    if value.length < size then none else some (value.take size)
  | _ => none

end EapPacket

def zeroAtMac (raw : Bytes) : Option Bytes :=
  match raw with
  | _ :: _ :: lengthHigh :: lengthLow :: _ :: _ :: _ :: _ :: _ =>
    let length := fromBe16 lengthHigh lengthLow
    if raw.length < length then none
    else
      let octets := (raw.take length).drop 8
      (macOffset octets.length 8 octets).map fun offset =>
        raw.take offset ++ List.replicate 16 0 ++ raw.drop (offset + 16)
  | _ => none

section Keys

variable (primitives : AusfPrimitives)

def prfPrimeBlocks (key seed : Bytes) : ℕ → UInt8 → Bytes → Bytes
  | 0, _, _ => []
  | rounds + 1, counter, previous =>
    let block := (primitives.hmacSha256 key (previous ++ seed ++ [counter])).toList
    block ++ prfPrimeBlocks key seed rounds (counter + 1) block

def prfPrime (key seed : Bytes) (outLen : ℕ) : Bytes :=
  (prfPrimeBlocks primitives key seed ((outLen + 31) / 32) 1 []).take outLen

def deriveKeysAkaPrime (ckPrime ikPrime : Vector UInt8 16) (identity : String) :
  Vector UInt8 32 × Vector UInt8 64 :=
  let masterKey := prfPrime primitives (ikPrime.toList ++ ckPrime.toList)
    (asBytes "EAP-AKA'" ++ asBytes identity) 208
  (octetsAt 32 16 masterKey, octetsAt 64 144 masterKey)

def kausfFromEmsk (emsk : Vector UInt8 64) : Vector UInt8 32 :=
  octetsAt 32 0 emsk.toList

def computeMac (kAut : Vector UInt8 32) (eapData : Bytes) : Bytes :=
  (primitives.hmacSha256 kAut.toList eapData).toList.take 16

end Keys

inductive EapAkaState where
  | identity
  | challenge
  | success
  | failure

inductive KdfNegotiation where
  | accept
  | renegotiate (kdf : ℕ)
  | unsupported (kdf : ℕ)
  | biddingDown

def supportedAtKdfs : List ℕ := [1]

def negotiateKdf (offered : ℕ) (supported : List ℕ) (requested : ℕ)
  (alreadyRenegotiated : Bool) : KdfNegotiation :=
  if requested = offered then .accept
  else if supported.contains requested ∧ ¬ alreadyRenegotiated then .renegotiate requested
  else .unsupported requested

structure EapAkaSession where
  state : EapAkaState
  identifier : UInt8
  rand : Vector UInt8 16
  autn : Vector UInt8 16
  xres : Bytes
  ckPrime : Vector UInt8 16
  ikPrime : Vector UInt8 16
  kausf : Vector UInt8 32
  kAut : Vector UInt8 32
  identity : String
  servingNetworkName : String
  offeredKdf : ℕ
  kdfRenegotiated : Bool

namespace EapAkaSession

def new (servingNetworkName : String) : EapAkaSession where
  state := .identity
  identifier := 0
  rand := .replicate 16 0
  autn := .replicate 16 0
  xres := []
  ckPrime := .replicate 16 0
  ikPrime := .replicate 16 0
  kausf := .replicate 32 0
  kAut := .replicate 32 0
  identity := ""
  servingNetworkName := servingNetworkName
  offeredKdf := 1
  kdfRenegotiated := false

def checkKdfAndBidding (session : EapAkaSession) (response : EapPacket) : KdfNegotiation :=
  let biddingDown :=
    match response.findAttribute .atBidding with
    | some (flags :: _ :: _) => flags &&& 0x80 != 0
    | _ => false
  if biddingDown then .biddingDown
  else
    match response.findAttribute .atKdf with
    | some (high :: low :: _) =>
      negotiateKdf session.offeredKdf supportedAtKdfs (fromBe16 high low) session.kdfRenegotiated
    | _ => .accept

variable (primitives : AusfPrimitives)

def initFromTransformedAv (session : EapAkaSession) (rand autn : Vector UInt8 16) (xres : Bytes)
  (ckPrime ikPrime : Vector UInt8 16) (identity : String) : EapAkaSession :=
  let (kAut, emsk) := deriveKeysAkaPrime primitives ckPrime ikPrime identity
  { session with
    rand := rand
    autn := autn
    xres := xres
    ckPrime := ckPrime
    ikPrime := ikPrime
    identity := identity
    kAut := kAut
    kausf := kausfFromEmsk emsk
    state := .challenge
    identifier := session.identifier + 1 }

def generateChallenge (session : EapAkaSession) : EapPacket :=
  let packet := EapPacket.newAkaChallenge session.identifier session.rand session.autn
    session.servingNetworkName (.replicate 16 0)
  packet.setMac (octetsAt 16 0 (computeMac primitives session.kAut packet.encode))

def processChallengeResponse (session : EapAkaSession) (response : EapPacket) :
  Bool × EapAkaSession :=
  let accepted :=
    response.code == .response && response.subtype == some .challenge &&
      response.receivedRes == some session.xres
  (accepted, { session with state := if accepted then .success else .failure })

def processChallengeResponseBytes (session : EapAkaSession) (raw : Bytes) :
  Except Ending (Bool × EapAkaSession) :=
  (EapPacket.decode raw).map fun decoded =>
    let failed := (false, { session with state := .failure })
    match decoded with
    | none => failed
    | some packet =>
      if packet.code = .response ∧ packet.subtype = some .challenge then
        match zeroAtMac raw, packet.receivedMac with
        | some zeroed, some mac =>
          if computeMac primitives session.kAut zeroed = mac
          then session.processChallengeResponse packet
          else failed
        | _, _ => failed
      else session.processChallengeResponse packet

end EapAkaSession

variable {session next : EapAkaSession}

/-- An EAP-Response/AKA'-Challenge whose AT_MAC is right under `kAut` and whose
RES is `xres`. -/
def ValidChallengeResponse (primitives : AusfPrimitives) (kAut : Vector UInt8 32)
  (xres raw : Bytes) : Prop :=
  ∃ packet zeroed, EapPacket.decode raw = .ok (some packet) ∧ packet.code = .response ∧
      packet.subtype = some .challenge ∧ zeroAtMac raw = some zeroed ∧
      packet.receivedMac = some (computeMac primitives kAut zeroed) ∧
      packet.receivedRes = some xres

lemma parseAttributes_error (failed : parseAttributes fuel octets = .error ending) :
  ending = .panic := by
  induction fuel generalizing octets with
  | zero => cases failed
  | succ fuel ih =>
    match octets with
    | [] | [_] => cases failed
    | attrType :: words :: rest =>
      rw [parseAttributes] at failed
      split at failed
      · cases failed
      · split at failed
        · exact (Except.error.inj failed).symm
        · exact ih (error_of_map failed)

lemma decode_error (failed : EapPacket.decode raw = .error ending) : ending = .panic := by
  unfold EapPacket.decode at failed
  split at failed
  · split at failed
    · cases failed
    · simp only at failed
      split at failed
      · cases failed
      · split at failed
        · cases failed
        · cases failed
        · split at failed
          · split at failed
            · exact parseAttributes_error (error_of_map failed)
            · cases failed
          · cases failed
        · split at failed
          · split at failed
            · exact parseAttributes_error (error_of_map failed)
            · cases failed
          · cases failed
  · cases failed

lemma decode_body {packet : EapPacket} {subtype : AkaPrimeSubtype}
  (decoded : EapPacket.decode raw = .ok (some packet)) (typed : packet.subtype = some subtype) :
  ∃ code high low eapType subtypeOctet rest octets,
    raw = code :: packet.identifier :: high :: low :: eapType :: subtypeOctet :: rest ∧
      AkaPrimeSubtype.fromU8 subtypeOctet = some subtype ∧
      EapType.fromU8 eapType = packet.eapType ∧ fromBe16 high low ≤ raw.length ∧
      (raw.take (fromBe16 high low)).drop 8 = octets ∧
      8 + octets.length = fromBe16 high low ∧
      parseAttributes octets.length octets = .ok packet.attributes := by
  unfold EapPacket.decode at decoded
  split at decoded
  · next codeOctet identifier high low rest =>
      split at decoded
      · cases decoded
      · simp only at decoded
        split at decoded
        · cases decoded
        · next fits =>
          split at decoded
          · cases decoded
            cases typed
          · cases decoded
            cases typed
          all_goals
            split at decoded
            · next typeOctet subtypeOctet _ _ octets taken =>
                split at decoded
                · next eapType subtype knownType known =>
                    obtain ⟨attributes, parsed, built⟩ := ok_of_map decoded
                    cases built
                    have whole := List.take_append_drop (fromBe16 high low)
                      (codeOctet :: identifier :: high :: low :: rest)
                    have size := congrArg List.length taken
                    rw [List.length_take] at size
                    simp only [List.length_cons] at size fits
                    rw [taken] at whole
                    simp only [List.cons_append, List.cons.injEq] at whole
                    obtain ⟨-, -, -, -, body⟩ := whole
                    refine ⟨codeOctet, high, low, typeOctet, subtypeOctet, _, octets,
                      congrArg (codeOctet :: identifier :: high :: low :: ·) body.symm,
                      known.trans typed, knownType, ?_, ?_, ?_, parsed⟩
                    · simp only [List.length_cons]
                      omega
                    · rw [taken]
                      rfl
                    · omega
                · cases decoded
            · cases decoded
  · cases decoded

lemma processChallengeResponseBytes_error
  (failed : session.processChallengeResponseBytes primitives raw = .error ending) :
  ending = .panic :=
  decode_error (error_of_map failed)

lemma processChallengeResponse_accepts {response : EapPacket}
  (accepted : session.processChallengeResponse response = (true, next)) :
  response.code = .response ∧ response.subtype = some .challenge ∧
    response.receivedRes = some session.xres := by
  have holds := congrArg Prod.fst accepted
  simpa [EapAkaSession.processChallengeResponse, and_assoc] using holds

lemma processChallengeResponseBytes_accepts
  (accepted : session.processChallengeResponseBytes primitives raw = .ok (true, next)) :
  ValidChallengeResponse primitives session.kAut session.xres raw := by
  unfold EapAkaSession.processChallengeResponseBytes at accepted
  cases decoded : EapPacket.decode raw with
  | error ending =>
    rw [decoded] at accepted
    cases accepted
  | ok result =>
    rw [decoded] at accepted
    have verdict := Except.ok.inj accepted
    cases result with
    | none => cases verdict
    | some packet =>
      simp only at verdict
      split at verdict
      · next challenge =>
          split at verdict
          · next zeroed mac zeroedRead macRead =>
              split at verdict
              · next macMatches =>
                  have res := (processChallengeResponse_accepts verdict).2.2
                  rw [← macMatches] at macRead
                  exact ⟨packet, zeroed, decoded, challenge.1, challenge.2, zeroedRead,
                    macRead, res⟩
              · cases verdict
          · cases verdict
      · next other =>
          have accepts := processChallengeResponse_accepts verdict
          exact absurd ⟨accepts.1, accepts.2.1⟩ other

lemma processChallengeResponseBytes_of_valid
  (valid : ValidChallengeResponse primitives session.kAut session.xres raw) :
  session.processChallengeResponseBytes primitives raw =
    .ok (true, { session with state := .success }) := by
  obtain ⟨packet, zeroed, decoded, code, subtype, zeroedRead, mac, res⟩ := valid
  simp only [EapAkaSession.processChallengeResponseBytes, decoded, Except.map, code, subtype,
    and_self, if_true, zeroedRead, mac, EapAkaSession.processChallengeResponse, res,
    beq_self_eq_true, Bool.and_self]

section

variable (processed : session.processChallengeResponseBytes primitives raw = .ok (accepted, next))

include processed

lemma processChallengeResponseBytes_state :
  next = { session with state := if accepted then .success else .failure } := by
  have rejected : ∀ {result : Bool × EapAkaSession},
      result = (accepted, next) → result = (false, { session with state := .failure }) →
        next = { session with state := if accepted then .success else .failure } := by
    rintro _ rfl isFailure
    obtain ⟨rfl, rfl⟩ := Prod.mk.injEq _ _ _ _ ▸ isFailure
    rfl
  have concluded : ∀ {packet : EapPacket},
      session.processChallengeResponse packet = (accepted, next) →
        next = { session with state := if accepted then .success else .failure } := by
    intro packet verdict
    obtain ⟨rfl, rfl⟩ := Prod.mk.injEq _ _ _ _ ▸ verdict
    rfl
  unfold EapAkaSession.processChallengeResponseBytes at processed
  cases decoded : EapPacket.decode raw with
  | error ending =>
    rw [decoded] at processed
    cases processed
  | ok result =>
    rw [decoded] at processed
    have verdict := Except.ok.inj processed
    cases result with
    | none => exact rejected verdict rfl
    | some packet =>
      simp only at verdict
      split at verdict
      · split at verdict
        · split at verdict
          · exact concluded verdict
          · exact rejected verdict rfl
        · exact rejected verdict rfl
      · exact concluded verdict

lemma processChallengeResponseBytes_session : ∃ state, next = { session with state := state } :=
  ⟨_, processChallengeResponseBytes_state processed⟩

end

end NextGCore.Ausf
