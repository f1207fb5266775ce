import NextGCore.Ausf.Handlers

/-!
# The EAP-AKA' session under any packets

`decode` and `zero_at_mac` walk the attributes of a packet on their own.  They
meet at the first AT_MAC, so the MAC that a session compares is over the packet
with that very field zeroed.  What a session does not look at is its own state,
its identifier, and the EAP type.
-/

namespace NextGCore.Ausf

open Sbi Library Vector AkaPrimeAttribute
open EapPacket (newAkaChallenge receivedMac)
open List (length_cons length_append cons_append length_take flatMap_cons mem_cons_self
  take_append_drop mem_cons)
open Crypt (Bytes)

variable {raw : Bytes} {session : EapAkaSession}

inductive OtherAttributes : Bytes → Prop where
  | nil : OtherAttributes []
  | cons {attrType words : UInt8} {value rest : Bytes} :
      attrType ≠ atMac.toU8 → value.length + 2 = 4 * words.toNat →
      OtherAttributes rest → OtherAttributes (attrType :: words :: value ++ rest)

/-- `octets` up to the value of their first AT_MAC, the value, and the rest. -/
def FirstMac (octets before mac after : Bytes) : Prop :=
  octets = before ++ mac ++ after ∧ mac.length = 16 ∧
    ∃ others words reserved, OtherAttributes others ∧ reserved.length = 2 ∧
      before = others ++ atMac.toU8 :: words :: reserved

lemma firstMac_of_walks {fuel : ℕ} {octets data : Bytes} {attributes : List (UInt8 × Bytes)}
  {offset position : ℕ} (parsed : parseAttributes fuel octets = .ok attributes)
  (found : (attributes.find? fun entry =>
    entry.1 == atMac.toU8).map Prod.snd = some data)
  (long : 18 ≤ data.length) (stopped : macOffset fuel offset octets = some position) :
  ∃ before after, FirstMac octets before ((data.drop 2).take 16) after ∧
    position = offset + before.length := by
  induction fuel generalizing octets attributes offset with
  | zero => cases stopped
  | succ fuel ih =>
    match octets with
    | [] | [_] => cases stopped
    | attrType :: words :: rest =>
      rw [parseAttributes] at parsed
      rw [macOffset] at stopped
      have whole : ¬ (4 * words.toNat = 0 ∨ rest.length + 2 < 4 * words.toNat) := by
        intro broken
        rw [if_pos broken] at stopped
        cases stopped
      rw [not_or] at whole
      rw [if_neg whole.2, if_neg whole.1] at parsed
      rw [if_neg (not_or.mpr whole)] at stopped
      obtain ⟨more, parsedMore, rfl⟩ := ok_of_map parsed
      have size : (rest.take (4 * words.toNat - 2)).length = 4 * words.toNat - 2 := by
        rw [length_take]
        omega
      by_cases isMac : attrType = atMac.toU8
      · -- The first AT_MAC, which has room for a MAC since its value does.
        have isData : rest.take (4 * words.toNat - 2) = data := by
          simpa [isMac] using found
        have fits : 20 ≤ 4 * words.toNat := by
          rw [← isData, size] at long
          omega
        rw [if_pos ⟨isMac, fits⟩] at stopped
        refine ⟨attrType :: words :: rest.take 2, rest.drop 18, ⟨?_, ?_, [], words,
          rest.take 2, .nil, ?_, ?_⟩, ?_⟩
        · have value : (data.drop 2).take 16 = (rest.drop 2).take 16 := by
            rw [← isData, List.drop_take, List.take_take]
            congr 1
            omega
          have last : rest.drop 18 = (rest.drop 2).drop 16 := by
            rw [List.drop_drop]
          rw [value, last, List.append_assoc, take_append_drop]
          exact congrArg (attrType :: words :: ·) (take_append_drop 2 rest).symm
        · rw [length_take, List.length_drop]
          omega
        · rw [length_take]
          omega
        · rw [isMac]
          rfl
        · rw [← Option.some.inj stopped]
          simp only [length_cons, length_take]
          omega
      · have other : (attrType == atMac.toU8) = false := by
          simpa using isMac
        rw [List.find?_cons, other] at found
        rw [if_neg (fun both => isMac both.1)] at stopped
        obtain ⟨before, after, ⟨split, macLength, others, words', reserved, areOthers, two,
          isBefore⟩, isPosition⟩ := ih parsedMore found stopped
        refine ⟨attrType :: words :: rest.take (4 * words.toNat - 2) ++ before, after,
          ⟨?_, macLength, attrType :: words :: rest.take (4 * words.toNat - 2) ++ others,
            words', reserved, ?_, two, ?_⟩, ?_⟩
        · have joined := take_append_drop (4 * words.toNat - 2) rest
          rw [split] at joined
          rw [List.append_assoc, List.append_assoc, ← List.append_assoc before]
          exact congrArg (attrType :: words :: ·) joined.symm
        · refine .cons isMac ?_ areOthers
          rw [size]
          omega
        · rw [isBefore, List.append_assoc]
        · rw [isPosition, length_append, length_cons, length_cons, size]
          omega

/-- The MAC in the first AT_MAC is right for the packet with that MAC zeroed. -/
def MacVerifies (primitives : AusfPrimitives) (kAut : Vector UInt8 32) (raw : Bytes) : Prop :=
  ∃ header octets trailing before mac after,
    raw = header ++ octets ++ trailing ∧ header.length = 8 ∧ FirstMac octets before mac after ∧
      computeMac primitives kAut
        (header ++ before ++ List.replicate 16 0 ++ after ++ trailing) = mac

lemma splice {start middle rest new : Bytes} {offset size : ℕ}
  (isOffset : offset = start.length) (isSize : middle.length = size) :
  (start ++ (middle ++ rest)).take offset ++ new ++
      (start ++ (middle ++ rest)).drop (offset + size) =
    start ++ new ++ rest := by
  subst isOffset isSize
  rw [List.take_left, ← List.append_assoc start middle, ← length_append, List.drop_left]

lemma macVerifies_of_valid {primitives : AusfPrimitives} {kAut : Vector UInt8 32} {xres : Bytes}
  (valid : ValidChallengeResponse primitives kAut xres raw) :
  MacVerifies primitives kAut raw := by
  obtain ⟨packet, zeroed, decoded, -, subtype, zeroedRead, macRead, -⟩ := valid
  obtain ⟨code, high, low, eapType, subtypeOctet, rest, octets, split, -, -, fits, isBody, size,
    parsed⟩ := decode_body decoded subtype
  unfold receivedMac at macRead
  split at macRead
  · next data found =>
      split at macRead
      · next long =>
          have isMac := Option.some.inj macRead
          have stopped : (macOffset octets.length 8 octets).map (fun offset =>
              raw.take offset ++ List.replicate 16 0 ++ raw.drop (offset + 16)) = some zeroed := by
            rw [← isBody, ← zeroedRead, split]
            match rest with
            | [] | [_] =>
              rw [split] at fits
              simp only [length_cons, List.length_nil] at fits
              omega
            | _ :: _ :: _ =>
              rw [split] at fits
              exact (if_neg (Nat.not_lt.mpr fits)).symm
          obtain ⟨offset, stopped, isZeroed⟩ := Option.map_eq_some_iff.mp stopped
          obtain ⟨before, after, first, rfl⟩ := firstMac_of_walks parsed found long stopped
          rw [isMac] at first
          -- The packet is its header, its attributes and what follows them.
          have header : (raw.take 8).length = 8 := by
            rw [length_take]
            omega
          have whole : raw = raw.take 8 ++ octets ++ raw.drop (fromBe16 high low) := by
            have body := take_append_drop 8 (raw.take (fromBe16 high low))
            rw [List.take_take, Nat.min_eq_left (by omega), isBody] at body
            rw [body, take_append_drop]
          refine ⟨raw.take 8, octets, raw.drop (fromBe16 high low), before, _, after, whole,
            header, first, ?_⟩
          generalize raw.take 8 = start, raw.drop (fromBe16 high low) = trailing at whole header ⊢
          have asParts : raw =
              start ++ before ++ (computeMac primitives kAut zeroed ++ (after ++ trailing)) := by
            rw [whole, first.1]
            simp only [List.append_assoc]
          rw [asParts, splice (by rw [length_append, header]) first.2.1] at isZeroed
          rw [List.append_assoc]
          exact congrArg (computeMac primitives kAut) isZeroed
      · cases macRead
  · cases macRead

variable (primitives : AusfPrimitives)

/-- A session that is given raw packets; one on which decoding panics leaves it
as it was. -/
def sessionMachine : Machine EapAkaSession Bytes (Except Ending Bool) where
  step session raw :=
    match session.processChallengeResponseBytes primitives raw with
    | .ok (accepted, next) => (next, .ok accepted)
    | .error ending => (session, .error ending)

def Succeeds (session : EapAkaSession) (raw : Bytes) : Prop :=
  ∃ accepted next, session.processChallengeResponseBytes primitives raw = .ok (accepted, next) ∧
    next.state = .success

/-- The session waits for a response, and the packet is of its method and of
its round. -/
def Awaits (session : EapAkaSession) (raw : Bytes) : Prop :=
  session.state = .challenge ∧ ∃ packet, EapPacket.decode raw = .ok (some packet) ∧
      packet.eapType = some .akaPrime ∧ packet.identifier = session.identifier

/-- What takes a session to success: the response to its challenge, with the
right MAC and the right RES. -/
structure AnswersChallenge (session : EapAkaSession) (raw : Bytes) : Prop where
  challenge : session.state = .challenge
  response : ∃ packet, EapPacket.decode raw = .ok (some packet) ∧ packet.code = .response ∧
    packet.eapType = some .akaPrime ∧ packet.subtype = some .challenge ∧
    packet.identifier = session.identifier ∧ packet.receivedRes = some session.xres
  mac : MacVerifies primitives session.kAut raw

def AwaitsValid (session : EapAkaSession) (raw : Bytes) : Prop :=
  ValidChallengeResponse primitives session.kAut session.xres raw → Awaits session raw

variable {primitives}

lemma succeeds_iff : Succeeds primitives session raw ↔
    ValidChallengeResponse primitives session.kAut session.xres raw := by
  constructor
  · rintro ⟨accepted, next, processed, success⟩
    have isNext := processChallengeResponseBytes_state processed
    cases accepted with
    | false =>
      rw [isNext] at success
      cases success
    | true => exact processChallengeResponseBytes_accepts processed
  · intro valid
    exact ⟨true, _, processChallengeResponseBytes_of_valid valid, rfl⟩

lemma answersChallenge_iff : AnswersChallenge primitives session raw ∧
      ValidChallengeResponse primitives session.kAut session.xres raw ↔
    Awaits session raw ∧ ValidChallengeResponse primitives session.kAut session.xres raw := by
  constructor
  · rintro ⟨answers, valid⟩
    obtain ⟨packet, decoded, -, eapType, -, identifier, -⟩ := answers.response
    exact ⟨⟨answers.challenge, packet, decoded, eapType, identifier⟩, valid⟩
  · rintro ⟨⟨challenge, packet, decoded, eapType, identifier⟩, valid⟩
    refine ⟨⟨challenge, ?_, macVerifies_of_valid valid⟩, valid⟩
    obtain ⟨packet', zeroed, decoded', code, subtype, -, -, res⟩ := valid
    obtain rfl : packet = packet' := by
      rw [decoded] at decoded'
      exact Option.some.inj (Except.ok.inj decoded')
    exact ⟨packet, decoded, code, eapType, subtype, identifier, res⟩

lemma inOrder_iff : (Succeeds primitives session raw → AnswersChallenge primitives session raw) ↔
    AwaitsValid primitives session raw := by
  rw [succeeds_iff]
  constructor
  · intro inOrder valid
    exact (answersChallenge_iff.mp ⟨inOrder valid, valid⟩).1
  · intro awaits valid
    exact (answersChallenge_iff.mpr ⟨awaits valid, valid⟩).1

def Idle (session : EapAkaSession) : Prop :=
  session.state ≠ .challenge

lemma idle_step (raw : Bytes) (idle : Idle session) :
  Idle ((sessionMachine primitives).step session raw).1 := by
  unfold sessionMachine
  simp only
  cases processed : session.processChallengeResponseBytes primitives raw with
  | error ending => exact idle
  | ok result =>
    obtain ⟨accepted, next⟩ := result
    have isNext := processChallengeResponseBytes_state processed
    change next.state ≠ .challenge
    rw [isNext]
    cases accepted <;> exact nofun

variable (primitives)

/-- In every run of a session whose packets, where they are valid responses, are
awaited, each success is the answer to the challenge, and a session that has
concluded does not succeed any more. -/
theorem succeeds_in_order : (∀ session raw,
    (Succeeds primitives session raw → AnswersChallenge primitives session raw) ↔
      AwaitsValid primitives session raw) ∧
  ∀ session packets, (sessionMachine primitives).Along (AwaitsValid primitives) session packets →
      (sessionMachine primitives).Along
        (fun session raw =>
          Succeeds primitives session raw → AnswersChallenge primitives session raw)
        session packets ∧
      (session.state = .success ∨ session.state = .failure → (sessionMachine primitives).Along
          (fun session raw => ¬ Succeeds primitives session raw) session packets) := by
  constructor
  · intro session raw
    exact inOrder_iff
  · intro session packets along
    have inOrder := (sessionMachine primitives).along_imp (fun session raw => inOrder_iff.mpr) along
    refine ⟨inOrder, ?_⟩
    intro concluded
    have idle : Idle session := by
      intro challenge
      rw [challenge] at concluded
      rcases concluded with success | failure
      · cases success
      · cases failure
    refine Machine.along_of_invariant _ ?_ ?_ idle inOrder
    · intro session raw idle _
      exact idle_step raw idle
    · intro session raw idle inOrder succeeds
      exact idle (inOrder succeeds).challenge

def challenged : EapAkaSession :=
  (EapAkaSession.new "5G:mnc070.mcc999.3gppnetwork.org").initFromTransformedAv .sample
    (.replicate 16 1) (.replicate 16 2) [7] (.replicate 16 3) (.replicate 16 4) "imsi-1"

def rightResponse : Bytes :=
  [2, 1, 0, 36, 50, 1, 0, 0] ++ [3, 2, 0, 8, 7, 0, 0, 0] ++ [11, 5, 0, 0] ++ List.replicate 16 0

theorem succeeds_in_order_sample : (sessionMachine .sample).Along
    (fun session raw =>
      Succeeds .sample session raw → AnswersChallenge .sample session raw)
    challenged [rightResponse] :=
  ((succeeds_in_order .sample).2 challenged [rightResponse]
    ⟨fun _ => ⟨rfl, _, rfl, rfl, rfl⟩, trivial⟩).1

/-- After a packet that failed the session, the response takes it to success. -/
theorem success_after_failure : ¬ ∀ primitives session packets, (sessionMachine primitives).Along
      (fun session raw =>
        Succeeds primitives session raw → AnswersChallenge primitives session raw)
      session packets := by
  intro always
  obtain ⟨-, second, -⟩ := always .sample challenged [[], rightResponse]
  have succeeds : Succeeds .sample
      ((sessionMachine .sample).step challenged []).1 rightResponse := ⟨true, _, rfl, rfl⟩
  cases (second succeeds).challenge

open EapPacket (encodeAttribute)

def verifyMac (primitives : AusfPrimitives) (kAut : Vector UInt8 32) (eapData : Bytes)
  (expectedMac : Bytes) : Bool :=
  computeMac primitives kAut eapData == expectedMac

lemma fromBe16_toBe16 {value : ℕ} (small : value < 65536) :
  fromBe16 (UInt8.ofNat (value / 256)) (UInt8.ofNat value) = value := by
  rw [fromBe16, UInt8.toNat_ofNat', UInt8.toNat_ofNat']
  omega

@[simp] lemma EapCode.fromU8_toU8 (code : EapCode) : EapCode.fromU8 code.toU8 = some code := by
  cases code <;> rfl

@[simp] lemma EapType.fromU8_toU8 (eapType : EapType) :
  EapType.fromU8 eapType.toU8 = some eapType := by
  cases eapType <;> rfl

@[simp] lemma AkaPrimeSubtype.fromU8_toU8 (subtype : AkaPrimeSubtype) :
  AkaPrimeSubtype.fromU8 subtype.toU8 = some subtype := by
  cases subtype <;> rfl

/-- The attribute fills its words, and its length octet can count them. -/
structure WholeAttribute (entry : UInt8 × Bytes) : Prop where
  filled : (entry.2.length + 2) % 4 = 0
  counted : entry.2.length + 2 ≤ 1020

namespace WholeAttribute

variable {entry : UInt8 × Bytes} (whole : WholeAttribute entry)
include whole

lemma words : 4 * (UInt8.ofNat ((entry.2.length + 2 + 3) / 4)).toNat = entry.2.length + 2 := by
  have filled := whole.filled
  have counted := whole.counted
  rw [UInt8.toNat_ofNat']
  omega

lemma encoded : encodeAttribute entry =
  entry.1 :: UInt8.ofNat ((entry.2.length + 2 + 3) / 4) :: entry.2 := by
  rw [encodeAttribute, whole.filled]
  exact List.append_nil _

lemma length_encoded : (encodeAttribute entry).length = entry.2.length + 2 := by
  rw [whole.encoded]
  rfl

end WholeAttribute

lemma length_encoded_le {attributes : List (UInt8 × Bytes)}
  (whole : ∀ entry ∈ attributes, WholeAttribute entry) :
  (attributes.flatMap encodeAttribute).length ≤ attributes.length * 1020 := by
  induction attributes with
  | nil => exact Nat.zero_le _
  | cons entry rest ih =>
    have wholeEntry := whole entry mem_cons_self
    have restBound := ih fun entry isIn => whole entry (.tail _ isIn)
    have counted := wholeEntry.counted
    rw [flatMap_cons, length_append, wholeEntry.length_encoded, length_cons]
    omega

lemma parseAttributes_encoded {attributes : List (UInt8 × Bytes)}
  (whole : ∀ entry ∈ attributes, WholeAttribute entry) {fuel : ℕ}
  (enough : (attributes.flatMap encodeAttribute).length ≤ fuel) :
  parseAttributes fuel (attributes.flatMap encodeAttribute) = .ok attributes := by
  induction attributes generalizing fuel with
  | nil => cases fuel <;> rfl
  | cons entry rest ih =>
    have wholeEntry := whole entry mem_cons_self
    rw [flatMap_cons, wholeEntry.encoded] at enough ⊢
    simp only [cons_append, length_cons, length_append] at enough
    obtain ⟨fuel, rfl⟩ : ∃ less, fuel = less + 1 := ⟨fuel - 1, by omega⟩
    rw [cons_append, cons_append, parseAttributes]
    simp only [wholeEntry.words, length_append]
    rw [if_neg (by omega), if_neg (by omega), Nat.add_sub_cancel, List.drop_left,
      List.take_left, ih (fun entry isIn => whole entry (.tail _ isIn))
        (by omega)]
    rfl

lemma macOffset_encoded {before : List (UInt8 × Bytes)} {value : Bytes}
  {after : List (UInt8 × Bytes)} (whole : ∀ entry ∈ before, WholeAttribute entry)
  (other : ∀ entry ∈ before, entry.1 ≠ atMac.toU8)
  (wholeMac : WholeAttribute (atMac.toU8, value)) (long : 18 ≤ value.length)
  {fuel : ℕ} (offset : ℕ) (enough : (before.flatMap encodeAttribute).length < fuel) :
  macOffset fuel offset ((before ++ (atMac.toU8, value) :: after).flatMap encodeAttribute) =
    some (offset + (before.flatMap encodeAttribute).length + 4) := by
  induction before generalizing fuel offset with
  | nil =>
    obtain ⟨fuel, rfl⟩ : ∃ less, fuel = less + 1 := ⟨fuel - 1, by omega⟩
    rw [List.nil_append, flatMap_cons, wholeMac.encoded, cons_append,
      cons_append, macOffset]
    have words := wholeMac.words
    simp only at words
    simp only [words, length_append]
    rw [if_neg (by omega), if_pos ⟨trivial, by omega⟩]
    rfl
  | cons entry rest ih =>
    have wholeEntry := whole entry mem_cons_self
    rw [flatMap_cons, wholeEntry.encoded] at enough ⊢
    simp only [cons_append, length_cons, length_append] at enough
    obtain ⟨fuel, rfl⟩ : ∃ less, fuel = less + 1 := ⟨fuel - 1, by omega⟩
    rw [cons_append, flatMap_cons, wholeEntry.encoded, cons_append,
      cons_append, macOffset]
    simp only [wholeEntry.words, length_append]
    rw [if_neg (by omega), if_neg fun both => other entry mem_cons_self both.1,
      Nat.add_sub_cancel, List.drop_left,
      ih (fun entry isIn => whole entry (.tail _ isIn))
        (fun entry isIn => other entry (.tail _ isIn)) _ (by omega)]
    simp only [length_cons, Option.some.injEq]
    omega

lemma encodeAttribute_mac {value : Bytes} (size : value.length = 16) :
  encodeAttribute (atMac.toU8, [0, 0] ++ value) = [atMac.toU8, 5, 0, 0] ++ value := by
  rw [WholeAttribute.encoded ⟨by simp [size], by simp [size]⟩]
  simp [size]

namespace EapPacket

structure Encodable (packet : EapPacket) (eapType : EapType) (subtype : AkaPrimeSubtype) :
  Prop where
  carries : packet.code = .request ∨ packet.code = .response
  typed : packet.eapType = some eapType
  subtyped : packet.subtype = some subtype
  whole : ∀ entry ∈ packet.attributes, WholeAttribute entry
  size : 8 + (packet.attributes.flatMap encodeAttribute).length < 65536

namespace Encodable

variable {packet : EapPacket} {eapType : EapType} {subtype : AkaPrimeSubtype}
  (encodable : Encodable packet eapType subtype)
include encodable

lemma encode_eq : packet.encode = packet.code.toU8 :: packet.identifier ::
    UInt8.ofNat ((8 + (packet.attributes.flatMap encodeAttribute).length) / 256) ::
    UInt8.ofNat (8 + (packet.attributes.flatMap encodeAttribute).length) ::
    eapType.toU8 :: subtype.toU8 :: 0 :: 0 :: packet.attributes.flatMap encodeAttribute := by
  rcases encodable.carries with carries | carries <;>
  · rw [encode, carries, encodable.typed, encodable.subtyped]
    rfl

lemma decode_encode : decode packet.encode = .ok (some packet) := by
  have parsed := parseAttributes_encoded encodable.whole (Nat.le_refl _)
  obtain ⟨code, identifier, _, _, attributes⟩ := packet
  obtain ⟨carries, typed, subtyped, -, size⟩ := id encodable
  simp only at carries typed subtyped size parsed
  subst typed subtyped
  rw [encodable.encode_eq]
  simp only [decode, EapCode.fromU8_toU8, fromBe16_toBe16 size]
  rw [if_neg (by simp only [length_cons]; omega),
    List.take_of_length_le (by simp only [length_cons]; omega)]
  rcases carries with rfl | rfl <;>
    simp only [EapType.fromU8_toU8, AkaPrimeSubtype.fromU8_toU8, parsed] <;> rfl

lemma zeroAtMac_encode {before after : List (UInt8 × Bytes)} {mac : Vector UInt8 16}
  (attributes : packet.attributes = before ++ (atMac.toU8, [0, 0] ++ mac.toList) :: after)
  (other : ∀ entry ∈ before, entry.1 ≠ atMac.toU8) :
  zeroAtMac packet.encode = some { packet with attributes :=
    before ++ (atMac.toU8, [0, 0] ++ List.replicate 16 0) :: after }.encode := by
  have inPacket {entry : UInt8 × Bytes} (isIn : entry ∈ before ∨
      entry ∈ (atMac.toU8, [0, 0] ++ mac.toList) :: after) :
      WholeAttribute entry :=
    encodable.whole entry (by rw [attributes]; exact List.mem_append.mpr isIn)
  have data (value : Bytes) (size : value.length = 16) :
      (before ++ (atMac.toU8, [0, 0] ++ value) :: after).flatMap encodeAttribute =
        before.flatMap encodeAttribute ++ [atMac.toU8, 5, 0, 0] ++
          (value ++ after.flatMap encodeAttribute) := by
    rw [List.flatMap_append, flatMap_cons, encodeAttribute_mac size]
    simp only [List.append_assoc]
  have room : (before.flatMap encodeAttribute).length <
      (packet.attributes.flatMap encodeAttribute).length := by
    rw [attributes, data _ (by simp)]
    simp
  have walked : macOffset _ 8 ((before ++ (atMac.toU8, [0, 0] ++ mac.toList) ::
      after).flatMap encodeAttribute) = some _ :=
    macOffset_encoded (fun entry isIn => inPacket (.inl isIn)) other
      (inPacket (.inr mem_cons_self)) (by simp) 8 room
  rw [← attributes] at walked
  have zeroed : Encodable { packet with attributes :=
      before ++ (atMac.toU8, [0, 0] ++ List.replicate 16 0) :: after }
      eapType subtype := by
    refine ⟨encodable.carries, encodable.typed, encodable.subtyped, fun entry isIn => ?_, ?_⟩
    · rcases List.mem_append.mp isIn with isIn | isIn
      · exact inPacket (.inl isIn)
      · rcases mem_cons.mp isIn with rfl | isIn
        · exact ⟨rfl, by decide⟩
        · exact inPacket (.inr (.tail _ isIn))
    · have size := encodable.size
      rw [attributes, data _ (by simp)] at size
      rw [data _ (by simp)]
      simp only [length_append, List.length_replicate, length_toList] at size ⊢
      exact size
  rw [encodable.encode_eq, zeroed.encode_eq]
  simp only [zeroAtMac, fromBe16_toBe16 encodable.size]
  rw [if_neg (by simp only [length_cons]; omega),
    List.take_of_length_le (by simp only [length_cons]; omega)]
  change Option.map _ (macOffset (packet.attributes.flatMap encodeAttribute).length 8
    (packet.attributes.flatMap encodeAttribute)) = _
  rw [walked, Option.map_some, attributes, data _ (by simp), data _ (by simp)]
  refine congrArg some ?_
  generalize before.flatMap encodeAttribute = start, after.flatMap encodeAttribute = rest
  have sameSize : (start ++ [atMac.toU8, 5, 0, 0] ++
      (List.replicate 16 (0 : UInt8) ++ rest)).length =
        (start ++ [atMac.toU8, 5, 0, 0] ++ (mac.toList ++ rest)).length := by
    simp only [length_append, List.length_replicate, length_toList]
  rw [sameSize]
  generalize 8 + (start ++ [atMac.toU8, 5, 0, 0] ++ (mac.toList ++ rest)).length = size
  have isOffset : 8 + start.length + 4 =
      ([packet.code.toU8, packet.identifier, UInt8.ofNat (size / 256), UInt8.ofNat size,
        eapType.toU8, subtype.toU8, 0, 0] ++ start ++ [atMac.toU8, 5, 0, 0]).length := by
    simp only [length_append]
    rfl
  have spliced := @splice _ mac.toList rest (List.replicate 16 0) _ _ isOffset length_toList
  simpa only [List.append_assoc, cons_append, List.nil_append] using spliced

end Encodable

end EapPacket

def CarriesKdfInput (data name : Bytes) : Prop :=
  ∃ high low padding, data = high :: low :: name ++ List.replicate padding 0 ∧
    fromBe16 high low = name.length

lemma setMac_newAkaChallenge (identifier : UInt8) (rand autn : Vector UInt8 16)
  (kdfInput : String) (mac newMac : Vector UInt8 16) :
  (newAkaChallenge identifier rand autn kdfInput mac).setMac newMac =
    newAkaChallenge identifier rand autn kdfInput newMac := by
  have size : mac.toList.length = 16 := length_toList
  have ends : mac.toList.drop 16 = [] := List.drop_of_length_le (Nat.le_of_eq size)
  simp [EapPacket.setMac, newAkaChallenge, toU8, ends]

lemma encodable_newAkaChallenge (identifier : UInt8) (rand autn : Vector UInt8 16)
  {kdfInput : String} (short : (asBytes kdfInput).length ≤ 1014) (mac : Vector UInt8 16) :
  (newAkaChallenge identifier rand autn kdfInput mac).Encodable .akaPrime
    .challenge := by
  have whole : ∀ entry ∈ (newAkaChallenge identifier rand autn kdfInput mac).attributes,
      WholeAttribute entry := by
    intro entry isIn
    simp only [newAkaChallenge, mem_cons, List.not_mem_nil, or_false] at isIn
    rcases isIn with rfl | rfl | rfl | rfl | rfl
    · exact ⟨by simp, by simp⟩
    · exact ⟨by simp, by simp⟩
    · refine ⟨?_, ?_⟩ <;>
      · simp only [toBe16, length_append, length_cons, List.length_nil,
          List.length_replicate]
        omega
    · exact ⟨by simp, by simp⟩
    · exact ⟨by simp, by simp⟩
  have bound := length_encoded_le whole
  have five : (newAkaChallenge identifier rand autn kdfInput mac).attributes.length = 5 :=
    rfl
  exact ⟨.inl rfl, rfl, rfl, whole, by omega⟩

lemma toList_octetsAt {count : ℕ} {bytes : Bytes} (size : bytes.length = count) :
  (octetsAt count 0 bytes).toList = bytes := by
  subst size
  refine List.ext_getElem length_toList fun index _ inside => ?_
  simp [octetsAt, List.getD_eq_getElem?_getD]

lemma length_computeMac (primitives : AusfPrimitives) (kAut : Vector UInt8 32)
  (eapData : Bytes) : (computeMac primitives kAut eapData).length = 16 := by
  rw [computeMac, length_take, length_toList]
  rfl

lemma zeroAtMac_newAkaChallenge (identifier : UInt8) (rand autn : Vector UInt8 16)
  {kdfInput : String} (short : (asBytes kdfInput).length ≤ 1014) (mac : Vector UInt8 16) :
  zeroAtMac (newAkaChallenge identifier rand autn kdfInput mac).encode =
    some (newAkaChallenge identifier rand autn kdfInput (.replicate 16 0)).encode := by
  have encodable := encodable_newAkaChallenge identifier rand autn short mac
  obtain ⟨before, attributes, other⟩ : ∃ before, (∀ mac : Vector UInt8 16,
      (newAkaChallenge identifier rand autn kdfInput mac).attributes =
        before ++ (atMac.toU8, [0, 0] ++ mac.toList) :: []) ∧
      ∀ entry ∈ before, entry.1 ≠ atMac.toU8 := by
    refine ⟨(newAkaChallenge identifier rand autn kdfInput mac).attributes.take 4,
      fun _ => rfl, fun entry isIn => ?_⟩
    simp only [newAkaChallenge, List.take_succ_cons, List.take_zero, mem_cons,
      List.not_mem_nil, or_false] at isIn
    rcases isIn with rfl | rfl | rfl | rfl <;> simp [toU8]
  rw [encodable.zeroAtMac_encode (attributes mac) other]
  have cleared := attributes (.replicate 16 0)
  rw [toList_replicate] at cleared
  rw [← cleared]
  rfl

lemma receivedMac_newAkaChallenge (identifier : UInt8) (rand autn : Vector UInt8 16)
  (kdfInput : String) (mac : Vector UInt8 16) :
  (newAkaChallenge identifier rand autn kdfInput mac).receivedMac =
    some mac.toList := by
  have size : mac.toList.length = 16 := length_toList
  have found : (newAkaChallenge identifier rand autn kdfInput mac).findAttribute
      .atMac = some ([0, 0] ++ mac.toList) := rfl
  rw [receivedMac, found]
  simp [size, List.take_of_length_le]

/-- A challenge decodes to RAND, AUTN and the serving network name it was made with, and its MAC
is that of the packet with the field zeroed, and so verifies. -/
theorem challenge_integrity (primitives : AusfPrimitives) (session : EapAkaSession)
  (short : (asBytes session.servingNetworkName).length ≤ 1014) :
  ∃ packet kdfInput zeroed mac,
    EapPacket.decode (session.generateChallenge primitives).encode = .ok (some packet) ∧
      packet.findAttribute .atRand = some ([0, 0] ++ session.rand.toList) ∧
      packet.findAttribute .atAutn = some ([0, 0] ++ session.autn.toList) ∧
      packet.findAttribute .atKdfInput = some kdfInput ∧
      CarriesKdfInput kdfInput (asBytes session.servingNetworkName) ∧
      packet.receivedMac = some mac ∧
      zeroAtMac (session.generateChallenge primitives).encode = some zeroed ∧
      mac = computeMac primitives session.kAut zeroed ∧
      verifyMac primitives session.kAut zeroed mac = true := by
  have zeroed := zeroAtMac_newAkaChallenge session.identifier session.rand session.autn short
  have encodable := encodable_newAkaChallenge session.identifier session.rand session.autn short
  rw [EapAkaSession.generateChallenge, setMac_newAkaChallenge]
  have isMac := toList_octetsAt (length_computeMac primitives session.kAut
    (EapPacket.newAkaChallenge session.identifier session.rand session.autn
      session.servingNetworkName (.replicate 16 0)).encode)
  generalize octetsAt 16 0 _ = mac at isMac ⊢
  refine ⟨_, _, _, mac.toList, (encodable mac).decode_encode, rfl, rfl, rfl,
    ⟨_, _, _, rfl, fromBe16_toBe16 (by omega)⟩, receivedMac_newAkaChallenge _ _ _ _ _,
    zeroed mac, isMac, ?_⟩
  rw [verifyMac, isMac]
  exact beq_self_eq_true _

/-- The challenge of the session of an authentication vector. -/
theorem challenge_integrity_sample : ∃ packet kdfInput zeroed mac,
    EapPacket.decode (challenged.generateChallenge .sample).encode = .ok (some packet) ∧
      packet.findAttribute .atRand = some ([0, 0] ++ List.replicate 16 1) ∧
      packet.findAttribute .atAutn = some ([0, 0] ++ List.replicate 16 2) ∧
      packet.findAttribute .atKdfInput = some kdfInput ∧
      CarriesKdfInput kdfInput (asBytes "5G:mnc070.mcc999.3gppnetwork.org") ∧
      packet.receivedMac = some mac ∧
      zeroAtMac (challenged.generateChallenge .sample).encode = some zeroed ∧
      mac = computeMac .sample challenged.kAut zeroed ∧
      verifyMac .sample challenged.kAut zeroed mac = true :=
  challenge_integrity .sample challenged (by decide)

end NextGCore.Ausf
