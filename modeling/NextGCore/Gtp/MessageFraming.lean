import NextGCore.Gtp.Message

/-!
# Messages and the octets they are read from

What a message encodes to is decoded to it, up to the length and the P flag, when the TEID flag
says whether there is a TEID and the instances fit their four bits.  Decoding takes the elements
from the octets in order, and an element lies inside its message unless its declared length
passes the end of the payload, which the loop does not check.
-/

namespace NextGCore.Gtp

open Library List Reading UInt16 Nat UInt8

lemma readsBack_getU8 (value : UInt8) : ReadsBack id getU8 (beOctets 1 value.toNat) value :=
  readsBack_getUint_as value.toNat_lt UInt8.ofNat_toNat

lemma readsBack_getU16 (value : UInt16) :
  ReadsBack id getU16 (beOctets 2 value.toNat) value :=
  readsBack_getUint_as value.toNat_lt UInt16.ofNat_toNat

lemma readsBack_getU32 (value : UInt32) :
  ReadsBack id getU32 (beOctets 4 value.toNat) value :=
  readsBack_getUint_as value.toNat_lt UInt32.ofNat_toNat

lemma readsOnly_getU8 : ReadsOnly id getU8 fun chunk value =>
  chunk = beOctets 1 value.toNat := by
  apply (readsOnly_getUint 1).last.mono
  rintro chunk value ⟨number, ⟨rfl, small⟩, rfl⟩
  rw [toNat_ofNat_of_lt' small]

lemma readsOnly_getU16 : ReadsOnly id getU16 fun chunk value =>
  chunk = beOctets 2 value.toNat := by
  apply (readsOnly_getUint 2).last.mono
  rintro chunk value ⟨number, ⟨rfl, small⟩, rfl⟩
  rw [toNat_ofNat_of_lt' small]

lemma readsOnly_getU32 : ReadsOnly id getU32 fun chunk value =>
  chunk = beOctets 4 value.toNat := by
  apply (readsOnly_getUint 4).last.mono
  rintro chunk value ⟨number, ⟨rfl, small⟩, rfl⟩
  rw [UInt32.toNat_ofNat_of_lt' small]

lemma calm_getU8 {octets : Bytes} (enough : 1 ≤ octets.length) :
  Calm getU8 octets fun _ rest => rest = octets.drop 1 :=
  (Calm.getUint enough).bind fun _ _ read => .pure read.2

lemma calm_getU16 {octets : Bytes} (enough : 2 ≤ octets.length) :
  Calm getU16 octets fun _ rest => rest = octets.drop 2 :=
  (Calm.getUint enough).bind fun _ _ read => .pure read.2

lemma calm_getU32 {octets : Bytes} (enough : 4 ≤ octets.length) :
  Calm getU32 octets fun _ rest => rest = octets.drop 4 :=
  (Calm.getUint enough).bind fun _ _ read => .pure read.2

namespace Gtp2Ie

def LaidOut (chunk : Bytes) (ie : Gtp2Ie) : Prop :=
  ∃ spared : UInt8, ie.ieInstance = spared &&& 0x0F ∧ ie.value.length < 2 ^ 16 ∧
    chunk = beOctets 1 ie.ieType.toNat ++ (beOctets 2 ie.value.length ++
      (beOctets 1 spared.toNat ++ ie.value))

def span (octets : Bytes) : ℕ := 4 + beValue ((octets.drop 1).take 2)

lemma LaidOut.length_eq {chunk : Bytes} {ie : Gtp2Ie} (laid : LaidOut chunk ie) :
  chunk.length = ie.encodedLen := by
  obtain ⟨spared, -, -, rfl⟩ := laid
  simp [encodedLen]
  omega

lemma LaidOut.span_eq {chunk rest : Bytes} {ie : Gtp2Ie} (laid : LaidOut chunk ie) :
  span (chunk ++ rest) = ie.encodedLen := by
  obtain ⟨spared, -, small, rfl⟩ := laid
  have length : (((beOctets 1 ie.ieType.toNat ++ (beOctets 2 ie.value.length ++
      (beOctets 1 spared.toNat ++ ie.value))) ++ rest).drop 1).take 2 =
        beOctets 2 ie.value.length := by
    rw [append_assoc, drop_left' (length_beOctets 1 _), append_assoc,
      take_left' (length_beOctets 2 _)]
  rw [span, length, beValue_beOctets small, encodedLen]

lemma LaidOut.instance_lt {chunk : Bytes} {ie : Gtp2Ie} (laid : LaidOut chunk ie) :
  ie.ieInstance < 16 := by
  obtain ⟨spared, masked, -⟩ := laid
  rw [masked, UInt8.lt_iff_toNat_lt, UInt8.toNat_and]
  exact lt_of_le_of_lt Nat.and_le_right (by decide)

lemma readsOnly_decode : ReadsOnly id decode LaidOut := by
  unfold decode
  apply (((readsOnly_require 4 _).bind fun _ => readsOnly_getU8.bind fun ieType =>
    readsOnly_getU16.bind fun length => readsOnly_getU8.bind fun ieInstance =>
      (readsOnly_require length.toNat _).bind fun _ =>
        (readsOnly_copyToBytes length.toNat).last)).mono
  rintro chunk ie ⟨_, _, _, rfl, rfl, _, _, ieType, rfl, rfl, _, _, length, rfl, rfl, _, _,
    spared, rfl, rfl, _, _, _, rfl, rfl, _, ⟨rfl, whole⟩, rfl⟩
  have small : length.toNat < 2 ^ 16 := length.toNat_lt
  refine ⟨spared, rfl, whole ▸ small, ?_⟩
  simp only [nil_append, whole]

lemma readsBack_encode {ie : Gtp2Ie} (short : ie.value.length < 2 ^ 16)
  (fits : ie.ieInstance < 16) : ReadsBack id decode ie.encode ie := by
  have masked : ie.ieInstance &&& 0x0F &&& 0x0F = ie.ieInstance := by
    apply UInt8.toNat_inj.mp
    rw [UInt8.toNat_and, UInt8.toNat_and, Nat.and_assoc]
    exact (and_two_pow_sub_one_eq_mod _ 4).trans
      (mod_eq_of_lt (lt_iff_toNat_lt.mp fits))
  have declared : (UInt16.ofNat ie.value.length).toNat = ie.value.length :=
    toNat_ofNat_of_lt' short
  have value : ReadsBack id (copyToBytes (UInt16.ofNat ie.value.length).toNat : Decoding Bytes)
      ie.value ie.value := by
    rw [declared]
    exact readsBack_copyToBytes ie.value
  have read : ReadsBack id decode ie.encode
      ⟨ie.ieType, ie.ieInstance &&& 0x0F &&& 0x0F, ie.value⟩ := by
    unfold decode encode
    refine ReadsBack.require ?_ (by simp; omega)
    refine (readsBack_getU8 _).bind ((readsBack_getU16 _).bind ((readsBack_getU8 _).bind ?_))
    exact value.last.require (le_of_eq declared)
  rwa [masked] at read

lemma encode_ne_nil (ie : Gtp2Ie) : ie.encode ≠ [] :=
  append_ne_nil_of_left_ne_nil (cons_ne_nil _ _) _

lemma length_encode (ie : Gtp2Ie) : ie.encode.length = ie.encodedLen := by
  simp [encode, encodedLen]
  omega

lemma calm_decode (octets : Bytes) :
  Calm decode octets fun _ rest => rest.length < octets.length := by
  unfold decode
  refine Calm.require.bind ?_
  rintro _ _ ⟨rfl, enough⟩
  refine (calm_getU8 (by omega)).bind ?_
  rintro ieType _ rfl
  refine (calm_getU16 (by rw [length_drop]; omega)).bind ?_
  rintro length _ rfl
  refine (calm_getU8 (by simp only [length_drop]; omega)).bind ?_
  rintro ieInstance _ rfl
  refine Calm.require.bind ?_
  rintro _ _ ⟨rfl, there⟩
  refine (Calm.copyToBytes there).bind ?_
  rintro value rest ⟨-, left⟩
  refine .pure ?_
  simp only [length_drop] at left
  omega

lemma decode_shrinks (octets : Bytes) (ie : Gtp2Ie) (rest : Bytes)
  (answer : decode octets = .ok (ie, rest)) : rest.length < octets.length :=
  (calm_decode octets).leaves ie rest answer

lemma decode_spans (octets : Bytes) (ie : Gtp2Ie) (rest : Bytes)
  (answer : decode octets = .ok (ie, rest)) :
  0 < span octets ∧ span octets ≤ octets.length ∧ rest = octets.drop (span octets) := by
  obtain ⟨chunk, front, laid⟩ := readsOnly_decode octets ie rest answer
  simp only [id_eq] at front
  subst front
  rw [laid.span_eq, ← laid.length_eq]
  refine ⟨?_, by simp, by simp⟩
  rw [laid.length_eq, encodedLen]
  omega

end Gtp2Ie

def iesLen (ies : List Gtp2Ie) : ℕ := (ies.map Gtp2Ie.encodedLen).sum

@[simp]
lemma iesLen_cons (ie : Gtp2Ie) (ies : List Gtp2Ie) :
  iesLen (ie :: ies) = ie.encodedLen + iesLen ies := rfl

@[simp]
lemma iesLen_append (front back : List Gtp2Ie) :
  iesLen (front ++ back) = iesLen front + iesLen back := by
  rw [iesLen, map_append, sum_append_nat]
  rfl

lemma length_encodeIes (ies : List Gtp2Ie) : (encodeIes ies).length = iesLen ies := by
  induction ies with
  | nil => rfl
  | cons ie ies ih =>
    rw [iesLen_cons, ← ih, ← ie.length_encode, ← length_append]
    rfl

section

variable {chunks : List Bytes} {ies : List Gtp2Ie} (each : Forall₂ Gtp2Ie.LaidOut chunks ies)

include each

lemma length_laidOut : chunks.flatten.length = iesLen ies := by
  induction each with
  | nil => rfl
  | cons laid _ ih =>
    rw [flatten_cons, length_append, laid.length_eq, ih, iesLen_cons]

lemma instances_laidOut : ∀ ie ∈ ies, ie.ieInstance < 16 := by
  induction each with
  | nil => exact fun ie member => absurd member not_mem_nil
  | cons laid _ ih =>
    exact forall_mem_cons.mpr ⟨laid.instance_lt, ih⟩

end

lemma readsBack_ies {ies : List Gtp2Ie} (short : ∀ ie ∈ ies, ie.value.length < 2 ^ 16)
  (fit : ∀ ie ∈ ies, ie.ieInstance < 16) :
  Forall₂ (ReadsBack id Gtp2Ie.decode) (ies.map Gtp2Ie.encode) ies := by
  rw [forall₂_map_left_iff, forall₂_same]
  exact fun ie member => Gtp2Ie.readsBack_encode (short ie member) (fit ie member)

lemma encodeIes_nonempty (ies : List Gtp2Ie) : ∀ chunk ∈ ies.map Gtp2Ie.encode, chunk ≠ [] := by
  intro chunk member
  obtain ⟨ie, -, rfl⟩ := mem_map.mp member
  exact ie.encode_ne_nil

namespace Gtp2BearerContextIe

lemma decode_ne_panic (value : Bytes) : decode value ≠ .error .panic := by
  have calm := Calm.many (fun _ => True) (fun octets _ =>
    (Gtp2Ie.calm_decode octets).mono fun _ _ shorter => ⟨trivial, shorter⟩) value
  unfold decode
  cases answer : many id Gtp2Ie.decode value with
  | error fault =>
    intro panics
    refine calm.noPanic (answer.trans ?_)
    cases panics
    rfl
  | ok found => exact nofun

lemma decode_toIe_iff (bearer : Gtp2BearerContextIe)
  (short : ∀ ie ∈ bearer.ies, ie.value.length < 2 ^ 16) (ieInstance : UInt8) :
  decode (bearer.toIe ieInstance).value = .ok bearer ↔ ∀ ie ∈ bearer.ies, ie.ieInstance < 16 := by
  change (many id Gtp2Ie.decode (encodeIes bearer.ies)).map _ = _ ↔ _
  constructor
  · intro decoded
    cases answer : many id Gtp2Ie.decode (encodeIes bearer.ies) with
    | error fault =>
      rw [answer] at decoded
      cases decoded
    | ok found =>
      rw [answer] at decoded
      cases decoded
      obtain ⟨_, _, _, _, each⟩ := Gtp2Ie.readsOnly_decode.many _ _ _ answer
      exact instances_laidOut each
  · intro fit
    obtain ⟨rest, answer, -⟩ := ReadsBack.many (readsBack_ies short fit)
      (encodeIes_nonempty bearer.ies) (encodeIes bearer.ies) rfl
    rw [answer]
    rfl

end Gtp2BearerContextIe

namespace Gtp2Header

def LaidOut (chunk : Bytes) (header : Gtp2Header) : Prop :=
  ∃ (flags : UInt8) (sqnRaw : UInt32), header.version = 2 ∧
    header.piggybacked = (flags &&& 0x10 != 0) ∧ header.teidPresence = (flags &&& 0x08 != 0) ∧
    header.teid.isSome = header.teidPresence ∧ header.sequenceNumber = sqnRaw >>> 8 ∧
    chunk = beOctets 1 flags.toNat ++ (beOctets 1 header.messageType.toNat ++
      (beOctets 2 header.length.toNat ++
        ((header.teid.map fun teid => beOctets 4 teid.toNat).getD [] ++
          beOctets 4 sqnRaw.toNat)))

lemma length_teid (teid : Option UInt32) :
  4 + ((teid.map fun teid => beOctets 4 teid.toNat).getD []).length =
    headerExtra teid.isSome := by
  cases teid with
  | none => rfl
  | some teid => simp [headerExtra]

lemma LaidOut.length_eq {chunk : Bytes} {header : Gtp2Header} (laid : LaidOut chunk header) :
  chunk.length = 4 + headerExtra header.teidPresence := by
  obtain ⟨flags, sqnRaw, -, -, -, some, -, rfl⟩ := laid
  rw [← some, ← length_teid]
  simp
  omega

lemma readsOnly_decodeTeid (teidPresence : Bool) :
  ReadsOnly id (decodeTeid teidPresence) fun chunk teid => teid.isSome = teidPresence ∧
    chunk = (teid.map fun teid => beOctets 4 teid.toNat).getD [] := by
  cases teidPresence with
  | false =>
    apply (ReadsOnly.pure (none : Option UInt32)).mono
    rintro chunk teid ⟨rfl, rfl⟩
    exact ⟨rfl, rfl⟩
  | true =>
    apply readsOnly_getU32.last.mono
    rintro chunk _ ⟨teid, rfl, rfl⟩
    exact ⟨rfl, rfl⟩

lemma readsOnly_decode : ReadsOnly id decode LaidOut := by
  unfold decode
  apply ((readsOnly_require 4 _).bind fun _ => readsOnly_getU8.bind fun flags =>
    readsOnly_getU8.bind fun messageType => readsOnly_getU16.bind fun length =>
      (ReadsOnly.refuse _ _).bind fun _ => (readsOnly_require _ _).bind fun _ =>
        (readsOnly_decodeTeid _).bind fun teid => readsOnly_getU32.last).mono
  rintro chunk header ⟨_, _, _, rfl, rfl, _, _, flags, rfl, rfl, _, _, messageType, rfl, rfl, _, _,
    length, rfl, rfl, _, _, _, rfl, ⟨rfl, accepted⟩, _, _, _, rfl, rfl, _, _, teid, rfl,
    ⟨some, rfl⟩, sqnRaw, rfl, rfl⟩
  exact ⟨flags, sqnRaw, not_not.mp accepted, rfl, rfl, some, rfl, rfl⟩

lemma flags_bits (piggybacked teidPresence : Bool) {header : Gtp2Header}
  (version : header.version = 2) (isPiggybacked : header.piggybacked = piggybacked)
  (hasTeid : header.teidPresence = teidPresence) :
  (header.flags >>> 5) &&& 0x07 = 2 ∧ (header.flags &&& 0x10 != 0) = piggybacked ∧
    (header.flags &&& 0x08 != 0) = teidPresence := by
  rw [flags, version, isPiggybacked, hasTeid]
  cases piggybacked <;> cases teidPresence <;> decide

lemma sequence_shifted {sequenceNumber : UInt32} (small : sequenceNumber.toNat < 2 ^ 24) :
  (sequenceNumber <<< 8) >>> 8 = sequenceNumber := by
  apply UInt32.toNat_inj.mp
  rw [UInt32.toNat_shiftRight, UInt32.toNat_shiftLeft]
  change (sequenceNumber.toNat <<< 8 % 2 ^ 32) >>> 8 = sequenceNumber.toNat
  rw [shiftLeft_eq, shiftRight_eq_div_pow]
  omega

lemma readsBack_encode {header : Gtp2Header} (version : header.version = 2)
  (small : header.sequenceNumber.toNat < 2 ^ 24)
  (hasTeid : header.teidPresence = header.teid.isSome) :
  ReadsBack id decode header.encode header := by
  obtain ⟨isVersion, isPiggybacked, presence⟩ := flags_bits _ _ version rfl rfl
  have teid : ReadsBack id (decodeTeid header.teidPresence)
      (if header.teidPresence then beOctets 4 (header.teid.getD 0).toNat else []) header.teid := by
    rw [hasTeid]
    cases header.teid with
    | none => exact .pure none
    | some teid => exact (readsBack_getU32 teid).last
  have length : headerExtra header.teidPresence =
      ((if header.teidPresence then beOctets 4 (header.teid.getD 0).toNat else []) ++
        beOctets 4 (header.sequenceNumber <<< 8).toNat).length := by
    cases header.teidPresence <;> simp [headerExtra]
  have read : ReadsBack id decode header.encode ⟨(header.flags >>> 5) &&& 0x07,
      header.flags &&& 0x10 != 0, header.flags &&& 0x08 != 0, header.messageType, header.length,
      header.teid, (header.sequenceNumber <<< 8) >>> 8⟩ := by
    unfold decode encode
    refine ReadsBack.require ?_ (by simp; omega)
    refine (readsBack_getU8 _).bind ((readsBack_getU8 _).bind ((readsBack_getU16 _).bind ?_))
    refine (ReadsBack.refuse (not_not.mpr isVersion)).skip ?_
    rw [presence]
    exact (teid.bind (readsBack_getU32 _).last).require (le_of_eq length)
  rwa [isVersion, isPiggybacked, presence, sequence_shifted small, ← version] at read

lemma calm_decodeTeid (teidPresence : Bool) {octets : Bytes}
  (enough : headerExtra teidPresence ≤ octets.length) :
  Calm (decodeTeid teidPresence) octets fun _ rest => 4 ≤ rest.length ∧
    rest.length ≤ octets.length := by
  cases teidPresence with
  | false => exact .pure ⟨enough, le_refl _⟩
  | true =>
    have eight : 8 ≤ octets.length := enough
    refine (calm_getU32 (by omega)).bind ?_
    rintro teid _ rfl
    exact .pure (by rw [length_drop]; omega)

lemma calm_decode (octets : Bytes) :
  Calm decode octets fun _ rest => rest.length < octets.length := by
  unfold decode
  refine Calm.require.bind ?_
  rintro _ _ ⟨rfl, enough⟩
  refine (calm_getU8 (by omega)).bind ?_
  rintro flags _ rfl
  refine (calm_getU8 (by rw [length_drop]; omega)).bind ?_
  rintro messageType _ rfl
  refine (calm_getU16 (by simp only [length_drop]; omega)).bind ?_
  rintro length _ rfl
  refine Calm.refuse.bind ?_
  rintro _ _ ⟨rfl, -⟩
  refine Calm.require.bind ?_
  rintro _ _ ⟨rfl, there⟩
  refine (calm_decodeTeid _ there).bind ?_
  rintro teid between ⟨four, shorter⟩
  refine (calm_getU32 four).bind ?_
  rintro sqnRaw _ rfl
  refine .pure ?_
  simp only [length_drop] at shorter ⊢
  omega

end Gtp2Header

namespace Gtp2Message

def messages : Gtp2Message → List Gtp2Message
  | ⟨header, ies, none⟩ => [⟨header, ies, none⟩]
  | ⟨header, ies, some next⟩ => ⟨header, ies, some next⟩ :: next.messages

def Encodable (message : Gtp2Message) : Prop :=
  ∀ member ∈ message.messages, member.header.version = 2 ∧
    member.header.sequenceNumber.toNat < 2 ^ 24 ∧
    (∀ ie ∈ member.ies, ie.value.length < 2 ^ 16) ∧
    headerExtra member.header.teidPresence + iesLen member.ies < 2 ^ 16

/-- The TEID flag says whether there is a TEID, and the instances fit their four bits. -/
def Canonical (message : Gtp2Message) : Prop :=
  ∀ member ∈ message.messages, member.header.teidPresence = member.header.teid.isSome ∧
    ∀ ie ∈ member.ies, ie.ieInstance < 16

def unframed : Gtp2Message → Gtp2Message
  | ⟨header, ies, none⟩ => ⟨{ header with length := 0, piggybacked := false }, ies, none⟩
  | ⟨header, ies, some next⟩ =>
    ⟨{ header with length := 0, piggybacked := false }, ies, some next.unframed⟩

def framed : Gtp2Message → Gtp2Message
  | ⟨header, ies, none⟩ => ⟨framedHeader header ies false, ies, none⟩
  | ⟨header, ies, some next⟩ => ⟨framedHeader header ies true, ies, some next.framed⟩

def IesInside (message : Gtp2Message) : Prop :=
  ∀ member ∈ message.messages, ∀ before ie after, member.ies = before ++ ie :: after →
    headerExtra member.header.teidPresence + iesLen before + ie.encodedLen ≤
      member.header.length.toNat

lemma unframed_framed (message : Gtp2Message) : message.framed.unframed = message.unframed := by
  induction message using chain_induction with
  | last header ies => rfl
  | carrier header ies next ih =>
    rw [framed, unframed, unframed, ih]
    rfl

lemma forall_messages_unframed (property : Gtp2Header → List Gtp2Ie → Prop)
  (framing : ∀ header ies length piggybacked,
    property { header with length, piggybacked } ies ↔ property header ies)
  (message : Gtp2Message) :
  (∀ member ∈ message.unframed.messages, property member.header member.ies) ↔
    ∀ member ∈ message.messages, property member.header member.ies := by
  induction message using chain_induction with
  | last header ies =>
    simp only [unframed, messages, forall_mem_singleton]
    exact framing header ies 0 false
  | carrier header ies next ih =>
    simp only [unframed, messages, forall_mem_cons, ih]
    exact and_congr_left fun _ => framing header ies 0 false

lemma canonical_unframed_iff (message : Gtp2Message) :
  message.unframed.Canonical ↔ message.Canonical :=
  forall_messages_unframed (fun header ies =>
    header.teidPresence = header.teid.isSome ∧ ∀ ie ∈ ies, ie.ieInstance < 16)
    (fun _ _ _ _ => Iff.rfl) message

lemma calculateLength_toNat {header : Gtp2Header} {ies : List Gtp2Ie}
  (fits : headerExtra header.teidPresence + iesLen ies < 2 ^ 16) :
  (calculateLength header ies).toNat = headerExtra header.teidPresence + iesLen ies := by
  have onto (start : UInt16) (ies : List Gtp2Ie) (fits : start.toNat + iesLen ies < 2 ^ 16) :
      (ies.foldl (fun length ie => length + UInt16.ofNat ie.encodedLen) start).toNat =
        start.toNat + iesLen ies := by
    induction ies generalizing start with
    | nil => rfl
    | cons ie ies ih =>
      rw [iesLen_cons] at fits
      have next : (start + UInt16.ofNat ie.encodedLen).toNat = start.toNat + ie.encodedLen := by
        rw [UInt16.toNat_add, toNat_ofNat_of_lt' (show ie.encodedLen < 2 ^ 16 by omega)]
        exact mod_eq_of_lt (by omega)
      rw [foldl_cons, ih _ (by omega), next, iesLen_cons]
      omega
  have start : (UInt16.ofNat (headerExtra header.teidPresence)).toNat =
      headerExtra header.teidPresence := by
    cases header.teidPresence <;> rfl
  rw [calculateLength, onto _ _ (by omega), start]

lemma length_messages_le (message : Gtp2Message) :
  0 < message.messages.length ∧ message.messages.length ≤ message.encode.length := by
  have positive (header : Gtp2Header) : 0 < header.encode.length := by simp [Gtp2Header.encode]
  induction message using chain_induction with
  | last header ies =>
    have := positive (framedHeader header ies false)
    simp only [messages, encode, length_singleton, length_append]
    omega
  | carrier header ies next ih =>
    have := positive (framedHeader header ies true)
    simp only [messages, encode, length_cons, length_append]
    omega

lemma payload_framed {header : Gtp2Header} {ies : List Gtp2Ie} (flagged : Bool)
  (fits : headerExtra header.teidPresence + iesLen ies < 2 ^ 16) :
  ReadsBack id (payloadLen (framedHeader header ies flagged)) [] (encodeIes ies).length := by
  have declared : (framedHeader header ies flagged).length.toNat =
      headerExtra header.teidPresence + iesLen ies := calculateLength_toNat fits
  have extra : headerExtra (framedHeader header ies flagged).teidPresence =
      headerExtra header.teidPresence := rfl
  have length : (encodeIes ies).length = headerExtra header.teidPresence + iesLen ies -
      headerExtra header.teidPresence := by
    rw [length_encodeIes]
    omega
  rw [payloadLen, declared, extra, length]
  exact (ReadsBack.refuse (by omega)).bind_nil (.pure _)

lemma readsBack_decodeWithin (message : Gtp2Message) (fits : message.Encodable)
  (canonical : message.Canonical) {depth : ℕ} (enough : message.messages.length ≤ depth) :
  ReadsBack id (decodeWithin depth) message.encode message.framed := by
  have front (header : Gtp2Header) (ies : List Gtp2Ie) (flagged : Bool)
      (version : header.version = 2 ∧ header.sequenceNumber.toNat < 2 ^ 24 ∧
        (∀ ie ∈ ies, ie.value.length < 2 ^ 16) ∧
        headerExtra header.teidPresence + iesLen ies < 2 ^ 16)
      (isCanonical : header.teidPresence = header.teid.isSome ∧ ∀ ie ∈ ies, ie.ieInstance < 16)
      (depth : ℕ) {back : Bytes} {next : Option Gtp2Message}
      (piggybacked : ReadsBack id (decodePiggybacked flagged (decodeWithin depth)) back next) :
      ReadsBack id (decodeWithin (depth + 1))
        ((framedHeader header ies flagged).encode ++ (encodeIes ies ++ back))
        ⟨framedHeader header ies flagged, ies, next⟩ := by
    obtain ⟨isVersion, small, short, declared⟩ := version
    have read : ReadsBack id Gtp2Header.decode (framedHeader header ies flagged).encode
        (framedHeader header ies flagged) :=
      Gtp2Header.readsBack_encode isVersion small isCanonical.1
    have elements : ReadsBack id (counted Gtp2Ie.decode (encodeIes ies).length) (encodeIes ies)
        ies := ReadsBack.counted (readsBack_ies short isCanonical.2) (encodeIes_nonempty ies)
    refine read.bind ((payload_framed flagged declared).skip ?_)
    exact (elements.bind piggybacked.last).require (by simp)
  induction message using chain_induction generalizing depth with
  | last header ies =>
    rw [messages, length_cons] at enough
    obtain ⟨depth, rfl⟩ : ∃ fewer, depth = fewer + 1 := ⟨depth - 1, by omega⟩
    have whole := front header ies false (fits _ mem_cons_self)
      (canonical _ mem_cons_self) depth (ReadsBack.pure none)
    rwa [append_nil] at whole
  | carrier header ies next ih =>
    rw [messages, length_cons] at enough
    obtain ⟨depth, rfl⟩ : ∃ fewer, depth = fewer + 1 := ⟨depth - 1, by omega⟩
    have later := ih (fun member isMember =>
      fits member (mem_cons_of_mem _ isMember)) (fun member isMember =>
      canonical member (mem_cons_of_mem _ isMember)) (le_of_succ_le_succ enough)
    have positive : 1 ≤ next.encode.length :=
      next.length_messages_le.1.trans_le next.length_messages_le.2
    exact front header ies true (fits _ mem_cons_self)
      (canonical _ mem_cons_self) depth (later.last.require positive)

/-- The octets of a message: its header, its elements in order, and the message piggybacked. -/
inductive LaidOut : Bytes → Gtp2Message → Prop where
  | last {front chunks header ies} : header.LaidOut front →
      Forall₂ Gtp2Ie.LaidOut chunks ies → header.piggybacked = false →
      LaidOut (front ++ chunks.flatten) ⟨header, ies, none⟩
  | carrier {front chunks back header ies next} : header.LaidOut front →
      Forall₂ Gtp2Ie.LaidOut chunks ies → header.piggybacked = true → LaidOut back next →
      LaidOut (front ++ (chunks.flatten ++ back)) ⟨header, ies, some next⟩

lemma LaidOut.canonical {octets : Bytes} {message : Gtp2Message}
  (laid : LaidOut octets message) : message.Canonical := by
  induction laid with
  | last header each _ =>
    obtain ⟨flags, sqnRaw, -, -, -, some, -⟩ := header
    exact forall_mem_singleton.mpr ⟨some.symm, instances_laidOut each⟩
  | carrier header each _ _ ih =>
    obtain ⟨flags, sqnRaw, -, -, -, some, -⟩ := header
    exact forall_mem_cons.mpr ⟨⟨some.symm, instances_laidOut each⟩, ih⟩

lemma decodeWithin_ok {depth : ℕ} {octets rest : Bytes} {message : Gtp2Message}
  (answer : decodeWithin (depth + 1) octets = .ok (message, rest)) :
  ∃ header ies next front chunks left, message = ⟨header, ies, next⟩ ∧
    octets = front ++ (chunks.flatten ++ left) ∧ header.LaidOut front ∧
    Forall₂ Gtp2Ie.LaidOut chunks ies ∧
    headerExtra header.teidPresence ≤ header.length.toNat ∧
    header.length.toNat ≤ headerExtra header.teidPresence + chunks.flatten.length ∧
    (chunks.flatten.length ≤ header.length.toNat - headerExtra header.teidPresence ↔
      Tiled Gtp2Ie.span (header.length.toNat - headerExtra header.teidPresence)
        (chunks.flatten ++ left)) ∧
    decodePiggybacked header.piggybacked (decodeWithin depth) left = .ok (next, rest) := by
  obtain ⟨header, afterHeader, first, answer⟩ := bind_ok answer
  obtain ⟨payload, between, second, answer⟩ := bind_ok answer
  obtain ⟨_, passed, third, answer⟩ := bind_ok answer
  obtain ⟨ies, left, fourth, answer⟩ := bind_ok answer
  obtain ⟨next, final, fifth, answer⟩ := bind_ok answer
  cases answer
  obtain ⟨front, starts, laid⟩ := Gtp2Header.readsOnly_decode _ _ _ first
  have accepted : headerExtra header.teidPresence ≤ header.length.toNat ∧
      payload = header.length.toNat - headerExtra header.teidPresence ∧ between = afterHeader := by
    obtain ⟨_, same, refused, final⟩ := bind_ok second
    cases final
    obtain ⟨_, none, rfl, accepted⟩ : ∃ chunk, id afterHeader = chunk ++ id between ∧ chunk = [] ∧
        ¬ header.length.toNat < headerExtra header.teidPresence :=
      ReadsOnly.refuse _ _ _ _ _ refused
    exact ⟨not_lt.mp accepted, rfl, none.symm⟩
  obtain ⟨extra, rfl, rfl⟩ := accepted
  have there : header.length.toNat - headerExtra header.teidPresence ≤ between.length ∧
      passed = between := by
    unfold require at third
    split at third
    · cases third
    · cases third
      exact ⟨not_lt.mp ‹_›, rfl⟩
  obtain ⟨there, rfl⟩ := there
  obtain ⟨_, continues, chunks, rfl, each⟩ :=
    Gtp2Ie.readsOnly_decode.counted Gtp2Ie.decode_shrinks _ _ _ _ fourth
  have tiled := counted_tiled_iff Gtp2Ie.decode_spans there fourth
  have covers := counted_covers Gtp2Ie.decode_shrinks there fourth
  simp only [id_eq] at starts continues
  subst continues
  rw [length_append] at tiled covers
  refine ⟨header, ies, next, front, chunks, left, rfl, starts, laid, each, extra, by omega, ?_,
    fifth⟩
  rw [← tiled]
  omega

lemma decodePiggybacked_ok {flagged : Bool} {read : Decoding Gtp2Message} {octets rest : Bytes}
  {next : Option Gtp2Message}
  (answer : decodePiggybacked flagged read octets = .ok (next, rest)) :
  (flagged = false ∧ next = none ∧ rest = octets) ∨
    ∃ message, flagged = true ∧ next = some message ∧ read octets = .ok (message, rest) := by
  cases flagged with
  | false =>
    cases answer
    exact .inl ⟨rfl, rfl, rfl⟩
  | true =>
    obtain ⟨_, passed, required, answer⟩ := bind_ok answer
    obtain ⟨message, final, decoded, answer⟩ := bind_ok answer
    cases answer
    obtain ⟨_, same, rfl⟩ := readsOnly_require _ _ _ _ _ required
    change octets = passed at same
    rw [← same] at decoded
    exact .inr ⟨message, rfl, rfl, decoded⟩

lemma readsOnly_decodeWithin (depth : ℕ) : ReadsOnly id (decodeWithin depth) LaidOut := by
  induction depth with
  | zero => exact nofun
  | succ depth ih =>
    intro octets message rest answer
    obtain ⟨header, ies, next, front, chunks, left, rfl, rfl, laid, each, -, -, -, piggybacked⟩ :=
      decodeWithin_ok answer
    rcases decodePiggybacked_ok piggybacked with
      ⟨unflagged, rfl, rfl⟩ | ⟨message, flagged, rfl, decoded⟩
    · exact ⟨_, (append_assoc ..).symm, .last laid each unflagged⟩
    · obtain ⟨back, continues, laidNext⟩ := ih left message rest decoded
      refine ⟨_, ?_, .carrier laid each flagged laidNext⟩
      rw [id_eq] at continues
      rw [continues]
      simp

lemma decodeWithin_calm (depth : ℕ) (octets : Bytes) (enough : octets.length < depth) :
  Calm (decodeWithin depth) octets fun _ _ => True := by
  induction depth generalizing octets with
  | zero => exact absurd enough (not_lt_zero _)
  | succ depth ih =>
    unfold decodeWithin
    refine (Gtp2Header.calm_decode octets).bind ?_
    rintro header afterHeader shorter
    have counts : Calm (payloadLen header) afterHeader fun _ left => left = afterHeader :=
      Calm.refuse.bind fun _ _ accepted => .pure accepted.1
    refine counts.bind ?_
    rintro payload _ rfl
    refine Calm.require.bind ?_
    rintro _ _ ⟨rfl, -⟩
    refine (Calm.counted Gtp2Ie.calm_decode payload _).bind ?_
    rintro ies left less
    have piggybacked : Calm (decodePiggybacked header.piggybacked (decodeWithin depth)) left
        fun _ _ => True := by
      cases header.piggybacked with
      | false => exact .pure trivial
      | true =>
        refine Calm.require.bind ?_
        rintro _ _ ⟨rfl, -⟩
        exact (ih _ (by omega)).bind fun _ _ _ => .pure trivial
    exact piggybacked.bind fun _ _ _ => .pure trivial

lemma decode_ne_panic (octets : Bytes) : decode octets ≠ .error .panic :=
  (decodeWithin_calm _ octets (lt_succ_self _)).noPanic

end Gtp2Message

def wireExtra (octets : Bytes) : ℕ :=
  headerExtra (UInt8.ofNat (beValue (octets.take 1)) &&& 0x08 != 0)

def wirePiggybacked (octets : Bytes) : Bool :=
  UInt8.ofNat (beValue (octets.take 1)) &&& 0x10 != 0

def wireLength (octets : Bytes) : ℕ := beValue ((octets.drop 2).take 2)

/-- In each message, the declared lengths of the elements end where the declared length of the
message does. -/
inductive Nested : Bytes → Prop where
  | last {octets} : wirePiggybacked octets = false →
      Tiled Gtp2Ie.span (wireLength octets - wireExtra octets)
        (octets.drop (4 + wireExtra octets)) → Nested octets
  | carrier {octets} : wirePiggybacked octets = true →
      Tiled Gtp2Ie.span (wireLength octets - wireExtra octets)
        (octets.drop (4 + wireExtra octets)) →
      Nested (octets.drop (4 + wireLength octets)) → Nested octets

lemma nested_last_iff {octets : Bytes} (unflagged : wirePiggybacked octets = false) :
  Nested octets ↔ Tiled Gtp2Ie.span (wireLength octets - wireExtra octets)
    (octets.drop (4 + wireExtra octets)) := by
  constructor
  · intro nested
    cases nested with
    | last _ tiled => exact tiled
    | carrier flagged => exact absurd flagged (by simp [unflagged])
  · exact .last unflagged

lemma nested_carrier_iff {octets : Bytes} (flagged : wirePiggybacked octets = true) :
  Nested octets ↔ Tiled Gtp2Ie.span (wireLength octets - wireExtra octets)
    (octets.drop (4 + wireExtra octets)) ∧ Nested (octets.drop (4 + wireLength octets)) := by
  constructor
  · intro nested
    cases nested with
    | last unflagged => exact absurd unflagged (by simp [flagged])
    | carrier _ tiled next => exact ⟨tiled, next⟩
  · exact fun nested => .carrier flagged nested.1 nested.2

lemma wire_laidOut {front : Bytes} {header : Gtp2Header} (laid : header.LaidOut front)
  (back : Bytes) :
  wireExtra (front ++ back) = headerExtra header.teidPresence ∧
    wirePiggybacked (front ++ back) = header.piggybacked ∧
    wireLength (front ++ back) = header.length.toNat := by
  obtain ⟨flags, sqnRaw, -, piggybacked, presence, -, -, rfl⟩ := laid
  have first : UInt8.ofNat (beValue (beOctets 1 flags.toNat)) = flags := by
    rw [beValue_beOctets flags.toNat_lt, UInt8.ofNat_toNat]
  simp only [wireExtra, wirePiggybacked, wireLength, append_assoc]
  rw [take_left' (length_beOctets 1 _), first, piggybacked, presence]
  refine ⟨rfl, rfl, ?_⟩
  rw [← append_assoc, drop_left' (by simp), take_left' (length_beOctets 2 _),
    beValue_beOctets header.length.toNat_lt]

namespace Gtp2Message

lemma own_inside_iff {extra length : ℕ} (ies : List Gtp2Ie) (fits : extra ≤ length) :
  (∀ before ie after, ies = before ++ ie :: after →
    extra + iesLen before + ie.encodedLen ≤ length) ↔ extra + iesLen ies ≤ length := by
  constructor
  · intro inside
    rcases ies.eq_nil_or_concat with rfl | ⟨before, ie, rfl⟩
    · exact fits
    · have := inside before ie [] (by simp)
      simp only [concat_eq_append, iesLen_append, iesLen_cons]
      have none : iesLen [] = 0 := rfl
      omega
  · rintro inside before ie after rfl
    rw [iesLen_append, iesLen_cons] at inside
    omega

lemma iesInside_iff {depth : ℕ} {octets rest : Bytes} {message : Gtp2Message}
  (answer : decodeWithin depth octets = .ok (message, rest)) :
  message.IesInside ↔ Nested octets := by
  induction depth generalizing octets message with
  | zero => cases answer
  | succ depth ih =>
    obtain ⟨header, ies, next, front, chunks, left, rfl, rfl, laid, each, extra, covers, tiled,
      piggybacked⟩ := decodeWithin_ok answer
    obtain ⟨wireExtra_eq, wirePiggybacked_eq, wireLength_eq⟩ :=
      wire_laidOut laid (chunks.flatten ++ left)
    have starts : (front ++ (chunks.flatten ++ left)).drop (4 + headerExtra header.teidPresence) =
        chunks.flatten ++ left := drop_left' laid.length_eq
    have own := own_inside_iff ies extra
    have whole : chunks.flatten.length = iesLen ies := length_laidOut each
    have inside : (∀ before ie after, ies = before ++ ie :: after →
        headerExtra header.teidPresence + iesLen before + ie.encodedLen ≤
          header.length.toNat) ↔ Tiled Gtp2Ie.span (wireLength (front ++ (chunks.flatten ++ left)) -
              wireExtra (front ++ (chunks.flatten ++ left)))
            ((front ++ (chunks.flatten ++ left)).drop
              (4 + wireExtra (front ++ (chunks.flatten ++ left)))) := by
      rw [wireExtra_eq, wireLength_eq, starts, own, ← tiled, whole]
      omega
    rcases decodePiggybacked_ok piggybacked with
      ⟨unflagged, rfl, rfl⟩ | ⟨later, flagged, rfl, decoded⟩
    · rw [unflagged] at wirePiggybacked_eq
      rw [nested_last_iff wirePiggybacked_eq, ← inside]
      simp only [IesInside, messages, forall_mem_singleton]
    · rw [flagged] at wirePiggybacked_eq
      rw [nested_carrier_iff wirePiggybacked_eq, ← inside]
      simp only [IesInside, messages, forall_mem_cons]
      refine and_congr_right fun isInside => ?_
      have exactly : header.length.toNat =
          headerExtra header.teidPresence + chunks.flatten.length := by
        rw [own] at isInside
        omega
      have ends : (front ++ (chunks.flatten ++ left)).drop
          (4 + wireLength (front ++ (chunks.flatten ++ left))) = left := by
        rw [wireLength_eq, exactly, ← add_assoc, ← laid.length_eq, ← append_assoc,
          ← length_append, drop_left]
      rw [ends]
      exact ih decoded

lemma decode_encode_iff (message : Gtp2Message) (fits : message.Encodable) (tail : Bytes) :
  (∃ found, decode (message.encode ++ tail) = .ok (found, tail) ∧
    found.unframed = message.unframed) ↔ message.Canonical := by
  constructor
  · rintro ⟨found, answer, same⟩
    obtain ⟨chunk, -, laid⟩ := readsOnly_decodeWithin _ _ _ _ answer
    rw [← canonical_unframed_iff, ← same, canonical_unframed_iff]
    exact laid.canonical
  · intro canonical
    have enough : message.messages.length ≤ (message.encode ++ tail).length + 1 := by
      have := message.length_messages_le.2
      rw [length_append]
      omega
    obtain ⟨_, answer, rfl⟩ :=
      readsBack_decodeWithin message fits canonical enough (message.encode ++ tail) tail rfl
    exact ⟨message.framed, answer, message.unframed_framed⟩

end Gtp2Message

open Gtp2Message in
/-- The codec of messages and grouped elements: round trips for what is canonical, and
elements inside their messages for octets that are nested. -/
theorem codec_nested (message : Gtp2Message) (fits : message.Encodable) (tail : Bytes)
  (bearer : Gtp2BearerContextIe) (short : ∀ ie ∈ bearer.ies, ie.value.length < 2 ^ 16)
  (ieInstance : UInt8) (octets : Bytes) :
  ((∃ found, decode (message.encode ++ tail) = .ok (found, tail) ∧
      found.unframed = message.unframed) ↔ message.Canonical) ∧
    (Gtp2BearerContextIe.decode (bearer.toIe ieInstance).value = .ok bearer ↔
      ∀ ie ∈ bearer.ies, ie.ieInstance < 16) ∧
    decode octets ≠ .error .panic ∧ Gtp2BearerContextIe.decode octets ≠ .error .panic ∧
    ∀ found rest, decode octets = .ok (found, rest) →
      (∃ chunk, octets = chunk ++ rest ∧ LaidOut chunk found) ∧
        (found.IesInside ↔ Nested octets) :=
  ⟨decode_encode_iff message fits tail, bearer.decode_toIe_iff short ieInstance,
    decode_ne_panic octets, Gtp2BearerContextIe.decode_ne_panic octets, fun found rest answer =>
      ⟨readsOnly_decodeWithin _ octets found rest answer, iesInside_iff answer⟩⟩

def bearerOfResponse : Gtp2BearerContextIe :=
  (⟨[]⟩ : Gtp2BearerContextIe) |>.addIe (.new 73 0 [5]) |>.addIe (.new 87 2 [0x85, 0, 0, 0, 1])

def response : Gtp2Message :=
  (Gtp2Message.new (.new 33 0x11223344 7)).addBearerContext 0 bearerOfResponse
    |>.setPiggybacked ((Gtp2Message.new (.new 95 0x11223344 8)).addIe (.new 73 0 [5]))

theorem codec_nested_response :
  ((∃ found, Gtp2Message.decode (response.encode ++ [0xFF]) = .ok (found, [0xFF]) ∧
      found.unframed = response.unframed) ↔ response.Canonical) ∧
    (Gtp2BearerContextIe.decode (bearerOfResponse.toIe 1).value = .ok bearerOfResponse ↔
      ∀ ie ∈ bearerOfResponse.ies, ie.ieInstance < 16) ∧
    Gtp2Message.decode response.encode ≠ .error .panic ∧
    Gtp2BearerContextIe.decode response.encode ≠ .error .panic ∧
    ∀ found rest, Gtp2Message.decode response.encode = .ok (found, rest) →
      (∃ chunk, response.encode = chunk ++ rest ∧ Gtp2Message.LaidOut chunk found) ∧
        (found.IesInside ↔ Nested response.encode) :=
  codec_nested response (by unfold Gtp2Message.Encodable; decide) [0xFF]
    bearerOfResponse (by decide) 1 response.encode

def echo (sequenceNumber : UInt8) : Bytes := [0x40, 1, 0, 4, 0, 0, sequenceNumber, 0]

/-- The element begins in the last five octets of the payload and declares thirteen. -/
def overrunning : Bytes :=
  [0x50, 1, 0, 9, 0, 0, 7, 0] ++ ([3, 0, 9, 0, 0xAA] ++ (echo 8 ++ echo 9))

/-- The element takes the piggybacked message, and what follows that is read in its place. -/
theorem element_takes_piggybacked : ∃ found, Gtp2Message.decode overrunning = .ok (found, []) ∧
    found.ies.map Gtp2Ie.value = [0xAA :: echo 8] ∧
    found.piggybacked = some ⟨⟨2, false, false, 1, 4, none, 9⟩, [], none⟩ ∧
    ¬ found.IesInside := by
  refine ⟨⟨⟨2, true, false, 1, 9, none, 7⟩, [⟨3, 0, 0xAA :: echo 8⟩],
    some ⟨⟨2, false, false, 1, 4, none, 9⟩, [], none⟩⟩, rfl, rfl, rfl, fun inside => ?_⟩
  exact absurd (inside _ mem_cons_self [] _ [] rfl) (by decide)

end NextGCore.Gtp
