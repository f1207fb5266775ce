import Mathlib.Data.Nat.Bitwise
import NextGCore.Library.Buffer
import NextGCore.Sepp.N32f

/-!
# The key in a certificate

`jose.rs` walks the DER of an X.509 certificate to its `subjectPublicKeyInfo`.  A slice out of
range and a sum beyond `usize` are panics, which the walker never comes to.
-/

namespace NextGCore.Sepp

open Crypt (Bytes)
open Library List

def DER_SEQUENCE : UInt8 := 0x30

def DER_CONTEXT_EXPLICIT_0 : UInt8 := 0xA0

inductive DerFault where
  | refused (error : JoseError)
  | panicked

structure DerTlv where
  tag : UInt8
  headerLen : ℕ
  contentLen : ℕ

def derError (text : String) : DerFault := .refused (.format ("X.509 DER: " ++ text))

def x509Error (text : String) : DerFault := .refused (.format ("X.509: " ++ text))

/-- A sum in `usize`. -/
def plus (first second : ℕ) : Except DerFault ℕ :=
  if first + second < 2 ^ 64 then .ok (first + second) else .error .panicked

def checkedAdd (first second : ℕ) : Option ℕ :=
  if first + second < 2 ^ 64 then some (first + second) else none

/-- `&data[first..last]` -/
def slice (data : Bytes) (first last : ℕ) : Except DerFault Bytes :=
  if first ≤ last ∧ last ≤ data.length then .ok ((data.take last).drop first)
  else .error .panicked

/-- The loop over the octets of a length in the long form. -/
def derLongLength (data : Bytes) (pos : ℕ) : ℕ → ℕ → ℕ → Except DerFault ℕ
  | 0, _, len => .ok len
  | n + 1, k, len => do
    let place ← plus (← plus pos 2) k
    let b ← given (derError "truncated in long-form length") data[place]?
    derLongLength data pos n (k + 1) (len <<< 8 % 2 ^ 64 ||| b.toNat)

/-- The length of the content and the number of octets that it takes. -/
def derLength (data : Bytes) (pos : ℕ) (lenByte : UInt8) : Except DerFault (ℕ × ℕ) :=
  if lenByte &&& 0x80 = 0 then .ok (lenByte.toNat, 1)
  else do
    let n := (lenByte &&& 0x7f).toNat
    refuse (n = 0) (derError "indefinite length is not valid DER")
    refuse (4 < n) (derError "length field too large")
    let len ← derLongLength data pos n 0 0
    .ok (len, 1 + n)

def derReadTlv (data : Bytes) (pos : ℕ) : Except DerFault DerTlv := do
  let tag ← given (derError "truncated at tag") data[pos]?
  refuse (tag &&& 0x1f = 0x1f) (derError "high-tag-number form unsupported")
  let next ← plus pos 1
  let lenByte ← given (derError "truncated at length") data[next]?
  let length ← derLength data pos lenByte
  let headerLen := 1 + length.2
  let stop ← given (derError "length overflow")
    ((checkedAdd pos headerLen).bind (checkedAdd · length.1))
  refuse (data.length < stop) (derError "element exceeds buffer")
  .ok ⟨tag, headerLen, length.1⟩

/-- `pos` behind so many elements. -/
def skipElements (tbs : Bytes) : ℕ → ℕ → Except DerFault ℕ
  | 0, pos => .ok pos
  | count + 1, pos => do
    let f ← derReadTlv tbs pos
    let next ← plus pos (← plus f.headerLen f.contentLen)
    skipElements tbs count next

/-- The place behind the version, which may be absent. -/
def skipVersion (first : DerTlv) : Except DerFault ℕ :=
  if first.tag = DER_CONTEXT_EXPLICIT_0 then plus first.headerLen first.contentLen else .ok 0

def spkiDerFromX509Der (cert : Bytes) : Except DerFault Bytes := do
  let outer ← derReadTlv cert 0
  refuse (outer.tag ≠ DER_SEQUENCE) (x509Error "Certificate is not a SEQUENCE")
  let outerEnd ← plus outer.headerLen outer.contentLen
  refuse (outerEnd ≠ cert.length) (x509Error "trailing bytes after Certificate")
  let tbsContainer ← slice cert outer.headerLen outerEnd
  let tbsHdr ← derReadTlv tbsContainer 0
  refuse (tbsHdr.tag ≠ DER_SEQUENCE) (x509Error "tbsCertificate is not a SEQUENCE")
  let tbsEnd ← plus tbsHdr.headerLen tbsHdr.contentLen
  let tbs ← slice tbsContainer tbsHdr.headerLen tbsEnd
  let first ← derReadTlv tbs 0
  let version ← skipVersion first
  let pos ← skipElements tbs 5 version
  let spki ← derReadTlv tbs pos
  refuse (spki.tag ≠ DER_SEQUENCE) (x509Error "subjectPublicKeyInfo is not a SEQUENCE")
  let spkiEnd ← plus (← plus pos spki.headerLen) spki.contentLen
  slice tbs pos spkiEnd

/-- No panic, and a value that is as it should be. -/
def Lawful {Value : Type} (post : Value → Prop) : Except DerFault Value → Prop
  | .ok value => post value
  | .error (.refused _) => True
  | .error .panicked => False

section

variable {Value Result : Type} {result : Except DerFault Value} {post : Value → Prop}

lemma Lawful.bind {next : Value → Except DerFault Result} {after : Result → Prop}
  (first : Lawful post result) (onward : ∀ value, post value → Lawful after (next value)) :
  Lawful after (result >>= next) := by
  match result, first with
  | .ok value, holds => exact onward value holds
  | .error (.refused _), _ => trivial

lemma Lawful.ne_panicked (lawful : Lawful post result) : result ≠ .error .panicked := by
  rintro rfl
  exact lawful

lemma Lawful.of_ok {value : Value} (lawful : Lawful post result) (ok : result = .ok value) :
  post value := by
  rw [ok] at lawful
  exact lawful

end

variable {data tbs : Bytes} {pos : ℕ}

lemma lawful_refuse (refused : Prop) [Decidable refused] (error : JoseError) :
  Lawful (fun _ => ¬ refused) (refuse refused (.refused error)) := by
  unfold refuse
  split
  · trivial
  · assumption

lemma lawful_octet (error : JoseError) (data : Bytes) (pos : ℕ) :
  Lawful (fun octet => pos < data.length ∧ data.drop pos = octet :: data.drop (pos + 1))
    (given (.refused error) data[pos]?) := by
  cases found : data[pos]? with
  | none => trivial
  | some octet =>
    obtain ⟨within, rfl⟩ := List.getElem?_eq_some_iff.mp found
    exact ⟨within, drop_eq_getElem_cons within⟩

lemma lawful_plus {first second : ℕ} (small : first + second < 2 ^ 64) :
  Lawful (· = first + second) (plus first second) := by
  rw [plus, if_pos small]
  exact rfl

lemma lawful_slice {first last : ℕ} (ordered : first ≤ last) (within : last ≤ data.length) :
  Lawful (· = (data.take last).drop first) (slice data first last) := by
  rw [slice, if_pos ⟨ordered, within⟩]
  exact rfl

/-- A definite length of at most five octets. -/
inductive LengthOctets : Bytes → ℕ → Prop where
  | short (octet : UInt8) (small : octet.toNat < 128) : LengthOctets [octet] octet.toNat
  | long (count : UInt8) (octets : Bytes) (counts : count.toNat = 128 + octets.length)
      (known : octets ≠ []) : LengthOctets (count :: octets) (beValue octets)

def IsTlv (chunk : Bytes) (tag : UInt8) (content : Bytes) : Prop :=
  ∃ lengthOctets, LengthOctets lengthOctets content.length ∧
    chunk = tag :: lengthOctets ++ content

/-- At `pos` stands an element, with so many octets of a header and so many of content. -/
def StandsAt (data : Bytes) (pos : ℕ) (tlv : DerTlv) : Prop :=
  ∃ chunk content rest, data.drop pos = chunk ++ rest ∧ IsTlv chunk tlv.tag content ∧
    chunk.length = tlv.headerLen + tlv.contentLen ∧ content = chunk.drop tlv.headerLen ∧
    pos + chunk.length ≤ data.length

lemma drop_of_front {chunk rest : Bytes} (front : data.drop pos = chunk ++ rest) :
  data.drop (pos + chunk.length) = rest := by
  rw [← drop_drop, front, drop_left]

lemma Lawful.mono {Value : Type} {result : Except DerFault Value} {post weaker : Value → Prop}
  (lawful : Lawful post result) (implies : ∀ value, post value → weaker value) :
  Lawful weaker result := by
  match result, lawful with
  | .ok value, holds => exact implies value holds
  | .error (.refused _), _ => trivial

lemma shiftLeft_or_octet {len k : ℕ} (octet : UInt8) (small : len < 256 ^ k) (few : k < 4) :
  len <<< 8 % 2 ^ 64 ||| octet.toNat = 256 * len + octet.toNat := by
  have power : 256 ^ k ≤ 256 ^ 3 := Nat.pow_le_pow_right (by decide) (by omega)
  have shifted : len <<< 8 = 256 * len := by rw [Nat.shiftLeft_eq, Nat.mul_comm]
  have fits : len <<< 8 < 2 ^ 64 := by omega
  rw [Nat.mod_eq_of_lt fits, ← Nat.shiftLeft_add_eq_or_of_lt octet.toNat_lt, shifted]

section

variable (addressable : data.length < 2 ^ 63)

include addressable

lemma lawful_derLongLength (start : pos ≤ data.length) (n : ℕ) {k len : ℕ} (few : k + n ≤ 4)
  (small : len < 256 ^ k) :
  Lawful (fun total => ∃ octets, octets.length = n ∧
      data.drop (pos + 2 + k) = octets ++ data.drop (pos + 2 + k + n) ∧
      total = octets.foldl (fun value octet => 256 * value + octet.toNat) len)
    (derLongLength data pos n k len) := by
  induction n generalizing k len with
  | zero => exact ⟨[], rfl, rfl, rfl⟩
  | succ n ih =>
    refine (lawful_plus (by omega)).bind ?_
    rintro second rfl
    refine (lawful_plus (by omega)).bind ?_
    rintro place rfl
    refine (lawful_octet _ _ _).bind ?_
    rintro octet ⟨-, starts⟩
    rw [shiftLeft_or_octet octet small (by omega)]
    have octetSmall : octet.toNat < 256 := octet.toNat_lt
    have bounded : 256 * len + octet.toNat < 256 ^ (k + 1) := by
      rw [Nat.pow_succ]
      omega
    refine (ih (by omega) bounded).mono ?_
    rintro total ⟨octets, rfl, front, rfl⟩
    refine ⟨octet :: octets, rfl, ?_, rfl⟩
    have further : pos + 2 + k + (octets.length + 1) = pos + 2 + (k + 1) + octets.length := by omega
    rw [starts, cons_append, further]
    exact congrArg (octet :: ·) front

lemma lawful_derLength (start : pos ≤ data.length) (lenByte : UInt8)
  (starts : data.drop (pos + 1) = lenByte :: data.drop (pos + 2)) :
  Lawful (fun length => ∃ octets, octets.length = length.2 ∧ length.2 ≤ 5 ∧
      LengthOctets octets length.1 ∧
      data.drop (pos + 1) = octets ++ data.drop (pos + 1 + length.2))
    (derLength data pos lenByte) := by
  have top : (lenByte &&& 0x80).toNat = (lenByte.toNat.testBit 7).toNat * 2 ^ 7 := by
    rw [UInt8.toNat_and]
    exact Nat.and_two_pow lenByte.toNat 7
  have rest : (lenByte &&& 0x7f).toNat = lenByte.toNat % 2 ^ 7 := by
    rw [UInt8.toNat_and]
    exact Nat.and_two_pow_sub_one_eq_mod lenByte.toNat 7
  have octetSmall : lenByte.toNat < 256 := lenByte.toNat_lt
  rw [Nat.testBit_eq_decide_div_mod_eq] at top
  unfold derLength
  split
  case isTrue clear =>
    rw [clear] at top
    refine ⟨[lenByte], rfl, show 1 ≤ 5 by decide, .short lenByte ?_, starts⟩
    have low : ¬ lenByte.toNat / 2 ^ 7 % 2 = 1 := fun high => by
      rw [decide_eq_true high] at top
      cases top
    omega
  case isFalse set =>
    have high : lenByte.toNat / 2 ^ 7 % 2 = 1 := by
      by_contra low
      refine set (UInt8.toNat_inj.mp ?_)
      rw [top, decide_eq_false low]
      rfl
    refine (lawful_refuse _ _).bind fun _ known => ?_
    refine (lawful_refuse _ _).bind fun _ few => ?_
    refine (lawful_derLongLength addressable start _ (by omega) (Nat.zero_lt_one)).bind ?_
    rintro len ⟨octets, counted, front, rfl⟩
    refine ⟨lenByte :: octets, ?_, by omega, .long lenByte octets ?_ ?_, ?_⟩
    · rw [length_cons, counted, Nat.add_comm]
    · omega
    · rintro rfl
      exact known counted.symm
    · rw [starts, cons_append]
      refine congrArg (lenByte :: ·) (front.trans ?_)
      rw [show pos + 2 + 0 + (lenByte &&& 0x7f).toNat = pos + 1 + (1 + (lenByte &&& 0x7f).toNat) by
        omega]

lemma lawful_derReadTlv (pos : ℕ) : Lawful (StandsAt data pos) (derReadTlv data pos) := by
  refine (lawful_octet _ _ _).bind ?_
  rintro tag ⟨within, starts⟩
  refine (lawful_refuse _ _).bind fun _ _ => ?_
  refine (lawful_plus (by omega)).bind ?_
  rintro next rfl
  refine (lawful_octet _ _ _).bind ?_
  rintro lenByte ⟨-, then_⟩
  refine (lawful_derLength addressable (Nat.le_of_lt within) lenByte then_).bind ?_
  rintro ⟨contentLen, lenSize⟩ ⟨octets, counted, few, lengthOctets, front⟩
  dsimp only at counted few lengthOctets front ⊢
  cases sum : (checkedAdd pos (1 + lenSize)).bind (checkedAdd · contentLen) with
  | none => trivial
  | some stop =>
    have stopIs : stop = pos + (1 + lenSize) + contentLen := by
      unfold checkedAdd at sum
      split at sum
      · rw [Option.bind_some] at sum
        split at sum
        · exact (Option.some.inj sum).symm
        · cases sum
      · cases sum
    refine (lawful_refuse _ _).bind fun _ inside => ?_
    let content := (data.drop (pos + 1 + lenSize)).take contentLen
    have length : content.length = contentLen := by
      rw [length_take, length_drop]
      omega
    have splits : data.drop (pos + 1 + lenSize) = content ++ data.drop stop := by
      have beyond : data.drop stop = (data.drop (pos + 1 + lenSize)).drop contentLen := by
        rw [drop_drop, show stop = pos + 1 + lenSize + contentLen by omega]
      rw [beyond, take_append_drop]
    refine ⟨tag :: octets ++ content, content, data.drop stop, ?_, ⟨octets, ?_, rfl⟩, ?_, ?_, ?_⟩
    · rw [starts, front, splits]
      simp only [cons_append, append_assoc]
    · rw [length]
      exact lengthOctets
    · simp only [length_append, length_cons, counted, length]
      omega
    · rw [← counted, Nat.add_comm 1, ← length_cons, drop_left]
    · simp only [length_append, length_cons, counted, length]
      omega

lemma lawful_skipElements {count pos : ℕ} (start : pos ≤ data.length) :
  Lawful (fun next => pos ≤ next ∧ next ≤ data.length ∧ ∃ fields : List Bytes,
      fields.length = count ∧ (∀ field ∈ fields, ∃ tag content, IsTlv field tag content) ∧
      data.drop pos = fields.flatten ++ data.drop next)
    (skipElements data count pos) := by
  induction count generalizing pos with
  | zero => exact ⟨Nat.le_refl _, start, [], rfl, nofun, rfl⟩
  | succ count ih =>
    refine (lawful_derReadTlv addressable pos).bind fun tlv stands => ?_
    obtain ⟨chunk, content, rest, front, isTlv, length, -, within⟩ := stands
    have behind := drop_of_front front
    refine (lawful_plus (by omega)).bind ?_
    rintro size rfl
    refine (lawful_plus (by omega)).bind ?_
    rintro next rfl
    refine (ih (by omega)).mono ?_
    rintro last ⟨later, inside, fields, rfl, elements, fills⟩
    refine ⟨by omega, inside, chunk :: fields, rfl, ?_, ?_⟩
    · exact forall_mem_cons.mpr ⟨⟨_, _, isTlv⟩, elements⟩
    · rw [front, flatten_cons, append_assoc, ← fills, ← length, behind]

/-- `key` is the element behind the subject of the `tbsCertificate` of `cert`: five elements stand
between it and the version, which may be absent. -/
def IsKeyOf (key cert : Bytes) : Prop :=
  ∃ tbsChunk certRest tbs version fields rest keyContent,
    IsTlv cert DER_SEQUENCE (tbsChunk ++ certRest) ∧ IsTlv tbsChunk DER_SEQUENCE tbs ∧
    tbs = version ++ flatten fields ++ key ++ rest ∧
    (version = [] ∧ tbs.head? ≠ some DER_CONTEXT_EXPLICIT_0 ∨
      ∃ content, IsTlv version DER_CONTEXT_EXPLICIT_0 content) ∧
    List.length fields = 5 ∧ (∀ field ∈ fields, ∃ tag content, IsTlv field tag content) ∧
    IsTlv key DER_SEQUENCE keyContent

lemma lawful_skipVersion {first : DerTlv} (stands : StandsAt data 0 first) :
  Lawful (fun pos => pos ≤ data.length ∧ ∃ version, data = version ++ data.drop pos ∧
      (version = [] ∧ data.head? ≠ some DER_CONTEXT_EXPLICIT_0 ∨
        ∃ content, IsTlv version DER_CONTEXT_EXPLICIT_0 content))
    (skipVersion first) := by
  obtain ⟨chunk, content, rest, front, isTlv, length, -, within⟩ := stands
  have behind := drop_of_front front
  rw [drop_zero] at front
  unfold skipVersion
  split
  case isTrue explicit =>
    rw [explicit] at isTlv
    refine (lawful_plus (by omega)).mono ?_
    rintro pos rfl
    rw [← length, ← Nat.zero_add chunk.length, behind]
    exact ⟨within, chunk, front, .inr ⟨content, isTlv⟩⟩
  case isFalse other =>
    obtain ⟨lengthOctets, -, rfl⟩ := isTlv
    refine ⟨Nat.zero_le _, [], rfl, .inl ⟨rfl, ?_⟩⟩
    rw [front]
    exact fun same => other (Option.some.inj same)

lemma lawful_spkiDerFromX509Der :
  Lawful (IsKeyOf · data) (spkiDerFromX509Der data) := by
  refine (lawful_derReadTlv addressable 0).bind fun outer stands => ?_
  obtain ⟨cert, container, beyond, front, certTlv, length, rfl, within⟩ := stands
  refine (lawful_refuse _ _).bind fun _ outerTag => ?_
  refine (lawful_plus (by omega)).bind ?_
  rintro outerEnd rfl
  refine (lawful_refuse _ _).bind fun _ whole => ?_
  obtain rfl : cert = data := by
    rw [drop_zero] at front
    have nothing : beyond.length = 0 := by
      have total := congrArg List.length front
      rw [length_append] at total
      omega
    rw [front, length_eq_zero_iff.mp nothing, append_nil]
  refine (lawful_slice (by omega) (by omega)).bind ?_
  rintro container rfl
  rw [← length, take_length]
  have bounded : (cert.drop outer.headerLen).length < 2 ^ 63 := by
    rw [length_drop]
    omega
  refine (lawful_derReadTlv bounded 0).bind fun header stands => ?_
  obtain ⟨tbsChunk, tbs, certRest, front, tbsTlv, tbsLength, tbsIs, within⟩ := stands
  refine (lawful_refuse _ _).bind fun _ tbsTag => ?_
  refine (lawful_plus (by omega)).bind ?_
  rintro tbsEnd rfl
  refine (lawful_slice (by omega) (by omega)).bind ?_
  rintro content rfl
  rw [drop_zero] at front
  rw [front, ← tbsLength, take_left, ← tbsIs]
  have tbsBounded : tbs.length < 2 ^ 63 := by
    rw [tbsIs, length_drop]
    omega
  refine (lawful_derReadTlv tbsBounded 0).bind fun first stands => ?_
  refine (lawful_skipVersion tbsBounded stands).bind ?_
  rintro start ⟨started, version, opens, versioned⟩
  refine (lawful_skipElements tbsBounded started).bind ?_
  rintro pos ⟨-, -, fields, five, elements, fills⟩
  refine (lawful_derReadTlv tbsBounded pos).bind fun spki stands => ?_
  obtain ⟨key, keyContent, rest, keyFront, keyTlv, keyLength, -, keyWithin⟩ := stands
  refine (lawful_refuse _ _).bind fun _ keyTag => ?_
  refine (lawful_plus (by omega)).bind ?_
  rintro behind rfl
  refine (lawful_plus (by omega)).bind ?_
  rintro spkiEnd rfl
  refine (lawful_slice (by omega) (by omega)).mono ?_
  rintro found rfl
  rw [Nat.add_assoc, ← keyLength, drop_take, Nat.add_sub_cancel_left, keyFront, take_left]
  refine ⟨tbsChunk, certRest, tbs, version, fields, rest, keyContent, ?_, ?_, ?_, versioned, five,
    elements, ?_⟩
  · rw [← front, ← Decidable.not_not.mp outerTag]
    exact certTlv
  · rw [← Decidable.not_not.mp tbsTag]
    exact tbsTlv
  · calc tbs = version ++ tbs.drop start := opens
      _ = version ++ (fields.flatten ++ (key ++ rest)) := by rw [fills, keyFront]
      _ = version ++ fields.flatten ++ key ++ rest := by simp only [append_assoc]
  · rw [← Decidable.not_not.mp keyTag]
    exact keyTlv

end

/-- The octets of a slice, at most `isize::MAX` of them. -/
structure Slice where
  octets : Bytes
  addressable : octets.length < 2 ^ 63

/-- Neither function panics, and an extracted key is the whole element behind the subject. -/
theorem spkiDerFromX509Der_isKeyOf (cert : Slice) :
  (∀ pos, derReadTlv cert.octets pos ≠ .error .panicked) ∧
    spkiDerFromX509Der cert.octets ≠ .error .panicked ∧
    ∀ key, spkiDerFromX509Der cert.octets = .ok key → IsKeyOf key cert.octets := by
  have lawful := lawful_spkiDerFromX509Der cert.addressable
  exact ⟨fun pos => (lawful_derReadTlv cert.addressable pos).ne_panicked, lawful.ne_panicked,
    fun key => lawful.of_ok⟩

def bogusSpki : Bytes := [0x30, 0x03, 0x02, 0x01, 0x00]

/-- A certificate of version 3, with empty names and validity. -/
def bogusCert : Slice where
  octets :=
    let tlv := fun (tag : UInt8) (content : Bytes) => tag :: content.length.toUInt8 :: content
    let sigAlgid := tlv 0x30 (tlv 0x06 [0x2a, 0x86, 0x48, 0xce, 0x3d, 0x04, 0x03, 0x02])
    let tbs := tlv DER_CONTEXT_EXPLICIT_0 (tlv 0x02 [0x02]) ++ tlv 0x02 [0x01] ++ sigAlgid ++
      tlv 0x30 [] ++ tlv 0x30 [] ++ tlv 0x30 [] ++ bogusSpki
    tlv 0x30 (tlv 0x30 tbs ++ sigAlgid ++ tlv 0x03 [0x00, 0xde, 0xad, 0xbe, 0xef])
  addressable := by decide

theorem bogusCert_isKeyOf : IsKeyOf bogusSpki bogusCert.octets :=
  (spkiDerFromX509Der_isKeyOf bogusCert).2.2 bogusSpki rfl

end NextGCore.Sepp
