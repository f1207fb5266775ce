import NextGCore.Crypt.Primitives
import NextGCore.Library.StrictRead
import NextGCore.Nas.Common

/-!
# The scoped reader of the UE policy codec

`Reader` of `ue_policy.rs` and the two-octet length fields.  A length scope is
read from a reader of its own, which has to be consumed exactly.
-/

namespace NextGCore.Nas.UePolicy

open Library List UInt8
open Crypt (Bytes)

variable {body : Bytes} (value : UInt16) (hi : UInt8)

def toBeBytes : Bytes := [(value >>> 8).toUInt8, value.toUInt8]

def fromBeBytes (lo : UInt8) : UInt16 := hi.toUInt16 <<< 8 ||| lo.toUInt16

lemma toNat_fromBeBytes (lo : UInt8) : (fromBeBytes hi lo).toNat = 256 * hi.toNat + lo.toNat := by
  have high := hi.toNat_lt
  have low := lo.toNat_lt
  unfold fromBeBytes
  rw [UInt16.toNat_or, UInt16.toNat_shiftLeft, toNat_toUInt16, toNat_toUInt16]
  have shifted : hi.toNat <<< ((8 : UInt16).toNat % 16) % 2 ^ 16 = hi.toNat <<< 8 := by
    apply Nat.mod_eq_of_lt
    change hi.toNat <<< 8 < 2 ^ 16
    rw [Nat.shiftLeft_eq]
    omega
  rw [shifted, ← Nat.shiftLeft_add_eq_or_of_lt low, Nat.shiftLeft_eq, Nat.mul_comm]

lemma toBeBytes_eq :
  toBeBytes value = [UInt8.ofNat (value.toNat / 256), UInt8.ofNat value.toNat] := by
  have bound := value.toNat_lt
  unfold toBeBytes
  congr 1
  apply UInt8.toNat_inj.mp
  rw [UInt16.toNat_toUInt8, UInt16.toNat_shiftRight, toNat_ofNat']
  change value.toNat >>> 8 % 2 ^ 8 = _
  rw [Nat.shiftRight_eq_div_pow]

lemma fromBeBytes_toBeBytes : fromBeBytes (value >>> 8).toUInt8 value.toUInt8 = value := by
  have bound := value.toNat_lt
  apply UInt16.toNat_inj.mp
  rw [toNat_fromBeBytes, UInt16.toNat_toUInt8, UInt16.toNat_toUInt8, UInt16.toNat_shiftRight]
  change 256 * (value.toNat >>> 8 % 2 ^ 8) + value.toNat % 2 ^ 8 = value.toNat
  rw [Nat.shiftRight_eq_div_pow]
  omega

lemma toBeBytes_fromBeBytes (lo : UInt8) : toBeBytes (fromBeBytes hi lo) = [hi, lo] := by
  have high := hi.toNat_lt
  have low := lo.toNat_lt
  rw [toBeBytes_eq, toNat_fromBeBytes]
  congr 1
  · apply UInt8.toNat_inj.mp
    rw [toNat_ofNat']
    omega
  · congr 1
    apply UInt8.toNat_inj.mp
    rw [toNat_ofNat']
    omega

def pushU16Len (out : Bytes) (n : ℕ) (what : String) : Except NasError Bytes :=
  if n < 2 ^ 16 then .ok (out ++ toBeBytes (UInt16.ofNat n))
  else
    .error (.encodingError s!"{what} length {n} exceeds 65535 (2-octet length field)")

lemma pushU16Len_eq_ok {out written : Bytes} {n : ℕ} {what : String} :
  pushU16Len out n what = .ok written ↔
    n < 2 ^ 16 ∧ written = out ++ toBeBytes (UInt16.ofNat n) := by
  unfold pushU16Len
  split
  case isTrue fits => rw [ok_iff, and_iff_right fits]
  case isFalse long =>
    exact iff_of_false (fun impossible => by cases impossible) fun both => long both.1

structure Reader where
  buf : Bytes
  pos : ℕ
  inside : pos ≤ buf.length

namespace Reader

variable {Value : Type} {buf : Bytes} {value : Value} (reader : Reader)

abbrev Read (Value : Type) := Reading Reader NasError Value

variable {read : Read Value}

def new (buf : Bytes) : Reader := ⟨buf, 0, Nat.zero_le _⟩

def remaining : ℕ := reader.buf.length - reader.pos

def rest : Bytes := reader.buf.drop reader.pos

def u8 : Read UInt8 := fun reader =>
  if inside : reader.pos < reader.buf.length then
    .ok (reader.buf[reader.pos], ⟨reader.buf, reader.pos + 1, inside⟩)
  else .error (.bufferTooShort (reader.pos + 1) reader.buf.length)

def u16 : Read UInt16 := do
  let hi ← u8
  let lo ← u8
  return fromBeBytes hi lo

def skip (n : ℕ) (enough : ¬ reader.remaining < n) : Reader where
  buf := reader.buf
  pos := reader.pos + n
  inside := by
    have := reader.inside
    unfold remaining at enough
    omega

def take (n : ℕ) : Read Bytes := fun reader =>
  if short : reader.remaining < n then
    .error (.bufferTooShort (reader.pos + n) reader.buf.length)
  else .ok (reader.rest.take n, reader.skip n short)

def finish (scope : String) : Except NasError Unit :=
  if reader.remaining ≠ 0 then
    .error (.decodingError
      s!"{scope}: {reader.remaining} unconsumed trailing octet(s) inside length scope")
  else .ok ()

def many {Value : Type} (read : Read Value) : Read (List Value) := Reading.many rest read

def whole {Value : Type} (scope : String) (buf : Bytes) (read : Read Value) :
  Except NasError Value := do
  let answer ← read (new buf)
  answer.2.finish scope
  return answer.1

def frame : Read Bytes := do
  let length ← u16
  take length.toNat

def shortFrame : Read Bytes := do
  let length ← u8
  take length.toNat

lemma rest_new (buf : Bytes) : (new buf).rest = buf := rfl

lemma remaining_eq : reader.remaining = reader.rest.length :=
  length_drop.symm

lemma u8_cons {reader : Reader} {octet : UInt8} {tail : Bytes}
  (front : reader.rest = octet :: tail) :
  ∃ next, u8 reader = .ok (octet, next) ∧ next.rest = tail := by
  have inside : reader.pos < reader.buf.length := by
    have length := congrArg List.length front
    rw [rest, length_drop, length_cons] at length
    omega
  have split := drop_eq_getElem_cons inside
  have both : reader.buf[reader.pos] = octet ∧ reader.buf.drop (reader.pos + 1) = tail :=
    cons.inj (split.symm.trans front)
  refine ⟨⟨reader.buf, reader.pos + 1, inside⟩, ?_, both.2⟩
  rw [u8, dif_pos inside, both.1]

lemma u8_readsBack (octet : UInt8) : ReadsBack rest u8 [octet] octet :=
  fun _ _ front => u8_cons front

lemma u8_readsOnly : ReadsOnly rest u8 fun chunk octet => chunk = [octet] := by
  intro reader octet next answer
  unfold u8 at answer
  split at answer
  case isTrue inside =>
    obtain ⟨rfl, rfl⟩ := Prod.mk.injEq _ _ _ _ ▸ Except.ok.inj answer
    exact ⟨[_], drop_eq_getElem_cons inside, rfl⟩
  case isFalse => cases answer

lemma u16_readsBack (value : UInt16) : ReadsBack rest u16 (toBeBytes value) value := by
  have reads : ReadsBack rest u16 ([(value >>> 8).toUInt8] ++ [value.toUInt8])
      (fromBeBytes (value >>> 8).toUInt8 value.toUInt8) := by
    apply ReadsBack.bind (u8_readsBack _)
    exact (u8_readsBack _).last
  rwa [fromBeBytes_toBeBytes] at reads

lemma u16_readsOnly : ReadsOnly rest u16 fun chunk value => chunk = toBeBytes value := by
  apply (u8_readsOnly.bind fun hi => u8_readsOnly.last).mono
  rintro chunk value ⟨front, back, hi, rfl, rfl, lo, rfl, rfl⟩
  exact (toBeBytes_fromBeBytes hi lo).symm

lemma take_readsBack (chunk : Bytes) : ReadsBack rest (take chunk.length) chunk chunk := by
  intro reader tail front
  have enough : ¬ reader.remaining < chunk.length := by
    rw [remaining_eq, front, length_append]
    omega
  refine ⟨reader.skip chunk.length enough, ?_, ?_⟩
  · rw [take, dif_neg enough, front, take_left]
  · change reader.buf.drop (reader.pos + chunk.length) = tail
    rw [← drop_drop]
    change reader.rest.drop chunk.length = tail
    rw [front, drop_left]

lemma take_readsOnly (n : ℕ) : ReadsOnly rest (take n) fun chunk value =>
  chunk = value ∧ value.length = n := by
  intro reader value next answer
  unfold take at answer
  split at answer
  case isTrue => cases answer
  case isFalse enough =>
    obtain ⟨rfl, rfl⟩ := Prod.mk.injEq _ _ _ _ ▸ Except.ok.inj answer
    refine ⟨_, ?_, rfl, ?_⟩
    · change _ = _ ++ reader.buf.drop (reader.pos + n)
      rw [← drop_drop]
      exact (take_append_drop n reader.rest).symm
    · rw [length_take, ← remaining_eq]
      omega

lemma whole_of_readsToEnd (reads : ReadsToEnd rest read buf value) (scope : String) :
  whole scope buf read = .ok value := by
  obtain ⟨next, answer, done⟩ := reads (new buf) rfl
  have consumed : ¬ next.remaining ≠ 0 := by
    rw [remaining_eq, done]
    exact not_not.mpr rfl
  simp only [whole, answer, finish, bind, Except.bind, if_neg consumed]
  rfl

lemma whole_of_readsBack (reads : ReadsBack rest read buf value) (scope : String) :
  whole scope buf read = .ok value :=
  whole_of_readsToEnd (.of_readsBack reads) scope

lemma of_whole {relates : Bytes → Value → Prop} (reads : ReadsOnly rest read relates)
  {scope : String} (answer : whole scope buf read = .ok value) : relates buf value := by
  unfold whole at answer
  cases result : read (new buf) with
  | error error =>
    rw [result] at answer
    cases answer
  | ok given =>
    rw [result] at answer
    obtain ⟨chunk, front, related⟩ := reads (new buf) given.1 given.2 result
    change (given.2.finish scope >>= fun _ => pure given.1) = _ at answer
    by_cases left : given.2.remaining ≠ 0
    · rw [finish, if_pos left] at answer
      cases answer
    · rw [finish, if_neg left] at answer
      obtain rfl := Except.ok.inj answer
      have done : given.2.rest = [] := by
        apply eq_nil_of_length_eq_zero
        rw [← remaining_eq]
        exact not_not.mp left
      rw [done, append_nil, rest_new] at front
      rw [front]
      exact related

end Reader

def framed (body : Bytes) : Bytes := toBeBytes (UInt16.ofNat body.length) ++ body

def shortFramed (body : Bytes) : Bytes := UInt8.ofNat body.length :: body

lemma length_framed (body : Bytes) : (framed body).length = 2 + body.length := by
  rw [framed, length_append]
  rfl

lemma framed_ne_nil (body : Bytes) : framed body ≠ [] := by
  apply ne_nil_of_length_pos
  rw [length_framed]
  omega

def frameSize : Bytes → ℕ
  | hi :: lo :: _ => 2 + (fromBeBytes hi lo).toNat
  | _ => 0

def shortFrameSize : Bytes → ℕ
  | length :: _ => 1 + length.toNat
  | [] => 0

lemma framed_sized (fits : body.length < 2 ^ 16) : Sized frameSize (framed body) where
  nonempty := framed_ne_nil body
  size_append tail := by
    have length : (UInt16.ofNat body.length).toNat = body.length :=
      UInt16.toNat_ofNat_of_lt' fits
    rw [length_framed, framed, toBeBytes, append_assoc, cons_append, cons_append,
      nil_append, frameSize, fromBeBytes_toBeBytes, length]

def frontFrame (octets : Bytes) : Bytes := (octets.take (frameSize octets)).drop 2

def afterFrame (octets : Bytes) : Bytes := octets.drop (frameSize octets)

lemma frontFrame_framed (fits : body.length < 2 ^ 16) (tail : Bytes) :
  frontFrame (framed body ++ tail) = body := by
  rw [frontFrame, (framed_sized fits).size_append, take_left]
  rfl

lemma afterFrame_framed (fits : body.length < 2 ^ 16) (tail : Bytes) :
  afterFrame (framed body ++ tail) = tail := by
  rw [afterFrame, (framed_sized fits).size_append, drop_left]

lemma shortFramed_sized (fits : body.length < 2 ^ 8) :
  Sized shortFrameSize (shortFramed body) where
  nonempty := cons_ne_nil _ _
  size_append tail := by
    have length : (UInt8.ofNat body.length).toNat = body.length := toNat_ofNat_of_lt' fits
    rw [shortFramed, cons_append, shortFrameSize, length, length_cons, Nat.add_comm]

lemma fixed_sized {size : Bytes → ℕ} {id : UInt8} (length : ℕ) {value : Bytes}
  (fixed : ∀ value, size (id :: value) = length) (counted : value.length + 1 = length) :
  Sized size (id :: value) where
  nonempty := cons_ne_nil _ _
  size_append tail := (fixed (value ++ tail)).trans counted.symm

lemma counted_sized {size : Bytes → ℕ} {id : UInt8}
  (counted : ∀ value, size (id :: value) = 2 + (value.getD 0 0).toNat)
  (fits : body.length < 2 ^ 8) : Sized size (id :: shortFramed body) where
  nonempty := cons_ne_nil _ _
  size_append tail := by
    have length : (UInt8.ofNat body.length).toNat = body.length := toNat_ofNat_of_lt' fits
    refine (counted _).trans ?_
    change 2 + (UInt8.ofNat body.length).toNat = body.length + 1 + 1
    omega

namespace Reader

variable {body : Bytes}

lemma frame_readsBack (fits : body.length < 2 ^ 16) :
  ReadsBack rest frame (framed body) body := by
  have length : (UInt16.ofNat body.length).toNat = body.length :=
    UInt16.toNat_ofNat_of_lt' fits
  apply ReadsBack.bind (u16_readsBack _)
  rw [length]
  exact take_readsBack body

lemma frame_readsOnly : ReadsOnly rest frame fun chunk body =>
  body.length < 2 ^ 16 ∧ chunk = framed body := by
  apply (u16_readsOnly.bind fun length => take_readsOnly length.toNat).mono
  rintro chunk body ⟨front, back, length, rfl, rfl, rfl, counted⟩
  have bound := length.toNat_lt
  refine ⟨counted ▸ bound, ?_⟩
  rw [framed, counted, UInt16.ofNat_toNat]

lemma shortFrame_readsBack (fits : body.length < 2 ^ 8) :
  ReadsBack rest shortFrame (shortFramed body) body := by
  have length : (UInt8.ofNat body.length).toNat = body.length :=
    toNat_ofNat_of_lt' fits
  apply ReadsBack.bind (u8_readsBack _)
  rw [length]
  exact take_readsBack body

lemma shortFrame_readsOnly : ReadsOnly rest shortFrame fun chunk body =>
  body.length < 2 ^ 8 ∧ chunk = shortFramed body := by
  apply (u8_readsOnly.bind fun length => take_readsOnly length.toNat).mono
  rintro chunk body ⟨front, back, length, rfl, rfl, rfl, counted⟩
  have bound := length.toNat_lt
  refine ⟨counted ▸ bound, ?_⟩
  rw [shortFramed, counted, UInt8.ofNat_toNat]
  rfl

section Scopes

variable {Value : Type} {decode : Bytes → Except NasError Value} {body : Bytes} {value : Value}

lemma scope_readsBack (fits : body.length < 2 ^ 16) (decodes : decode body = .ok value) :
  ReadsBack rest (frame >>= fun body => Reading.lift (decode body)) (framed body) value :=
  (frame_readsBack fits).bind_nil (ReadsBack.lift decodes)

lemma scope_readsOnly :
  ReadsOnly rest (frame >>= fun body => Reading.lift (decode body)) fun chunk value =>
    ∃ body, body.length < 2 ^ 16 ∧ chunk = framed body ∧ decode body = .ok value := by
  apply (frame_readsOnly.bind fun body => ReadsOnly.lift (decode body)).mono
  rintro chunk value ⟨front, back, body, rfl, ⟨fits, rfl⟩, rfl, decodes⟩
  exact ⟨body, fits, append_nil _, decodes⟩

variable {refused : UInt16 → Prop} [DecidablePred refused] {error : UInt16 → NasError}

lemma checkedScope_readsBack (fits : body.length < 2 ^ 16)
  (accepted : ¬ refused (UInt16.ofNat body.length)) (decodes : decode body = .ok value) :
  ReadsBack rest (do
      let length ← u16
      Reading.refuse (refused length) (error length)
      let body ← take length.toNat
      Reading.lift (decode body))
    (framed body) value := by
  have length : (UInt16.ofNat body.length).toNat = body.length :=
    UInt16.toNat_ofNat_of_lt' fits
  apply (u16_readsBack _).bind
  apply ReadsBack.skip (ReadsBack.refuse accepted)
  rw [length]
  exact (take_readsBack body).bind_nil (ReadsBack.lift decodes)

lemma checkedScope_readsOnly :
  ReadsOnly rest (do
      let length ← u16
      Reading.refuse (refused length) (error length)
      let body ← take length.toNat
      Reading.lift (decode body))
    fun chunk value => ∃ body, body.length < 2 ^ 16 ∧
      ¬ refused (UInt16.ofNat body.length) ∧ chunk = framed body ∧ decode body = .ok value := by
  apply (u16_readsOnly.bind fun length => (ReadsOnly.refuse _ _).skip fun _ =>
    (take_readsOnly length.toNat).bind fun body => ReadsOnly.lift (decode body)).mono
  rintro chunk value ⟨_, _, length, rfl, rfl, _, accepted, body, _, _, rfl, ⟨rfl, counted⟩, rfl,
    decodes⟩
  have bound := length.toNat_lt
  have given : UInt16.ofNat body.length = length := by rw [counted, UInt16.ofNat_toNat]
  refine ⟨body, counted ▸ bound, given.symm ▸ accepted, ?_, decodes⟩
  rw [framed, given, append_nil]

end Scopes

end Reader

end NextGCore.Nas.UePolicy
