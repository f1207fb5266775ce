import Mathlib.Tactic.Linarith
import Mathlib.Tactic.Ring
import NextGCore.Library.StrictRead

/-!
# Buffers of octets

Numbers in network order, and readers that take octets off the front of a buffer.  A reader is
refused by an error that it returns, and panics when it takes more than there is or when a
subtraction goes below zero.  `Calm` is its logic: the reading does not panic, and what it
leaves has a property.
-/

namespace NextGCore.Library

open List Nat Reading

def beOctets : ℕ → ℕ → List UInt8
  | 0, _ => []
  | width + 1, value => UInt8.ofNat (value / 256 ^ width) :: beOctets width value

def beValue (octets : List UInt8) : ℕ :=
  octets.foldl (fun value octet => 256 * value + octet.toNat) 0

@[simp]
lemma length_beOctets (width value : ℕ) : (beOctets width value).length = width := by
  induction width with
  | zero => rfl
  | succ width ih => rw [beOctets, length_cons, ih]

lemma beValue_cons (octet : UInt8) (octets : List UInt8) :
  beValue (octet :: octets) = octet.toNat * 256 ^ octets.length + beValue octets := by
  have onto (start : ℕ) : octets.foldl (fun value octet => 256 * value + octet.toNat) start =
      start * 256 ^ octets.length + beValue octets := by
    unfold beValue
    induction octets generalizing start with
    | nil => simp
    | cons next rest ih =>
      rw [foldl_cons, foldl_cons, ih, ih (256 * 0 + _), length_cons, pow_succ]
      ring
  rw [beValue, foldl_cons, onto]
  ring

lemma beValue_append (front back : List UInt8) :
  beValue (front ++ back) = beValue front * 256 ^ back.length + beValue back := by
  induction front with
  | nil => simp [beValue]
  | cons octet front ih =>
    rw [cons_append, beValue_cons, ih, beValue_cons, length_append, pow_add]
    ring

lemma beValue_beOctets_mod (width value : ℕ) :
  beValue (beOctets width value) = value % 256 ^ width := by
  induction width with
  | zero => rw [pow_zero, mod_one]; rfl
  | succ width ih =>
    have next : (UInt8.ofNat (value / 256 ^ width)).toNat = value / 256 ^ width % 256 :=
      UInt8.toNat_ofNat'
    rw [beOctets, beValue_cons, ih, length_beOctets, next, mod_pow_succ]
    ring

lemma beValue_beOctets {width value : ℕ} (small : value < 256 ^ width) :
  beValue (beOctets width value) = value := by
  rw [beValue_beOctets_mod, mod_eq_of_lt small]

lemma beValue_lt (octets : List UInt8) : beValue octets < 256 ^ octets.length := by
  induction octets with
  | nil => exact Nat.one_pos
  | cons octet rest ih =>
    have bound : octet.toNat < 256 := octet.toNat_lt
    rw [beValue_cons, length_cons, pow_succ]
    nlinarith

lemma beOctets_beValue (octets : List UInt8) :
  beOctets octets.length (beValue octets) = octets := by
  have shifted (width value more : ℕ) (small : value < 256 ^ width) :
      beOctets width (more * 256 ^ width + value) = beOctets width value := by
    induction width generalizing more value with
    | zero => rfl
    | succ width ih =>
      have split : more * 256 ^ (width + 1) + value =
          (more * 256 + value / 256 ^ width) * 256 ^ width + value % 256 ^ width := by
        rw [pow_succ]
        have := div_add_mod value (256 ^ width)
        nlinarith
      have below : value % 256 ^ width < 256 ^ width := mod_lt _ (by positivity)
      have tail : beOctets width value = beOctets width (value % 256 ^ width) := by
        conv => lhs; rw [← div_add_mod' value (256 ^ width)]
        exact ih _ _ below
      have head : UInt8.ofNat (((more * 256 + value / 256 ^ width) * 256 ^ width +
          value % 256 ^ width) / 256 ^ width) = UInt8.ofNat (value / 256 ^ width) := by
        rw [Nat.add_comm, add_mul_div_right _ _ (by positivity), div_eq_of_lt below,
          Nat.zero_add]
        apply UInt8.toNat_inj.mp
        rw [UInt8.toNat_ofNat', UInt8.toNat_ofNat', Nat.add_comm, add_mul_mod_self_right]
      rw [beOctets, split, head, ih _ _ below, beOctets, tail]
  induction octets with
  | nil => rfl
  | cons octet rest ih =>
    have below := beValue_lt rest
    have head : (octet.toNat * 256 ^ rest.length + beValue rest) / 256 ^ rest.length =
        octet.toNat := by
      rw [Nat.add_comm, add_mul_div_right _ _ (by positivity), div_eq_of_lt below,
        Nat.zero_add]
    rw [length_cons, beValue_cons, beOctets, head, UInt8.ofNat_toNat, shifted _ _ _ below, ih]

inductive Fault (Error : Type) where
  | refused (error : Error)
  | panic

abbrev BufferReading (Error Value : Type) := Reading (List UInt8) (Fault Error) Value

section Readers

variable {Error Value Other : Type} {read : BufferReading Error Value} {value : Value}
  {octets : List UInt8}

def fail (error : Error) : BufferReading Error Value := fun _ => .error (.refused error)

/-- `if buf.remaining() < needed { return Err(..) }`, with the error for what is there. -/
def require (needed : ℕ) (error : ℕ → Error) : BufferReading Error Unit := fun octets =>
  if octets.length < needed then .error (.refused (error octets.length)) else .ok ((), octets)

def getUint (width : ℕ) : BufferReading Error ℕ := fun octets =>
  if octets.length < width then .error .panic
  else .ok (beValue (octets.take width), octets.drop width)

def copyToBytes (count : ℕ) : BufferReading Error (List UInt8) := fun octets =>
  if octets.length < count then .error .panic else .ok (octets.take count, octets.drop count)

def advanceWithin (count : ℕ) : BufferReading Error Unit := fun octets =>
  .ok ((), if count ≤ octets.length then octets.drop count else octets)

def subtract (minuend subtrahend : ℕ) : BufferReading Error ℕ := fun octets =>
  if minuend < subtrahend then .error .panic else .ok (minuend - subtrahend, octets)

def readWhole (read : BufferReading Error Value) (octets : List UInt8) :
  BufferReading Error Value := fun outer =>
  (read octets).map fun answer => (answer.1, outer)

lemma readsBack_getUint {width value : ℕ} (small : value < 256 ^ width) :
  ReadsBack id (getUint width : BufferReading Error ℕ) (beOctets width value) value := by
  intro stream tail front
  rw [id_eq] at front
  subst front
  refine ⟨tail, ?_, rfl⟩
  have enough : ¬ (beOctets width value ++ tail).length < width := by simp
  rw [getUint, if_neg enough, take_append_of_le_length (by simp),
    take_of_length_le (by simp), beValue_beOctets small,
    drop_append_of_le_length (by simp), drop_of_length_le (by simp), nil_append]

lemma readsBack_getUint_as {width number : ℕ} {make : ℕ → Value} (small : number < 256 ^ width)
  (made : make number = value) :
  ReadsBack id (getUint width >>= fun number => pure (make number) : BufferReading Error Value)
    (beOctets width number) value :=
  made ▸ (readsBack_getUint small).last

lemma readsBack_copyToBytes (octets : List UInt8) :
  ReadsBack id (copyToBytes octets.length : BufferReading Error (List UInt8)) octets octets := by
  intro stream tail front
  rw [id_eq] at front
  subst front
  refine ⟨tail, ?_, rfl⟩
  have enough : ¬ (octets ++ tail).length < octets.length := by simp
  rw [copyToBytes, if_neg enough, take_left, drop_left]

lemma readsBack_advanceWithin (octets : List UInt8) :
  ReadsBack id (advanceWithin octets.length : BufferReading Error Unit) octets () := by
  intro stream tail front
  rw [id_eq] at front
  subst front
  refine ⟨tail, ?_, rfl⟩
  rw [advanceWithin, if_pos (by simp), drop_left]

lemma readsBack_subtract {minuend subtrahend : ℕ} (ordered : subtrahend ≤ minuend) :
  ReadsBack id (subtract minuend subtrahend : BufferReading Error ℕ) []
    (minuend - subtrahend) := by
  intro stream tail front
  exact ⟨stream, if_neg (Nat.not_lt.mpr ordered), front⟩

lemma ReadsBack.require {needed : ℕ} {error : ℕ → Error} {chunk : List UInt8}
  (reads : ReadsBack id read chunk value) (enough : needed ≤ chunk.length) :
  ReadsBack id (Library.require needed error >>= fun _ => read) chunk value := by
  intro stream tail front
  obtain ⟨next, answer, left⟩ := reads stream tail front
  rw [id_eq] at front
  have there : ¬ stream.length < needed := by
    rw [front, length_append]
    omega
  have passed : (Library.require needed error : BufferReading Error Unit) stream =
      .ok ((), stream) := if_neg there
  exact ⟨next, (bind_eq passed).trans answer, left⟩

lemma readsBack_readWhole (reads : ReadsToEnd id read octets value) :
  ReadsBack id (readWhole read octets) [] value := by
  intro stream tail front
  obtain ⟨next, answer, -⟩ := reads octets rfl
  exact ⟨stream, by rw [readWhole, answer]; rfl, front⟩

lemma readsOnly_require (needed : ℕ) (error : ℕ → Error) :
  ReadsOnly id (require needed error : BufferReading Error Unit) fun chunk _ => chunk = [] := by
  intro octets value rest answer
  unfold require at answer
  split at answer
  · cases answer
  · cases answer
    exact ⟨[], rfl, rfl⟩

lemma readsOnly_getUint (width : ℕ) :
  ReadsOnly id (getUint width : BufferReading Error ℕ) fun chunk value =>
    chunk = beOctets width value ∧ value < 256 ^ width := by
  intro octets value rest answer
  unfold getUint at answer
  split at answer
  · cases answer
  · cases answer
    have whole : (octets.take width).length = width := length_take_of_le (by omega)
    have back := beOctets_beValue (octets.take width)
    have small := beValue_lt (octets.take width)
    rw [whole] at back small
    exact ⟨octets.take width, (take_append_drop width octets).symm, back.symm, small⟩

lemma readsOnly_copyToBytes (count : ℕ) :
  ReadsOnly id (copyToBytes count : BufferReading Error (List UInt8)) fun chunk value =>
    chunk = value ∧ value.length = count := by
  intro octets value rest answer
  unfold copyToBytes at answer
  split at answer
  · cases answer
  · cases answer
    exact ⟨octets.take count, (take_append_drop count octets).symm, rfl,
      length_take_of_le (by omega)⟩

/-- The reading does not panic, and its value and the octets it leaves are as described. -/
structure Calm (read : BufferReading Error Value) (octets : List UInt8)
  (post : Value → List UInt8 → Prop) : Prop where
  noPanic : read octets ≠ .error .panic
  leaves : ∀ value left, read octets = .ok (value, left) → post value left

namespace Calm

variable {octets : List UInt8} {read : BufferReading Error Value} {post : Value → List UInt8 → Prop}

lemma mono {weaker : Value → List UInt8 → Prop} (calm : Calm read octets post)
  (implies : ∀ value left, post value left → weaker value left) : Calm read octets weaker :=
  ⟨calm.noPanic, fun value left answer => implies value left (calm.leaves value left answer)⟩

lemma congr (same : BufferReading Error Value) (equal : read octets = same octets)
  (calm : Calm same octets post) : Calm read octets post :=
  ⟨equal ▸ calm.noPanic, fun value left answer => calm.leaves value left (equal ▸ answer)⟩

lemma pure {value : Value} (holds : post value octets) :
  Calm (Pure.pure value : BufferReading Error Value) octets post := by
  refine ⟨nofun, ?_⟩
  intro found left answer
  cases answer
  exact holds

lemma bind {first : BufferReading Error Value} {second : Value → BufferReading Error Other}
  {between : Value → List UInt8 → Prop} {post : Other → List UInt8 → Prop}
  (calm : Calm first octets between)
  (then' : ∀ value left, between value left → Calm (second value) left post) :
  Calm (first >>= second) octets post := by
  have unfolded : (first >>= second) octets =
      (first octets >>= fun answer => second answer.1 answer.2) := rfl
  cases answer : first octets with
  | error fault =>
    rw [answer] at unfolded
    refine ⟨?_, fun value left ended => ?_⟩
    · rw [unfolded]
      intro panics
      refine calm.noPanic (answer.trans ?_)
      cases panics
      rfl
    · rw [unfolded] at ended
      cases ended
  | ok found =>
    have next := then' found.1 found.2 (calm.leaves found.1 found.2 answer)
    rw [answer] at unfolded
    exact ⟨fun panics => next.noPanic (unfolded.symm.trans panics), fun value left ended =>
      next.leaves value left (unfolded.symm.trans ended)⟩

lemma require {needed : ℕ} {error : ℕ → Error} :
  Calm (Library.require needed error : BufferReading Error Unit) octets
    fun _ left => left = octets ∧ needed ≤ left.length := by
  unfold Library.require
  constructor
  · split <;> exact nofun
  · intro value left answer
    split at answer
    · cases answer
    · cases answer
      exact ⟨rfl, Nat.not_lt.mp ‹_›⟩

lemma refuse {refused : Prop} [Decidable refused] {error : Error} :
  Calm (Reading.refuse refused (.refused error) : BufferReading Error Unit) octets
    fun _ left => left = octets ∧ ¬ refused := by
  unfold Reading.refuse lift
  constructor
  · split <;> exact nofun
  · intro value left answer
    split at answer
    · cases answer
    · cases answer
      exact ⟨rfl, ‹_›⟩

lemma getUint {width : ℕ} (enough : width ≤ octets.length) :
  Calm (Library.getUint width : BufferReading Error ℕ) octets
    fun value left => value = beValue (octets.take width) ∧ left = octets.drop width := by
  have answers : (Library.getUint width : BufferReading Error ℕ) octets =
      .ok (beValue (octets.take width), octets.drop width) := if_neg (Nat.not_lt.mpr enough)
  constructor
  · rw [answers]
    exact nofun
  · intro value left answer
    rw [answers] at answer
    cases answer
    exact ⟨rfl, rfl⟩

lemma copyToBytes {count : ℕ} (enough : count ≤ octets.length) :
  Calm (Library.copyToBytes count : BufferReading Error (List UInt8)) octets
    fun value left => value.length = count ∧ left.length + count = octets.length := by
  have answers : (Library.copyToBytes count : BufferReading Error (List UInt8)) octets =
      .ok (octets.take count, octets.drop count) := if_neg (Nat.not_lt.mpr enough)
  constructor
  · rw [answers]
    exact nofun
  · intro value left answer
    rw [answers] at answer
    cases answer
    refine ⟨length_take_of_le enough, ?_⟩
    rw [length_drop]
    omega

lemma advanceWithin (count : ℕ) :
  Calm (Library.advanceWithin count : BufferReading Error Unit) octets
    fun _ left => left.length ≤ octets.length := by
  unfold Library.advanceWithin
  refine ⟨nofun, ?_⟩
  intro value left answer
  cases answer
  split
  · rw [length_drop]
    omega
  · exact Nat.le_refl _

lemma subtract {minuend subtrahend : ℕ} (ordered : subtrahend ≤ minuend) :
  Calm (Library.subtract minuend subtrahend : BufferReading Error ℕ) octets
    fun value left => value = minuend - subtrahend ∧ left = octets := by
  have answers : (Library.subtract minuend subtrahend : BufferReading Error ℕ) octets =
      .ok (minuend - subtrahend, octets) := if_neg (Nat.not_lt.mpr ordered)
  constructor
  · rw [answers]
    exact nofun
  · intro value left answer
    rw [answers] at answer
    cases answer
    exact ⟨rfl, rfl⟩

lemma readWhole {inner : List UInt8} (calm : Calm read inner post) :
  Calm (Library.readWhole read inner) octets fun value left =>
    (∃ unread, post value unread) ∧ left = octets := by
  unfold Library.readWhole
  cases answer : read inner with
  | error fault =>
    refine ⟨fun panics => calm.noPanic (answer.trans ?_), nofun⟩
    cases panics
    rfl
  | ok found =>
    refine ⟨nofun, fun value left ended => ?_⟩
    cases ended
    exact ⟨⟨found.2, calm.leaves found.1 found.2 answer⟩, rfl⟩

lemma many (good : Value → Prop) (calm : ∀ octets, octets ≠ [] →
    Calm read octets fun value left => good value ∧ left.length < octets.length)
  (octets : List UInt8) :
  Calm (Reading.many id read) octets fun values left =>
    (∀ value ∈ values, good value) ∧ left = [] := by
  have within (fuel : ℕ) (octets : List UInt8) (enough : octets.length ≤ fuel) :
      Calm (manyWithin id read fuel) octets fun values left =>
        (∀ value ∈ values, good value) ∧ left = [] := by
    induction fuel generalizing octets with
    | zero =>
      obtain rfl := eq_nil_of_length_eq_zero (le_zero.mp enough)
      exact .pure ⟨by simp, rfl⟩
    | succ fuel ih =>
      cases octets with
      | nil => exact congr (Pure.pure []) rfl (.pure ⟨by simp, rfl⟩)
      | cons octet rest =>
        refine congr (read >>= fun value => manyWithin id read fuel >>= fun values =>
          Pure.pure (value :: values)) rfl
          ((calm (octet :: rest) (cons_ne_nil octet rest)).bind ?_)
        rintro value left ⟨isGood, shorter⟩
        refine (ih left (by simp at shorter enough ⊢; omega)).bind ?_
        rintro values rest ⟨areGood, rfl⟩
        exact .pure ⟨forall_mem_cons.mpr ⟨isGood, areGood⟩, rfl⟩
  exact congr (manyWithin id read octets.length) rfl
    (within octets.length octets (Nat.le_refl _))

end Calm

section

variable
  (shrinks : ∀ octets value left, read octets = .ok (value, left) → left.length < octets.length)

include shrinks

lemma manyWithin_of_length_le {fuel : ℕ} (enough : octets.length ≤ fuel) :
  manyWithin id read fuel octets = Reading.many id read octets := by
  have same (more fuel : ℕ) (octets : List UInt8) (enough : octets.length ≤ fuel)
      (enough' : octets.length ≤ more) :
      manyWithin id read fuel octets = manyWithin id read more octets := by
    induction fuel generalizing octets more with
    | zero =>
      obtain rfl := eq_nil_of_length_eq_zero (le_zero.mp enough)
      cases more <;> rfl
    | succ fuel ih =>
      cases octets with
      | nil => cases more <;> rfl
      | cons octet rest =>
        obtain ⟨more, rfl⟩ : ∃ fewer, more = fewer + 1 :=
          ⟨more - 1, by simp at enough'; omega⟩
        unfold manyWithin
        simp only [id_eq, isEmpty_cons, Bool.false_eq_true, if_false]
        cases answer : read (octet :: rest) with
        | error fault =>
          change (read (octet :: rest) >>= _) = (read (octet :: rest) >>= _)
          rw [answer]
          rfl
        | ok found =>
          have shorter := shrinks _ found.1 found.2 answer
          rw [bind_eq answer, bind_eq answer]
          change (manyWithin id read fuel found.2 >>= _) = (manyWithin id read more found.2 >>= _)
          rw [ih more found.2 (by simp at shorter enough; omega)
            (by simp at shorter enough'; omega)]
  exact same octets.length fuel octets enough (Nat.le_refl _)

lemma many_eq (octets : List UInt8) :
  Reading.many id read octets = if octets.isEmpty then .ok ([], octets)
    else (do
      let value ← read
      let values ← Reading.many id read
      pure (value :: values)) octets := by
  cases octets with
  | nil => rfl
  | cons octet rest =>
    change manyWithin id read (rest.length + 1) (octet :: rest) = _
    unfold manyWithin
    simp only [id_eq, isEmpty_cons, Bool.false_eq_true, if_false]
    cases answer : read (octet :: rest) with
    | error fault =>
      change (read (octet :: rest) >>= _) = (read (octet :: rest) >>= _)
      rw [answer]
      rfl
    | ok found =>
      have shorter := shrinks _ found.1 found.2 answer
      rw [bind_eq answer, bind_eq answer]
      change (manyWithin id read rest.length found.2 >>= _) = (Reading.many id read found.2 >>= _)
      rw [manyWithin_of_length_le shrinks (by simp at shorter; omega)]

end

end Readers

end NextGCore.Library
