import Mathlib.Data.UInt
import NextGCore.Library.Buffer

/-!
# Fields of a buffer

Numbers and arrays of fixed width, and flags packed into an octet or two, the first flag in the
least significant bit.
-/

namespace NextGCore.Library

open Reading

variable {Error Value : Type}

def getU8 : BufferReading Error UInt8 := do
  let value ← getUint 1
  pure (UInt8.ofNat value)

def getU16 : BufferReading Error UInt16 := do
  let value ← getUint 2
  pure (UInt16.ofNat value)

def getU32 : BufferReading Error UInt32 := do
  let value ← getUint 4
  pure (UInt32.ofNat value)

def getU64 : BufferReading Error UInt64 := do
  let value ← getUint 8
  pure (UInt64.ofNat value)

lemma length_toArray_take {count : ℕ} {octets : List UInt8} (inside : count ≤ octets.length) :
  (octets.take count).toArray.size = count := by
  rw [List.size_toArray, List.length_take_of_le inside]

def copyToSlice (count : ℕ) : BufferReading Error (Vector UInt8 count) := fun octets =>
  if inside : count ≤ octets.length then
    .ok (⟨(octets.take count).toArray, length_toArray_take inside⟩, octets.drop count)
  else .error .panic

def octetAt (place : ℕ) (data : List UInt8) : Except (Fault Error) UInt8 :=
  match data[place]? with
  | none => .error .panic
  | some octet => .ok octet

def octetOrZero (place : ℕ) (data : List UInt8) : Except (Fault Error) UInt8 :=
  if place < data.length then octetAt place data else .ok 0

def checked (error : ℕ → ℕ → Error) (needed : ℕ) (read : BufferReading Error Value) :
  BufferReading Error Value :=
  require needed (error needed) >>= fun _ => read

def givenIf (present : Bool) (read : BufferReading Error Value) :
  BufferReading Error (Option Value) :=
  if present then (do
    let value ← read
    pure (some value))
  else pure none

def orElse (present : Bool) (default : Value) (read : BufferReading Error Value) :
  BufferReading Error Value :=
  if present then read else pure default

def ifLeft (needed : ℕ) (default : Value) (read : BufferReading Error Value) :
  BufferReading Error Value := fun octets =>
  if needed ≤ octets.length then read octets else .ok (default, octets)

abbrev putU8 (value : UInt8) : List UInt8 := beOctets 1 value.toNat

abbrev putU16 (value : UInt16) : List UInt8 := beOctets 2 value.toNat

abbrev putU32 (value : UInt32) : List UInt8 := beOctets 4 value.toNat

abbrev putU64 (value : UInt64) : List UInt8 := beOctets 8 value.toNat

lemma putU8_eq (value : UInt8) : putU8 value = [value] := by
  simp [beOctets]

def putSome (put : Value → List UInt8) (given : Option Value) : List UInt8 :=
  (given.map put).getD []

def putIf (present : Bool) (chunk : List UInt8) : List UInt8 := if present then chunk else []

def packed : List Bool → ℕ
  | [] => 0
  | bit :: rest => bit.toNat + 2 * packed rest

def flagsOctet (flags : List Bool) : UInt8 := UInt8.ofNat (packed flags)

def flagsWord (flags : List Bool) : UInt16 := UInt16.ofNat (packed flags)

lemma packed_lt (flags : List Bool) : packed flags < 2 ^ flags.length := by
  induction flags with
  | nil => exact Nat.one_pos
  | cons bit rest ih =>
    have small : bit.toNat ≤ 1 := bit.toNat_le
    rw [packed, List.length_cons, pow_succ]
    omega

lemma testBit_packed (flags : List Bool) (place : ℕ) :
  (packed flags).testBit place = flags.getD place false := by
  induction flags generalizing place with
  | nil => rw [packed, Nat.zero_testBit, List.getD_nil]
  | cons bit rest ih =>
    cases place with
    | zero =>
      rw [packed, Nat.testBit_zero, List.getD_cons_zero]
      cases bit <;> simp [Nat.add_mul_mod_self_left]
    | succ place =>
      have half : (bit.toNat + 2 * packed rest) / 2 = packed rest := by
        have small : bit.toNat ≤ 1 := bit.toNat_le
        omega
      rw [packed, Nat.testBit_succ, half, ih, List.getD_cons_succ]

lemma testBit_flagsOctet {flags : List Bool} (few : flags.length ≤ 8) (place : ℕ) :
  (flagsOctet flags).toNat.testBit place = flags.getD place false := by
  have small : packed flags < 2 ^ 8 :=
    (packed_lt flags).trans_le (Nat.pow_le_pow_right (by decide) few)
  rw [flagsOctet, UInt8.toNat_ofNat_of_lt' small, testBit_packed]

lemma testBit_flagsWord {flags : List Bool} (few : flags.length ≤ 16) (place : ℕ) :
  (flagsWord flags).toNat.testBit place = flags.getD place false := by
  have small : packed flags < 2 ^ 16 :=
    (packed_lt flags).trans_le (Nat.pow_le_pow_right (by decide) few)
  rw [flagsWord, UInt16.toNat_ofNat_of_lt' small, testBit_packed]

lemma ReadsBack.answer {read : BufferReading Error Value} {chunk : List UInt8} {value : Value}
  (reads : ReadsBack id read chunk value) (tail : List UInt8) :
  read (chunk ++ tail) = .ok (value, tail) := by
  obtain ⟨left, answer, rfl⟩ := reads (chunk ++ tail) tail rfl
  exact answer

def Gives (read : BufferReading Error Value) (chunk : List UInt8) (value : Value) : Prop :=
  ∃ left, read chunk = .ok (value, left)

lemma ReadsBack.gives {read : BufferReading Error Value} {chunk : List UInt8} {value : Value}
  (reads : ReadsBack id read chunk value) : Gives read chunk value := by
  obtain ⟨left, answer, -⟩ := reads chunk [] (List.append_nil chunk).symm
  exact ⟨left, answer⟩

section

variable {Other : Type} {first : BufferReading Error Value}
  {second : Value → BufferReading Error Other}

lemma Gives.bind {front back : List UInt8} {value : Value} {other : Other}
  (reads : ReadsBack id first front value) (gives : Gives (second value) back other) :
  Gives (first >>= second) (front ++ back) other := by
  obtain ⟨left, answer⟩ := gives
  exact ⟨left, (bind_eq (reads.answer back)).trans answer⟩

lemma Gives.skip {chunk : List UInt8} {value : Value} {other : Other}
  (reads : ReadsBack id first [] value) (gives : Gives (second value) chunk other) :
  Gives (first >>= second) chunk other :=
  Gives.bind reads gives

end

lemma Gives.require {needed : ℕ} {error : ℕ → Error} {read : BufferReading Error Value}
  {chunk : List UInt8} {value : Value} (gives : Gives read chunk value)
  (enough : needed ≤ chunk.length) :
  Gives (Library.require needed error >>= fun _ => read) chunk value := by
  have passed : (Library.require needed error : BufferReading Error Unit) chunk =
      .ok ((), chunk) := if_neg (Nat.not_lt.mpr enough)
  obtain ⟨left, answer⟩ := gives
  exact ⟨left, (bind_eq passed).trans answer⟩

lemma readsBack_getU8 (value : UInt8) :
  ReadsBack id (getU8 : BufferReading Error UInt8) (beOctets 1 value.toNat) value := by
  have small : value.toNat < 256 ^ 1 := value.toNat_lt
  have reads : ReadsBack id (getU8 : BufferReading Error UInt8) (beOctets 1 value.toNat)
      (UInt8.ofNat value.toNat) := (readsBack_getUint small).last
  rwa [UInt8.ofNat_toNat] at reads

lemma readsBack_getU16 (value : UInt16) :
  ReadsBack id (getU16 : BufferReading Error UInt16) (beOctets 2 value.toNat) value := by
  have small : value.toNat < 256 ^ 2 := value.toNat_lt
  have reads : ReadsBack id (getU16 : BufferReading Error UInt16) (beOctets 2 value.toNat)
      (UInt16.ofNat value.toNat) := (readsBack_getUint small).last
  rwa [UInt16.ofNat_toNat] at reads

lemma readsBack_getU32 (value : UInt32) :
  ReadsBack id (getU32 : BufferReading Error UInt32) (beOctets 4 value.toNat) value := by
  have small : value.toNat < 256 ^ 4 := value.toNat_lt
  have reads : ReadsBack id (getU32 : BufferReading Error UInt32) (beOctets 4 value.toNat)
      (UInt32.ofNat value.toNat) := (readsBack_getUint small).last
  rwa [UInt32.ofNat_toNat] at reads

lemma readsBack_getU64 (value : UInt64) :
  ReadsBack id (getU64 : BufferReading Error UInt64) (beOctets 8 value.toNat) value := by
  have small : value.toNat < 256 ^ 8 := value.toNat_lt
  have reads : ReadsBack id (getU64 : BufferReading Error UInt64) (beOctets 8 value.toNat)
      (UInt64.ofNat value.toNat) := (readsBack_getUint small).last
  rwa [UInt64.ofNat_toNat] at reads

lemma readsBack_copyToSlice {count : ℕ} (array : Vector UInt8 count) :
  ReadsBack id (copyToSlice count : BufferReading Error (Vector UInt8 count)) array.toList
    array := by
  intro stream tail front
  rw [id_eq] at front
  subst front
  have size : array.toList.length = count := Vector.length_toList
  have inside : count ≤ (array.toList ++ tail).length := by
    rw [List.length_append]
    omega
  refine ⟨tail, ?_, rfl⟩
  rw [copyToSlice, dif_pos inside]
  refine congrArg Except.ok (Prod.ext (Vector.toList_inj.mp ?_) ?_)
  · change ((array.toList ++ tail).take count) = array.toList
    exact List.take_left' size
  · exact List.drop_left' size

lemma readsBack_checked {error : ℕ → ℕ → Error} {needed : ℕ} {read : BufferReading Error Value}
  {chunk : List UInt8} {value : Value} (reads : ReadsBack id read chunk value)
  (enough : needed ≤ chunk.length) : ReadsBack id (checked error needed read) chunk value :=
  reads.require enough

lemma readsBack_givenIf {read : BufferReading Error Value} {present : Bool}
  {given : Option Value} {write : Value → List UInt8} (agrees : given.isSome = present)
  (reads : ∀ value, given = some value → ReadsBack id read (write value) value) :
  ReadsBack id (givenIf present read) (putSome write given) given := by
  subst agrees
  cases given with
  | none => exact ReadsBack.pure none
  | some value => exact (reads value rfl).last

lemma readsBack_orElse {read : BufferReading Error Value} {present : Bool}
  {value default : Value} {chunk : List UInt8} (reads : ReadsBack id read chunk value)
  (absent : present = false → value = default) :
  ReadsBack id (orElse present default read) (putIf present chunk) value := by
  cases present with
  | true => exact reads
  | false =>
    rw [absent rfl]
    exact ReadsBack.pure default

section

variable {needed : ℕ} {default : Value} {read : BufferReading Error Value}

lemma readsBack_ifLeft {chunk : List UInt8} {value : Value}
  (reads : ReadsBack id read chunk value) (enough : needed ≤ chunk.length) :
  ReadsBack id (ifLeft needed default read) chunk value := by
  intro stream tail front
  have there : needed ≤ stream.length := by
    rw [id_eq] at front
    rw [front, List.length_append]
    omega
  rw [ifLeft, if_pos there]
  exact reads stream tail front

lemma ifLeft_nil (positive : 0 < needed) : ifLeft needed default read [] = .ok (default, []) :=
  if_neg (Nat.not_le.mpr positive)

end

def NeverPanics (make : List UInt8 → Except (Fault Error) Value) : Prop :=
  ∀ octets, make octets ≠ .error .panic

def Safe (read : BufferReading Error Value) : Prop := ∀ octets, read octets ≠ .error .panic

namespace Safe

section

variable {read : BufferReading Error Value}

lemma of_calm {post : List UInt8 → Value → List UInt8 → Prop}
  (calm : ∀ octets, Calm read octets (post octets)) : Safe read :=
  fun octets => (calm octets).noPanic

lemma of_reading (calm : ∀ octets, Calm read octets fun _ _ => True) : Safe read :=
  .of_calm calm

lemma calm (safe : Safe read) (octets : List UInt8) : Calm read octets fun _ _ => True :=
  ⟨safe octets, fun _ _ _ => trivial⟩

end

lemma pure (value : Value) : Safe (Pure.pure value : BufferReading Error Value) := nofun

lemma bind {Other : Type} {first : BufferReading Error Value}
  {second : Value → BufferReading Error Other} (safe : Safe first)
  (then' : ∀ value, Safe (second value)) : Safe (first >>= second) :=
  .of_calm fun octets => (safe.calm octets).bind fun value left _ => (then' value).calm left

lemma lift {result : Except (Fault Error) Value} (returns : result ≠ .error .panic) :
  Safe (Reading.lift result : BufferReading Error Value) := by
  intro octets panics
  cases result with
  | ok value => cases panics
  | error fault =>
    cases panics
    exact returns rfl

lemma refuse (refused : Prop) [Decidable refused] (error : Error) :
  Safe (Reading.refuse refused (.refused error)) :=
  .of_calm fun _ => Calm.refuse

lemma checked {error : ℕ → ℕ → Error} {needed : ℕ} {read : BufferReading Error Value}
  (safe : ∀ octets, needed ≤ octets.length → read octets ≠ .error .panic) :
  Safe (checked error needed read) :=
  .of_calm fun _ => Calm.require.bind fun _ left reads =>
    (⟨safe left reads.2, fun _ _ _ => trivial⟩ : Calm read left fun _ _ => True)

lemma givenIf {read : BufferReading Error Value} (present : Bool) (safe : Safe read) :
  Safe (givenIf present read) := by
  cases present with
  | true => exact safe.bind fun value => .pure (some value)
  | false => exact .pure none

lemma orElse {read : BufferReading Error Value} (present : Bool) (default : Value)
  (safe : Safe read) : Safe (orElse present default read) := by
  cases present with
  | true => exact safe
  | false => exact .pure default

lemma ifLeft {needed : ℕ} {default : Value} {read : BufferReading Error Value}
  (safe : ∀ octets, needed ≤ octets.length → read octets ≠ .error .panic) :
  Safe (ifLeft needed default read) := by
  intro octets
  unfold Library.ifLeft
  split
  · next enough => exact safe octets enough
  · exact nofun

lemma times {read : BufferReading Error Value} (safe : Safe read) (count : ℕ) :
  Safe (Reading.times read count) := by
  induction count with
  | zero => exact .pure []
  | succ count ih =>
    exact safe.bind fun value => ih.bind fun values => .pure (value :: values)

lemma readWhole {read : BufferReading Error Value} (safe : Safe read) (inner : List UInt8) :
  Safe (readWhole read inner) :=
  .of_calm fun _ => Calm.readWhole (safe.calm inner)

end Safe

lemma bind_panics {Other : Type} {first : BufferReading Error Value}
  {second : Value → BufferReading Error Other} {octets : List UInt8}
  (panics : first octets = .error .panic) : (first >>= second) octets = .error .panic := by
  change (first octets >>= fun answer => second answer.1 answer.2) = _
  rw [panics]
  rfl

lemma calm_lift {result : Except (Fault Error) Value} (returns : result ≠ .error .panic)
  {octets : List UInt8} :
  Calm (Reading.lift result : BufferReading Error Value) octets fun _ left => left = octets := by
  refine ⟨Safe.lift returns octets, fun value left answer => ?_⟩
  cases result with
  | ok found =>
    cases answer
    rfl
  | error fault => cases answer

lemma octetAt_of_lt {place : ℕ} {data : List UInt8} (inside : place < data.length) :
  (octetAt place data : Except (Fault Error) UInt8) = .ok data[place] := by
  rw [octetAt, List.getElem?_eq_getElem inside]

lemma octetOrZero_eq (place : ℕ) (data : List UInt8) :
  (octetOrZero place data : Except (Fault Error) UInt8) = .ok (data.getD place 0) := by
  unfold octetOrZero
  split
  · next inside =>
      rw [octetAt_of_lt inside]
      simp [inside]
  · next outside => simp [outside]

section

variable {octets : List UInt8}

lemma calm_getU8 (enough : 1 ≤ octets.length) :
  Calm (getU8 : BufferReading Error UInt8) octets fun _ left => left = octets.drop 1 :=
  (Calm.getUint enough).bind fun _ _ read => .pure read.2

lemma calm_getU16 (enough : 2 ≤ octets.length) :
  Calm (getU16 : BufferReading Error UInt16) octets fun _ left => left = octets.drop 2 :=
  (Calm.getUint enough).bind fun _ _ read => .pure read.2

lemma calm_getU32 (enough : 4 ≤ octets.length) :
  Calm (getU32 : BufferReading Error UInt32) octets fun _ left => left = octets.drop 4 :=
  (Calm.getUint enough).bind fun _ _ read => .pure read.2

lemma calm_getU64 (enough : 8 ≤ octets.length) :
  Calm (getU64 : BufferReading Error UInt64) octets fun _ left => left = octets.drop 8 :=
  (Calm.getUint enough).bind fun _ _ read => .pure read.2

end

lemma calm_copyToSlice {count : ℕ} {octets : List UInt8} (enough : count ≤ octets.length) :
  Calm (copyToSlice count : BufferReading Error (Vector UInt8 count)) octets
    fun _ left => left = octets.drop count := by
  have answers : (copyToSlice count : BufferReading Error (Vector UInt8 count)) octets =
      .ok (_, octets.drop count) := dif_pos enough
  constructor
  · rw [answers]
    exact nofun
  · intro value left answer
    rw [answers] at answer
    cases answer
    rfl

section

variable (error : ℕ → ℕ → Error)

include error

lemma safe_checked_getU8 : Safe (checked error 1 getU8) :=
  .checked fun _ enough => (calm_getU8 enough).noPanic

lemma safe_checked_getU16 : Safe (checked error 2 getU16) :=
  .checked fun _ enough => (calm_getU16 enough).noPanic

lemma safe_checked_getU32 : Safe (checked error 4 getU32) :=
  .checked fun _ enough => (calm_getU32 enough).noPanic

lemma safe_checked_getU64 : Safe (checked error 8 getU64) :=
  .checked fun _ enough => (calm_getU64 enough).noPanic

lemma safe_checked_copyToSlice (count : ℕ) : Safe (checked error count (copyToSlice count)) :=
  .checked fun _ enough => (calm_copyToSlice enough).noPanic

end

/-!
## Groups of elements

A group is a sequence of elements, each of them a tag, a length and a value.  Its decoder takes
elements off as long as there are octets for another header, and passes the value of each to the
arm of its tag, which gathers it; elements without an arm are skipped.
-/

structure Element where
  tag : UInt16
  value : List UInt8

namespace Element

variable {Error : Type}

def encode (element : Element) : List UInt8 :=
  putU16 element.tag ++ (putU16 (UInt16.ofNat element.value.length) ++ element.value)

def decode (short : ℕ → ℕ → Error) : BufferReading Error Element := do
  require 4 (short 4)
  let tag ← getU16
  let length ← getU16
  let value ← checked short length.toNat (copyToBytes length.toNat)
  pure ⟨tag, value⟩

lemma readsBack_encode {short : ℕ → ℕ → Error} {element : Element}
  (small : element.value.length < 2 ^ 16) :
  ReadsBack id (decode short) element.encode element := by
  have declared : (UInt16.ofNat element.value.length).toNat = element.value.length :=
    UInt16.toNat_ofNat_of_lt' small
  have value : ReadsBack id (checked short (UInt16.ofNat element.value.length).toNat
      (copyToBytes (UInt16.ofNat element.value.length).toNat)) element.value element.value := by
    rw [declared]
    exact readsBack_checked (readsBack_copyToBytes element.value) le_rfl
  unfold decode encode
  refine ReadsBack.require ?_ (by simp only [List.length_append, length_beOctets]; omega)
  exact (readsBack_getU16 _).bind ((readsBack_getU16 _).bind value.last)

lemma calm_decode (short : ℕ → ℕ → Error) (octets : List UInt8) :
  Calm (decode short) octets fun _ left => left.length < octets.length := by
  unfold decode
  refine Calm.require.bind fun _ whole there => ?_
  obtain ⟨same, enough⟩ := there
  refine (calm_getU16 (by omega)).bind fun tag afterTag tagRead => ?_
  have left := congrArg List.length tagRead
  rw [List.length_drop] at left
  refine (calm_getU16 (by omega)).bind fun length afterLength lengthRead => ?_
  have last := congrArg List.length lengthRead
  rw [List.length_drop] at last
  have value : Calm (checked short length.toNat (copyToBytes length.toNat)) afterLength
      fun _ left => left.length < octets.length := by
    refine Calm.require.bind fun _ left reads => ?_
    obtain ⟨rfl, inside⟩ := reads
    refine (Calm.copyToBytes inside).mono fun value left size => ?_
    rw [← same]
    omega
  exact value.bind fun _ _ shorter => .pure shorter

end Element

abbrev Taking (Error Value : Type) := List UInt8 → Except (Fault Error) (Option Value)

structure Arm (Error State : Type) where
  tag : UInt16
  run : State → List UInt8 → Except (Fault Error) State

variable {Error State Value : Type}

def Arm.of (tag : UInt16) (take : Taking Error Value) (put : State → Value → State) :
  Arm Error State :=
  ⟨tag, fun state data => (take data).map fun found => found.elim state (put state)⟩

def perform (arms : List (Arm Error State)) (state : State) (element : Element) :
  Except (Fault Error) State :=
  match arms.find? fun arm => arm.tag = element.tag with
  | none => .ok state
  | some arm => arm.run state element.value

def gatherWithin (short : ℕ → ℕ → Error) (arms : List (Arm Error State)) :
    ℕ → State → BufferReading Error State
  | 0, state => pure state
  | turns + 1, state => fun octets =>
    if octets.length < 4 then .ok (state, octets)
    else (do
      let element ← Element.decode short
      let next ← Reading.lift (perform arms state element)
      gatherWithin short arms turns next) octets

/-- `while buf.remaining() >= 4 { let ie = decode(buf)?; match ie.ie_type { .. } }`: a turn takes
four octets at least. -/
def gather (short : ℕ → ℕ → Error) (arms : List (Arm Error State)) (state : State) :
  BufferReading Error State := fun octets =>
  gatherWithin short arms octets.length state octets

def whole (decode : BufferReading Error Value) : Taking Error Value := fun data =>
  (decode data).map fun answer => some answer.1

def parsed (decode : List UInt8 → Except (Fault Error) Value) : Taking Error Value := fun data =>
  (decode data).map some

def number (needed : ℕ) (read : BufferReading Error Value) : Taking Error Value := fun data =>
  if needed ≤ data.length then (read data).map fun answer => some answer.1 else .ok none

/-- `if !ie.data.is_empty() { ie.data[0] }`, of which something is made that may fail. -/
def firstOctet (make : UInt8 → Except (Fault Error) Value) : Taking Error Value := fun data =>
  if data.isEmpty then .ok none
  else do
    let first ← octetAt 0 data
    let value ← make first
    pure (some value)

def allOctets (make : List UInt8 → Value) : Taking Error Value := fun data =>
  .ok (some (make data))

def each (tag : UInt16) (write : Value → List UInt8) (values : List Value) : List Element :=
  values.map fun value => ⟨tag, write value⟩

def ifGiven (tag : UInt16) (write : Value → List UInt8) (value : Option Value) : List Element :=
  each tag write value.toList

def Takes (take : Taking Error Value) (chunk : List UInt8) (value : Value) : Prop :=
  take chunk = .ok (some value)

lemma takes_whole {decode : BufferReading Error Value} {chunk : List UInt8} {value : Value}
  (gives : Gives decode chunk value) : Takes (whole decode) chunk value := by
  obtain ⟨left, answer⟩ := gives
  rw [Takes, whole, answer]
  rfl

section

variable {Values : Type} [Membership Value Values] {values : Values} {Whole : Value → Prop}
  {decode : BufferReading Error Value} {write : Value → List UInt8}

lemma takes_all (gives : ∀ {value}, Whole value → Gives decode (write value) value)
  (wellFormed : ∀ value ∈ values, Whole value) :
  ∀ value ∈ values, Takes (whole decode) (write value) value :=
  fun value inside => takes_whole (gives (wellFormed value inside))

lemma reads_all (reads : ∀ {value}, Whole value → ReadsBack id decode (write value) value)
  (wellFormed : ∀ value ∈ values, Whole value) :
  ∀ value ∈ values, Takes (whole decode) (write value) value :=
  takes_all (fun isWhole => (reads isWhole).gives) wellFormed

end

lemma takes_parsed {decode : List UInt8 → Except (Fault Error) Value} {chunk : List UInt8}
  {value : Value} (decodes : decode chunk = .ok value) : Takes (parsed decode) chunk value := by
  rw [Takes, parsed, decodes]
  rfl

lemma takes_number {needed : ℕ} {read : BufferReading Error Value} {chunk : List UInt8}
  {value : Value} (enough : needed ≤ chunk.length) (reads : ReadsBack id read chunk value) :
  Takes (number needed read) chunk value := by
  obtain ⟨left, answer, -⟩ := reads chunk [] (List.append_nil chunk).symm
  rw [Takes, number, if_pos enough, answer]
  rfl

lemma takes_firstOctet {make : UInt8 → Except (Fault Error) Value} {octet : UInt8}
  {value : Value} (makes : make octet = .ok value) :
  Takes (firstOctet make) (putU8 octet) value := by
  rw [Takes, putU8_eq]
  change (make octet >>= fun value => pure (some value)) = _
  rw [makes]
  rfl

lemma takes_u16 (value : UInt16) :
  Takes (number 2 getU16 : Taking Error UInt16) (putU16 value) value :=
  takes_number (by simp) (readsBack_getU16 value)

lemma takes_u32 (value : UInt32) :
  Takes (number 4 getU32 : Taking Error UInt32) (putU32 value) value :=
  takes_number (by simp) (readsBack_getU32 value)

def Gathers (arms : List (Arm Error State)) (state : State) (elements : List Element)
  (last : State) : Prop :=
  elements.foldlM (perform arms) state = .ok last

section Gathering

variable {short : ℕ → ℕ → Error} {arms : List (Arm Error State)} {state next last : State}

lemma four_le_length_encode (element : Element) : 4 ≤ element.encode.length := by
  rw [Element.encode]
  simp
  omega

lemma gatherWithin_encode {elements : List Element} (gathers : Gathers arms state elements last)
  (small : ∀ element ∈ elements, element.value.length < 2 ^ 16) {turns : ℕ}
  (enough : elements.length ≤ turns) :
  gatherWithin short arms turns state (elements.flatMap Element.encode) = .ok (last, []) := by
  induction elements generalizing state turns with
  | nil =>
    cases gathers
    cases turns <;> rfl
  | cons element rest ih =>
    obtain ⟨turns, rfl⟩ : ∃ fewer, turns = fewer + 1 := ⟨turns - 1, by simp at enough; omega⟩
    obtain ⟨smallFirst, smallRest⟩ := List.forall_mem_cons.mp small
    have long : ¬(element.encode ++ rest.flatMap Element.encode).length < 4 := by
      have least := four_le_length_encode element
      rw [List.length_append]
      omega
    have first : Element.decode short (element.encode ++ rest.flatMap Element.encode) =
        .ok (element, rest.flatMap Element.encode) :=
      (Element.readsBack_encode smallFirst).answer _
    rw [Gathers, List.foldlM_cons] at gathers
    cases performed : perform arms state element with
    | error fault =>
      rw [performed] at gathers
      cases gathers
    | ok next =>
      rw [performed] at gathers
      have turn : Reading.lift (perform arms state element) (rest.flatMap Element.encode) =
          .ok (next, rest.flatMap Element.encode) := by
        rw [performed]
        rfl
      rw [List.flatMap_cons, gatherWithin]
      simp only [if_neg long]
      rw [bind_eq first, bind_eq turn]
      exact ih gathers smallRest (by simp at enough; omega)

lemma length_le_length_encode (elements : List Element) :
  elements.length ≤ (elements.flatMap Element.encode).length := by
  induction elements with
  | nil => exact Nat.zero_le _
  | cons element rest ih =>
    have least := four_le_length_encode element
    rw [List.flatMap_cons, List.length_append, List.length_cons]
    omega

section

variable {elements : List Element} (gathers : Gathers arms state elements last)
  (small : ∀ element ∈ elements, element.value.length < 2 ^ 16)

include gathers small

lemma gather_encode :
  gather short arms state (elements.flatMap Element.encode) = .ok (last, []) :=
  gatherWithin_encode gathers small (length_le_length_encode elements)

lemma gives_gather : Gives (gather short arms state) (elements.flatMap Element.encode) last :=
  ⟨[], gather_encode gathers small⟩

end

lemma gives_gather_bind {Group : Type} {elements : List Element} {group : Group}
  {make : State → BufferReading Error Group} (gathers : Gathers arms state elements last)
  (small : ∀ element ∈ elements, element.value.length < 2 ^ 16)
  (makes : make last [] = .ok (group, [])) :
  Gives (gather short arms state >>= make) (elements.flatMap Element.encode) group :=
  ⟨[], (bind_eq (gather_encode gathers small)).trans makes⟩

namespace Gathers

lemma nil : Gathers arms state [] state := rfl

lemma append {front back : List Element} (first : Gathers arms state front next)
  (second : Gathers arms next back last) : Gathers arms state (front ++ back) last := by
  rw [Gathers, List.foldlM_append, first]
  exact second

lemma perform_eq {arm : Arm Error State} {tag : UInt16} {chunk : List UInt8}
  (found : arms.find? (fun arm => arm.tag = tag) = some arm) :
  perform arms state ⟨tag, chunk⟩ = arm.run state chunk := by
  rw [perform, found]

section

variable {tag : UInt16} {take : Taking Error Value} {put : State → Value → State}

lemma one {chunk : List UInt8} {value : Value}
  (takes : Takes take chunk value)
  (found : arms.find? (fun arm => arm.tag = tag) = some (.of tag take put) := by rfl)
  (done : put state value = next := by rfl) : Gathers arms state [⟨tag, chunk⟩] next := by
  subst done
  have performed : perform arms state ⟨tag, chunk⟩ = .ok (put state value) := by
    rw [perform_eq found]
    change (take chunk).map _ = _
    rw [takes]
    rfl
  rw [Gathers, List.foldlM_cons, performed]
  rfl

lemma every {write : Value → List UInt8} {values : List Value}
  (fill : State → List Value → State)
  (takes : ∀ value ∈ values, Takes take (write value) value)
  (found : arms.find? (fun arm => arm.tag = tag) = some (.of tag take put) := by rfl)
  (empty : fill state [] = state := by rfl)
  (pushes : ∀ done value, put (fill state done) value = fill state (done ++ [value]) := by
    exact fun _ _ => rfl) (done : fill state values = next := by rfl) :
  Gathers arms state (Library.each tag write values) next := by
  have from' (done : List Value) : Gathers arms (fill state done) (Library.each tag write values)
        (fill state (done ++ values)) := by
    clear * - found pushes takes
    induction values generalizing done with
    | nil =>
      rw [List.append_nil]
      exact nil
    | cons value rest ih =>
      obtain ⟨takesFirst, takesRest⟩ := List.forall_mem_cons.mp takes
      have first : Gathers arms (fill state done) [⟨tag, write value⟩]
          (fill state (done ++ [value])) := one takesFirst found (pushes done value)
      have others := ih takesRest (done ++ [value])
      rw [List.append_assoc] at others
      exact first.append others
  have all := from' []
  rwa [empty, List.nil_append, done] at all

lemma whenGiven {write : Value → List UInt8} {value : Option Value}
  (fill : State → Option Value → State)
  (takes : ∀ found, value = some found → Takes take (write found) found)
  (found : arms.find? (fun arm => arm.tag = tag) = some (.of tag take put) := by rfl)
  (empty : fill state none = state := by rfl)
  (fills : ∀ value, put state value = fill state (some value) := by exact fun _ => rfl)
  (done : fill state value = next := by rfl) :
  Gathers arms state (Library.ifGiven tag write value) next := by
  subst done
  cases value with
  | none =>
    rw [empty]
    exact nil
  | some value => exact one (takes value rfl) found (fills value)

end

end Gathers

def Arm.Calm (arm : Arm Error State) : Prop := ∀ state data, arm.run state data ≠ .error .panic

@[simp]
lemma Arm.calm_of {tag : UInt16} {take : Taking Error Value} {put : State → Value → State}
  (calm : NeverPanics take) : (Arm.of tag take put).Calm := by
  intro state data panics
  refine calm data ?_
  rw [Arm.of] at panics
  cases taken : take data with
  | ok found =>
    simp only [taken] at panics
    cases panics
  | error fault =>
    simp only [taken] at panics
    cases panics
    rfl

lemma perform_ne_panic (calm : ∀ arm ∈ arms, arm.Calm) (state : State) (element : Element) :
  perform arms state element ≠ .error .panic := by
  unfold perform
  split
  · exact nofun
  · next arm found => exact calm arm (List.mem_of_find?_eq_some found) state element.value

lemma safe_gather (calm : ∀ arm ∈ arms, arm.Calm) (state : State) :
  Safe (gather short arms state) := by
  have within (turns : ℕ) (state : State) : Safe (gatherWithin short arms turns state) := by
    induction turns generalizing state with
    | zero => exact .pure state
    | succ turns ih =>
      intro octets
      unfold gatherWithin
      split
      · exact nofun
      · have step : Safe (Element.decode short >>= fun element =>
            Reading.lift (perform arms state element) >>= fun next =>
              gatherWithin short arms turns next) :=
          (Safe.of_calm (Element.calm_decode short)).bind fun element =>
            (Safe.lift (perform_ne_panic calm state element)).bind ih
        exact step octets
  exact fun octets => within octets.length state octets

end Gathering

@[simp]
lemma neverPanics_whole {decode : BufferReading Error Value} (safe : Safe decode) :
  NeverPanics (whole decode) := by
  intro data
  rw [whole]
  cases answer : decode data with
  | ok found => exact nofun
  | error fault =>
    intro panics
    cases panics
    exact safe data answer

@[simp]
lemma neverPanics_parsed {decode : List UInt8 → Except (Fault Error) Value}
  (calm : NeverPanics decode) : NeverPanics (parsed decode) := by
  intro data
  rw [parsed]
  cases answer : decode data with
  | ok found => exact nofun
  | error fault =>
    intro panics
    cases panics
    exact calm data answer

lemma neverPanics_number {needed : ℕ} {read : BufferReading Error Value}
  (safe : ∀ octets, needed ≤ octets.length → read octets ≠ .error .panic) :
  NeverPanics (number needed read) := by
  intro data
  unfold number
  split
  · next enough =>
      cases answer : read data with
      | ok found => exact nofun
      | error fault =>
        intro panics
        cases panics
        exact safe data enough answer
  · exact nofun

@[simp]
lemma neverPanics_u16 : NeverPanics (number 2 getU16 : Taking Error UInt16) :=
  neverPanics_number fun _ enough => (calm_getU16 enough).noPanic

@[simp]
lemma neverPanics_u32 : NeverPanics (number 4 getU32 : Taking Error UInt32) :=
  neverPanics_number fun _ enough => (calm_getU32 enough).noPanic

lemma neverPanics_firstOctet {make : UInt8 → Except (Fault Error) Value}
  (calm : ∀ octet, make octet ≠ .error .panic) : NeverPanics (firstOctet make) := by
  intro data
  cases data with
  | nil => exact nofun
  | cons octet rest =>
    change (make octet >>= fun value => pure (some value)) ≠ _
    cases made : make octet with
    | ok value => exact nofun
    | error fault =>
      intro panics
      cases panics
      exact calm octet made

@[simp]
lemma neverPanics_octet (make : UInt8 → Value) :
  NeverPanics (firstOctet fun octet => .ok (make octet) : Taking Error Value) :=
  neverPanics_firstOctet fun _ => nofun

@[simp]
lemma neverPanics_allOctets (make : List UInt8 → Value) :
  NeverPanics (allOctets make : Taking Error Value) := fun _ => nofun

end NextGCore.Library
