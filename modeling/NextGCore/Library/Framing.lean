import NextGCore.Library.Fields

/-!
# How far a reader gets

`Consumes` is a logic of the cursor: when a reading gives a value it has taken so many octets off,
and the value and the count are as described.  A reader that begins with a length is framed when
the count is that of the length and of what it declares.
-/

namespace NextGCore.Library

variable {Error Value Other : Type}

/-- What a reading that gives a value leaves, and how the value and the octets taken off are
related. -/
def Consumes (read : BufferReading Error Value) (octets : List UInt8)
  (post : Value → ℕ → Prop) : Prop :=
  ∀ value rest, read octets = .ok (value, rest) →
    ∃ count, count ≤ octets.length ∧ rest = octets.drop count ∧ post value count

namespace Consumes

variable {octets : List UInt8} {read : BufferReading Error Value} {post : Value → ℕ → Prop}

lemma mono {weaker : Value → ℕ → Prop} (consumes : Consumes read octets post)
  (implies : ∀ value count, count ≤ octets.length → post value count → weaker value count) :
  Consumes read octets weaker := by
  intro value rest answer
  obtain ⟨count, within, left, holds⟩ := consumes value rest answer
  exact ⟨count, within, left, implies value count within holds⟩

lemma pure {value : Value} (holds : post value 0) :
  Consumes (Pure.pure value : BufferReading Error Value) octets post := by
  intro found rest answer
  cases answer
  exact ⟨0, Nat.zero_le _, rfl, holds⟩

lemma bind {first : BufferReading Error Value} {second : Value → BufferReading Error Other}
  {between : Value → ℕ → Prop} {post : Other → ℕ → Prop}
  (consumes : Consumes first octets between)
  (then' : ∀ value count, count ≤ octets.length → between value count →
    Consumes (second value) (octets.drop count) fun other more => post other (count + more)) :
  Consumes (first >>= second) octets post := by
  intro other rest answer
  obtain ⟨value, left, began, ended⟩ := Reading.bind_ok answer
  obtain ⟨count, within, rfl, holds⟩ := consumes value left began
  obtain ⟨more, further, rfl, final⟩ := then' value count within holds other rest ended
  rw [List.length_drop] at further
  exact ⟨count + more, by omega, by rw [List.drop_drop], final⟩

lemma fail (error : Error) (post : Value → ℕ → Prop) :
  Consumes (Library.fail error) octets post := nofun

lemma lift {result : Except (Fault Error) Value}
  (holds : ∀ value, result = .ok value → post value 0) :
  Consumes (Reading.lift result : BufferReading Error Value) octets post := by
  intro value rest answer
  cases result with
  | error fault => cases answer
  | ok found =>
    cases answer
    exact ⟨0, Nat.zero_le _, rfl, holds _ rfl⟩

lemma refuse {refused : Prop} [Decidable refused] {error : Fault Error} :
  Consumes (Reading.refuse refused error : BufferReading Error Unit) octets
    fun _ count => count = 0 ∧ ¬ refused := by
  refine lift fun value accepted => ⟨rfl, fun isRefused => ?_⟩
  rw [if_pos isRefused] at accepted
  cases accepted

lemma require {needed : ℕ} {error : ℕ → Error} :
  Consumes (Library.require needed error : BufferReading Error Unit) octets
    fun _ count => count = 0 ∧ needed ≤ octets.length := by
  intro value rest answer
  rw [Library.require] at answer
  split at answer
  · cases answer
  · cases answer
    exact ⟨0, Nat.zero_le _, rfl, rfl, Nat.not_lt.mp ‹_›⟩

lemma getUint {width : ℕ} : Consumes (Library.getUint width : BufferReading Error ℕ) octets
    fun value count => count = width ∧ value = beValue (octets.take width) := by
  intro value rest answer
  rw [Library.getUint] at answer
  split at answer
  · cases answer
  · cases answer
    exact ⟨width, Nat.not_lt.mp ‹_›, rfl, rfl, rfl⟩

lemma copyToBytes {size : ℕ} :
  Consumes (Library.copyToBytes size : BufferReading Error (List UInt8)) octets
    fun _ count => count = size := by
  intro value rest answer
  rw [Library.copyToBytes] at answer
  split at answer
  · cases answer
  · cases answer
    exact ⟨size, Nat.not_lt.mp ‹_›, rfl, rfl⟩

lemma copyToSlice {size : ℕ} :
  Consumes (Library.copyToSlice size : BufferReading Error (Vector UInt8 size)) octets
    fun _ count => count = size := by
  intro value rest answer
  rw [Library.copyToSlice] at answer
  split at answer
  · cases answer
    exact ⟨size, ‹_›, rfl, rfl⟩
  · cases answer

lemma finish {make : Value → Other} {between : Value → ℕ → Prop} {post : Other → ℕ → Prop}
  (consumes : Consumes read octets between)
  (implies : ∀ value count, between value count → post (make value) count) :
  Consumes (read >>= fun value => Pure.pure (make value)) octets post :=
  consumes.bind fun value count _ holds => .pure (implies value count holds)

lemma getU8 : Consumes (Library.getU8 : BufferReading Error UInt8) octets
  fun value count => count = 1 ∧ value.toNat = beValue (octets.take 1) := by
  refine getUint.finish fun value count holds => ⟨holds.1, ?_⟩
  have below := beValue_lt (octets.take 1)
  have short : 256 ^ (octets.take 1).length ≤ 256 ^ 1 :=
    Nat.pow_le_pow_right (by decide) (List.length_take_le _ _)
  rw [holds.2]
  exact UInt8.toNat_ofNat_of_lt' (by rw [UInt8.size]; omega)

lemma getU16 : Consumes (Library.getU16 : BufferReading Error UInt16) octets
  fun value count => count = 2 ∧ value.toNat = beValue (octets.take 2) := by
  refine getUint.finish fun value count holds => ⟨holds.1, ?_⟩
  have below := beValue_lt (octets.take 2)
  have short : 256 ^ (octets.take 2).length ≤ 256 ^ 2 :=
    Nat.pow_le_pow_right (by decide) (List.length_take_le _ _)
  rw [holds.2]
  exact UInt16.toNat_ofNat_of_lt' (by rw [UInt16.size]; omega)

lemma getU32 : Consumes (Library.getU32 : BufferReading Error UInt32) octets
  fun _ count => count = 4 :=
  getUint.finish fun _ _ holds => holds.1

lemma givenIf {present : Bool} {size : ℕ}
  (consumes : Consumes read octets fun _ count => count = size) :
  Consumes (Library.givenIf present read) octets
    fun value count => value.isSome = present ∧ count = if present then size else 0 := by
  cases present with
  | false => exact .pure ⟨rfl, rfl⟩
  | true => exact consumes.finish fun value count holds => ⟨rfl, holds⟩

lemma times {size : ℕ} (consumes : ∀ octets, Consumes read octets fun _ count => count = size)
  (turns : ℕ) (octets : List UInt8) :
  Consumes (Reading.times read turns) octets fun _ count => count = turns * size := by
  induction turns generalizing octets with
  | zero => exact .pure (Nat.zero_mul size).symm
  | succ turns ih =>
    refine (consumes octets).bind fun value count _ one => ?_
    refine (ih _).finish fun values more others => ?_
    rw [one, others, Nat.succ_mul, Nat.add_comm]

end Consumes

def declared (width : ℕ) (octets : List UInt8) : ℕ := beValue (octets.take width)

def Framed (width : ℕ) (octets rest : List UInt8) : Prop :=
  width + declared width octets ≤ octets.length ∧ rest = octets.drop (width + declared width octets)

lemma framed_iff {width count : ℕ} {octets : List UInt8} (within : count ≤ octets.length) :
  Framed width octets (octets.drop count) ↔ count = width + declared width octets := by
  constructor
  · rintro ⟨inside, same⟩
    have lengths := congrArg List.length same
    rw [List.length_drop, List.length_drop] at lengths
    omega
  · rintro rfl
    exact ⟨within, rfl⟩

lemma Consumes.framed_iff {read : BufferReading Error Value} {octets rest : List UInt8}
  {value : Value} {width : ℕ} {post : Value → ℕ → Prop} {fits : Prop}
  (consumes : Consumes read octets post)
  (decides : ∀ count, count ≤ octets.length → post value count →
    (count = width + declared width octets ↔ fits))
  (answer : read octets = .ok (value, rest)) : Framed width octets rest ↔ fits := by
  obtain ⟨count, within, rfl, holds⟩ := consumes value rest answer
  exact (Library.framed_iff within).trans (decides count within holds)

end NextGCore.Library
