import Mathlib.Control.Monad.Basic
import Mathlib.Data.List.Forall2

/-!
# Strict readers and writers

A reader takes a chunk off the front of a stream and gives a value, or fails.
Two things are said about one: it reads back what a writer makes of a value, and
it reads only chunks that stand in some relation to the value.  Both are closed
under the ways of putting readers together, so the two directions of a codec are
proved side by side, one rule for each construct.  A writer appends the octets
of the values that are valid.
-/

namespace NextGCore.Library

open List

variable {Stream Octet Error Value Other : Type} (rest : Stream → List Octet)

abbrev Reading (Stream Error Value : Type) := StateT Stream (Except Error) Value

variable {first : Reading Stream Error Value} {second : Value → Reading Stream Error Other}
  {stream next : Stream} {value result : Value}

def ReadsBack (read : Reading Stream Error Value) (chunk : List Octet) (value : Value) : Prop :=
  ∀ stream tail, rest stream = chunk ++ tail →
    ∃ next, read stream = .ok (value, next) ∧ rest next = tail

def ReadsToEnd (read : Reading Stream Error Value) (chunk : List Octet) (value : Value) : Prop :=
  ∀ stream, rest stream = chunk → ∃ next, read stream = .ok (value, next) ∧ rest next = []

/-- What the reader takes off the front stands in the relation to the value it
gives. -/
def ReadsOnly (read : Reading Stream Error Value) (relates : List Octet → Value → Prop) : Prop :=
  ∀ stream value next, read stream = .ok (value, next) →
    ∃ chunk, rest stream = chunk ++ rest next ∧ relates chunk value

def Reading.lift (result : Except Error Value) : Reading Stream Error Value :=
  fun stream => result.map fun value => (value, stream)

def Reading.refuse (refused : Prop) [Decidable refused] (error : Error) :
  Reading Stream Error Unit :=
  .lift (if refused then .error error else .ok ())

/-- `while remaining > 0 { values.push(read()?) }`, at most `fuel` times. -/
def Reading.manyWithin (read : Reading Stream Error Value) : ℕ → Reading Stream Error (List Value)
  | 0 => pure []
  | fuel + 1 => fun stream =>
    if (rest stream).isEmpty then .ok ([], stream)
    else (do
      let value ← read
      let values ← Reading.manyWithin read fuel
      pure (value :: values)) stream

/-- A reader that takes something off takes at most as many turns as there are
octets. -/
def Reading.many (read : Reading Stream Error Value) : Reading Stream Error (List Value) :=
  fun stream => Reading.manyWithin rest read (rest stream).length stream

def Reading.times (read : Reading Stream Error Value) : ℕ → Reading Stream Error (List Value)
  | 0 => pure []
  | count + 1 => do
    let value ← read
    let values ← Reading.times read count
    pure (value :: values)

lemma Reading.bind_eq (answer : first stream = .ok (value, next)) :
  (first >>= second) stream = second value next := by
  change (first stream >>= fun (value, next) => second value next) = _
  rw [answer]
  rfl

lemma Reading.bind_ok {other : Other} (answer : (first >>= second) stream = .ok (other, next)) :
  ∃ value between, first stream = .ok (value, between) ∧
    second value between = .ok (other, next) := by
  change (first stream >>= fun (value, next) => second value next) = _ at answer
  cases result : first stream with
  | error error =>
    rw [result] at answer
    cases answer
  | ok found =>
    rw [result] at answer
    exact ⟨found.1, found.2, rfl, answer⟩

variable {rest}

namespace ReadsBack

variable {first read : Reading Stream Error Value} {second : Value → Reading Stream Error Other}
  {value : Value} {other : Other} {chunk : List Octet} {chunks : List (List Octet)}
  {values : List Value}

lemma pure (value : Value) : ReadsBack rest (Pure.pure value : Reading Stream Error Value) []
  value :=
  fun stream _ front => ⟨stream, rfl, front⟩

lemma bind {front back : List Octet} (reads : ReadsBack rest first front value)
  (then' : ReadsBack rest (second value) back other) :
  ReadsBack rest (first >>= second) (front ++ back) other := by
  intro stream tail starts
  rw [append_assoc] at starts
  obtain ⟨between, answer, left⟩ := reads stream _ starts
  obtain ⟨next, final, remaining⟩ := then' between _ left
  exact ⟨next, (Reading.bind_eq answer).trans final, remaining⟩

lemma bind_nil (reads : ReadsBack rest first chunk value)
  (then' : ReadsBack rest (second value) [] other) :
  ReadsBack rest (first >>= second) chunk other := by
  rw [← append_nil chunk]
  exact reads.bind then'

lemma last {finish : Value → Other} (reads : ReadsBack rest first chunk value) :
  ReadsBack rest (first >>= fun value => Pure.pure (finish value)) chunk (finish value) :=
  reads.bind_nil (ReadsBack.pure (finish value))

lemma lift {result : Except Error Value} (isOk : result = .ok value) :
  ReadsBack rest (Reading.lift result) [] value := by
  intro stream tail front
  refine ⟨stream, ?_, front⟩
  rw [Reading.lift, isOk]
  rfl

lemma refuse {refused : Prop} [Decidable refused] {error : Error} (accepted : ¬ refused) :
  ReadsBack rest (Reading.refuse refused error) [] () := by
  apply ReadsBack.lift
  rw [if_neg accepted]

lemma skip (reads : ReadsBack rest first [] value)
  (then' : ReadsBack rest (second value) chunk other) :
  ReadsBack rest (first >>= second) chunk other :=
  reads.bind then'

section

variable (each : Forall₂ (ReadsBack rest read) chunks values)

include each

lemma manyWithin (nonempty : ∀ chunk ∈ chunks, chunk ≠ []) {stream : Stream} {fuel : ℕ}
  (whole : rest stream = chunks.flatten) (enough : chunks.flatten.length ≤ fuel) :
  ∃ next, Reading.manyWithin rest read fuel stream = .ok (values, next) ∧ rest next = [] := by
  induction each generalizing stream fuel with
  | nil =>
    rw [flatten_nil] at whole
    refine ⟨stream, ?_, whole⟩
    cases fuel with
    | zero => rfl
    | succ fuel =>
      unfold Reading.manyWithin
      rw [whole]
      rfl
  | @cons chunk value chunks values reads _ ih =>
    have positive : 0 < chunk.length :=
      length_pos_of_ne_nil (nonempty chunk mem_cons_self)
    rw [flatten_cons] at whole enough
    rw [length_append] at enough
    obtain ⟨fuel, rfl⟩ : ∃ fewer, fuel = fewer + 1 := ⟨fuel - 1, by omega⟩
    obtain ⟨between, answer, left⟩ := reads stream _ whole
    obtain ⟨next, later, done⟩ := @ih
      (fun chunk member => nonempty chunk (mem_cons_of_mem _ member)) between fuel left
      (by omega)
    refine ⟨next, ?_, done⟩
    have more : (rest stream).isEmpty = false := by
      rw [whole, isEmpty_eq_false_iff]
      exact append_ne_nil_of_left_ne_nil (ne_nil_of_length_pos positive) _
    unfold Reading.manyWithin
    rw [more, if_neg Bool.false_ne_true, Reading.bind_eq answer, Reading.bind_eq later]
    rfl

lemma many (nonempty : ∀ chunk ∈ chunks, chunk ≠ []) :
  ReadsToEnd rest (Reading.many rest read) chunks.flatten values :=
  fun _ whole =>
    manyWithin each nonempty whole (Nat.le_of_eq (congrArg List.length whole).symm)

lemma times : ReadsBack rest (Reading.times read values.length) chunks.flatten values := by
  induction each with
  | nil => exact ReadsBack.pure []
  | cons reads _ ih =>
    exact reads.bind ih.last

end

end ReadsBack

namespace ReadsToEnd

variable {value : Value} {chunk : List Octet} {first : Reading Stream Error Value}

lemma of_readsBack {read : Reading Stream Error Value}
  (reads : ReadsBack rest read chunk value) : ReadsToEnd rest read chunk value := by
  intro stream whole
  apply reads stream []
  rw [whole, append_nil]

lemma bind {second : Value → Reading Stream Error Other} {front back : List Octet}
  {other : Other} (reads : ReadsBack rest first front value)
  (then' : ReadsToEnd rest (second value) back other) :
  ReadsToEnd rest (first >>= second) (front ++ back) other := by
  intro stream whole
  obtain ⟨between, answer, left⟩ := reads stream back whole
  obtain ⟨next, final, done⟩ := then' between left
  exact ⟨next, (Reading.bind_eq answer).trans final, done⟩

lemma last {finish : Value → Other} (reads : ReadsToEnd rest first chunk value) :
  ReadsToEnd rest (first >>= fun value => Pure.pure (finish value)) chunk (finish value) := by
  intro stream whole
  obtain ⟨next, answer, done⟩ := reads stream whole
  exact ⟨next, Reading.bind_eq answer, done⟩

end ReadsToEnd

namespace ReadsOnly

variable {read first : Reading Stream Error Value} {relates : List Octet → Value → Prop}
  {stream : Stream} {second : Value → Reading Stream Error Other} {next : Stream}
  {values : List Value}

lemma mono {weaker : List Octet → Value → Prop} (reads : ReadsOnly rest read relates)
  (implies : ∀ chunk value, relates chunk value → weaker chunk value) :
  ReadsOnly rest read weaker := by
  intro stream value next answer
  obtain ⟨chunk, front, related⟩ := reads stream value next answer
  exact ⟨chunk, front, implies chunk value related⟩

lemma of_readsBack {chunk : List Octet} {value : Value} (reads : ReadsOnly rest read relates)
  (whole : rest stream = chunk) (back : ReadsBack rest read chunk value) :
  relates chunk value := by
  obtain ⟨next, answer, done⟩ := back stream [] (whole.trans (append_nil _).symm)
  obtain ⟨found, front, related⟩ := reads stream value next answer
  rw [whole, done, append_nil] at front
  rwa [front]

lemma pure (value : Value) : ReadsOnly rest (Pure.pure value : Reading Stream Error Value)
  fun chunk given => chunk = [] ∧ given = value := by
  intro stream given next answer
  obtain ⟨rfl, rfl⟩ := Prod.mk.injEq _ _ _ _ ▸ Except.ok.inj answer
  exact ⟨[], rfl, rfl, rfl⟩

lemma throw (error : Error) : ReadsOnly rest
  (Reading.lift (.error error) : Reading Stream Error Value) fun _ _ => False := by
  intro stream value next answer
  cases answer

lemma bind {relates' : Value → List Octet → Other → Prop} (reads : ReadsOnly rest first relates)
  (then' : ∀ value, ReadsOnly rest (second value) (relates' value)) :
  ReadsOnly rest (first >>= second) fun chunk other =>
    ∃ front back value, chunk = front ++ back ∧ relates front value ∧
      relates' value back other := by
  intro stream other next answer
  obtain ⟨value, between, began, ended⟩ := Reading.bind_ok answer
  obtain ⟨front, starts, related⟩ := reads stream value between began
  obtain ⟨back, continues, related'⟩ := then' value between other next ended
  refine ⟨front ++ back, ?_, front, back, value, rfl, related, related'⟩
  rw [starts, continues, append_assoc]

lemma last {finish : Value → Other} (reads : ReadsOnly rest first relates) :
  ReadsOnly rest (first >>= fun value => Pure.pure (finish value)) fun chunk other =>
    ∃ value, relates chunk value ∧ other = finish value := by
  apply (reads.bind fun value => ReadsOnly.pure (finish value)).mono
  rintro chunk other ⟨front, back, value, rfl, related, rfl, rfl⟩
  rw [append_nil]
  exact ⟨value, related, rfl⟩

lemma lift (result : Except Error Value) : ReadsOnly rest
  (Reading.lift result : Reading Stream Error Value)
  fun chunk value => chunk = [] ∧ result = .ok value := by
  intro stream value next answer
  cases result with
  | error error => cases answer
  | ok found =>
    obtain ⟨rfl, rfl⟩ := Prod.mk.injEq _ _ _ _ ▸ Except.ok.inj answer
    exact ⟨[], rfl, rfl, rfl⟩

lemma refuse (refused : Prop) [Decidable refused] (error : Error) : ReadsOnly rest
  (Reading.refuse refused error : Reading Stream Error Unit)
  fun chunk _ => chunk = [] ∧ ¬ refused := by
  apply (ReadsOnly.lift _).mono
  rintro chunk value ⟨rfl, accepted⟩
  refine ⟨rfl, fun isRefused => ?_⟩
  rw [if_pos isRefused] at accepted
  cases accepted

lemma ite {condition : Prop} [Decidable condition] {second : Reading Stream Error Value}
  (yes : condition → ReadsOnly rest first relates)
  (no : ¬ condition → ReadsOnly rest second relates) :
  ReadsOnly rest (if condition then first else second) relates := by
  split
  case isTrue holds => exact yes holds
  case isFalse fails => exact no fails

lemma skip {property : Value → Prop} {relates : Value → List Octet → Other → Prop}
  (reads : ReadsOnly rest first fun chunk value => chunk = [] ∧ property value)
  (then' : ∀ value, ReadsOnly rest (second value) (relates value)) :
  ReadsOnly rest (first >>= second) fun chunk other =>
    ∃ value, property value ∧ relates value chunk other := by
  apply (reads.bind then').mono
  rintro chunk other ⟨front, back, value, rfl, ⟨rfl, holds⟩, related⟩
  exact ⟨value, holds, related⟩

section

variable (reads : ReadsOnly rest read relates)

include reads

lemma manyWithin (fuel : ℕ) :
  ReadsOnly rest (Reading.manyWithin rest read fuel) fun chunk values =>
    ∃ chunks, chunk = chunks.flatten ∧ Forall₂ relates chunks values := by
  induction fuel with
  | zero =>
    apply (ReadsOnly.pure []).mono
    rintro chunk values ⟨rfl, rfl⟩
    exact ⟨[], rfl, .nil⟩
  | succ fuel ih =>
    intro stream values next answer
    unfold Reading.manyWithin at answer
    split at answer
    · obtain ⟨rfl, rfl⟩ := Prod.mk.injEq _ _ _ _ ▸ Except.ok.inj answer
      exact ⟨[], rfl, [], rfl, .nil⟩
    · obtain ⟨chunk, front, first, others, value, rfl, related, values', ⟨chunks, rfl, each⟩,
        rfl⟩ := (reads.bind fun value => ih.last) stream values next answer
      exact ⟨_, front, first :: chunks, rfl, .cons related each⟩

lemma many :
  ReadsOnly rest (Reading.many rest read) fun chunk values =>
    ∃ chunks, chunk = chunks.flatten ∧ Forall₂ relates chunks values :=
  fun stream values next answer => manyWithin reads _ stream values next answer

lemma times (count : ℕ) :
  ReadsOnly rest (Reading.times read count) fun chunk values =>
    values.length = count ∧ ∃ chunks, chunk = chunks.flatten ∧ Forall₂ relates chunks values := by
  induction count with
  | zero =>
    apply (ReadsOnly.pure []).mono
    rintro chunk values ⟨rfl, rfl⟩
    exact ⟨rfl, [], rfl, .nil⟩
  | succ count ih =>
    apply (reads.bind fun value => ih.last).mono
    rintro chunk values
      ⟨first, others, value, rfl, related, values', ⟨counted, chunks, rfl, each⟩, rfl⟩
    exact ⟨congrArg (· + 1) counted, first :: chunks, rfl, .cons related each⟩

lemma exhausted (nonempty : ∀ chunk value, relates chunk value → chunk ≠ []) {fuel : ℕ}
  (answer : Reading.manyWithin rest read fuel stream = .ok (values, next))
  (enough : (rest stream).length ≤ fuel) : rest next = [] := by
  induction fuel generalizing stream values with
  | zero =>
    obtain ⟨-, rfl⟩ := Prod.mk.injEq _ _ _ _ ▸ Except.ok.inj answer
    exact eq_nil_of_length_eq_zero (Nat.le_zero.mp enough)
  | succ fuel ih =>
    unfold Reading.manyWithin at answer
    split at answer
    case isTrue empty =>
      obtain ⟨-, rfl⟩ := Prod.mk.injEq _ _ _ _ ▸ Except.ok.inj answer
      exact List.isEmpty_iff.mp empty
    case isFalse more =>
      obtain ⟨value, between, began, ended⟩ := Reading.bind_ok answer
      obtain ⟨later, after, continued, final⟩ := Reading.bind_ok ended
      obtain ⟨-, rfl⟩ := Prod.mk.injEq _ _ _ _ ▸ Except.ok.inj final
      obtain ⟨chunk, front, related⟩ := reads stream value between began
      have positive := length_pos_of_ne_nil (nonempty chunk value related)
      rw [front, length_append] at enough
      exact ih continued (by omega)

lemma many_exhausted (nonempty : ∀ chunk value, relates chunk value → chunk ≠ [])
  (answer : Reading.many rest read stream = .ok (values, next)) : rest next = [] :=
  exhausted reads nonempty answer (Nat.le_refl _)

end

end ReadsOnly

lemma bind_ok_iff {first : Except Error Value} {next : Value → Except Error Other}
  {result : Other} :
  first >>= next = .ok result ↔ ∃ value, first = .ok value ∧ next value = .ok result := by
  cases first with
  | error error =>
    refine iff_of_false (fun impossible => by cases impossible) ?_
    rintro ⟨value, impossible, -⟩
    cases impossible
  | ok value =>
    refine ⟨fun finished => ⟨value, rfl, finished⟩, ?_⟩
    rintro ⟨found, same, finished⟩
    obtain rfl := Except.ok.inj same
    exact finished

lemma refuse_ok_iff {refused : Prop} [Decidable refused] {error : Error}
  {next : Except Error Value} :
  (if refused then .error error else next) = .ok result ↔ ¬ refused ∧ next = .ok result := by
  by_cases isRefused : refused
  · rw [if_pos isRefused]
    exact iff_of_false (fun impossible => by cases impossible) fun both => both.1 isRefused
  · rw [if_neg isRefused, and_iff_right isRefused]

lemma ok_iff : (Except.ok value : Except Error Value) = .ok result ↔ result = value :=
  ⟨fun same => (Except.ok.inj same).symm, fun same => congrArg _ same.symm⟩

/-- The writer appends the octets of a value that is valid, and fails on any
other. -/
def Writes (write : Value → List Octet → Except Error (List Octet)) (valid : Value → Prop)
  (wire : Value → List Octet) : Prop :=
  ∀ value out written, write value out = .ok written ↔ valid value ∧ written = out ++ wire value

lemma Writes.each {write : Value → List Octet → Except Error (List Octet)}
  {valid : Value → Prop} {wire : Value → List Octet} (writes : Writes write valid wire)
  (values : List Value) (out written : List Octet) :
  values.foldlM (fun out value => write value out) out = .ok written ↔
    (∀ value ∈ values, valid value) ∧ written = out ++ values.flatMap wire := by
  induction values generalizing out with
  | nil =>
    rw [foldlM_nil, flatMap_nil, append_nil]
    constructor
    · intro same
      refine ⟨?_, (Except.ok.inj same).symm⟩
      intro _ member
      cases member
    · rintro ⟨-, rfl⟩
      rfl
  | cons value values ih =>
    rw [foldlM_cons, flatMap_cons, forall_mem_cons, ← append_assoc]
    cases answer : write value out with
    | error error =>
      refine iff_of_false (fun impossible => by cases impossible) ?_
      rintro ⟨⟨valid, -⟩, -⟩
      have wrote := (writes value out _).mpr ⟨valid, rfl⟩
      rw [answer] at wrote
      cases wrote
    | ok first =>
      obtain ⟨valid, rfl⟩ := (writes value out first).mp answer
      refine (ih (out ++ wire value)).trans ?_
      rw [and_iff_right valid]

/-!
## Strict formats

A format is a writer and a reader of one kind of value with the two directions of
a codec: what a value writes is read back as the value, and a chunk that is read
and is plain is what its value writes.  Plainness is a property of the octets; a
chunk that is read and is not plain shows where the reader takes more than the
writer gives.  The formats of a list are those of its values, one after another,
since each chunk tells its own length.
-/

variable {Stream Octet Error Value : Type}

def slices (size : List Octet → ℕ) : List Octet → List (List Octet)
  | [] => []
  | octet :: following =>
    (octet :: following).take (max 1 (size (octet :: following))) ::
      slices size ((octet :: following).drop (max 1 (size (octet :: following))))
  termination_by octets => octets.length
  decreasing_by
    rw [length_drop, length_cons]
    omega

structure Sized (size : List Octet → ℕ) (chunk : List Octet) : Prop where
  nonempty : chunk ≠ []
  size_append : ∀ tail, size (chunk ++ tail) = chunk.length

lemma slices_append {size : List Octet → ℕ} {chunk : List Octet} (sized : Sized size chunk)
  (tail : List Octet) : slices size (chunk ++ tail) = chunk :: slices size tail := by
  have positive := length_pos_of_ne_nil sized.nonempty
  obtain ⟨octet, following, whole⟩ :=
    exists_cons_of_ne_nil (append_ne_nil_of_left_ne_nil sized.nonempty tail)
  have length : max 1 (size (chunk ++ tail)) = chunk.length := by
    rw [sized.size_append tail]
    omega
  rw [whole, slices, ← whole, length, take_left, drop_left]

lemma slices_flatten {size : List Octet → ℕ} {chunks : List (List Octet)}
  (sized : ∀ chunk ∈ chunks, Sized size chunk) : slices size chunks.flatten = chunks := by
  induction chunks with
  | nil => exact slices.eq_1 size
  | cons chunk chunks ih =>
    rw [forall_mem_cons] at sized
    rw [flatten_cons, slices_append sized.1, ih sized.2]

lemma slices_flatMap {size : List Octet → ℕ} {wire : Value → List Octet} {values : List Value}
  (sized : ∀ value ∈ values, Sized size (wire value)) :
  slices size (values.flatMap wire) = values.map wire := by
  rw [flatMap_def]
  apply slices_flatten
  intro chunk member
  obtain ⟨value, inside, rfl⟩ := mem_map.mp member
  exact sized value inside

section Each

variable {rest : Stream → List Octet} {read : Reading Stream Error Value}
  {wire : Value → List Octet} {values : List Value} {property : Value → Prop}

section

variable (reads : ∀ value ∈ values, ReadsBack rest read (wire value) value)

include reads

lemma forall₂_wire : Forall₂ (ReadsBack rest read) (values.map wire) values := by
  rw [forall₂_map_left_iff, forall₂_same]
  exact reads

lemma ReadsBack.each (nonempty : ∀ value ∈ values, wire value ≠ []) :
  ReadsToEnd rest (Reading.many rest read) (values.flatMap wire) values := by
  rw [flatMap_def]
  apply ReadsBack.many (forall₂_wire reads)
  intro chunk member
  obtain ⟨value, inside, rfl⟩ := mem_map.mp member
  exact nonempty value inside

lemma ReadsBack.timesEach :
  ReadsBack rest (Reading.times read values.length) (values.flatMap wire) values := by
  rw [flatMap_def]
  exact ReadsBack.times (forall₂_wire reads)

end

lemma flatten_of_wire {chunks : List (List Octet)}
  (each : Forall₂ (fun chunk value => property value ∧ chunk = wire value) chunks values) :
  (∀ value ∈ values, property value) ∧ chunks.flatten = values.flatMap wire := by
  induction each with
  | nil =>
    refine ⟨?_, rfl⟩
    intro _ member
    cases member
  | cons related _ ih =>
    obtain ⟨holds, rfl⟩ := related
    refine ⟨forall_mem_cons.mpr ⟨holds, ih.1⟩, ?_⟩
    rw [flatten_cons, flatMap_cons, ih.2]

section

variable (reads : ReadsOnly rest read fun chunk value => property value ∧ chunk = wire value)

include reads

lemma ReadsOnly.each :
  ReadsOnly rest (Reading.many rest read) fun chunk values =>
    (∀ value ∈ values, property value) ∧ chunk = values.flatMap wire := by
  apply (ReadsOnly.many reads).mono
  rintro chunk values ⟨chunks, rfl, each⟩
  exact flatten_of_wire each

lemma ReadsOnly.timesEach (count : ℕ) :
  ReadsOnly rest (Reading.times read count) fun chunk values =>
    values.length = count ∧ (∀ value ∈ values, property value) ∧ chunk = values.flatMap wire := by
  apply (ReadsOnly.times reads count).mono
  rintro chunk values ⟨counted, chunks, rfl, each⟩
  exact ⟨counted, flatten_of_wire each⟩

end

end Each

structure StrictFormat (rest : Stream → List Octet) (Error Value : Type) where
  write : Value → List Octet → Except Error (List Octet)
  read : Reading Stream Error Value
  Encodable : Value → Prop
  Canonical : Value → Prop
  wire : Value → List Octet
  size : List Octet → ℕ
  Plain : List Octet → Prop
  writes : Writes write Encodable wire
  sized : ∀ value, Encodable value → Sized size (wire value)
  plain : ∀ value, Encodable value → Plain (wire value)
  readsBack : ∀ value, Encodable value → Canonical value → ReadsBack rest read (wire value) value
  readsOnly : ReadsOnly rest read fun chunk value =>
    Sized size chunk ∧ (Plain chunk → Encodable value ∧ wire value = chunk)

namespace StrictFormat

variable {rest : Stream → List Octet} (format : StrictFormat rest Error Value) {values : List Value}

def EachPlain (octets : List Octet) : Prop :=
  ∀ piece ∈ slices format.size octets, format.Plain piece

lemma writes_each {out written : List Octet} :
  values.foldlM (fun out value => format.write value out) out = .ok written ↔
    (∀ value ∈ values, format.Encodable value) ∧ written = out ++ values.flatMap format.wire :=
  format.writes.each values out written

lemma eachPlain_wire (encodable : ∀ value ∈ values, format.Encodable value) :
  format.EachPlain (values.flatMap format.wire) := by
  intro piece member
  rw [slices_flatMap fun value inside => format.sized value (encodable value inside),
    mem_map] at member
  obtain ⟨value, inside, rfl⟩ := member
  exact format.plain value (encodable value inside)

lemma readsBack_each (encodable : ∀ value ∈ values, format.Encodable value)
  (canonical : ∀ value ∈ values, format.Canonical value) :
  ReadsToEnd rest (Reading.many rest format.read) (values.flatMap format.wire) values := by
  apply ReadsBack.each
  · intro value member
    exact format.readsBack value (encodable value member) (canonical value member)
  · intro value member
    exact (format.sized value (encodable value member)).nonempty

lemma readsOnly_each : ReadsOnly rest (Reading.many rest format.read) fun chunk values =>
  format.EachPlain chunk →
    (∀ value ∈ values, format.Encodable value) ∧ values.flatMap format.wire = chunk := by
  apply (ReadsOnly.many format.readsOnly).mono
  rintro chunk values ⟨chunks, rfl, each⟩ plain
  have sized : ∀ chunk ∈ chunks, Sized format.size chunk := by
    clear plain
    induction each with
    | nil =>
      intro _ member
      cases member
    | cons related _ ih =>
      exact forall_mem_cons.mpr ⟨related.1, ih⟩
  rw [EachPlain, slices_flatten sized] at plain
  clear sized
  induction each with
  | nil =>
    refine ⟨?_, rfl⟩
    intro _ member
    cases member
  | cons related _ ih =>
    rw [forall_mem_cons] at plain
    obtain ⟨encodable, same⟩ := related.2 plain.1
    obtain ⟨encodables, sames⟩ := ih plain.2
    refine ⟨forall_mem_cons.mpr ⟨encodable, encodables⟩, ?_⟩
    rw [flatMap_cons, flatten_cons, same, sames]

end StrictFormat

end NextGCore.Library
