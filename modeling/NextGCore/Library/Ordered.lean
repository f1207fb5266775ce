import Mathlib.Data.List.Sort

/-!
# Maps and lists in order
-/

namespace NextGCore.Library

open List Option

universe u v

variable {Key : Type u} {Value : Type v} [LinearOrder Key]

variable {entries : List (Key × Value)}

def insertOrdered (key : Key) (value : Value) : List (Key × Value) → List (Key × Value)
  | [] => [(key, value)]
  | entry :: rest =>
    if key < entry.1 then (key, value) :: entry :: rest
    else if key = entry.1 then (key, value) :: rest
    else entry :: insertOrdered key value rest

lemma eq_or_mem_of_mem_insertOrdered {key : Key} {value : Value} {entry : Key × Value}
  (isIn : entry ∈ insertOrdered key value entries) : entry = (key, value) ∨ entry ∈ entries := by
  induction entries with
  | nil => exact .inl (mem_singleton.mp isIn)
  | cons first rest ih =>
    unfold insertOrdered at isIn
    split_ifs at isIn
    · exact mem_cons.mp isIn
    · exact (mem_cons.mp isIn).imp_right (mem_cons_of_mem _)
    · rcases mem_cons.mp isIn with rfl | later
      · exact .inr mem_cons_self
      · exact (ih later).imp_right (mem_cons_of_mem _)

lemma ordered_insertOrdered (key : Key) (value : Value)
  (ordered : entries.Pairwise fun first second => first.1 < second.1) :
  (insertOrdered key value entries).Pairwise fun first second => first.1 < second.1 := by
  induction entries with
  | nil => exact pairwise_singleton _ _
  | cons first rest ih =>
    obtain ⟨above, later⟩ := pairwise_cons.mp ordered
    unfold insertOrdered
    split_ifs with below same
    · refine pairwise_cons.mpr ⟨fun entry isIn => ?_, ordered⟩
      rcases mem_cons.mp isIn with rfl | isIn
      · exact below
      · exact below.trans (above entry isIn)
    · subst same
      exact pairwise_cons.mpr ⟨above, later⟩
    · refine pairwise_cons.mpr ⟨fun entry isIn => ?_, ih later⟩
      rcases eq_or_mem_of_mem_insertOrdered isIn with rfl | isIn
      · exact lt_of_le_of_ne (not_lt.mp below) (Ne.symm same)
      · exact above entry isIn

structure OrderedMap (Key : Type u) (Value : Type v) [LinearOrder Key] where
  entries : List (Key × Value)
  ordered : entries.Pairwise fun first second => first.1 < second.1

namespace OrderedMap

def empty : OrderedMap Key Value := ⟨[], .nil⟩

variable (map : OrderedMap Key Value)

def insert (key : Key) (value : Value) : OrderedMap Key Value :=
  ⟨insertOrdered key value map.entries, ordered_insertOrdered key value map.ordered⟩

def remove (key : Key) : OrderedMap Key Value :=
  ⟨map.entries.filter fun entry => entry.1 ≠ key, map.ordered.filter _⟩

def lookup (key : Key) : Option Value :=
  (map.entries.find? fun entry => entry.1 = key).map Prod.snd

def upTo (key : Key) : List (Key × Value) :=
  map.entries.filter fun entry => entry.1 ≤ key

variable {map} {key : Key} {value : Value} {entry : Key × Value}

variable (map) in
lemma nodup_keys : (map.entries.map Prod.fst).Nodup :=
  (pairwise_map.mpr map.ordered).imp ne_of_lt

lemma eq_of_mem {other : Value} (isIn : (key, value) ∈ map.entries)
  (otherIn : (key, other) ∈ map.entries) : value = other :=
  (Prod.mk.inj (inj_on_of_nodup_map map.nodup_keys isIn otherIn rfl)).2

lemma mem_insert : entry ∈ (map.insert key value).entries ↔
    entry = (key, value) ∨ entry ∈ map.entries ∧ entry.1 ≠ key := by
  obtain ⟨entries, ordered⟩ := map
  simp only [insert]
  induction entries with
  | nil => simp [insertOrdered]
  | cons first rest ih =>
    obtain ⟨above, later⟩ := pairwise_cons.mp ordered
    have apart (other : Key × Value) (isIn : other ∈ rest) (below : key ≤ first.1) :
        other.1 ≠ key := (below.trans_lt (above other isIn)).ne'
    unfold insertOrdered
    split_ifs with below same
    · rw [mem_cons, mem_cons]
      refine or_congr_right ⟨fun isIn => ⟨isIn, ?_⟩, And.left⟩
      rcases isIn with rfl | isIn
      · exact below.ne'
      · exact apart entry isIn below.le
    · rw [mem_cons, mem_cons]
      refine or_congr_right ⟨fun isIn => ⟨.inr isIn, apart entry isIn same.le⟩, ?_⟩
      rintro ⟨rfl | isIn, other⟩
      · exact absurd same.symm other
      · exact isIn
    · rw [mem_cons, ih later, mem_cons]
      constructor
      · rintro (rfl | isNew | ⟨isIn, other⟩)
        · exact .inr ⟨.inl rfl, Ne.symm same⟩
        · exact .inl isNew
        · exact .inr ⟨.inr isIn, other⟩
      · rintro (isNew | ⟨rfl | isIn, other⟩)
        · exact .inr (.inl isNew)
        · exact .inl rfl
        · exact .inr (.inr ⟨isIn, other⟩)

lemma lookup_eq_some_iff : map.lookup key = some value ↔ (key, value) ∈ map.entries := by
  constructor
  · intro found
    obtain ⟨entry, isEntry, rfl⟩ := map_eq_some_iff.mp found
    have isKey : entry.1 = key := by simpa using List.find?_some isEntry
    subst isKey
    exact List.mem_of_find?_eq_some isEntry
  · intro isIn
    cases found : map.entries.find? fun entry => entry.1 = key with
    | none => exact absurd (List.find?_eq_none.mp found _ isIn) (by simp)
    | some entry =>
      have isKey : entry.1 = key := by simpa using List.find?_some found
      have stored : (key, entry.2) ∈ map.entries := by
        rw [← isKey]
        exact List.mem_of_find?_eq_some found
      rw [lookup, found, map_some, eq_of_mem stored isIn]

lemma mem_remove : entry ∈ (map.remove key).entries ↔ entry ∈ map.entries ∧ entry.1 ≠ key := by
  simp [remove]

lemma subset_remove {rest : List (Key × Value)} (stored : (key, value) :: rest ⊆ map.entries)
  (absent : key ∉ rest.map Prod.fst) : rest ⊆ (map.remove key).entries := by
  intro other isIn
  refine mem_remove.mpr ⟨stored (mem_cons_of_mem _ isIn), ?_⟩
  rintro rfl
  exact absent (mem_map_of_mem isIn)

lemma mem_upTo : entry ∈ map.upTo key ↔ entry ∈ map.entries ∧ entry.1 ≤ key := by
  simp [upTo]

end OrderedMap

variable {Value : Type u} {values : List Value} {value : Value}

/-- The value is eligible, no eligible value before it is as small, and none after it is
smaller. -/
def Selected (le : Value → Value → Prop) (eligible : Value → Bool) (values : List Value)
  (value : Value) : Prop :=
  ∃ before after, values = before ++ value :: after ∧ eligible value = true ∧
    (∀ other ∈ before, eligible other = true → ¬ le other value) ∧
    ∀ other ∈ after, eligible other = true → le value other

variable {le : Value → Value → Prop} {eligible : Value → Bool}

lemma Selected.mem (selected : Selected le eligible values value) : value ∈ values := by
  obtain ⟨before, after, rfl, -⟩ := selected
  exact mem_append_right _ mem_cons_self

lemma Selected.isEligible (selected : Selected le eligible values value) :
  eligible value = true := by
  obtain ⟨before, after, -, isEligible, -⟩ := selected
  exact isEligible

lemma selected_cons {first : Value} {rest : List Value} :
  Selected le eligible (first :: rest) value ↔ (eligible first = true ∧ first = value ∧
        ∀ other ∈ rest, eligible other = true → le first other) ∨
      (Selected le eligible rest value ∧ (eligible first = true → ¬ le first value)) := by
  constructor
  · rintro ⟨before, after, equal, isEligible, greater, noSmaller⟩
    cases before with
    | nil =>
      obtain ⟨rfl, rfl⟩ := List.cons.inj equal
      exact .inl ⟨isEligible, rfl, noSmaller⟩
    | cons head before =>
      obtain ⟨rfl, rfl⟩ := List.cons.inj equal
      exact .inr ⟨⟨before, after, rfl, isEligible,
        fun other inside => greater other (mem_cons_of_mem _ inside), noSmaller⟩,
        greater first mem_cons_self⟩
  · rintro (⟨isEligible, rfl, noSmaller⟩ | ⟨⟨before, after, rfl, isEligible, greater, noSmaller⟩,
      beats⟩)
    · exact ⟨[], rest, rfl, isEligible, nofun, noSmaller⟩
    · refine ⟨first :: before, after, rfl, isEligible, ?_, noSmaller⟩
      rw [forall_mem_cons]
      exact ⟨beats, greater⟩

lemma Selected.narrow {fewer : Value → Bool} (selected : Selected le eligible values value)
  (isFewer : fewer value = true) (implies : ∀ other, fewer other = true → eligible other = true) :
  Selected le fewer values value := by
  obtain ⟨before, after, equal, -, greater, noSmaller⟩ := selected
  exact ⟨before, after, equal, isFewer, fun other inside belongs =>
    greater other inside (implies other belongs), fun other inside belongs =>
    noSmaller other inside (implies other belongs)⟩

section Total

variable {values : List Value} {value : Value} {first second : Value}

lemma le_of_not_le [total : Std.Total le] (other : ¬ le second first) : le first second :=
  (total.total first second).resolve_right other

lemma Selected.least [total : Std.Total le] {other : Value}
  (selected : Selected le eligible values value) (inside : other ∈ values)
  (otherEligible : eligible other = true) : le value other := by
  obtain ⟨before, after, rfl, -, greater, noSmaller⟩ := selected
  rcases mem_append.mp inside with first | later
  · exact le_of_not_le (greater other first otherEligible)
  · rcases mem_cons.mp later with rfl | last
    · exact (total.total other other).elim id id
    · exact noSmaller other last otherEligible

/-- The first value is smaller than the second, or as small and at an earlier index. -/
def ComesBefore (le : Value → Value → Prop) (first second : Value × ℕ) : Prop :=
  le first.1 second.1 ∧ (le second.1 first.1 → first.2 < second.2)

lemma ComesBefore.asymm {first second : Value × ℕ} (precedes : ComesBefore le first second) :
  ¬ ComesBefore le second first := fun other =>
  absurd (precedes.2 other.1) (Nat.not_lt_of_gt (other.2 precedes.1))

lemma Selected.precedes [Std.Total le] (selected : Selected le eligible values value) :
  ∃ index, (value, index) ∈ values.zipIdx ∧ ∀ other ∈ values.zipIdx,
    eligible other.1 = true → other = (value, index) ∨ ComesBefore le (value, index) other := by
  obtain ⟨before, after, rfl, -, greater, noSmaller⟩ := selected
  refine ⟨before.length, ?_, ?_⟩
  · exact List.mem_zipIdx_iff_getElem?.mpr (by simp)
  · rintro ⟨other, index⟩ inside otherEligible
    have found := List.mem_zipIdx_iff_getElem?.mp inside
    dsimp only at found otherEligible
    rcases Nat.lt_trichotomy index before.length with earlier | rfl | later
    · rw [List.getElem?_append_left earlier] at found
      have notLe := greater other (mem_of_getElem? found) otherEligible
      exact .inr ⟨le_of_not_le notLe, fun le => absurd le notLe⟩
    · left
      simpa using found.symm
    · rw [List.getElem?_append_right (Nat.le_of_lt later),
        List.getElem?_cons, if_neg (Nat.sub_ne_zero_of_lt later)] at found
      exact .inr ⟨noSmaller other (mem_of_getElem? found) otherEligible, fun _ => later⟩

lemma find?_insertionSort_eq_none [DecidableRel le] (values : List Value) :
  (values.insertionSort le).find? eligible = none ↔ ∀ value ∈ values, eligible value = false := by
  simp only [List.find?_eq_none, mem_insertionSort, Bool.not_eq_true]

def prefer (le : Value → Value → Prop) [DecidableRel le] (eligible : Value → Bool) (first : Value)
  (later : Option Value) : Option Value :=
  if eligible first = true then
    later.elim (some first) fun value => if le first value then some first else some value
  else later

variable [DecidableRel le] [trans : IsTrans Value le]

lemma find?_orderedInsert (first : Value) (sorted : values.Pairwise le) :
  (values.orderedInsert le first).find? eligible =
    prefer le eligible first (values.find? eligible) := by
  induction values with
  | nil =>
    rw [orderedInsert_nil, List.find?_cons, prefer]
    cases eligible first <;> rfl
  | cons head rest ih =>
    obtain ⟨least, sortedRest⟩ := pairwise_cons.mp sorted
    rw [orderedInsert_cons]
    by_cases before : le first head
    · rw [if_pos before, List.find?_cons, prefer]
      cases isEligible : eligible first with
      | false => rfl
      | true =>
        -- nothing in a sorted list is smaller than what goes before its head
        have noSmaller : ∀ value, (head :: rest).find? eligible = some value → le first value := by
          intro value found
          rcases mem_cons.mp (List.mem_of_find?_eq_some found) with rfl | inside
          · exact before
          · exact trans.trans _ _ _ before (least value inside)
        cases found : (head :: rest).find? eligible with
        | none => rfl
        | some value => simp [noSmaller value found]
    · rw [if_neg before, List.find?_cons, List.find?_cons, ih sortedRest]
      cases isEligible : eligible head with
      | false => rfl
      | true => simp only [prefer, elim_some, if_neg before, ite_self]

variable [total : Std.Total le]

lemma find?_insertionSort (values : List Value) (value : Value) :
  (values.insertionSort le).find? eligible = some value ↔ Selected le eligible values value := by
  induction values generalizing value with
  | nil => simp [Selected]
  | cons first rest ih =>
    rw [insertionSort_cons, find?_orderedInsert first (pairwise_insertionSort le rest),
      selected_cons, ← ih, prefer]
    cases found : (rest.insertionSort le).find? eligible with
    | none =>
      have noOther : ∀ other ∈ rest, eligible other = true → le first other := by
        intro other inside otherEligible
        exact absurd otherEligible
          (List.find?_eq_none.mp found other ((mem_insertionSort _).mpr inside))
      cases isEligible : eligible first with
      | false => simp
      | true => simpa using fun _ => noOther
    | some best =>
      have selected := (ih best).mp found
      cases isEligible : eligible first with
      | false => simp
      | true =>
        simp only [if_true, elim_some, some.injEq, true_and, true_implies]
        by_cases before : le first best
        · rw [if_pos before, some.injEq]
          constructor
          · rintro rfl
            exact .inl ⟨rfl, fun other inside otherEligible =>
              trans.trans _ _ _ before (selected.least inside otherEligible)⟩
          · rintro (⟨same, -⟩ | ⟨rfl, less⟩)
            · exact same
            · exact absurd before less
        · rw [if_neg before, some.injEq]
          constructor
          · rintro rfl
            exact .inr ⟨rfl, before⟩
          · rintro (⟨-, least⟩ | ⟨same, -⟩)
            · exact absurd (least best selected.mem selected.isEligible) before
            · exact same

lemma Selected.unique (firstSelected : Selected le eligible values first)
  (secondSelected : Selected le eligible values second) : first = second := by
  classical
  rw [← find?_insertionSort] at firstSelected secondSelected
  exact some.inj (firstSelected.symm.trans secondSelected)

lemma exists_selected (inside : value ∈ values) (isEligible : eligible value = true) :
  ∃ best, Selected le eligible values best := by
  cases found : (values.insertionSort le).find? eligible with
  | none =>
    have ineligible := (find?_insertionSort_eq_none values).mp found value inside
    exact absurd (isEligible.symm.trans ineligible) (by decide)
  | some best => exact ⟨best, (find?_insertionSort values best).mp found⟩

lemma forall_selected_iff (has : Value → Prop) (values : List Value) :
  (∀ value, Selected le eligible values value → has value) ↔
    ∀ value ∈ values.zipIdx, eligible value.1 = true → ¬ has value.1 →
      ∃ other ∈ values.zipIdx, eligible other.1 = true ∧ has other.1 ∧
        ComesBefore le other value := by
  constructor
  · intro selectedHas value inside isEligible lacks
    have member : value.1 ∈ values :=
      mem_of_getElem? (List.mem_zipIdx_iff_getElem?.mp inside)
    have exists_best : ∃ best, Selected le eligible values best :=
      exists_selected member isEligible
    obtain ⟨best, selected⟩ := exists_best
    obtain ⟨index, bestInside, first⟩ := selected.precedes
    refine ⟨(best, index), bestInside, selected.isEligible, selectedHas best selected, ?_⟩
    rcases first value inside isEligible with rfl | before
    · exact absurd (selectedHas best selected) lacks
    · exact before
  · intro preceded value selected
    obtain ⟨index, inside, first⟩ := selected.precedes
    by_contra lacks
    obtain ⟨other, otherInside, otherEligible, otherHas, before⟩ :=
      preceded (value, index) inside selected.isEligible lacks
    rcases first other otherInside otherEligible with rfl | after
    · exact lacks otherHas
    · exact before.asymm after

end Total

end NextGCore.Library
