import Mathlib.Data.List.Basic

/-!
# Binary tries and longest prefixes

A trie stores values under lists of bits.  A search runs along a list of bits as far as the trie
goes and answers with the last value that it has come by, which is the one under the longest
prefix that has a value.
-/

namespace NextGCore.Library

open List

universe u v

section LongestPrefix

variable {Symbol : Type u} {Value : Type v} {values : List Symbol → Option Value}
  {key : List Symbol}

def longestPrefix (values : List Symbol → Option Value) : List Symbol → Option Value
  | [] => values []
  | symbol :: rest =>
    (longestPrefix (fun path => values (symbol :: path)) rest).or (values [])

def LongestWith (values : List Symbol → Option Value) (key path : List Symbol) : Prop :=
  path <+: key ∧ ∀ other, other <+: key → values other ≠ none → other.length ≤ path.length

lemma longestPrefix_eq_none_iff :
  longestPrefix values key = none ↔ ∀ path, path <+: key → values path = none := by
  induction key generalizing values with
  | nil => simp [longestPrefix]
  | cons symbol rest ih =>
    rw [longestPrefix, Option.or_eq_none_iff, ih]
    constructor
    · rintro ⟨longer, shortest⟩ path isPrefix
      rcases prefix_cons_iff.mp isPrefix with rfl | ⟨tail, rfl, isTail⟩
      · exact shortest
      · exact longer tail isTail
    · intro nothing
      exact ⟨fun path isPrefix => nothing _ (cons_prefix_cons.mpr ⟨rfl, isPrefix⟩),
        nothing [] nil_prefix⟩

lemma longestPrefix_eq_some_iff {value : Value} : longestPrefix values key = some value ↔
    ∃ path, LongestWith values key path ∧ values path = some value := by
  induction key generalizing values with
  | nil =>
    simp only [longestPrefix, LongestWith, prefix_nil]
    constructor
    · exact fun found =>
        ⟨[], ⟨rfl, fun other isNil _ => Nat.le_of_eq (congrArg length isNil)⟩, found⟩
    · rintro ⟨path, ⟨rfl, -⟩, found⟩
      exact found
  | cons symbol rest ih =>
    rw [longestPrefix, Option.or_eq_some_iff, ih]
    constructor
    · rintro (⟨path, ⟨isPrefix, longest⟩, found⟩ | ⟨nothing, found⟩)
      · refine ⟨symbol :: path, ⟨cons_prefix_cons.mpr ⟨rfl, isPrefix⟩, ?_⟩, found⟩
        intro other isOther present
        rcases prefix_cons_iff.mp isOther with rfl | ⟨tail, rfl, isTail⟩
        · exact Nat.zero_le _
        · exact Nat.succ_le_succ (longest tail isTail present)
      · refine ⟨[], ⟨ nil_prefix, ?_⟩, found⟩
        intro other isOther present
        rcases prefix_cons_iff.mp isOther with rfl | ⟨tail, rfl, isTail⟩
        · exact Nat.le_refl 0
        · exact absurd (longestPrefix_eq_none_iff.mp nothing tail isTail) present
    · rintro ⟨path, ⟨isPrefix, longest⟩, found⟩
      rcases prefix_cons_iff.mp isPrefix with rfl | ⟨tail, rfl, isTail⟩
      · refine .inr ⟨longestPrefix_eq_none_iff.mpr fun path isPath => ?_, found⟩
        by_contra present
        exact absurd (longest _ (cons_prefix_cons.mpr ⟨rfl, isPath⟩) present)
          (Nat.not_succ_le_zero _)
      · refine .inl ⟨tail, ⟨isTail, fun other isOther present => ?_⟩, found⟩
        exact Nat.le_of_succ_le_succ (longest _ (cons_prefix_cons.mpr ⟨rfl, isOther⟩) present)

lemma longestPrefix_congr {fewer : List Symbol → Option Value} {value : Value}
  (found : longestPrefix values key = some value)
  (fewer_le : ∀ path, fewer path = values path ∨ fewer path = none)
  (kept : ∀ path, values path = some value → fewer path = some value) :
  longestPrefix fewer key = some value := by
  obtain ⟨path, ⟨isPrefix, longest⟩, present⟩ := longestPrefix_eq_some_iff.mp found
  refine longestPrefix_eq_some_iff.mpr ⟨path, ⟨isPrefix, ?_⟩, kept path present⟩
  intro other isOther still
  apply longest other isOther
  rcases fewer_le other with same | gone
  · exact same ▸ still
  · exact absurd gone still

def Overlap (first second : List Symbol) : Prop := first <+: second ∨ second <+: first

instance [DecidableEq Symbol] (first second : List Symbol) : Decidable (Overlap first second) :=
  inferInstanceAs (Decidable (_ ∨ _))

lemma overlap_of_extends {first second : List Symbol} (isFirst : first <+: key)
  (isSecond : second <+: key) : Overlap first second :=
  prefix_or_prefix_of_prefix isFirst isSecond

end LongestPrefix

inductive PrefixTrie (Value : Type u) where
  | empty
  | node (value : Option Value) (left right : PrefixTrie Value)

namespace PrefixTrie

variable {Value : Type u}

def value : PrefixTrie Value → Option Value
  | .empty => none
  | .node value _ _ => value

def child : PrefixTrie Value → Bool → PrefixTrie Value
  | .empty, _ => .empty
  | .node _ left _, false => left
  | .node _ _ right, true => right

def lookup (trie : PrefixTrie Value) : List Bool → Option Value
  | [] => trie.value
  | bit :: rest => (trie.child bit).lookup rest

def insert (trie : PrefixTrie Value) : List Bool → Value → PrefixTrie Value
  | [], value => .node (some value) (trie.child false) (trie.child true)
  | false :: rest, value =>
    .node trie.value ((trie.child false).insert rest value) (trie.child true)
  | true :: rest, value =>
    .node trie.value (trie.child false) ((trie.child true).insert rest value)

def remove : PrefixTrie Value → List Bool → PrefixTrie Value
  | .empty, _ => .empty
  | .node _ left right, [] => .node none left right
  | .node value left right, false :: rest => .node value (left.remove rest) right
  | .node value left right, true :: rest => .node value left (right.remove rest)

def findFrom (lastMatch : Option Value) (trie : PrefixTrie Value) : List Bool → Option Value
  | [] => lastMatch
  | bit :: rest =>
    match trie.child bit with
    | .empty => lastMatch
    | .node value left right => findFrom (value.or lastMatch) (.node value left right) rest

def find (trie : PrefixTrie Value) (key : List Bool) : Option Value :=
  findFrom trie.value trie key

def entries : PrefixTrie Value → List (List Bool × Value)
  | .empty => []
  | .node value left right =>
    (value.toList.map fun value => ([], value)) ++
      (left.entries.map fun entry => (false :: entry.1, entry.2)) ++
        right.entries.map fun entry => (true :: entry.1, entry.2)

variable {trie : PrefixTrie Value}

@[simp]
lemma lookup_empty (path : List Bool) : (empty : PrefixTrie Value).lookup path = none := by
  induction path with
  | nil => rfl
  | cons bit rest ih => exact ih

lemma lookup_insert (trie : PrefixTrie Value) (path other : List Bool) (value : Value) :
  (trie.insert path value).lookup other =
    if other = path then some value else trie.lookup other := by
  induction path generalizing trie other with
  | nil =>
    cases other with
    | nil => rfl
    | cons bit rest => cases bit <;> rfl
  | cons bit rest ih =>
    cases other with
    | nil => cases bit <;> rfl
    | cons bit' rest' =>
      cases bit <;> cases bit'
      · exact (ih _ _).trans (by simp [lookup])
      · rfl
      · rfl
      · exact (ih _ _).trans (by simp [lookup])

lemma lookup_remove (trie : PrefixTrie Value) (path other : List Bool) :
  (trie.remove path).lookup other = if other = path then none else trie.lookup other := by
  induction path generalizing trie other with
  | nil =>
    cases trie with
    | empty => simp [remove]
    | node value left right =>
      cases other with
      | nil => rfl
      | cons bit rest => cases bit <;> rfl
  | cons bit rest ih =>
    cases trie with
    | empty => simp [remove]
    | node value left right =>
      cases other with
      | nil => cases bit <;> rfl
      | cons bit' rest' =>
        cases bit <;> cases bit'
        · exact (ih _ _).trans (by simp [lookup, child])
        · rfl
        · rfl
        · exact (ih _ _).trans (by simp [lookup, child])

lemma lookup_foldl_remove (paths : List (List Bool)) (trie : PrefixTrie Value)
  (other : List Bool) :
  (paths.foldl remove trie).lookup other = if other ∈ paths then none else trie.lookup other := by
  induction paths generalizing trie with
  | nil => simp
  | cons path rest ih =>
    rw [foldl_cons, ih, lookup_remove]
    by_cases same : other = path
    · simp [same]
    · simp [same]

lemma findFrom_eq (lastMatch : Option Value) (trie : PrefixTrie Value) (key : List Bool) :
  findFrom (trie.value.or lastMatch) trie key = (longestPrefix trie.lookup key).or lastMatch := by
  induction key generalizing trie lastMatch with
  | nil => rfl
  | cons bit rest ih =>
    rw [findFrom, longestPrefix]
    cases next : trie.child bit with
    | empty =>
      have nothing : (fun path => trie.lookup (bit :: path)) = fun _ => none := by
        funext path
        rw [lookup, next, lookup_empty]
      rw [nothing, longestPrefix_eq_none_iff.mpr fun _ _ => rfl]
      rfl
    | node value left right =>
      have below : (fun path => trie.lookup (bit :: path)) = (node value left right).lookup := by
        funext path
        rw [lookup, next]
      rw [below]
      exact (ih (trie.value.or lastMatch) (.node value left right)).trans (Option.or_assoc ..).symm

lemma find_eq (trie : PrefixTrie Value) (key : List Bool) :
  trie.find key = longestPrefix trie.lookup key := by
  have all := findFrom_eq none trie key
  rwa [Option.or_none, Option.or_none] at all

lemma mem_entries {path : List Bool} {value : Value} :
  (path, value) ∈ trie.entries ↔ trie.lookup path = some value := by
  induction trie generalizing path with
  | empty => simp [entries]
  | node stored left right left_ih right_ih =>
    cases path with
    | nil => simp [entries, lookup, PrefixTrie.value]
    | cons bit rest =>
      cases bit
      · simpa [entries, lookup, child] using left_ih
      · simpa [entries, lookup, child] using right_ih

end PrefixTrie

end NextGCore.Library
