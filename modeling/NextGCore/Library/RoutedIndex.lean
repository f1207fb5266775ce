import NextGCore.Library.OwnedIndex
import NextGCore.Library.PrefixTrie

/-!
# Records found by a key or by a route

A record is found by the key that it has, and else by the longest prefix of an address that is
routed to it.  A key that a record has given up may go on leading to it; it must not lie on a
route then, for the route would not be asked.
-/

namespace NextGCore.Library

open Option Function

universe u v w x

variable {Key : Type u} {Value : Type v}

lemma lookup_insert_update [DecidableEq Key] (table : AList fun _ : Key => Value) (key : Key)
  (value : Value) :
  (table.insert key value).lookup = update table.lookup key (some value) := by
  funext other
  by_cases same : other = key
  · subst same
    rw [update_self]
    exact AList.lookup_insert table
  · rw [update_of_ne same]
    exact AList.lookup_insert_ne same

lemma lookup_erase_update [DecidableEq Key] (table : AList fun _ : Key => Value) (key : Key) :
  (table.erase key).lookup = update table.lookup key none := by
  funext other
  by_cases same : other = key
  · subst same
    rw [update_self]
    exact AList.lookup_erase other table
  · rw [update_of_ne same]
    exact AList.lookup_erase_ne same

/-- Records by their numbers, the numbers by keys, and the numbers by prefixes. -/
@[ext]
structure RoutedIndex (Id : Type u) (Record : Type v) (Key : Type w) (Symbol : Type x) where
  records : Id → Option Record
  hash : Key → Option Id
  routes : List Symbol → Option Id

namespace RoutedIndex

variable {Id : Type u} {Record : Type v} {Key : Type w} {Symbol : Type x}
  {index : RoutedIndex Id Record Key Symbol} {keyOf : Record → Option Key}
  {keyBits : Key → List Symbol} {id : Id} {record : Record} {other : Id} {old : Record} {key : Key}

def find (index : RoutedIndex Id Record Key Symbol) (key : Key) (address : List Symbol) :
  Option Record :=
  ((index.hash key).bind index.records).or ((longestPrefix index.routes address).bind index.records)

structure Coherent (keyOf : Record → Option Key) (keyBits : Key → List Symbol)
  (index : RoutedIndex Id Record Key Symbol) : Prop where
  held : ∀ {id record key}, index.records id = some record → keyOf record = some key →
    index.hash key = some id
  owned : ∀ {path id}, index.routes path = some id → index.records id ≠ none
  clear : ∀ {key id record path}, index.hash key = some id → index.records id = some record →
    keyOf record ≠ some key → index.routes path ≠ none → ¬ Overlap path (keyBits key)

section Search

variable {key : Key} {address : List Symbol}

lemma records_of_find (found : index.find key address = some record) :
  ∃ id, index.records id = some record := by
  rcases or_eq_some_iff.mp found with direct | ⟨-, routed⟩
  · obtain ⟨id, -, stored⟩ := bind_eq_some_iff.mp direct
    exact ⟨id, stored⟩
  · obtain ⟨id, -, stored⟩ := bind_eq_some_iff.mp routed
    exact ⟨id, stored⟩

lemma find_of_key (coherent : index.Coherent keyOf keyBits)
  (stored : index.records id = some record) (bears : keyOf record = some key)
  (address : List Symbol) : index.find key address = some record := by
  rw [find, coherent.held stored bears, bind_some, stored]
  rfl

lemma find_of_route (coherent : index.Coherent keyOf keyBits) {path : List Symbol}
  (within : keyBits key <+: address) (longest : LongestWith index.routes address path)
  (routed : index.routes path = some id) (stored : index.records id = some record)
  (free : ∀ other record, index.records other = some record → keyOf record ≠ some key) :
  index.find key address = some record := by
  have missed : (index.hash key).bind index.records = none := by
    rw [eq_none_iff_forall_ne_some]
    intro found isFound
    obtain ⟨other, entry, isStored⟩ := bind_eq_some_iff.mp isFound
    exact coherent.clear entry isStored (free other found isStored)
      (ne_none_iff_exists'.mpr ⟨id, routed⟩) (overlap_of_extends longest.1 within)
  rw [find, missed, none_or,
    longestPrefix_eq_some_iff.mpr ⟨path, longest, routed⟩, bind_some, stored]

end Search

variable [DecidableEq Id]

lemma update_ne_none {Value : Type v} {map : Id → Option Value} {changed : Id} {new : Value}
  (present : map other ≠ none) : update map changed (some new) other ≠ none := by
  by_cases same : other = changed
  · subst same
    rw [update_self]
    nofun
  · rwa [update_of_ne same]

lemma Coherent.add (coherent : index.Coherent keyOf keyBits)
  (unnamed : ∀ key, index.hash key ≠ some id) (keyless : keyOf record = none) :
  Coherent keyOf keyBits
    { index with records := update index.records id (some record) } where
  held {other found key} stored bears := by
    rcases of_update_some stored with ⟨-, rfl⟩ | ⟨-, stored⟩
    · rw [keyless] at bears
      cases bears
    · exact coherent.held stored bears
  owned routed := update_ne_none (coherent.owned routed)
  clear {key other found path} entry stored := by
    rcases of_update_some stored with ⟨rfl, -⟩ | ⟨-, stored⟩
    · exact absurd entry (unnamed key)
    · exact coherent.clear entry stored

lemma Coherent.replace (coherent : index.Coherent keyOf keyBits)
  (stored : index.records id = some old) (sameKey : keyOf record = keyOf old) :
  Coherent keyOf keyBits
    { index with records := update index.records id (some record) } where
  held {other found key} after bears := by
    rcases of_update_some after with ⟨rfl, rfl⟩ | ⟨-, isStored⟩
    · exact coherent.held stored (sameKey.symm.trans bears)
    · exact coherent.held isStored bears
  owned routed := update_ne_none (coherent.owned routed)
  clear {key other found path} entry after differs := by
    rcases of_update_some after with ⟨rfl, rfl⟩ | ⟨-, isStored⟩
    · exact coherent.clear entry stored (sameKey ▸ differs)
    · exact coherent.clear entry isStored differs

lemma Coherent.rekey [DecidableEq Key] (coherent : index.Coherent keyOf keyBits)
  (stored : index.records id = some old) (bears : keyOf record = some key)
  (own : ∀ other found, index.records other = some found → keyOf found = some key → other = id)
  (off : ∀ oldKey, keyOf old = some oldKey → oldKey ≠ key →
    ∀ path, index.routes path ≠ none → ¬ Overlap path (keyBits oldKey)) :
  Coherent keyOf keyBits
    { index with
      records := update index.records id (some record)
      hash := update index.hash key (some id) } where
  held {other found key'} after alsoBears := by
    rcases of_update_some after with ⟨rfl, rfl⟩ | ⟨differs, isStored⟩
    · obtain rfl := Option.some.inj (bears.symm.trans alsoBears)
      exact update_self _ _ _
    · have another : key' ≠ key := by
        rintro rfl
        exact differs (own other found isStored alsoBears)
      exact (update_of_ne another _ _).trans (coherent.held isStored alsoBears)
  owned routed := update_ne_none (coherent.owned routed)
  clear {key' other found path} entry after differs present := by
    rcases of_update_some entry with ⟨rfl, rfl⟩ | ⟨another, before⟩
    · rcases of_update_some after with ⟨-, rfl⟩ | ⟨elsewhere, -⟩
      · exact absurd bears differs
      · exact absurd rfl elsewhere
    · rcases of_update_some after with ⟨rfl, -⟩ | ⟨-, isStored⟩
      · by_cases had : keyOf old = some key'
        · exact off key' had another path present
        · exact coherent.clear before stored had present
      · exact coherent.clear before isStored differs present

omit [DecidableEq Id] in
lemma Coherent.route [DecidableEq Symbol] (coherent : index.Coherent keyOf keyBits)
  {path : List Symbol} (stored : index.records id ≠ none)
  (off : ∀ key other found, index.hash key = some other → index.records other = some found →
    Overlap path (keyBits key) → keyOf found = some key) :
  Coherent keyOf keyBits
    { index with routes := update index.routes path (some id) } where
  held := coherent.held
  owned {path' other} routed := by
    rcases of_update_some routed with ⟨-, rfl⟩ | ⟨-, routed⟩
    · exact stored
    · exact coherent.owned routed
  clear {key other found path'} entry isStored differs present := by
    obtain ⟨target, routed⟩ := ne_none_iff_exists'.mp present
    rcases of_update_some routed with ⟨rfl, -⟩ | ⟨-, routed⟩
    · exact fun overlap => differs (off key other found entry isStored overlap)
    · exact coherent.clear entry isStored differs (ne_none_iff_exists'.mpr ⟨target, routed⟩)

def drop [DecidableEq Key] (index : RoutedIndex Id Record Key Symbol) (id : Id)
  (key : Option Key) : RoutedIndex Id Record Key Symbol where
  records := update index.records id none
  hash other := if key = some other then none else index.hash other
  routes path := if index.routes path = some id then none else index.routes path

lemma records_drop_eq_some [DecidableEq Key] {key : Option Key} :
  (index.drop id key).records other = some record ↔
    other ≠ id ∧ index.records other = some record := by
  change update index.records id none other = some record ↔ _
  by_cases same : other = id
  · subst same
    rw [update_self]
    exact ⟨nofun, fun both => absurd rfl both.1⟩
  · rw [update_of_ne same]
    exact ⟨fun stored => ⟨same, stored⟩, fun both => both.2⟩

lemma of_ite_none {Value : Type u} {condition : Prop} [Decidable condition] {value : Option Value}
  {found : Value} (isFound : (if condition then none else value) = some found) :
  ¬ condition ∧ value = some found := by
  split at isFound
  · cases isFound
  · next holds => exact ⟨holds, isFound⟩

lemma Coherent.drop [DecidableEq Key] (coherent : index.Coherent keyOf keyBits)
  (stored : index.records id = some record) :
  (index.drop id (keyOf record)).Coherent keyOf keyBits where
  held {other found key} after bears := by
    obtain ⟨differs, isStored⟩ := records_drop_eq_some.mp after
    have entry := coherent.held isStored bears
    refine (if_neg fun same => differs ?_).trans entry
    exact Option.some.inj (entry.symm.trans (coherent.held stored same))
  owned {path other} routed := by
    obtain ⟨differs, before⟩ := of_ite_none routed
    have same : other ≠ id := by
      rintro rfl
      exact differs before
    change update index.records id none other ≠ none
    rw [update_of_ne same]
    exact coherent.owned before
  clear {key other found path} entry after differs present := by
    obtain ⟨-, isStored⟩ := records_drop_eq_some.mp after
    obtain ⟨target, routed⟩ := ne_none_iff_exists'.mp present
    exact coherent.clear (of_ite_none entry).2 isStored differs
      (ne_none_iff_exists'.mpr ⟨target, (of_ite_none routed).2⟩)

lemma find_drop [DecidableEq Key] (coherent : index.Coherent keyOf keyBits)
  {number : Record → Id}
  (numbered : ∀ id record, index.records id = some record → number record = id)
  (stored : index.records id = some record) {address : List Symbol} {found : Record}
  (isFound : index.find key address = some found) (differs : number found ≠ id) :
  (index.drop id (keyOf record)).find key address = some found := by
  have still {other : Id} (isStored : index.records other = some found) :
      (index.drop id (keyOf record)).records other = some found :=
    records_drop_eq_some.mpr ⟨fun same => differs ((numbered other found isStored).trans same),
      isStored⟩
  rcases or_eq_some_iff.mp isFound with direct | ⟨missed, routed⟩
  · obtain ⟨other, entry, isStored⟩ := bind_eq_some_iff.mp direct
    have kept : (index.drop id (keyOf record)).hash key = some other := by
      refine (if_neg fun same => ?_).trans entry
      obtain rfl := Option.some.inj (entry.symm.trans (coherent.held stored same))
      exact differs (numbered other found isStored)
    rw [find, kept, bind_some, still isStored]
    rfl
  · obtain ⟨other, longest, isStored⟩ := bind_eq_some_iff.mp routed
    have elsewhere : other ≠ id := fun same =>
      differs ((numbered other found isStored).trans same)
    have stillMissed : ((index.drop id (keyOf record)).hash key).bind
        (index.drop id (keyOf record)).records = none := by
      rw [eq_none_iff_forall_ne_some]
      intro unexpected isUnexpected
      obtain ⟨target, entry, after⟩ := bind_eq_some_iff.mp isUnexpected
      have before : (index.hash key).bind index.records = some unexpected :=
        bind_eq_some_iff.mpr
          ⟨target, (of_ite_none entry).2, (records_drop_eq_some.mp after).2⟩
      rw [missed] at before
      cases before
    have again : longestPrefix (index.drop id (keyOf record)).routes address = some other := by
      apply longestPrefix_congr longest
      · intro path
        by_cases own : index.routes path = some id
        · exact .inr (if_pos own)
        · exact .inl (if_neg own)
      · intro path isRoute
        refine (if_neg fun own => elsewhere ?_).trans isRoute
        exact Option.some.inj (isRoute.symm.trans own)
    rw [find, stillMissed, none_or, again, bind_some, still isStored]

end RoutedIndex

end NextGCore.Library
