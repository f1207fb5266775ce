import Mathlib
import NextGCore.Library.Chain
import NextGCore.Library.Machine

/-!
# The lock-free hash map

`LockFreeHashMap` of `lockfree.rs` when one thread uses it: no other thread changes a pointer
between its load and its exchange.  An insertion looks for its key in the whole chain of a bucket
and then exchanges the head, so it replaces a node only where that is the head; elsewhere it puts
a second node with the key in front.
-/

namespace NextGCore.Core

open Library Option AList

universe u v

structure LockFreeHashMap (Key : Type u) (Value : Type v) (count : ℕ) where
  buckets : Vector (List (Key × Value)) count
  size : ℕ

inductive HashMapOperation (Key : Type u) (Value : Type v) where
  | insert (key : Key) (value : Value)
  | get (key : Key)
  | remove (key : Key)

namespace LockFreeHashMap

variable {Key : Type u} {Value : Type v} {count : ℕ}

def withCapacity (count : ℕ) : LockFreeHashMap Key Value count := ⟨.replicate count [], 0⟩

variable [DecidableEq Key] [NeZero count] (hash : Key → UInt64)

def hashKey (key : Key) : Fin count := Fin.ofNat count (hash key).toNat

variable (map : LockFreeHashMap Key Value count)

def chain (key : Key) : List (Key × Value) := map.buckets[(hashKey hash key : Fin count)]

def setChain (key : Key) (entries : List (Key × Value)) : LockFreeHashMap Key Value count :=
  let index : Fin count := hashKey hash key
  { map with buckets := map.buckets.set index entries index.isLt }

def insert (key : Key) (value : Value) : LockFreeHashMap Key Value count :=
  let entries := map.chain hash key
  match Chain.position key entries with
  | some 0 => map.setChain hash key ((key, value) :: entries.tail)
  | _ =>
    -- A later node is not the head, so the exchange of the head for it fails, as if the key had
    -- not been found.
    let pushed := map.setChain hash key ((key, value) :: entries)
    { pushed with size := map.size + 1 }

def get (key : Key) : Option Value := Chain.find key (map.chain hash key)

def remove (key : Key) : LockFreeHashMap Key Value count × Option Value :=
  let entries := map.chain hash key
  match Chain.position key entries with
  | none => (map, none)
  | some place =>
    let unlinked := map.setChain hash key (entries.eraseIdx place)
    ({ unlinked with size := map.size - 1 }, entries[place]?.map Prod.snd)

def len : ℕ := map.size

def operate : HashMapOperation Key Value → LockFreeHashMap Key Value count × Option Value
  | .insert key value => (map.insert hash key value, none)
  | .get key => (map, map.get hash key)
  | .remove key => map.remove hash key

end LockFreeHashMap

section Refinement

variable {Key : Type u} {Value : Type v} [DecidableEq Key]

def HashMapOperation.apply (contents : AList fun _ : Key => Value) :
    HashMapOperation Key Value → AList fun _ : Key => Value
  | .insert key value => contents.insert key value
  | .get _ => contents
  | .remove key => contents.erase key

namespace LockFreeHashMap

variable {count : ℕ} [NeZero count] (hash : Key → UInt64)

/-- Every key has the value that it has in the finite map, and there are as many. -/
structure Represents (map : LockFreeHashMap Key Value count)
  (contents : AList fun _ : Key => Value) : Prop where
  get : ∀ key, map.get hash key = contents.lookup key
  len : map.len = contents.keys.length

def HeadOrNew (map : LockFreeHashMap Key Value count) : HashMapOperation Key Value → Prop
  | .insert key _ => ∀ place ∈ Chain.position key (map.chain hash key), place = 0
  | .get _ | .remove _ => True

instance decidableHeadOrNew (map : LockFreeHashMap Key Value count) :
    (operation : HashMapOperation Key Value) → Decidable (map.HeadOrNew hash operation)
  | .insert _ _ => inferInstanceAs (Decidable (∀ _ ∈ _, _))
  | .get _ | .remove _ => inferInstanceAs (Decidable True)

def tracked : Machine (LockFreeHashMap Key Value count × AList fun _ : Key => Value)
  (HashMapOperation Key Value) (Option Value) :=
  (Machine.mk fun map operation => map.operate hash operation).observed
    fun contents _ operation _ => operation.apply contents

structure Intact (joint : LockFreeHashMap Key Value count × AList fun _ : Key => Value) :
  Prop where
  represents : joint.1.Represents hash joint.2
  once : ∀ index : Fin count, ((joint.1.buckets.get index).map Prod.fst).Nodup

section Chains

variable {hash} (map : LockFreeHashMap Key Value count) {contents : AList fun _ : Key => Value}
  {key other : Key} {value : Value} {entries : List (Key × Value)}

omit [DecidableEq Key] in
lemma chain_setChain : (map.setChain hash key entries).chain hash other =
    if (hashKey hash key : Fin count) = hashKey hash other then entries
    else map.chain hash other := by
  simp [chain, setChain, Vector.getElem_set, Fin.ext_iff]

lemma get_setChain {found : Option Value} (own : Chain.find key entries = found)
  (others : ∀ other ≠ key, Chain.find other entries = Chain.find other (map.chain hash key)) :
  (map.setChain hash key entries).get hash other =
    if other = key then found else map.get hash other := by
  rw [get, chain_setChain]
  by_cases same : other = key
  · rw [if_pos same, if_pos (by rw [same]), same, own]
  · rw [if_neg same]
    split
    · rename_i together
      simp only [others other same, get, chain, together]
    · rfl

omit [DecidableEq Key] in
lemma once_setChain (once : ∀ index : Fin count, ((map.buckets.get index).map Prod.fst).Nodup)
  (nodup : (entries.map Prod.fst).Nodup) (index : Fin count) :
  (((map.setChain hash key entries).buckets.get index).map Prod.fst).Nodup := by
  have changed : (map.setChain hash key entries).buckets.get index =
      if hashKey hash key = index then entries else map.buckets.get index := by
    simp [setChain, Vector.get_eq_getElem, Vector.getElem_set, Fin.ext_iff]
  rw [changed]
  split
  · exact nodup
  · exact once index

end Chains

section Operations

variable {hash} {map : LockFreeHashMap Key Value count} {contents : AList fun _ : Key => Value}
  {key : Key} {value : Value}

lemma Represents.mem_iff (represents : map.Represents hash contents) (key : Key) :
  key ∈ contents ↔ Chain.position key (map.chain hash key) ≠ none := by
  rw [← lookup_isSome, ← represents.get, isSome_iff_ne_none, ne_eq, ne_eq,
    Chain.position_eq_none_iff, LockFreeHashMap.get]

lemma Intact.nodup_chain (intact : Intact hash (map, contents)) :
  ((map.chain hash key).map Prod.fst).Nodup := intact.once _

lemma length_keys_insert (contents : AList fun _ : Key => Value) :
  (contents.insert key value).keys.length =
    if key ∈ contents then contents.keys.length else contents.keys.length + 1 := by
  rw [keys_insert, List.length_cons]
  split
  · rename_i present
    have positive := List.length_pos_of_mem (mem_keys.mp present)
    rw [List.length_erase_of_mem (mem_keys.mp present)]
    omega
  · rename_i missing
    rw [List.erase_of_not_mem (fun listed => missing (mem_keys.mpr listed))]

lemma Intact.insert (intact : Intact hash (map, contents))
  (headOrNew : map.HeadOrNew hash (.insert key value)) :
  Intact hash (map.insert hash key value, contents.insert key value) := by
  have inserted (entries : List (Key × Value)) (others : ∀ other ≠ key,
        Chain.find other entries = Chain.find other (map.chain hash key)) (other : Key) :
      (map.setChain hash key ((key, value) :: entries)).get hash other =
        (contents.insert key value).lookup other := by
    rw [get_setChain map (by rw [Chain.find_cons, if_pos rfl]) fun other differs => by
      rw [Chain.find_cons, if_neg (Ne.symm differs), others other differs]]
    split
    · rename_i same
      rw [same, lookup_insert]
    · rename_i differs
      rw [lookup_insert_ne differs, intact.represents.get]
  have present := intact.represents.mem_iff key
  cases found : Chain.position key (map.chain hash key) with
  | none =>
    have missing : key ∉ contents := fun listed => present.mp listed found
    simp only [LockFreeHashMap.insert, found]
    constructor
    · refine ⟨inserted _ fun _ _ => rfl, ?_⟩
      rw [length_keys_insert, if_neg missing, ← intact.represents.len]
      rfl
    · refine once_setChain map intact.once (List.nodup_cons.mpr ⟨?_, intact.nodup_chain⟩)
      exact Chain.find_eq_none_iff.mp (Chain.position_eq_none_iff.mp found)
  | some place =>
    obtain rfl : place = 0 := headOrNew place found
    have listed : key ∈ contents := present.mpr (by rw [found]; exact some_ne_none _)
    have tail : (map.chain hash key).tail = (map.chain hash key).eraseIdx 0 :=
      List.eraseIdx_zero.symm
    simp only [LockFreeHashMap.insert, found, tail]
    constructor
    · refine ⟨inserted _ fun other differs => Chain.find_eraseIdx_of_ne differs found, ?_⟩
      rw [length_keys_insert, if_pos listed, ← intact.represents.len]
      rfl
    · refine once_setChain map intact.once (List.nodup_cons.mpr ⟨?_, ?_⟩)
      · exact Chain.find_eq_none_iff.mp (Chain.find_eraseIdx_self intact.nodup_chain found)
      · exact Chain.nodup_eraseIdx intact.nodup_chain 0

lemma Intact.remove (intact : Intact hash (map, contents)) :
  Intact hash ((map.remove hash key).1, contents.erase key) := by
  have present := intact.represents.mem_iff key
  cases found : Chain.position key (map.chain hash key) with
  | none =>
    have missing : key ∉ contents.keys := fun listed =>
      present.mp (mem_keys.mpr listed) found
    have same : contents.erase key = contents :=
      ext (List.kerase_of_notMem_keys missing)
    simpa only [LockFreeHashMap.remove, found, same] using intact
  | some place =>
    have listed : key ∈ contents.keys :=
      mem_keys.mp (present.mpr (by rw [found]; exact some_ne_none _))
    have removed (other : Key) :
        (map.setChain hash key ((map.chain hash key).eraseIdx place)).get hash other =
          (contents.erase key).lookup other := by
      rw [get_setChain map (Chain.find_eraseIdx_self intact.nodup_chain found)
        fun other differs => Chain.find_eraseIdx_of_ne differs found]
      split
      · rename_i same
        rw [same, lookup_erase]
      · rename_i differs
        rw [lookup_erase_ne differs, intact.represents.get]
    simp only [LockFreeHashMap.remove, found]
    constructor
    · refine ⟨removed, ?_⟩
      rw [keys_erase, List.length_erase_of_mem listed, ← intact.represents.len]
      rfl
    · exact once_setChain map intact.once (Chain.nodup_eraseIdx intact.nodup_chain place)

lemma headOrNew_of_represents (intact : Intact hash (map, contents))
  (represents : (map.insert hash key value).Represents hash (contents.insert key value)) :
  map.HeadOrNew hash (.insert key value) := by
  rintro (_ | place) found
  · rfl
  · have present : key ∈ contents := by
      rw [intact.represents.mem_iff, mem_def.mp found]
      exact some_ne_none _
    have counted := represents.len
    rw [length_keys_insert, if_pos present, ← intact.represents.len] at counted
    simp only [insert, mem_def.mp found, len] at counted
    omega

end Operations

lemma intact_withCapacity :
  Intact hash (withCapacity count, (∅ : AList fun _ : Key => Value)) := by
  constructor
  · exact ⟨fun key => by simp [get, chain, withCapacity], rfl⟩
  · intro index
    simp [withCapacity, Vector.get_eq_getElem]

/-- After every prefix of a sequence of operations the map holds what the finite map does, exactly
when every insertion of the sequence is of a new key or of the first of its bucket. -/
theorem represents_run_iff (operations : List (HashMapOperation Key Value)) : (∀ steps,
    let joint := (tracked hash).run (withCapacity count, ∅) (operations.take steps)
    joint.1.Represents hash joint.2) ↔
    (Machine.mk fun map operation => operate hash map operation).Along
      (fun map operation => map.HeadOrNew hash operation)
      (withCapacity count : LockFreeHashMap Key Value count) operations := by
  rw [← Machine.along_observed _ (fun contents _ operation _ => operation.apply contents) _
    (withCapacity count, ∅)]
  refine (tracked hash).reached_iff_along (fun joint (intact : Intact hash joint) =>
    intact.represents) ?_ ?_ (intact_withCapacity hash) operations
  · rintro ⟨map, contents⟩ (⟨key, value⟩ | key | key) intact condition
    · exact intact.insert condition
    · exact intact
    · exact intact.remove
  · rintro ⟨map, contents⟩ (⟨key, value⟩ | key | key) intact represents
    · exact headOrNew_of_represents intact represents
    · trivial
    · trivial

/-- Two keys of one bucket, each inserted when it is new. -/
theorem represents_run_two :
  let joint := (tracked fun _ => 0).run
    ((withCapacity 1, ∅) : LockFreeHashMap ℕ ℕ 1 × AList fun _ : ℕ => ℕ)
    [.insert 1 100, .insert 2 200, .insert 2 300, .remove 1]
  joint.1.Represents (fun _ => 0) joint.2 :=
  (represents_run_iff (fun _ => 0) [.insert 1 100, .insert 2 200, .insert 2 300, .remove 1]).mpr
    (by decide) 4

/-- A key behind the head is inserted again, and its old value is there when it is removed. -/
theorem not_represents_run : ¬ ∀ (hash : ℕ → UInt64) (operations : List (HashMapOperation ℕ ℕ)),
    let joint := (tracked hash).run (withCapacity 1, ∅) operations
    joint.1.Represents hash joint.2 := by
  intro always
  let operations : List (HashMapOperation ℕ ℕ) :=
    [.insert 1 100, .insert 2 200, .insert 1 300, .remove 1]
  have left := (always (fun _ => 0) operations).get 1
  exact absurd left (by decide)

end LockFreeHashMap

end Refinement

end NextGCore.Core
