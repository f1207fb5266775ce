import Mathlib.Data.List.AList

/-!
# Numbered tables

A finite map whose records know the number they are stored under, with a
counter that hands out the next number.  The structure carries both facts, so
that no operation has to re-establish them and a number is never given twice.
-/

namespace NextGCore.Library

open List Function

universe u

structure NumberedTable (Record : Type u) (number : Record → ℕ) where
  entries : AList (fun _ : ℕ => Record)
  next : ℕ
  numbered : ∀ id record, entries.lookup id = some record → number record = id
  below : ∀ id, id ∈ entries → id < next

namespace NumberedTable

variable {Record : Type u} {number : Record → ℕ} (table : NumberedTable Record number)
  {record : Record}

def empty (next : ℕ) : NumberedTable Record number where
  entries := ∅
  next := next
  numbered id record found := by simp at found
  below id membership := absurd membership (AList.notMem_empty id)

def lookup (id : ℕ) : Option Record :=
  table.entries.lookup id

def clear : NumberedTable Record number :=
  empty table.next

def records : List Record :=
  table.entries.entries.map Sigma.snd

def size : ℕ :=
  table.entries.keys.length

variable {table}

lemma number_eq {id : ℕ} (found : table.lookup id = some record) : number record = id :=
  table.numbered id record found

@[simp]
lemma lookup_empty (next id : ℕ) : (empty next : NumberedTable Record number).lookup id = none :=
  AList.lookup_empty id

lemma lookup_eq_none {id : ℕ} (unused : table.next ≤ id) : table.lookup id = none := by
  apply AList.lookup_eq_none.mpr
  intro membership
  exact absurd (table.below id membership) (Nat.not_lt.mpr unused)

lemma mem_records : record ∈ table.records ↔ table.lookup (number record) = some record := by
  unfold records lookup
  constructor
  · intro membership
    obtain ⟨⟨id, stored⟩, entry, rfl⟩ := mem_map.mp membership
    have found := AList.mem_lookup_iff.mpr entry
    rwa [table.numbered id stored found]
  · intro found
    exact mem_map.mpr ⟨⟨_, record⟩, AList.mem_lookup_iff.mp found, rfl⟩

variable (table)

lemma numbered_insert (added : Record) (id : ℕ) (record : Record)
  (found : (table.entries.insert (number added) added).lookup id = some record) :
  number record = id := by
  by_cases same : id = number added
  · subst same
    rw [AList.lookup_insert] at found
    obtain rfl : added = record := Option.some.inj found
    rfl
  · rw [AList.lookup_insert_ne same] at found
    exact table.numbered id record found

def allocate (build : ℕ → Record)
  (built : ∀ id, number (build id) = id) : NumberedTable Record number where
  entries := table.entries.insert (number (build table.next)) (build table.next)
  next := table.next + 1
  numbered := table.numbered_insert (build table.next)
  below id membership := by
    rw [built] at membership
    rcases (AList.mem_insert _).mp membership with rfl | earlier
    · exact Nat.lt_succ_self table.next
    · exact Nat.lt_succ_of_lt (table.below id earlier)

def skip : NumberedTable Record number where
  entries := table.entries
  next := table.next + 1
  numbered := table.numbered
  below id membership := Nat.lt_succ_of_lt (table.below id membership)

def install (record : Record) : NumberedTable Record number where
  entries := table.entries.insert (number record) record
  next := max table.next (number record + 1)
  numbered := table.numbered_insert record
  below id membership := by
    rcases (AList.mem_insert _).mp membership with rfl | earlier
    · exact Nat.lt_of_lt_of_le (Nat.lt_succ_self _) (Nat.le_max_right _ _)
    · exact Nat.lt_of_lt_of_le (table.below id earlier) (Nat.le_max_left _ _)

def update (record : Record) : NumberedTable Record number :=
  if present : number record ∈ table.entries then
    { entries := table.entries.insert (number record) record
      next := table.next
      numbered := table.numbered_insert record
      below := fun id membership =>
        table.below id <| ((AList.mem_insert _).mp membership).elim
          (fun same => same ▸ present) (fun earlier => earlier) }
  else table

def erase (id : ℕ) : NumberedTable Record number where
  entries := table.entries.erase id
  next := table.next
  numbered other record found := by
    by_cases same : other = id
    · subst same
      simp at found
    · rw [AList.lookup_erase_ne same] at found
      exact table.numbered other record found
  below other membership := table.below other (AList.mem_erase.mp membership).2

@[simp]
lemma update_next (record : Record) : (table.update record).next = table.next := by
  unfold update
  split <;> rfl

lemma lookup_allocate (build : ℕ → Record) (built : ∀ id, number (build id) = id) (id : ℕ) :
  (table.allocate build built).lookup id =
    if id = table.next then some (build id) else table.lookup id := by
  change (table.entries.insert (number (build table.next)) (build table.next)).lookup id = _
  rw [built]
  by_cases same : id = table.next
  · subst same
    rw [if_pos rfl]
    exact AList.lookup_insert table.entries
  · rw [if_neg same]
    exact AList.lookup_insert_ne same

lemma lookup_update (record : Record) (id : ℕ) : (table.update record).lookup id =
    if id = number record then (table.lookup id).map fun _ => record
    else table.lookup id := by
  unfold update
  by_cases present : number record ∈ table.entries
  · rw [dif_pos present]
    unfold lookup
    by_cases same : id = number record
    · subst same
      obtain ⟨earlier, found⟩ := Option.isSome_iff_exists.mp (AList.lookup_isSome.mpr present)
      rw [if_pos rfl, AList.lookup_insert, found]
      rfl
    · rw [if_neg same, AList.lookup_insert_ne same]
  · rw [dif_neg present]
    by_cases same : id = number record
    · subst same
      rw [if_pos rfl]
      have missing : table.lookup (number record) = none := AList.lookup_eq_none.mpr present
      rw [missing]
      rfl
    · rw [if_neg same]

@[simp]
lemma lookup_clear (id : ℕ) : table.clear.lookup id = none :=
  lookup_empty table.next id

lemma lookup_erase (id other : ℕ) :
  (table.erase id).lookup other = if other = id then none else table.lookup other := by
  unfold lookup erase
  by_cases same : other = id
  · subst same
    rw [if_pos rfl]
    exact AList.lookup_erase other table.entries
  · rw [if_neg same]
    exact AList.lookup_erase_ne same

lemma lookup_foldl_erase (ids : List ℕ) (table : NumberedTable Record number) (other : ℕ) :
  (ids.foldl erase table).lookup other = if other ∈ ids then none else table.lookup other := by
  induction ids generalizing table with
  | nil => simp
  | cons id rest ih =>
    rw [foldl_cons, ih, lookup_erase]
    by_cases isFirst : other = id <;> by_cases later : other ∈ rest <;> simp [isFirst, later]

lemma lookup_allocate_eq (build : ℕ → Record) (built : ∀ id, number (build id) = id) :
  (table.allocate build built).lookup =
    Function.update table.lookup table.next (some (build table.next)) := by
  funext id
  rw [lookup_allocate, update_apply]
  by_cases same : id = table.next
  · rw [if_pos same, if_pos same, same]
  · rw [if_neg same, if_neg same]

lemma lookup_install_eq (record : Record) :
  (table.install record).lookup = Function.update table.lookup (number record) (some record) := by
  funext id
  by_cases same : id = number record
  · subst same
    rw [update_self]
    exact AList.lookup_insert table.entries
  · rw [update_of_ne same]
    exact AList.lookup_insert_ne same

variable {table}

lemma lookup_update_eq {old : Record} (found : table.lookup (number record) = some old) :
  (table.update record).lookup = Function.update table.lookup (number record) (some record) := by
  funext id
  rw [lookup_update, update_apply]
  by_cases same : id = number record
  · rw [if_pos same, if_pos same, same, found]
    rfl
  · rw [if_neg same, if_neg same]

lemma lookup_erase_eq (table : NumberedTable Record number) (id : ℕ) :
  (table.erase id).lookup = Function.update table.lookup id none := by
  funext other
  rw [lookup_erase, update_apply]

lemma update_of_missing (missing : table.lookup (number record) = none) :
  table.update record = table := by
  unfold update
  exact dif_neg (AList.lookup_eq_none.mp missing)

lemma lt_next_of_lookup {id : ℕ} (found : table.lookup id = some record) : id < table.next := by
  by_contra beyond
  rw [lookup_eq_none (Nat.le_of_not_lt beyond)] at found
  cases found

lemma nodup_records (table : NumberedTable Record number) :
  (table.records.map number).Nodup := by
  have keys : table.records.map number = table.entries.keys := by
    rw [records, map_map]
    exact map_congr_left fun entry membership =>
      table.numbered entry.1 entry.2 (AList.mem_lookup_iff.mpr membership)
  rw [keys]
  exact table.entries.keys_nodup

lemma records_install (absent : table.lookup (number record) = none) :
  (table.install record).records = record :: table.records := by
  simp only [records, install]
  rw [AList.entries_insert_of_notMem (AList.lookup_eq_none.mp absent)]
  rfl

lemma records_foldl_install {added : List Record} (distinct : (added.map number).Nodup)
  (absent : ∀ record ∈ added, table.lookup (number record) = none) :
  (added.foldl install table).records.Perm (added ++ table.records) := by
  induction added generalizing table with
  | nil => exact .refl _
  | cons record rest ih =>
    rw [map_cons, nodup_cons] at distinct
    have fresh : ∀ other ∈ rest, (table.install record).lookup (number other) = none := by
      intro other membership
      have apart : number other ≠ number record := fun same =>
        distinct.1 (same ▸ mem_map_of_mem membership)
      rw [lookup_install_eq, update_of_ne apart]
      exact absent other (mem_cons_of_mem record membership)
    have later := ih distinct.2 fresh
    rw [records_install (absent record mem_cons_self)] at later
    exact later.trans perm_middle

end NumberedTable

end NextGCore.Library
