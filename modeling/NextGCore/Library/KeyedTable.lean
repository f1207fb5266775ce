import Mathlib.Algebra.BigOperators.Group.List.Basic
import Mathlib.Algebra.GroupWithZero.Nat
import Mathlib.Data.List.Nodup

/-!
# Tables keyed by their records

A finite map whose records know the key they are stored under: a list of records with
different keys, in an order in which the map may be walked.
-/

namespace NextGCore.Library

open List

variable {Record Key : Type} [DecidableEq Key]

structure KeyedTable (Record : Type) {Key : Type} (key : Record → Key) where
  records : List Record
  nodup : (records.map key).Nodup
  deriving DecidableEq

namespace KeyedTable

variable {key : Record → Key} {table : KeyedTable Record key} {record : Record} {wanted : Key}

def empty : KeyedTable Record key := ⟨[], nodup_nil⟩

def lookup (table : KeyedTable Record key) (wanted : Key) : Option Record :=
  table.records.find? fun record => key record = wanted

def insert (table : KeyedTable Record key) (record : Record) : KeyedTable Record key where
  records := record :: table.records.filter fun other => key other ≠ key record
  nodup := by
    rw [map_cons, nodup_cons]
    refine ⟨?_, table.nodup.sublist (filter_sublist.map key)⟩
    intro member
    obtain ⟨other, kept, same⟩ := mem_map.mp member
    exact absurd same (by simpa using (mem_filter.mp kept).2)

def map (table : KeyedTable Record key) (change : Record → Record)
  (keeps : ∀ record, key (change record) = key record) : KeyedTable Record key where
  records := table.records.map change
  nodup := by
    have same : (table.records.map change).map key = table.records.map key := by
      rw [map_map]
      exact map_congr_left fun record _ => keeps record
    exact same ▸ table.nodup

def update (table : KeyedTable Record key) (wanted : Key) (change : Record → Record)
  (keeps : ∀ record, key (change record) = key record) : KeyedTable Record key :=
  table.map (fun record => if key record = wanted then change record else record)
    fun record => by split <;> simp [keeps]

lemma key_eq (found : table.lookup wanted = some record) : key record = wanted := by
  simpa using List.find?_some found

lemma lookup_insert (table : KeyedTable Record key) (record : Record) (wanted : Key) :
  (table.insert record).lookup wanted =
    if key record = wanted then some record else table.lookup wanted := by
  unfold lookup insert
  by_cases same : key record = wanted
  · simp [same]
  · rw [List.find?_cons_of_neg (by simpa using same), List.find?_filter, if_neg same]
    congr 1
    funext other
    by_cases found : key other = wanted
    · simp [found, Ne.symm same]
    · simp [found]

lemma lookup_foldl_insert (records : List Record) (table : KeyedTable Record key) (wanted : Key) :
  (records.foldl insert table).lookup wanted =
    ((records.filter fun record => key record = wanted).getLast?).or (table.lookup wanted) := by
  induction records generalizing table with
  | nil => rfl
  | cons record rest ih =>
    rw [foldl_cons, ih, lookup_insert]
    by_cases same : key record = wanted
    · rw [if_pos same, filter_cons_of_pos (by simpa using same), getLast?_cons]
      cases (rest.filter fun record => key record = wanted).getLast? <;> rfl
    · rw [if_neg same, filter_cons_of_neg (by simpa using same)]

lemma mem_records_of_lookup (found : table.lookup wanted = some record) :
  record ∈ table.records :=
  List.mem_of_find?_eq_some found

lemma lookup_of_mem_records (member : record ∈ table.records) :
  table.lookup (key record) = some record := by
  obtain ⟨other, found⟩ : ∃ other, table.lookup (key record) = some other :=
    Option.isSome_iff_exists.mp (List.find?_isSome.mpr ⟨record, member, by simp⟩)
  have same := inj_on_of_nodup_map table.nodup (mem_records_of_lookup found) member
    (key_eq found)
  rw [found, same]

lemma lookup_map (table : KeyedTable Record key) (change : Record → Record)
  (keeps : ∀ record, key (change record) = key record) (wanted : Key) :
  (table.map change keeps).lookup wanted = (table.lookup wanted).map change := by
  unfold lookup map
  rw [List.find?_map]
  congr 2
  funext record
  simp [keeps]

omit [DecidableEq Key] in
lemma map_eq_self (table : KeyedTable Record key) {change : Record → Record}
  {keeps : ∀ record, key (change record) = key record} (same : ∀ record, change record = record) :
  table.map change keeps = table := by
  obtain ⟨records, nodup⟩ := table
  have unchanged : records.map change = records := map_id'' same records
  simp only [map, unchanged]

lemma lookup_update (table : KeyedTable Record key) (at' : Key) (change : Record → Record)
  (keeps : ∀ record, key (change record) = key record) (wanted : Key) :
  (table.update at' change keeps).lookup wanted =
    if wanted = at' then (table.lookup wanted).map change else table.lookup wanted := by
  rw [update, lookup_map]
  cases found : table.lookup wanted with
  | none => simp
  | some record =>
    rw [Option.map_some, key_eq found]
    split <;> rfl

lemma filter_key_eq (table : KeyedTable Record key) (wanted : Key) :
  table.records.filter (fun record => key record = wanted) = (table.lookup wanted).toList := by
  obtain ⟨records, nodup⟩ := table
  unfold lookup
  induction records with
  | nil => rfl
  | cons record rest ih =>
    rw [map_cons, nodup_cons] at nodup
    by_cases same : key record = wanted
    · have others : rest.filter (fun record => key record = wanted) = [] := by
        rw [filter_eq_nil_iff]
        intro other member equal
        exact nodup.1 (mem_map.mpr ⟨other, member, by simpa [same] using equal⟩)
      simp [same, others]
    · simpa [same] using ih nodup.2

lemma sum_under_key (table : KeyedTable Record key) (wanted : Key) (amount : Record → ℕ) :
  ((table.records.filter fun record => key record = wanted).map amount).sum =
    ((table.lookup wanted).map amount).getD 0 := by
  rw [filter_key_eq]
  cases table.lookup wanted <;> simp

section PartialUpdates

variable {Update : Type} (target : Update → Key) (apply : Update → Record → Record)

def updated (updates : List Update) (wanted : Key) (record : Record) : Record :=
  (updates.filter fun update => target update = wanted).foldl
    (fun record update => apply update record) record

/-- The records are what the updates make of them.  Nothing is said of a key that is updated
and has no record. -/
structure Updated (table next : KeyedTable Record key) (updates : List Update) : Prop where
  kept : ∀ wanted record, table.lookup wanted = some record →
    next.lookup wanted = some (updated target apply updates wanted record)
  absent : ∀ wanted, table.lookup wanted = none → (∀ update ∈ updates, target update ≠ wanted) →
    next.lookup wanted = none

variable {target apply}

omit [DecidableEq Key] in
lemma key_foldl (stays : ∀ update record, key (apply update record) = key record)
  (updates : List Update) (record : Record) :
  key (updates.foldl (fun record update => apply update record) record) = key record := by
  induction updates generalizing record with
  | nil => rfl
  | cons update rest ih => rw [foldl_cons, ih, stays]

lemma updated_foldl_insert_iff {fill : Update → Record} {Restates : Update → Record → Prop}
  (keyed : ∀ update, key (fill update) = target update)
  (stays : ∀ update record, key (apply update record) = key record)
  (fills : ∀ update record, target update = key record →
    (fill update = apply update record ↔ Restates update record))
  (table : KeyedTable Record key) (change : Record → Record)
  (keeps : ∀ record, key (change record) = key record) (updates : List Update) :
  Updated target apply table ((updates.map fill).foldl insert (table.map change keeps)) updates ↔
    ∀ record ∈ table.records,
      (∀ earlier last, updates.filter (fun update => target update = key record) =
          earlier ++ [last] →
        Restates last (earlier.foldl (fun record update => apply update record) record)) ∧
      ((∀ update ∈ updates, target update ≠ key record) → change record = record) := by
  have lookups (wanted : Key) :
      ((updates.map fill).foldl insert (table.map change keeps)).lookup wanted =
        (((updates.filter fun update => target update = wanted).map fill).getLast?).or
          ((table.lookup wanted).map change) := by
    rw [lookup_foldl_insert, lookup_map, filter_map]
    simp only [Function.comp_def, keyed]
  have lastFills {record : Record} {earlier : List Update} {last : Update}
      (named : updates.filter (fun update => target update = key record) = earlier ++ [last]) :=
    have member := mem_filter.mp (named ▸ mem_append_right earlier mem_cons_self)
    fills last (earlier.foldl (fun record update => apply update record) record)
      ((of_decide_eq_true member.2).trans (key_foldl stays earlier record).symm)
  constructor
  · intro holds record member
    have kept := holds.kept _ record (lookup_of_mem_records member)
    rw [lookups, lookup_of_mem_records member, updated] at kept
    constructor
    · intro earlier last named
      rw [named] at kept
      exact (lastFills named).mp (by simpa using kept)
    · intro unnamed
      have none' : updates.filter (fun update => target update = key record) = [] :=
        filter_eq_nil_iff.mpr fun update member' => by simpa using unnamed update member'
      rw [none'] at kept
      simpa using kept
  · intro holds
    constructor
    · intro wanted record found
      obtain rfl := key_eq found
      obtain ⟨restates, unchanged⟩ := holds record (mem_records_of_lookup found)
      rw [lookups, found, updated]
      rcases eq_nil_or_concat' (updates.filter fun update => target update = key record) with
        none' | ⟨earlier, last, named⟩
      · have unnamed : ∀ update ∈ updates, target update ≠ key record :=
          fun update member same =>
            ne_nil_of_mem (mem_filter.mpr ⟨member, by simpa using same⟩) none'
        rw [none']
        simpa using unchanged unnamed
      · rw [named]
        simpa using (lastFills named).mpr (restates earlier last named)
    · intro wanted missing unnamed
      have none' : updates.filter (fun update => target update = wanted) = [] :=
        filter_eq_nil_iff.mpr fun update member => by simpa using unnamed update member
      rw [lookups, missing, none']
      rfl

end PartialUpdates

end KeyedTable

end NextGCore.Library
