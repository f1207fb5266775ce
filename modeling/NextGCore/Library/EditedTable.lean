import NextGCore.Library.OwnedIndex

/-!
# Tables whose records are edited in copies

An index is changed when a copy of a record takes another key, and the table only when
the copy is stored.  In between the index agrees with the table as it would be if the
copies were stored.
-/

namespace NextGCore.Library

open Option Function OwnedIndex

universe u v

variable {Record : Type u} {Key : Type v} {number : Record → ℕ}

def overlay (records edits : ℕ → Option Record) (id : ℕ) : Option Record :=
  (records id).map fun record => (edits id).getD record

section Overlay

variable {records edits : ℕ → Option Record} {id : ℕ} {record : Record}

lemma overlay_settled (found : records id = some record) (settled : edits id = none) :
  overlay records edits id = some record := by
  simp [overlay, found, settled]

lemma of_overlay (found : overlay records edits id = some record) :
  ∃ stored, records id = some stored ∧ record = (edits id).getD stored := by
  obtain ⟨stored, live, rfl⟩ := map_eq_some_iff.mp found
  exact ⟨stored, live, rfl⟩

lemma overlay_store (records edits : ℕ → Option Record) (id : ℕ) (record : Option Record) :
  overlay (update records id record) (update edits id none) =
    update (overlay records edits) id record := by
  funext other
  by_cases same : other = id
  · subst same
    cases record <;> simp [overlay]
  · simp [overlay, update_of_ne same]

lemma overlay_edit (edits : ℕ → Option Record) (found : records id = some record)
  (copy : Record) :
  overlay records (update edits id (some copy)) =
    update (overlay records edits) id (some copy) := by
  funext other
  by_cases same : other = id
  · subst same
    simp [overlay, found]
  · simp [overlay, update_of_ne same]

end Overlay

/-- A table with its copies, one of its indices, and the owners of the keys. -/
structure EditedTable (Record : Type u) (Key : Type v) where
  records : ℕ → Option Record
  edits : ℕ → Option Record
  index : Key → Option ℕ
  owner : Key → Option ℕ

namespace EditedTable

variable {edited next : EditedTable Record Key} {keyOf : Record → Option Key} {targets : ℕ → Prop}
  {key : Key} {record stored : Record}

def current (edited : EditedTable Record Key) : ℕ → Option Record :=
  overlay edited.records edited.edits

def find (edited : EditedTable Record Key) : Key → Option Record :=
  search edited.records edited.index

structure Indexed (number : Record → ℕ) (keyOf : Record → Option Key)
  (edited : EditedTable Record Key) : Prop where
  coherent : OwnedIndex edited.current keyOf edited.index edited.owner
  leads : ∀ {key id}, edited.index key = some id → edited.records id ≠ none
  numbered : ∀ {id record}, edited.records id = some record → number record = id
  copies : ∀ {id record}, edited.edits id = some record → number record = id

/-- What holds of a lookup: it finds the owners that are not edited, and nothing but
stored records, which bear the key if they are not edited. -/
structure Answers (number : Record → ℕ) (keyOf : Record → Option Key)
  (edited : EditedTable Record Key) (find : Key → Option Record) : Prop where
  finds : ∀ id record key, edited.records id = some record → edited.edits id = none →
    keyOf record = some key → edited.owner key = some id → find key = some record
  stored : FindsStored edited.records number find
  bears : ∀ key record, find key = some record → edited.edits (number record) = none →
    keyOf record = some key

lemma Indexed.answers (indexed : edited.Indexed number keyOf) :
  edited.Answers number keyOf edited.find where
  finds id record key live settled bears owns := by
    have entry := indexed.coherent.finds (overlay_settled live settled) bears owns
    exact bind_eq_some_iff.mpr ⟨id, entry, live⟩
  stored := search_findsStored fun _ _ live => indexed.numbered live
  bears key record found settled := by
    obtain ⟨id, entry, live⟩ := bind_eq_some_iff.mp found
    obtain rfl := indexed.numbered live
    exact indexed.coherent.held entry (overlay_settled live settled)

structure After (number : Record → ℕ) (keyOf : Record → Option Key) (targets : ℕ → Prop)
  (edited next : EditedTable Record Key) : Prop where
  indexed : next.Indexed number keyOf
  spares : Spares number targets edited.find next.find

section

variable (indexed : edited.Indexed number keyOf)

include indexed

lemma Indexed.current_numbered :
  ∀ id record, edited.current id = some record → number record = id := by
  intro id record found
  obtain ⟨stored, live, rfl⟩ := of_overlay found
  cases copied : edited.edits id with
  | none => exact indexed.numbered live
  | some copy => exact indexed.copies copied

lemma Indexed.current_of_leads {id : ℕ} (entry : edited.index key = some id) :
  ∃ record, edited.current id = some record := by
  obtain ⟨stored, found⟩ := ne_none_iff_exists'.mp (indexed.leads entry)
  exact ⟨_, map_eq_some_iff.mpr ⟨stored, found, rfl⟩⟩

lemma Indexed.current_of_find (found : edited.find key = some record) :
  ∃ copy, search edited.current edited.index key = some copy ∧ number copy = number record := by
  obtain ⟨id, entry, live⟩ := bind_eq_some_iff.mp found
  have current : edited.current id = some ((edited.edits id).getD record) := by
    simp [EditedTable.current, overlay, live]
  refine ⟨_, bind_eq_some_iff.mpr ⟨id, entry, current⟩, ?_⟩
  exact (indexed.current_numbered id _ current).trans (indexed.numbered live).symm

lemma Indexed.find_of_current {copy : Record}
  (found : search edited.current edited.index key = some copy) :
  ∃ record, edited.find key = some record ∧ number record = number copy := by
  obtain ⟨id, entry, current⟩ := bind_eq_some_iff.mp found
  obtain ⟨record, live, -⟩ := of_overlay current
  refine ⟨record, bind_eq_some_iff.mpr ⟨id, entry, live⟩, ?_⟩
  exact (indexed.numbered live).trans (indexed.current_numbered id copy current).symm

end

lemma After.of_indexed (before : edited.Indexed number keyOf) (after : next.Indexed number keyOf)
  (frame : ∀ id, ¬ targets id → next.current id = edited.current id)
  (given : ∀ key, next.owner key = edited.owner key ∨
    ∃ id record, targets id ∧ next.current id = some record ∧ keyOf record = some key ∧
      next.owner key = some id) :
  After number keyOf targets edited next where
  indexed := after
  spares key record found spared := by
    obtain ⟨copy, current, same⟩ := before.current_of_find found
    have spares := before.coherent.spares after.coherent before.current_numbered
      after.current_numbered (fun id spared => congrArg (Option.map keyOf) (frame id spared)) given
    obtain ⟨again, foundAgain, sameAgain⟩ := spares key copy current (same ▸ spared)
    obtain ⟨stored, foundStored, sameStored⟩ := after.find_of_current foundAgain
    refine ⟨stored, foundStored, ?_⟩
    rwa [sameStored, ← same]

lemma After.same (indexed : edited.Indexed number keyOf) (unchanged : next = edited) :
  After number keyOf targets edited next where
  indexed := unchanged ▸ indexed
  spares _ record found _ := ⟨record, unchanged ▸ found, .inl rfl⟩

lemma indexed_empty (owner : Key → Option ℕ) :
  (⟨fun _ => none, fun _ => none, fun _ => none, owner⟩ : EditedTable Record Key).Indexed number
    keyOf where
  coherent := .empty
  leads entry := by cases entry
  numbered found := by cases found
  copies found := by cases found

variable {records edits : ℕ → Option Record} {index owner : Key → Option ℕ}

section

variable {map : ℕ → Option Record}
  (holds : ∀ {id stored}, map id = some stored → number stored = id)

include holds

lemma of_update {id : ℕ}
  (found : update map (number record) (some record) id = some stored) :
  number stored = id := by
  rcases of_update_some found with ⟨rfl, rfl⟩ | ⟨_, before⟩
  · rfl
  · exact holds before

lemma of_cleared {cleared id : ℕ} (found : update map cleared none id = some stored) :
  number stored = id :=
  holds (of_update_none found).2

end

namespace Indexed

variable {stored copy record : Record}

section

variable (indexed : (⟨records, edits, index, owner⟩ : EditedTable Record Key).Indexed number keyOf)
  {current : Record}

include indexed

lemma keep (found : records (number copy) = some stored)
  (now : overlay records edits (number copy) = some current) (same : keyOf copy = keyOf current)
  (isTarget : targets (number copy)) :
  After number keyOf targets ⟨records, edits, index, owner⟩
    ⟨records, update edits (number copy) (some copy), index, owner⟩ := by
  have overlaid := overlay_edit edits found copy
  refine .of_indexed indexed ⟨?_, indexed.leads, indexed.numbered, of_update indexed.copies⟩ ?_
    fun _ => .inl rfl
  · simp only [EditedTable.current, overlaid]
    exact indexed.coherent.restore now same
  · intro id spared
    have other : id ≠ number copy := fun same => spared (same ▸ isTarget)
    simp only [EditedTable.current, overlaid, update_of_ne other]

lemma settle (now : overlay records edits (number record) = some current)
  (same : keyOf record = keyOf current) (isTarget : targets (number record)) :
  After number keyOf targets ⟨records, edits, index, owner⟩
    ⟨update records (number record) (some record),
      update edits (number record) none, index, owner⟩ := by
  have overlaid := overlay_store records edits (number record) (some record)
  refine .of_indexed indexed ⟨?_, ?_, of_update indexed.numbered, of_cleared indexed.copies⟩ ?_
    fun _ => .inl rfl
  · simp only [EditedTable.current, overlaid]
    exact indexed.coherent.restore now same
  · intro key id entry
    by_cases same : id = number record
    · simp only [same, update_self]
      exact some_ne_none record
    · simp only [update_of_ne same]
      exact indexed.leads entry
  · intro id spared
    have other : id ≠ number record := fun same => spared (same ▸ isTarget)
    simp only [EditedTable.current, overlaid, update_of_ne other]

end

variable [DecidableEq Key]

section

variable (indexed : (⟨records, edits, index, owner⟩ : EditedTable Record Key).Indexed number keyOf)

include indexed

lemma store
  (only : ∀ current, overlay records edits (number record) = some current →
    keyOf current = keyOf record)
  (isTarget : targets (number record)) :
  After number keyOf targets ⟨records, edits, index, owner⟩
    ⟨update records (number record) (some record), update edits (number record) none,
      assign index (number record) (keyOf record),
      assign owner (number record) (keyOf record)⟩ := by
  have overlaid := overlay_store records edits (number record) (some record)
  have held : ∀ key, index key = some (number record) → keyOf record = some key := by
    intro key entry
    obtain ⟨now, isNow⟩ := indexed.current_of_leads entry
    exact (only now isNow).symm.trans (indexed.coherent.held entry isNow)
  refine .of_indexed indexed ⟨?_, ?_, of_update indexed.numbered, of_cleared indexed.copies⟩ ?_ ?_
  · simp only [EditedTable.current, overlaid]
    exact indexed.coherent.give held
  · intro key id entry
    rcases of_assign entry with ⟨_, rfl⟩ | ⟨_, before⟩
    · simp only [update_self]
      exact some_ne_none record
    · by_cases same : id = number record
      · simp only [same, update_self]
        exact some_ne_none record
      · simp only [update_of_ne same]
        exact indexed.leads before
  · intro id spared
    have other : id ≠ number record := fun same => spared (same ▸ isTarget)
    simp only [EditedTable.current, overlaid, update_of_ne other]
  · intro key
    by_cases given : keyOf record = some key
    · refine .inr ⟨number record, record, isTarget, ?_, given, ?_⟩
      · simp only [EditedTable.current, overlaid, update_self]
      · simp only [given, assign_self]
    · exact .inl (assign_of_ne given)

lemma edit {current : Record} (found : records (number copy) = some stored)
  (now : overlay records edits (number copy) = some current)
  (own : keyOf current ≠ keyOf copy →
    ∀ key ∈ keyOf current, ∀ other ∈ search records index key, number other = number copy)
  (isTarget : targets (number copy)) :
  After number keyOf targets ⟨records, edits, index, owner⟩
    ⟨records, update edits (number copy) (some copy),
      assign (forget index (keyOf current)) (number copy) (keyOf copy),
      assign owner (number copy) (keyOf copy)⟩ := by
  have overlaid := overlay_edit edits found copy
  refine .of_indexed indexed ⟨?_, ?_, indexed.numbered, of_update indexed.copies⟩ ?_ ?_
  · simp only [EditedTable.current, overlaid]
    refine indexed.coherent.rekey now fun differs key other isKey entry => .inl ?_
    obtain ⟨record, live⟩ := ne_none_iff_exists'.mp (indexed.leads entry)
    have led := own differs key isKey record (bind_eq_some_iff.mpr ⟨other, entry, live⟩)
    exact (indexed.numbered live).symm.trans led
  · intro key id entry
    rcases of_assign entry with ⟨_, rfl⟩ | ⟨_, before⟩
    · simp only [found]
      exact some_ne_none stored
    · exact indexed.leads (of_forget before).2
  · intro id spared
    have other : id ≠ number copy := fun same => spared (same ▸ isTarget)
    simp only [EditedTable.current, overlaid, update_of_ne other]
  · intro key
    by_cases given : keyOf copy = some key
    · refine .inr ⟨number copy, copy, isTarget, ?_, given, ?_⟩
      · simp only [EditedTable.current, overlaid, update_self]
      · simp only [given, assign_self]
    · exact .inl (assign_of_ne given)

lemma removeEach {ids : List ℕ} {edits' : ℕ → Option Record}
  (stillEdited : ∀ id, edits' id = if id ∈ ids then none else edits id)
  (own : ∀ id ∈ ids, ∀ record, records id = some record →
    (∀ current, overlay records edits id = some current → keyOf current = keyOf record) ∧
      ∀ key ∈ keyOf record, ∀ other ∈ search records index key, number other ∈ ids)
  (areTargets : ∀ id ∈ ids, targets id) :
  After number keyOf targets ⟨records, edits, index, owner⟩
    ⟨(ids.foldl (dropRecord keyOf) (records, index)).1, edits',
      (ids.foldl (dropRecord keyOf) (records, index)).2, owner⟩ := by
  have table : ∀ id, (ids.foldl (dropRecord keyOf) (records, index)).1 id =
      if id ∈ ids then none else records id := foldl_dropRecord_records ids
  have overlaid : ∀ id, overlay (ids.foldl (dropRecord keyOf) (records, index)).1
      edits' id = if id ∈ ids then none else overlay records edits id := by
    intro id
    by_cases gone : id ∈ ids
    · simp [overlay, table, gone]
    · simp [overlay, table, stillEdited, gone]
  have entries : ∀ {key id}, (ids.foldl (dropRecord keyOf) (records, index)).2 key =
      some id → index key = some id := of_foldl_dropRecord
  -- An entry stays that leads to a record that stays.
  have stays : ∀ {key id}, index key = some id → id ∉ ids →
      (ids.foldl (dropRecord keyOf) (records, index)).2 key = some id := by
    intro key id entry absent
    refine foldl_dropRecord_stays entry fun gone isGone record live bears => ?_
    obtain ⟨stored, found⟩ := ne_none_iff_exists'.mp (indexed.leads entry)
    have led := (own gone isGone record live).2 key bears stored
      (bind_eq_some_iff.mpr ⟨id, entry, found⟩)
    rw [indexed.numbered found] at led
    exact absent led
  -- An entry goes that leads to a record that goes.
  have goes : ∀ {key id}, (ids.foldl (dropRecord keyOf) (records, index)).2 key =
      some id → id ∉ ids := by
    intro key id entry gone
    have before := entries entry
    obtain ⟨record, live⟩ := ne_none_iff_exists'.mp (indexed.leads before)
    obtain ⟨now, isNow⟩ := indexed.current_of_leads before
    have bears : keyOf record = some key :=
      ((own id gone record live).1 now isNow).symm.trans (indexed.coherent.held before isNow)
    rw [foldl_dropRecord_gone gone live bears] at entry
    cases entry
  refine .of_indexed indexed ⟨?_, ?_, ?_, ?_⟩ ?_ fun _ => .inl rfl
  · refine indexed.coherent.shrink ?_ entries ?_
    · intro id record found
      simp only [EditedTable.current, overlaid] at found
      split at found
      · cases found
      · exact found
    · intro key id record entry found
      simp only [EditedTable.current, overlaid] at found
      split at found
      · cases found
      · exact stays entry ‹_›
  · intro key id entry
    simp only [table, if_neg (goes entry)]
    exact indexed.leads (entries entry)
  · intro id record found
    simp only [table] at found
    split at found
    · cases found
    · exact indexed.numbered found
  · intro id record found
    simp only [stillEdited] at found
    split at found
    · cases found
    · exact indexed.copies found
  · intro id spared
    have absent : id ∉ ids := fun gone => spared (areTargets id gone)
    simp only [EditedTable.current, overlaid, if_neg absent]

end

end Indexed

end EditedTable

end NextGCore.Library
