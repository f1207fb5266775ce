import NextGCore.Library.NumberedTable
import NextGCore.Library.OwnedIndex

/-!
# Numbered tables searched by name

A table whose records bear at most one name, a hash map from the names to the
numbers, and beside them the number that each name was given to last.  The rules
are those of one operation: what it needs to keep the index coherent, and that it
spares the records it is not about.
-/

namespace NextGCore.Library

open Option Function NumberedTable

universe u v

variable {Record : Type u} {Key : Type v} [DecidableEq Key] {number : Record → ℕ}

def LeadsOnlyTo (find : Key → Option Record) (number : Record → ℕ) (id : ℕ)
  (name : Option Key) : Prop :=
  ∀ key ∈ name, ∀ found ∈ find key, number found = id

instance decidableLeadsOnlyTo (find : Key → Option Record) (number : Record → ℕ) (id : ℕ)
  (name : Option Key) : Decidable (LeadsOnlyTo find number id name) :=
  inferInstanceAs (Decidable (∀ _ ∈ _, ∀ _ ∈ _, _ = _))

def unname (hash : AList (fun _ : Key => ℕ)) : Option Key → AList (fun _ : Key => ℕ)
  | none => hash
  | some key => hash.erase key

def name (hash : AList (fun _ : Key => ℕ)) (id : ℕ) : Option Key → AList (fun _ : Key => ℕ)
  | none => hash
  | some key => hash.insert key id

def rename (hash : AList (fun _ : Key => ℕ)) (old : Option Key) (id : ℕ) (new : Key) :
  AList (fun _ : Key => ℕ) :=
  (unname hash old).insert new id

/-- The hash map after a record was stored with a name, or none, in place of another. -/
def rekey (hash : AList (fun _ : Key => ℕ)) (old : Option Key) (id : ℕ) (new : Option Key) :
  AList (fun _ : Key => ℕ) :=
  if old = new then hash else name (unname hash old) id new

/-- The owners after a record was stored with a name, or none, in place of another. -/
def reown (owner : Key → Option ℕ) (old : Option Key) (id : ℕ) (new : Option Key) :
  Key → Option ℕ :=
  if old = new then owner else assign owner id new

lemma lookup_unname (hash : AList (fun _ : Key => ℕ)) (name : Option Key) :
  (unname hash name).lookup = forget hash.lookup name := by
  cases name with
  | none => rfl
  | some key => exact lookup_erase_eq hash key

lemma lookup_name (hash : AList (fun _ : Key => ℕ)) (id : ℕ) (key : Option Key) :
  (name hash id key).lookup = assign hash.lookup id key := by
  cases key with
  | none => rfl
  | some key => exact lookup_insert_eq hash key id

lemma lookup_rename (hash : AList (fun _ : Key => ℕ)) (old : Option Key) (id : ℕ) (new : Key) :
  (rename hash old id new).lookup = assign (forget hash.lookup old) id (some new) := by
  rw [rename, lookup_insert_eq, lookup_unname]

lemma lookup_rekey_of_ne (hash : AList (fun _ : Key => ℕ)) {old new : Option Key} (id : ℕ)
  (differs : old ≠ new) :
  (rekey hash old id new).lookup = assign (forget hash.lookup old) id new := by
  rw [rekey, if_neg differs, lookup_name, lookup_unname]

structure NamedTable (Record : Type u) (number : Record → ℕ) (Key : Type v) where
  table : NumberedTable Record number
  hash : AList (fun _ : Key => ℕ)
  owner : Key → Option ℕ

/-- A lookup finds the owners of the names, and nothing but stored records that bear
the name. -/
structure AnswersByName (records : ℕ → Option Record) (keyOf : Record → Option Key)
  (number : Record → ℕ) (find : Key → Option Record) (owner : Key → Option ℕ) : Prop where
  finds : FindsOwners records keyOf find owner
  stored : FindsStored records number find
  bears : ∀ key record, find key = some record → keyOf record = some key

namespace NamedTable

def find (named : NamedTable Record number Key) : Key → Option Record :=
  search named.table.lookup named.hash.lookup

/-- The index agrees with the owners, and no name was given to a number to come. -/
structure Indexed (keyOf : Record → Option Key) (named : NamedTable Record number Key) : Prop where
  coherent : OwnedIndex named.table.lookup keyOf named.hash.lookup named.owner
  issued : ∀ key id, named.owner key = some id → id < named.table.next

structure After (keyOf : Record → Option Key) (targets : ℕ → Prop)
  (named next : NamedTable Record number Key) : Prop where
  indexed : next.Indexed keyOf
  spares : Spares number targets named.find next.find

variable {keyOf : Record → Option Key} {targets : ℕ → Prop}
  {table : NumberedTable Record number} {hash : AList (fun _ : Key => ℕ)}
  {owner : Key → Option ℕ} {named next : NamedTable Record number Key}

lemma indexed_empty (first : ℕ) :
  (⟨.empty first, ∅, fun _ => none⟩ : NamedTable Record number Key).Indexed keyOf where
  coherent := by
    have nothing : (empty first : NumberedTable Record number).lookup =
        fun _ => none := funext fun id => lookup_empty first id
    have nowhere : (∅ : AList fun _ : Key => ℕ).lookup = fun _ => none :=
      funext AList.lookup_empty
    simpa only [nothing, nowhere] using OwnedIndex.empty
  issued key id given := by cases given

lemma Indexed.answers (indexed : named.Indexed keyOf) :
  AnswersByName named.table.lookup keyOf number named.find named.owner where
  finds := indexed.coherent.search_findsOwners
  stored := OwnedIndex.search_findsStored fun _ _ found => number_eq found
  bears key record found := by
    obtain ⟨id, entry, live⟩ := bind_eq_some_iff.mp found
    exact indexed.coherent.held entry live

lemma After.same (indexed : named.Indexed keyOf) (unchanged : next = named) :
  After keyOf targets named next where
  indexed := unchanged ▸ indexed
  spares _ record found _ := ⟨record, unchanged ▸ found, .inl rfl⟩

lemma After.of_indexed (before : named.Indexed keyOf) (after : next.Indexed keyOf)
  (frame : ∀ id, ¬ targets id →
    (next.table.lookup id).map keyOf = (named.table.lookup id).map keyOf)
  (given : ∀ key, next.owner key = named.owner key ∨
    ∃ id record, targets id ∧ next.table.lookup id = some record ∧
      keyOf record = some key ∧ next.owner key = some id) :
  After keyOf targets named next where
  indexed := after
  spares := before.coherent.spares after.coherent
    (fun _ _ found => number_eq found)
    (fun _ _ found => number_eq found) frame given

namespace Indexed

variable {key : Key}

section

variable (indexed : (⟨table, hash, owner⟩ : NamedTable Record number Key).Indexed keyOf)

include indexed

lemma fresh (key : Key) : owner key ≠ some table.next := by
  intro given
  exact Nat.lt_irrefl _ (indexed.issued key _ given)

lemma allocate (build : ℕ → Record) (built : ∀ id, number (build id) = id)
  (isTarget : targets table.next) :
  After keyOf targets ⟨table, hash, owner⟩ ⟨table.allocate build built, hash, owner⟩ := by
  have stored := table.lookup_allocate_eq build built
  refine .of_indexed indexed ⟨?_, ?_⟩ ?_ fun _ => .inl rfl
  · simpa only [stored] using indexed.coherent.store indexed.fresh (build table.next)
  · exact fun key id given => Nat.lt_succ_of_lt (indexed.issued key id given)
  · intro id spared
    have other : id ≠ table.next := fun same => spared (same ▸ isTarget)
    simp only [stored, update_of_ne other]

lemma allocateNamed (build : ℕ → Record) (built : ∀ id, number (build id) = id)
  (bears : keyOf (build table.next) = some key) (isTarget : targets table.next) :
  After keyOf targets ⟨table, hash, owner⟩
    ⟨table.allocate build built, hash.insert key table.next,
      assign owner table.next (some key)⟩ := by
  have stored := table.lookup_allocate_eq build built
  refine .of_indexed indexed ⟨?_, ?_⟩ ?_ ?_
  · simp only [stored, lookup_insert_eq, ← bears]
    apply indexed.coherent.give
    intro name entry
    exact absurd (indexed.coherent.owned entry) (indexed.fresh name)
  · exact assign_lt indexed.issued (Nat.le_succ _) (Nat.lt_succ_self _) (some key)
  · intro id spared
    have other : id ≠ table.next := fun same => spared (same ▸ isTarget)
    simp only [stored, update_of_ne other]
  · intro name
    by_cases same : name = key
    · subst same
      refine .inr ⟨table.next, build table.next, isTarget, ?_, bears, assign_self _ _ _⟩
      simp only [stored, update_self]
    · exact .inl (assign_of_ne fun equal => same (Option.some.inj equal).symm)

end

variable {old new : Record}

lemma update (indexed : (⟨table, hash, owner⟩ : NamedTable Record number Key).Indexed keyOf)
  (found : table.lookup (number new) = some old) (same : keyOf new = keyOf old) :
  After keyOf targets ⟨table, hash, owner⟩ ⟨table.update new, hash, owner⟩ := by
  have stored := lookup_update_eq found
  refine .of_indexed indexed ⟨?_, ?_⟩ ?_ fun _ => .inl rfl
  · simpa only [stored] using indexed.coherent.restore found same
  · simpa only [update_next] using indexed.issued
  · intro id _
    by_cases own : id = number new
    · simp only [stored, own, update_self, found, map_some, same]
    · simp only [stored, update_of_ne own]

lemma ownKey {id : ℕ} {name : Option Key}
  (own : LeadsOnlyTo (search table.lookup hash.lookup) number id name) :
  OwnedIndex.OwnKey table.lookup hash.lookup id name := by
  intro key other isKey entry
  cases stored : table.lookup other with
  | none => exact .inr rfl
  | some record =>
    have found : search table.lookup hash.lookup key = some record :=
      bind_eq_some_iff.mpr ⟨other, entry, stored⟩
    exact .inl ((number_eq stored).symm.trans (own key isKey record found))

section

variable (indexed : (⟨table, hash, owner⟩ : NamedTable Record number Key).Indexed keyOf)
  (found : table.lookup (number new) = some old)

include indexed found

lemma rename (bears : keyOf new = some key)
  (own : keyOf old ≠ some key →
    LeadsOnlyTo (search table.lookup hash.lookup) number (number new) (keyOf old))
  (isTarget : targets (number new)) :
  After keyOf targets ⟨table, hash, owner⟩
    ⟨table.update new, Library.rename hash (keyOf old) (number new) key,
      assign owner (number new) (some key)⟩ := by
  have stored := lookup_update_eq found
  refine .of_indexed indexed ⟨?_, ?_⟩ ?_ ?_
  · simp only [stored, lookup_rename, ← bears]
    exact indexed.coherent.rekey found fun differs => ownKey (own (bears ▸ differs))
  · simp only [update_next]
    exact assign_lt indexed.issued (Nat.le_refl _) (lt_next_of_lookup found) _
  · intro id spared
    have other : id ≠ number new := fun same => spared (same ▸ isTarget)
    simp only [stored, update_of_ne other]
  · intro name
    by_cases same : name = key
    · subst same
      refine .inr ⟨number new, new, isTarget, ?_, bears, assign_self _ _ _⟩
      simp only [stored, update_self]
    · exact .inl (assign_of_ne fun equal => same (Option.some.inj equal).symm)

lemma rekey
  (own : keyOf old ≠ keyOf new →
    LeadsOnlyTo (search table.lookup hash.lookup) number (number new) (keyOf old))
  (isTarget : targets (number new)) :
  After keyOf targets ⟨table, hash, owner⟩
    ⟨table.update new, Library.rekey hash (keyOf old) (number new) (keyOf new),
      reown owner (keyOf old) (number new) (keyOf new)⟩ := by
  by_cases same : keyOf old = keyOf new
  · rw [Library.rekey, reown, if_pos same, if_pos same]
    exact indexed.update found same.symm
  · have stored := lookup_update_eq found
    rw [reown, if_neg same]
    refine .of_indexed indexed ⟨?_, ?_⟩ ?_ ?_
    · simp only [stored, lookup_rekey_of_ne hash _ same]
      exact indexed.coherent.rekey found fun differs => ownKey (own differs)
    · simp only [update_next]
      exact assign_lt indexed.issued (Nat.le_refl _) (lt_next_of_lookup found) _
    · intro id spared
      have other : id ≠ number new := fun same => spared (same ▸ isTarget)
      simp only [stored, update_of_ne other]
    · intro name
      by_cases given : keyOf new = some name
      · refine .inr ⟨number new, new, isTarget, ?_, given, ?_⟩
        · simp only [stored, update_self]
        · simp only [given, assign_self]
      · exact .inl (assign_of_ne given)

end

lemma erase {id : ℕ}
  (indexed : (⟨table, hash, owner⟩ : NamedTable Record number Key).Indexed keyOf)
  {name : Option Key} (own : LeadsOnlyTo (search table.lookup hash.lookup) number id name)
  (isTarget : targets id) :
  After keyOf targets ⟨table, hash, owner⟩ ⟨table.erase id, unname hash name, owner⟩ := by
  have stored := table.lookup_erase_eq id
  refine .of_indexed indexed ⟨?_, indexed.issued⟩ ?_ fun _ => .inl rfl
  · simp only [stored, lookup_unname]
    exact indexed.coherent.remove (ownKey own)
  · intro other spared
    have different : other ≠ id := fun same => spared (same ▸ isTarget)
    simp only [stored, update_of_ne different]

end Indexed

/-- The index is coherent, and every name in it leads to a stored record. -/
structure Led (keyOf : Record → Option Key) (named : NamedTable Record number Key) : Prop where
  indexed : named.Indexed keyOf
  leads : ∀ key id, named.hash.lookup key = some id → named.table.lookup id ≠ none

lemma led_empty (first : ℕ) :
  (⟨.empty first, ∅, fun _ => none⟩ : NamedTable Record number Key).Led keyOf where
  indexed := indexed_empty first
  leads key id entry := by simp at entry

namespace Led

variable {key : Key}

lemma bears (led : named.Led keyOf) {id : ℕ} (entry : named.hash.lookup key = some id) :
  ∃ record, named.table.lookup id = some record ∧ keyOf record = some key := by
  obtain ⟨record, stored⟩ := ne_none_iff_exists'.mp (led.leads key id entry)
  exact ⟨record, stored, led.indexed.coherent.held entry stored⟩

section

variable (led : (⟨table, hash, owner⟩ : NamedTable Record number Key).Led keyOf)
  (build : ℕ → Record) (built : ∀ id, number (build id) = id)

include led build built

lemma allocate : Led keyOf ⟨table.allocate build built, hash, owner⟩ where
  indexed := (led.indexed.allocate build built trivial : After keyOf (fun _ => True) _ _).indexed
  leads name id entry := by
    simp only [table.lookup_allocate_eq build built]
    by_cases same : id = table.next
    · rw [same, update_self]
      exact some_ne_none _
    · rw [update_of_ne same]
      exact led.leads name id entry

lemma allocateNamed (bears : keyOf (build table.next) = some key) :
  Led keyOf ⟨table.allocate build built, hash.insert key table.next,
    assign owner table.next (some key)⟩ where
  indexed := (led.indexed.allocateNamed build built bears trivial :
    After keyOf (fun _ => True) _ _).indexed
  leads name id entry := by
    simp only [table.lookup_allocate_eq build built]
    have given := (congrFun (lookup_insert_eq hash key table.next) name).symm.trans entry
    rcases of_assign given with ⟨-, rfl⟩ | ⟨-, before⟩
    · rw [update_self]
      exact some_ne_none _
    · by_cases same : id = table.next
      · rw [same, update_self]
        exact some_ne_none _
      · rw [update_of_ne same]
        exact led.leads name id before

end

variable {old new : Record}

section

variable (led : (⟨table, hash, owner⟩ : NamedTable Record number Key).Led keyOf)
  (found : table.lookup (number new) = some old)

include led found

lemma rekey
  (own : keyOf old ≠ keyOf new →
    LeadsOnlyTo (search table.lookup hash.lookup) number (number new) (keyOf old)) :
  Led keyOf ⟨table.update new, Library.rekey hash (keyOf old) (number new) (keyOf new),
    reown owner (keyOf old) (number new) (keyOf new)⟩ where
  indexed := (led.indexed.rekey found own trivial : After keyOf (fun _ => True) _ _).indexed
  leads name id entry := by
    simp only [lookup_update_eq found]
    by_cases same : id = number new
    · rw [same, update_self]
      exact some_ne_none new
    · rw [update_of_ne same]
      by_cases kept : keyOf old = keyOf new
      · simp only [Library.rekey, if_pos kept] at entry
        exact led.leads name id entry
      · have given := (congrFun (lookup_rekey_of_ne hash (number new) kept) name).symm.trans entry
        rcases of_assign given with ⟨-, isOwn⟩ | ⟨-, before⟩
        · exact absurd isOwn same
        · exact led.leads name id (of_forget before).2

lemma update (same : keyOf new = keyOf old) : Led keyOf ⟨table.update new, hash, owner⟩ := by
  have rekeyed := led.rekey found fun differs => absurd same.symm differs
  rwa [Library.rekey, reown, if_pos same.symm, if_pos same.symm] at rekeyed

end

lemma erase {id : ℕ} (led : (⟨table, hash, owner⟩ : NamedTable Record number Key).Led keyOf)
  (found : table.lookup id = some old)
  (own : LeadsOnlyTo (search table.lookup hash.lookup) number id (keyOf old)) :
  Led keyOf ⟨table.erase id, unname hash (keyOf old), owner⟩ where
  indexed := (led.indexed.erase own trivial : After keyOf (fun _ => True) _ _).indexed
  leads name other entry := by
    obtain ⟨stays, before⟩ :=
      of_forget ((congrFun (lookup_unname hash (keyOf old)) name).symm.trans entry)
    simp only [table.lookup_erase_eq]
    by_cases same : other = id
    · subst same
      exact absurd (led.indexed.coherent.held before found) stays
    · rw [update_of_ne same]
      exact led.leads name other before

end Led

end NamedTable

end NextGCore.Library
