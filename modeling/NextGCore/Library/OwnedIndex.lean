import Mathlib.Data.List.AList
import Mathlib.Data.List.Induction

/-!
# Indices and the owners of their keys

A table of numbered records is searched through an index from keys to numbers.
Several records may bear one key at a time; its owner is the one that was given
it last.  An index is coherent when it leads to the owner of every key that its
owner still bears, and to nothing that does not bear the key.
-/

namespace NextGCore.Library

open List Option Function

universe u v

variable {Record : Type u} {Key : Type v}

section Naming

variable [DecidableEq Key] {key : Key} {names : Key → Option ℕ} {Value : Type*} {changed : Key}
  {given taken : Option Key} {keys : List (Option Key)} {place : ℕ} {value : Value}

lemma of_update_some {map : Key → Option Value} {new : Value}
  (entry : update map changed (some new) key = some value) :
  (key = changed ∧ new = value) ∨ (key ≠ changed ∧ map key = some value) := by
  by_cases same : key = changed
  · subst same
    rw [update_self] at entry
    exact .inl ⟨rfl, Option.some.inj entry⟩
  · rw [update_of_ne same] at entry
    exact .inr ⟨same, entry⟩

lemma of_update_none {map : Key → Option Value}
  (entry : update map changed none key = some value) :
  key ≠ changed ∧ map key = some value := by
  by_cases same : key = changed
  · subst same
    rw [update_self] at entry
    cases entry
  · rw [update_of_ne same] at entry
    exact ⟨same, entry⟩

def assign (names : Key → Option ℕ) (id : ℕ) : Option Key → Key → Option ℕ
  | none => names
  | some key => update names key (some id)

def forget (names : Key → Option ℕ) : Option Key → Key → Option ℕ
  | none => names
  | some key => update names key none

@[simp]
lemma assign_self (names : Key → Option ℕ) (id : ℕ) (key : Key) :
  assign names id (some key) key = some id :=
  update_self _ _ _

@[simp]
lemma forget_self (names : Key → Option ℕ) (key : Key) :
  forget names (some key) key = none :=
  update_self _ _ _

lemma assign_of_ne {id : ℕ} (different : given ≠ some key) :
  assign names id given key = names key := by
  cases given with
  | none => rfl
  | some other =>
    apply update_of_ne
    intro same
    exact different (congrArg some same.symm)

lemma forget_of_ne (different : taken ≠ some key) : forget names taken key = names key := by
  cases taken with
  | none => rfl
  | some other =>
    apply update_of_ne
    intro same
    exact different (congrArg some same.symm)

lemma of_assign {id other : ℕ} (named : assign names id given key = some other) :
  (given = some key ∧ other = id) ∨ (given ≠ some key ∧ names key = some other) := by
  by_cases same : given = some key
  · subst same
    rw [assign_self] at named
    exact .inl ⟨rfl, (Option.some.inj named).symm⟩
  · rw [assign_of_ne same] at named
    exact .inr ⟨same, named⟩

lemma assign_lt {bound bound' : ℕ} (below : ∀ key id, names key = some id → id < bound)
  (grows : bound ≤ bound') {id : ℕ} (new : id < bound') (given : Option Key) :
  ∀ key other, assign names id given key = some other → other < bound' := by
  intro key other named
  rcases of_assign named with ⟨_, rfl⟩ | ⟨_, before⟩
  · exact new
  · exact Nat.lt_of_lt_of_le (below key other before) grows

lemma of_forget {id : ℕ} (named : forget names taken key = some id) :
  taken ≠ some key ∧ names key = some id := by
  by_cases same : taken = some key
  · subst same
    rw [forget_self] at named
    cases named
  · rw [forget_of_ne same] at named
    exact ⟨same, named⟩

lemma assign_forget_self (names : Key → Option ℕ) (id : ℕ) (key : Option Key) :
  assign (forget names key) id key = assign names id key := by
  cases key with
  | none => rfl
  | some key => exact update_idem _ _ _

lemma lookup_insert_eq (index : AList (fun _ : Key => ℕ)) (key : Key) (id : ℕ) :
  (index.insert key id).lookup = assign index.lookup id (some key) := by
  funext other
  by_cases same : other = key
  · subst same
    rw [assign_self]
    exact AList.lookup_insert index
  · rw [AList.lookup_insert_ne same, assign_of_ne]
    intro equal
    exact same (Option.some.inj equal).symm

lemma lookup_erase_eq (index : AList (fun _ : Key => ℕ)) (key : Key) :
  (index.erase key).lookup = forget index.lookup (some key) := by
  funext other
  by_cases same : other = key
  · subst same
    rw [forget_self]
    exact AList.lookup_erase other index
  · rw [AList.lookup_erase_ne same, forget_of_ne]
    intro equal
    exact same (Option.some.inj equal).symm

def lastBearer (keys : List (Option Key)) : Key → Option ℕ :=
  keys.zipIdx.foldl (fun owner place => assign owner place.2 place.1) fun _ => none

lemma lastBearer_append (keys : List (Option Key)) (key : Option Key) :
  lastBearer (keys ++ [key]) = assign (lastBearer keys) keys.length key := by
  rw [lastBearer, zipIdx_append, foldl_append, Nat.zero_add]
  rfl

lemma lastBearer_eq_some_iff :
  lastBearer keys key = some place ↔ keys[place]? = some (some key) ∧
      ∀ later, place < later → keys[later]? ≠ some (some key) := by
  induction keys using reverseRecOn generalizing place with
  | nil =>
    constructor
    · intro found
      cases found
    · rintro ⟨found, -⟩
      cases found
  | append_singleton keys last ih =>
    rw [lastBearer_append]
    by_cases own : last = some key
    · subst own
      rw [assign_self]
      constructor
      · intro same
        obtain rfl := Option.some.inj same
        refine ⟨List.getElem?_concat_length, fun later isLater => ?_⟩
        rw [List.getElem?_eq_none (by simpa using Nat.succ_le_of_lt isLater)]
        simp
      · rintro ⟨found, last⟩
        rcases Nat.lt_trichotomy place keys.length with before | rfl | beyond
        · exact absurd List.getElem?_concat_length (last keys.length before)
        · rfl
        · rw [List.getElem?_eq_none (by simpa using Nat.succ_le_of_lt beyond)] at found
          cases found
    · rw [assign_of_ne own, ih]
      have elsewhere (other : ℕ) : (keys ++ [last])[other]? = some (some key) ↔
          keys[other]? = some (some key) := by
        rw [List.getElem?_append]
        split
        · exact Iff.rfl
        · next beyond =>
            rw [List.getElem?_eq_none (Nat.le_of_not_lt beyond)]
            cases found : [last][other - keys.length]? with
            | none => simp
            | some bearer =>
              obtain rfl := mem_singleton.mp (mem_of_getElem? found)
              simp [own]
      simp only [ne_eq, elsewhere]

lemma lt_length_of_lastBearer (last : lastBearer keys key = some place) : place < keys.length :=
  (List.getElem?_eq_some_iff.mp (lastBearer_eq_some_iff.mp last).1).1

end Naming

structure OwnedIndex (records : ℕ → Option Record) (keyOf : Record → Option Key)
  (index owner : Key → Option ℕ) : Prop where
  finds : ∀ {id record key}, records id = some record → keyOf record = some key →
    owner key = some id → index key = some id
  owned : ∀ {key id}, index key = some id → owner key = some id
  held : ∀ {key id record}, index key = some id → records id = some record → keyOf record = some key

def search (records : ℕ → Option Record) (index : Key → Option ℕ) (key : Key) : Option Record :=
  (index key).bind records

def FindsOwners (records : ℕ → Option Record) (keyOf : Record → Option Key)
  (find : Key → Option Record) (owner : Key → Option ℕ) : Prop :=
  ∀ id record key, records id = some record → keyOf record = some key →
    owner key = some id → find key = some record

def FindsStored (records : ℕ → Option Record) (number : Record → ℕ)
  (find : Key → Option Record) : Prop :=
  ∀ key record, find key = some record → records (number record) = some record

/-- What a key finds it finds again, unless it is a target or makes way for one. -/
def Spares (number : Record → ℕ) (targets : ℕ → Prop) (find find' : Key → Option Record) : Prop :=
  ∀ key record, find key = some record → ¬ targets (number record) →
    ∃ found, find' key = some found ∧ (number found = number record ∨ targets (number found))

namespace OwnedIndex

variable {records : ℕ → Option Record} {keyOf : Record → Option Key} {index owner : Key → Option ℕ}
  {records' : ℕ → Option Record} {index' : Key → Option ℕ} {record old new : Record}
  {taken : Option Key} {owner' : Key → Option ℕ} {key : Key} {ids : List ℕ}

lemma empty : OwnedIndex (fun _ => none) keyOf (fun _ : Key => none) owner where
  finds found := by cases found
  owned found := by cases found
  held found := by cases found

lemma shrink (coherent : OwnedIndex records keyOf index owner)
  (fewer : ∀ {id record}, records' id = some record → records id = some record)
  (kept : ∀ {key id}, index' key = some id → index key = some id)
  (stays : ∀ {key id record}, index key = some id → records' id = some record →
    index' key = some id) : OwnedIndex records' keyOf index' owner := by
  constructor
  · intro id record key found bears owns
    exact stays (coherent.finds (fewer found) bears owns) found
  · intro key id entry
    exact coherent.owned (kept entry)
  · intro key id record entry found
    exact coherent.held (kept entry) (fewer found)

lemma of_vacated {id other : ℕ} (found : update records id none other = some record) :
  records other = some record := by
  by_cases same : other = id
  · subst same
    rw [update_self] at found
    cases found
  · rwa [update_of_ne same] at found

section

variable (coherent : OwnedIndex records keyOf index owner)

include coherent

lemma vacate (id : ℕ) : OwnedIndex (update records id none) keyOf index owner :=
  coherent.shrink of_vacated (fun entry => entry) (fun entry _ => entry)

lemma dropKey [DecidableEq Key]
  (unused : ∀ key id, taken = some key → index key = some id → records id = none) :
  OwnedIndex records keyOf (forget index taken) owner := by
  refine coherent.shrink (fun found => found) (fun entry => (of_forget entry).2) ?_
  intro key id record entry found
  rwa [forget_of_ne]
  intro same
  rw [unused key id same entry] at found
  cases found

lemma relabel (same : ∀ id, (records' id).map keyOf = (records id).map keyOf) :
  OwnedIndex records' keyOf index owner := by
  have bore : ∀ {id record}, records' id = some record →
      ∃ before, records id = some before ∧ keyOf before = keyOf record := by
    intro id record found
    have keys := same id
    rw [found] at keys
    exact map_eq_some_iff.mp keys.symm
  constructor
  · intro id record key found bears owns
    obtain ⟨before, was, sameKey⟩ := bore found
    exact coherent.finds was (sameKey.trans bears) owns
  · exact coherent.owned
  · intro key id record entry found
    obtain ⟨before, was, sameKey⟩ := bore found
    exact sameKey ▸ coherent.held entry was

lemma store {id : ℕ} (fresh : ∀ key, owner key ≠ some id) (record : Record) :
  OwnedIndex (update records id (some record)) keyOf index owner := by
  have other_of_owns : ∀ {other key}, owner key = some other → other ≠ id := by
    intro other key owns same
    exact fresh key (same ▸ owns)
  constructor
  · intro other found key stored bears owns
    rw [update_of_ne (other_of_owns owns)] at stored
    exact coherent.finds stored bears owns
  · exact coherent.owned
  · intro key other found entry stored
    rw [update_of_ne (other_of_owns (coherent.owned entry))] at stored
    exact coherent.held entry stored

lemma give [DecidableEq Key] {id : ℕ}
  (only : ∀ key, index key = some id → keyOf record = some key) :
  OwnedIndex (update records id (some record)) keyOf
    (assign index id (keyOf record)) (assign owner id (keyOf record)) := by
  constructor
  · intro other found key stored bears owns
    rcases of_assign owns with ⟨given, rfl⟩ | ⟨notGiven, before⟩
    · rw [given, assign_self]
    · rw [assign_of_ne notGiven]
      by_cases same : other = id
      · subst same
        rw [update_self] at stored
        obtain rfl := Option.some.inj stored
        exact absurd bears notGiven
      · rw [update_of_ne same] at stored
        exact coherent.finds stored bears before
  · intro key other entry
    rcases of_assign entry with ⟨given, rfl⟩ | ⟨notGiven, before⟩
    · rw [given, assign_self]
    · rw [assign_of_ne notGiven]
      exact coherent.owned before
  · intro key other found entry stored
    rcases of_assign entry with ⟨given, rfl⟩ | ⟨notGiven, before⟩
    · rw [update_self] at stored
      rwa [← Option.some.inj stored]
    · by_cases same : other = id
      · subst same
        exact absurd (only key before) notGiven
      · rw [update_of_ne same] at stored
        exact coherent.held before stored

lemma restore {id : ℕ} (stored : records id = some old) (same : keyOf new = keyOf old) :
  OwnedIndex (update records id (some new)) keyOf index owner := by
  apply coherent.relabel
  intro other
  by_cases own : other = id
  · rw [own, update_self, stored, map_some, map_some, same]
  · rw [update_of_ne own]

def OwnKey (records : ℕ → Option Record) (index : Key → Option ℕ) (id : ℕ)
  (key : Option Key) : Prop :=
  ∀ name other, key = some name → index name = some other → other = id ∨ records other = none

lemma remove [DecidableEq Key] {id : ℕ} {key : Option Key} (own : OwnKey records index id key) :
  OwnedIndex (update records id none) keyOf (forget index key) owner := by
  apply (coherent.vacate id).dropKey
  intro name other taken entry
  by_cases same : other = id
  · rw [same, update_self]
  · rw [update_of_ne same]
    exact (own name other taken entry).resolve_left same

lemma rekey [DecidableEq Key] {id : ℕ} (stored : records id = some old)
  (own : keyOf old ≠ keyOf new → OwnKey records index id (keyOf old)) :
  OwnedIndex (update records id (some new)) keyOf
    (assign (forget index (keyOf old)) id (keyOf new)) (assign owner id (keyOf new)) := by
  by_cases same : keyOf old = keyOf new
  · rw [same, assign_forget_self]
    apply coherent.give
    intro key entry
    exact same ▸ coherent.held entry stored
  · have only : ∀ key, forget index (keyOf old) key = some id → keyOf new = some key := by
      intro key entry
      obtain ⟨different, before⟩ := of_forget entry
      exact absurd (coherent.held before stored) different
    have given := (coherent.remove (own same)).give only
    rwa [update_idem] at given

lemma rekeyUnless [DecidableEq Key] {id : ℕ}
  (unchanged : Prop) [Decidable unchanged] (stored : records id = some old)
  (same : unchanged → keyOf old = keyOf new)
  (own : keyOf old ≠ keyOf new → OwnKey records index id (keyOf old)) :
  OwnedIndex (update records id (some new)) keyOf
    (if unchanged then index else assign (forget index (keyOf old)) id (keyOf new))
    (if unchanged then owner else assign owner id (keyOf new)) := by
  by_cases nothing : unchanged
  · rw [if_pos nothing, if_pos nothing]
    exact coherent.restore stored (same nothing).symm
  · rw [if_neg nothing, if_neg nothing]
    exact coherent.rekey stored own

end

lemma stillFound (before : OwnedIndex records keyOf index owner)
  (after : OwnedIndex records' keyOf index' owner') {id : ℕ} (entry : index key = some id)
  (stored : records id = some record) (unchanged : records' id = some record)
  (kept : owner' key = owner key) : index' key = some id :=
  after.finds unchanged (before.held entry stored) (kept.trans (before.owned entry))

def dropRecord [DecidableEq Key] (keyOf : Record → Option Key)
  (view : (ℕ → Option Record) × (Key → Option ℕ)) (id : ℕ) :
  (ℕ → Option Record) × (Key → Option ℕ) :=
  match view.1 id with
  | none => view
  | some record => (update view.1 id none, forget view.2 (keyOf record))

section Several

variable [DecidableEq Key] {view : (ℕ → Option Record) × (Key → Option ℕ)} {ids : List ℕ}
  {key : Key}

lemma dropRecord_records (id other : ℕ) :
  (dropRecord keyOf view id).1 other = if other = id then none else view.1 other := by
  unfold dropRecord
  cases stored : view.1 id with
  | none =>
    by_cases same : other = id
    · rw [if_pos same, same, stored]
    · rw [if_neg same]
  | some record =>
    simp only
    rw [update_apply]

lemma foldl_dropRecord_records (ids : List ℕ) (other : ℕ) :
  (ids.foldl (dropRecord keyOf) view).1 other = if other ∈ ids then none else view.1 other := by
  induction ids generalizing view with
  | nil => simp
  | cons id ids ih =>
    rw [foldl_cons, ih, dropRecord_records]
    by_cases first : other = id
    · simp [first]
    · simp [first]

lemma of_foldl_dropRecord {id : ℕ} (entry : (ids.foldl (dropRecord keyOf) view).2 key = some id) :
  view.2 key = some id := by
  induction ids generalizing view with
  | nil => exact entry
  | cons gone ids ih =>
    have before := ih entry
    unfold dropRecord at before
    split at before
    · exact before
    · exact (of_forget before).2

lemma foldl_dropRecord_gone {id : ℕ} {record : Record} (gone : id ∈ ids)
  (stored : view.1 id = some record) (bears : keyOf record = some key) :
  (ids.foldl (dropRecord keyOf) view).2 key = none := by
  induction ids generalizing view with
  | nil => cases gone
  | cons first ids ih =>
    by_cases same : id = first
    · subst same
      have dropped : (dropRecord keyOf view id).2 key = none := by
        simp [dropRecord, stored, bears]
      refine eq_none_iff_forall_ne_some.mpr fun other entry => ?_
      have before : (dropRecord keyOf view id).2 key = some other := of_foldl_dropRecord entry
      rw [before] at dropped
      cases dropped
    · have later := (mem_cons.mp gone).resolve_left same
      refine ih later ?_
      rw [dropRecord_records, if_neg same, stored]

lemma foldl_dropRecord_stays {id : ℕ} (entry : view.2 key = some id)
  (unused : ∀ gone ∈ ids, ∀ record, view.1 gone = some record → keyOf record ≠ some key) :
  (ids.foldl (dropRecord keyOf) view).2 key = some id := by
  induction ids generalizing view with
  | nil => exact entry
  | cons gone ids ih =>
    apply ih
    · unfold dropRecord
      cases stored : view.1 gone with
      | none => exact entry
      | some record =>
        exact (forget_of_ne (unused gone mem_cons_self record stored)).trans entry
    · intro other membership record stored
      rw [dropRecord_records] at stored
      split at stored
      · cases stored
      · exact unused other (mem_cons_of_mem gone membership) record stored

end Several

lemma removeEach [DecidableEq Key] (coherent : OwnedIndex records keyOf index owner)
  (own : ∀ id ∈ ids, ∀ record, records id = some record → ∀ key other,
    keyOf record = some key → index key = some other → other ∈ ids ∨ records other = none) :
  OwnedIndex (ids.foldl (dropRecord keyOf) (records, index)).1 keyOf
    (ids.foldl (dropRecord keyOf) (records, index)).2 owner := by
  have stayed : ∀ {id record}, (ids.foldl (dropRecord keyOf) (records, index)).1 id = some record →
        id ∉ ids ∧ records id = some record := by
    intro id record found
    rw [foldl_dropRecord_records] at found
    split at found
    case isTrue => cases found
    case isFalse absent => exact ⟨absent, found⟩
  refine coherent.shrink (fun found => (stayed found).2) of_foldl_dropRecord ?_
  intro key id record entry found
  obtain ⟨absent, stored⟩ := stayed found
  apply foldl_dropRecord_stays entry
  intro gone isGone goneRecord goneStored bears
  rcases own gone isGone goneRecord goneStored key id bears entry with present | missing
  · exact absent present
  · rw [missing] at stored
    cases stored

variable {number : Record → ℕ}

lemma search_eq_some_iff (numbered : ∀ id record, records id = some record → number record = id) :
  search records index key = some record ↔
    index key = some (number record) ∧ records (number record) = some record := by
  constructor
  · intro found
    obtain ⟨id, entry, stored⟩ := bind_eq_some_iff.mp found
    obtain rfl := numbered id record stored
    exact ⟨entry, stored⟩
  · rintro ⟨entry, stored⟩
    exact bind_eq_some_iff.mpr ⟨_, entry, stored⟩

lemma search_findsOwners (coherent : OwnedIndex records keyOf index owner) :
  FindsOwners records keyOf (search records index) owner := by
  intro id record key stored bears owns
  exact bind_eq_some_iff.mpr ⟨id, coherent.finds stored bears owns, stored⟩

lemma search_findsStored (numbered : ∀ id record, records id = some record → number record = id) :
  FindsStored records number (search records index) := by
  intro key record found
  exact ((search_eq_some_iff numbered).mp found).2

lemma own_of_search (numbered : ∀ id record, records id = some record → number record = id)
  (own : ∀ key ∈ taken, ∀ found ∈ search records index key, number found ∈ ids) :
  ∀ key other, taken = some key → index key = some other →
    other ∈ ids ∨ records other = none := by
  intro key other isKey entry
  cases stored : records other with
  | none => exact .inr rfl
  | some found =>
    obtain rfl := numbered other found stored
    exact .inl (own key isKey found ((search_eq_some_iff numbered).mpr ⟨entry, stored⟩))

lemma spares (before : OwnedIndex records keyOf index owner)
  (after : OwnedIndex records' keyOf index' owner')
  (numbered : ∀ id record, records id = some record → number record = id)
  (numbered' : ∀ id record, records' id = some record → number record = id) {targets : ℕ → Prop}
  (frame : ∀ id, ¬ targets id → (records' id).map keyOf = (records id).map keyOf)
  (given : ∀ key, owner' key = owner key ∨
    ∃ id record, targets id ∧ records' id = some record ∧ keyOf record = some key ∧
      owner' key = some id) :
  Spares number targets (search records index) (search records' index') := by
  intro key record found spared
  obtain ⟨entry, stored⟩ := (search_eq_some_iff numbered).mp found
  rcases given key with kept | ⟨id, taker, isTarget, live, bears, owns⟩
  · have keys := frame (number record) spared
    rw [stored] at keys
    obtain ⟨again, live, sameKey⟩ := map_eq_some_iff.mp keys
    have bears : keyOf again = some key := sameKey.trans (before.held entry stored)
    refine ⟨again, ?_, .inl (numbered' _ again live)⟩
    exact bind_eq_some_iff.mpr
      ⟨_, after.finds live bears (kept.trans (before.owned entry)), live⟩
  · refine ⟨taker, ?_, .inr ?_⟩
    · exact bind_eq_some_iff.mpr ⟨id, after.finds live bears owns, live⟩
    · rwa [numbered' id taker live]

end OwnedIndex

def Inverts (index : Key → Option ℕ) (keys : ℕ → Option Key) : Prop :=
  ∀ key id, index key = some id ↔ keys id = some key

namespace Inverts

variable [DecidableEq Key] {index : Key → Option ℕ} {keys : ℕ → Option Key} {key : Key} {id : ℕ}

lemma assign (inverts : Inverts index keys) (unborne : ∀ other, keys other ≠ some key)
  (empty : keys id = none) :
  Inverts (assign index id (some key)) (update keys id (some key)) := by
  intro other place
  by_cases sameKey : other = key
  · subst sameKey
    rw [assign_self]
    by_cases samePlace : place = id
    · simp [samePlace]
    · simpa [update_of_ne samePlace, unborne place] using Ne.symm samePlace
  · rw [assign_of_ne fun equal => sameKey (Option.some.inj equal).symm, inverts]
    by_cases samePlace : place = id
    · simp [samePlace, empty, Ne.symm sameKey]
    · rw [update_of_ne samePlace]

lemma forget (inverts : Inverts index keys) (leads : index key = some id) :
  Inverts (forget index (some key)) (update keys id none) := by
  intro other place
  have borne := (inverts key id).mp leads
  by_cases sameKey : other = key
  · subst sameKey
    rw [forget_self]
    by_cases samePlace : place = id
    · simp [samePlace]
    · rw [update_of_ne samePlace, ← inverts, leads]
      simpa using Ne.symm samePlace
  · rw [forget_of_ne fun equal => sameKey (Option.some.inj equal).symm, inverts]
    by_cases samePlace : place = id
    · simp [samePlace, borne, Ne.symm sameKey]
    · rw [update_of_ne samePlace]

omit [DecidableEq Key] in
lemma unique (inverts : Inverts index keys) {first second : ℕ}
  (firstBears : keys first = some key) (secondBears : keys second = some key) :
  first = second :=
  Option.some.inj (((inverts key first).mpr firstBears).symm.trans
    ((inverts key second).mpr secondBears))

end Inverts

end NextGCore.Library
