import Mathlib
import NextGCore.Library.Machine
import NextGCore.Library.OwnedIndex
import NextGCore.Library.Ring

/-!
# Object pools

`NextgcorePool` and `NextgcorePoolWithId` of `pool.rs`.  The slots that are free lie in a ring.  A
pool with ids counts its ids up and begins again at the first one after the last, whether or not
the first one is still carried by an object.
-/

namespace NextGCore.Core

open Library Option Function

universe u

abbrev NextgcorePoolId := Int32

def nextgcoreMinPoolId : NextgcorePoolId := 1

def nextgcoreMaxPoolId : NextgcorePoolId := 0x7fffffff

class PoolItem (T : Type u) where
  id : T → NextgcorePoolId
  setId : T → NextgcorePoolId → T
  id_setId : ∀ item poolId, id (setId item poolId) = poolId

structure NextgcorePool (T : Type u) (size : ℕ) where
  head : ℕ
  tail : ℕ
  avail : ℕ
  freeList : Vector (Option (Fin size)) size
  array : Vector (Option T) size
  index : Vector Bool size

namespace NextgcorePool

variable {T : Type u} {size : ℕ}

def new (T : Type u) (size : ℕ) : NextgcorePool T size where
  head := 0
  tail := 0
  avail := size
  freeList := .ofFn some
  array := .replicate size none
  index := .replicate size false

variable (pool : NextgcorePool T size)

def alloc [Inhabited T] : NextgcorePool T size × Option ℕ :=
  if 0 < pool.avail then
    match pool.freeList.toList[pool.head]? with
    | some (some idx) =>
      ({ pool with
          avail := pool.avail - 1
          freeList := pool.freeList.setIfInBounds pool.head none
          head := (pool.head + 1) % size
          array := pool.array.set idx (some default)
          index := pool.index.set idx true }, some (idx.val + 1))
    -- The head is a cell of the ring, and it is not an empty one while any slot is free.
    | _ => ({ pool with avail := pool.avail - 1 }, none)
  else (pool, none)

def free (index : ℕ) : NextgcorePool T size :=
  if within : 0 < index ∧ index ≤ size ∧ pool.avail < size then
    let idx : Fin size := ⟨index - 1, by omega⟩
    if pool.index[idx] then
      { pool with
        avail := pool.avail + 1
        freeList := pool.freeList.setIfInBounds pool.tail (some idx)
        tail := (pool.tail + 1) % size
        array := pool.array.set idx none
        index := pool.index.set idx false }
    else pool
  else pool

def find (index : ℕ) : Option T :=
  if within : 0 < index ∧ index ≤ size then
    let idx : Fin size := ⟨index - 1, by omega⟩
    if pool.index[idx] then pool.array[idx] else none
  else none

/-- What a change of the item that `find_mut` answers with leaves. -/
def modify (index : ℕ) (change : T → T) : NextgcorePool T size :=
  if within : 0 < index ∧ index ≤ size then
    let idx : Fin size := ⟨index - 1, by omega⟩
    if pool.index[idx] then { pool with array := pool.array.set idx (pool.array[idx].map change) }
    else pool
  else pool

def iter : List (ℕ × T) :=
  (List.finRange size).filterMap fun idx => pool.array[idx].map fun item => (idx.val + 1, item)

end NextgcorePool

structure NextgcorePoolWithId (T : Type u) (size : ℕ) where
  pool : NextgcorePool T size
  idHash : AList fun _ : NextgcorePoolId => ℕ
  nextId : NextgcorePoolId

inductive PoolOperation where
  | alloc
  | free (index : ℕ)
  | freeById (id : NextgcorePoolId)

namespace NextgcorePoolWithId

variable {T : Type u} [PoolItem T] {size : ℕ}

def new (T : Type u) (size : ℕ) : NextgcorePoolWithId T size :=
  ⟨.new T size, ∅, nextgcoreMinPoolId⟩

variable (pool : NextgcorePoolWithId T size)

def alloc [Inhabited T] :
  NextgcorePoolWithId T size × Option (NextgcorePoolId × ℕ) :=
  match pool.pool.alloc with
  | (left, none) => ({ pool with pool := left }, none)
  | (left, some index) =>
    let id := pool.nextId
    let nextId :=
      if pool.nextId = nextgcoreMaxPoolId then nextgcoreMinPoolId else pool.nextId + 1
    ({ pool := left.modify index fun item => PoolItem.setId item id
       idHash := pool.idHash.insert id index
       nextId }, some (id, index))

def freeById (id : NextgcorePoolId) : NextgcorePoolWithId T size :=
  match pool.idHash.lookup id with
  | some index =>
    { pool with pool := pool.pool.free index, idHash := pool.idHash.erase id }
  | none => pool

def free (index : ℕ) : NextgcorePoolWithId T size :=
  match pool.pool.find index with
  | some item =>
    { pool with
      pool := pool.pool.free index
      idHash := pool.idHash.erase (PoolItem.id item) }
  | none => { pool with pool := pool.pool.free index }

def findById (id : NextgcorePoolId) : Option T :=
  (pool.idHash.lookup id).bind pool.pool.find

def find (index : ℕ) : Option T := pool.pool.find index

def operate [Inhabited T] :
    PoolOperation → NextgcorePoolWithId T size × Option (NextgcorePoolId × ℕ)
  | .alloc => pool.alloc
  | .free index => (pool.free index, none)
  | .freeById id => (pool.freeById id, none)

def machine [Inhabited T] :
  Machine (NextgcorePoolWithId T size) PoolOperation (Option (NextgcorePoolId × ℕ)) where
  step pool operation := pool.operate operation

end NextgcorePoolWithId

namespace NextgcorePool

variable {T : Type u} {size : ℕ}

/-- The items are the free slots, in the order in which they will be given out. -/
structure Intact (pool : NextgcorePool T size) (items : List (Fin size)) : Prop where
  ring : Ring.Holds pool.freeList.toList pool.head pool.tail items
  avail : pool.avail = items.length
  nodup : items.Nodup
  unallocated : ∀ idx, idx ∈ items ↔ pool.index[idx] = false
  stored : ∀ idx : Fin size, pool.array[idx].isSome = pool.index[idx]

variable {pool : NextgcorePool T size} {items : List (Fin size)}

lemma intact_new : Intact (NextgcorePool.new T size) (List.finRange size) := by
  constructor
  · have cells : (NextgcorePool.new T size).freeList.toList = (List.finRange size).map some := by
      rw [NextgcorePool.new, Vector.toList_ofFn, List.ofFn_eq_map]
    rw [cells]
    exact Ring.holds_full _
  · simp [NextgcorePool.new]
  · exact List.nodup_finRange size
  · simp [NextgcorePool.new]
  · simp [NextgcorePool.new]

lemma find_slot (pool : NextgcorePool T size) (idx : Fin size) :
  pool.find (idx.val + 1) =
    if getElem pool.index idx idx.isLt then getElem pool.array idx idx.isLt else none :=
  dif_pos ⟨Nat.succ_pos _, idx.isLt⟩

lemma find_of_out {index : ℕ} (outside : ¬ (0 < index ∧ index ≤ size)) :
  pool.find index = none := dif_neg outside

lemma slot_or_out (size index : ℕ) :
  (∃ idx : Fin size, index = idx.val + 1) ∨ ¬ (0 < index ∧ index ≤ size) := by
  by_cases within : 0 < index ∧ index ≤ size
  · refine .inl ⟨⟨index - 1, by omega⟩, ?_⟩
    show index = index - 1 + 1
    omega
  · exact .inr within

lemma Intact.find_slot (intact : pool.Intact items) (idx : Fin size) :
  pool.find (idx.val + 1) = getElem pool.array idx idx.isLt := by
  rw [NextgcorePool.find_slot]
  split
  · rfl
  · rename_i unallocated
    exact (isNone_iff_eq_none.mp (by
      rw [← not_isSome, intact.stored]
      simpa using unallocated)).symm

lemma Intact.mem_iff (intact : pool.Intact items) (idx : Fin size) :
  idx ∈ items ↔ pool.find (idx.val + 1) = none := by
  rw [intact.unallocated, intact.find_slot, ← intact.stored, isSome_eq_false_iff,
    isNone_iff_eq_none]

lemma getElem_set_of_ne {Content : Type*} {cells : Vector Content size} {idx other : Fin size}
  {content : Content} (differs : other ≠ idx) :
  getElem (cells.set idx content idx.isLt) other other.isLt = getElem cells other other.isLt :=
  Vector.getElem_set_ne _ _ fun same => differs (Fin.ext same.symm)

lemma Intact.set {left : NextgcorePool T size} {leftItems : List (Fin size)}
  (intact : pool.Intact items) (idx : Fin size) (content : Option T)
  (index : left.index = pool.index.set idx content.isSome idx.isLt)
  (array : left.array = pool.array.set idx content idx.isLt)
  (ring : Ring.Holds left.freeList.toList left.head left.tail leftItems)
  (avail : left.avail = leftItems.length) (nodup : leftItems.Nodup)
  (own : idx ∈ leftItems ↔ content = none)
  (others : ∀ other ≠ idx, (other ∈ leftItems ↔ other ∈ items)) :
  left.Intact leftItems ∧ left.find = update pool.find (idx.val + 1) content := by
  constructor
  · refine ⟨ring, avail, nodup, fun other => ?_, fun other => ?_⟩
    · by_cases same : other = idx
      · subst same
        simp [own, index]
      · rw [others other same, intact.unallocated, index, getElem_set_of_ne same]
    · by_cases same : other = idx
      · subst same
        simp [array, index]
      · rw [array, index, getElem_set_of_ne same, getElem_set_of_ne same, intact.stored]
  · funext place
    by_cases same : place = idx.val + 1
    · subst same
      rw [update_self, NextgcorePool.find_slot, array, index]
      cases content <;> simp
    · rw [update_of_ne same]
      rcases slot_or_out size place with ⟨other, rfl⟩ | outside
      · have differs : other ≠ idx := fun equal => same (by rw [equal])
        rw [NextgcorePool.find_slot, NextgcorePool.find_slot, array, index,
          getElem_set_of_ne differs, getElem_set_of_ne differs]
      · rw [find_of_out outside, find_of_out outside]

lemma Intact.alloc [Inhabited T] {idx : Fin size} (intact : pool.Intact (idx :: items)) :
  ∃ left, pool.alloc = (left, some (idx.val + 1)) ∧ left.Intact items ∧
    left.find = update pool.find (idx.val + 1) (some default) := by
  obtain ⟨there, taken⟩ := intact.ring.take
  have available : 0 < pool.avail := intact.avail ▸ Nat.succ_pos _
  have nodup := List.nodup_cons.mp intact.nodup
  refine ⟨_, by rw [NextgcorePool.alloc, if_pos available, there], ?_⟩
  refine intact.set idx (some default) rfl rfl (by simpa using taken) ?_ nodup.2 ?_ ?_
  · simp [intact.avail]
  · simpa using nodup.1
  · intro other differs
    simp [differs]

lemma Intact.alloc_nil [Inhabited T] (intact : pool.Intact []) : pool.alloc = (pool, none) := by
  rw [NextgcorePool.alloc, if_neg]
  rw [intact.avail]
  exact Nat.lt_irrefl 0

section

variable (intact : pool.Intact items)

include intact

lemma Intact.free (index : ℕ) :
  (∃ items, (pool.free index).Intact items) ∧
    (pool.free index).find = update pool.find index none := by
  have unchanged (left : pool.free index = pool) (nothing : pool.find index = none) :
      (∃ items, (pool.free index).Intact items) ∧
        (pool.free index).find = update pool.find index none := by
    rw [left]
    exact ⟨⟨items, intact⟩, by rw [← nothing, update_eq_self]⟩
  rcases slot_or_out size index with ⟨idx, rfl⟩ | outside
  · cases allocated : pool.index[idx] with
    | false =>
      refine unchanged ?_ (by rw [NextgcorePool.find_slot, allocated]; rfl)
      rw [NextgcorePool.free]
      split
      · rw [if_neg]
        simpa using allocated
      · rfl
    | true =>
      have missing : idx ∉ items := by simp [intact.unallocated, allocated]
      have nodup := List.nodup_cons.mpr ⟨missing, intact.nodup⟩
      have room : items.length < size := by
        have fits := List.Nodup.length_le_card nodup
        rw [Fintype.card_fin] at fits
        exact fits
      have within : 0 < idx.val + 1 ∧ idx.val + 1 ≤ size ∧ pool.avail < size :=
        ⟨Nat.succ_pos _, idx.isLt, intact.avail ▸ room⟩
      have freed := @Ring.Holds.put _ _ _ _ _ idx intact.ring (by simpa using room)
      have left : pool.free (idx.val + 1) =
          { pool with
            avail := pool.avail + 1
            freeList := pool.freeList.setIfInBounds pool.tail (some idx)
            tail := (pool.tail + 1) % size
            array := pool.array.set idx none
            index := pool.index.set idx false } :=
        (dif_pos within).trans (if_pos allocated)
      rw [left]
      refine (intact.set idx none rfl rfl (by simpa using freed) ?_ ?_ ?_ ?_).imp
        (fun holds => ⟨_, holds⟩) id
      · simp [intact.avail]
      · exact (List.perm_append_singleton idx items).nodup_iff.mpr nodup
      · simp
      · intro other differs
        simp [differs]
  · refine unchanged ?_ (find_of_out outside)
    rw [NextgcorePool.free, dif_neg fun within => outside ⟨within.1, within.2.1⟩]

lemma Intact.modify (index : ℕ) (change : T → T) :
  (pool.modify index change).Intact items ∧ (pool.modify index change).find =
      update pool.find index ((pool.find index).map change) := by
  have unchanged (left : pool.modify index change = pool) (nothing : pool.find index = none) :
      (pool.modify index change).Intact items ∧ (pool.modify index change).find =
          update pool.find index ((pool.find index).map change) := by
    rw [left, nothing]
    exact ⟨intact, by rw [map_none, ← nothing, update_eq_self]⟩
  rcases slot_or_out size index with ⟨idx, rfl⟩ | outside
  · have within : 0 < idx.val + 1 ∧ idx.val + 1 ≤ size := ⟨Nat.succ_pos _, idx.isLt⟩
    cases allocated : pool.index[idx] with
    | false =>
      refine unchanged ?_ (by rw [NextgcorePool.find_slot, allocated]; rfl)
      refine (dif_pos within).trans (if_neg ?_)
      simpa using allocated
    | true =>
      have left : pool.modify (idx.val + 1) change =
          { pool with array := pool.array.set idx (pool.array[idx].map change) } :=
        (dif_pos within).trans (if_pos allocated)
      rw [left, intact.find_slot]
      refine intact.set idx (pool.array[idx].map change) ?_ rfl intact.ring intact.avail
        intact.nodup ?_ fun _ _ => Iff.rfl
      · rw [isSome_map, intact.stored]
        exact (Vector.set_getElem_self idx.isLt).symm
      · rw [intact.mem_iff, intact.find_slot, map_eq_none_iff]
  · refine unchanged ?_ (find_of_out outside)
    exact dif_neg outside

lemma Intact.free_once : pool.freeList.toList.reduceOption.Nodup ∧
    ∀ idx, idx ∈ pool.freeList.toList.reduceOption ↔ pool.find (idx.val + 1) = none := by
  have perm := intact.ring.perm
  exact ⟨perm.nodup_iff.mpr intact.nodup, fun idx => perm.mem_iff.trans (intact.mem_iff idx)⟩

lemma Intact.length_iter : items.length + pool.iter.length = size := by
  have free : items.Perm ((List.finRange size).filter fun idx => ¬ pool.index[idx]) := by
    refine (List.perm_ext_iff_of_nodup intact.nodup ((List.nodup_finRange size).filter _)).mpr ?_
    simp [intact.unallocated]
  have held : pool.iter.length = (List.finRange size).countP fun idx => pool.index[idx] := by
    rw [iter, List.length_filterMap_eq_countP]
    refine List.countP_congr fun idx _ => ?_
    rw [isSome_map, intact.stored]
  have whole := @List.length_eq_countP_add_countP _ (fun idx : Fin size => pool.index[idx])
    (List.finRange size)
  rw [List.length_finRange] at whole
  rw [free.length_eq, ← List.countP_eq_length_filter, held]
  omega

end

end NextgcorePool

namespace NextgcorePoolWithId

variable {T : Type u} [PoolItem T] {size : ℕ}

def carried (pool : NextgcorePoolWithId T size) (index : ℕ) : Option NextgcorePoolId :=
  (pool.find index).map PoolItem.id

/-- What a pool promises: the ring holds the slots that are not allocated, each once; there is no
object to be had exactly when as many live as there is room for; ids tell the live objects apart
and find them. -/
structure Sound [Inhabited T] (pool : NextgcorePoolWithId T size) : Prop where
  freeOnce : pool.pool.freeList.toList.reduceOption.Nodup
  freeIff : ∀ idx, idx ∈ pool.pool.freeList.toList.reduceOption ↔ pool.find (idx.val + 1) = none
  full : pool.alloc.2 = none ↔ pool.pool.iter.length = size
  distinct : ∀ first second id, pool.carried first = some id → pool.carried second = some id →
    first = second
  found : ∀ id item, pool.findById id = some item ↔
    ∃ index, pool.find index = some item ∧ PoolItem.id item = id

structure Intact (pool : NextgcorePoolWithId T size) : Prop where
  slots : ∃ items, pool.pool.Intact items
  ids : Inverts pool.idHash.lookup pool.carried

/-- There is no slot to be had, or no live object carries the id that comes next. -/
def NextIdUnused (pool : NextgcorePoolWithId T size) : PoolOperation → Prop
  | .alloc => pool.pool.avail = 0 ∨ ∀ index, pool.carried index ≠ some pool.nextId
  | .free _ | .freeById _ => True

variable {pool left : NextgcorePoolWithId T size}

lemma carried_of_find {index : ℕ} {found : Option T}
  (finds : left.pool.find = update pool.pool.find index found) :
  left.carried = update pool.carried index (found.map PoolItem.id) := by
  funext other
  rw [carried, find, finds, update_apply, update_apply]
  split
  · rfl
  · rfl

lemma intact_new : Intact (new T size) := by
  constructor
  · exact ⟨_, NextgcorePool.intact_new⟩
  · intro id index
    have nothing : (NextgcorePool.new T size).find index = none := by
      rcases NextgcorePool.slot_or_out size index with ⟨idx, rfl⟩ | outside
      · rw [NextgcorePool.intact_new.find_slot]
        simp [NextgcorePool.new]
      · exact NextgcorePool.find_of_out outside
    simp [carried, find, new, nothing]

lemma Intact.alloc [Inhabited T] (intact : pool.Intact) :
  pool.pool.avail = 0 ∧ pool.alloc = (pool, none) ∨ 0 < pool.pool.avail ∧ ∃ index,
      pool.carried index = none ∧ pool.alloc.2 = some (pool.nextId, index) ∧
        (∃ items, pool.alloc.1.pool.Intact items) ∧
        pool.alloc.1.idHash = pool.idHash.insert pool.nextId index ∧
        pool.alloc.1.carried = update pool.carried index (some pool.nextId) := by
  obtain ⟨items, slots⟩ := intact.slots
  cases items with
  | nil =>
    refine .inl ⟨slots.avail, ?_⟩
    rw [NextgcorePoolWithId.alloc, slots.alloc_nil]
  | cons idx items =>
    obtain ⟨taken, allocated, takenSlots, takenFind⟩ := slots.alloc
    obtain ⟨changedSlots, changedFind⟩ := takenSlots.modify (idx.val + 1)
      fun item => PoolItem.setId item pool.nextId
    have empty := (slots.mem_iff idx).mp List.mem_cons_self
    rw [takenFind, update_self, update_idem] at changedFind
    refine .inr ⟨slots.avail ▸ Nat.succ_pos _, idx.val + 1, ?_⟩
    simp only [NextgcorePoolWithId.alloc, allocated]
    refine ⟨by rw [carried, find, empty]; rfl, trivial, ⟨items, changedSlots⟩, trivial, ?_⟩
    rw [carried_of_find changedFind]
    simp only [map_some, PoolItem.id_setId]

lemma Intact.vacate (intact : pool.Intact) {id : NextgcorePoolId} {index : ℕ}
  (carries : pool.carried index = some id) :
  Intact { pool with pool := pool.pool.free index, idHash := pool.idHash.erase id } := by
  obtain ⟨items, slots⟩ := intact.slots
  obtain ⟨leftSlots, leftFind⟩ := slots.free index
  constructor
  · exact leftSlots
  · rw [lookup_erase_eq, carried_of_find leftFind]
    exact intact.ids.forget ((intact.ids id index).mpr carries)

lemma Intact.free (intact : pool.Intact) (index : ℕ) : (pool.free index).Intact := by
  rw [NextgcorePoolWithId.free]
  split
  · rename_i item found
    refine intact.vacate ?_
    rw [carried, find, found]
    rfl
  · rename_i nothing
    obtain ⟨items, slots⟩ := intact.slots
    obtain ⟨leftSlots, leftFind⟩ := slots.free index
    constructor
    · exact leftSlots
    · rw [carried_of_find leftFind]
      have same : pool.carried index = (none : Option T).map PoolItem.id := by
        rw [carried, find, nothing]
      rw [← same, update_eq_self]
      exact intact.ids

lemma Intact.freeById (intact : pool.Intact) (id : NextgcorePoolId) :
  (pool.freeById id).Intact := by
  rw [NextgcorePoolWithId.freeById]
  split
  · rename_i index leads
    exact intact.vacate ((intact.ids id index).mp leads)
  · exact intact

lemma Intact.sound [Inhabited T] (intact : pool.Intact) : pool.Sound := by
  obtain ⟨items, slots⟩ := intact.slots
  constructor
  · exact slots.free_once.1
  · exact slots.free_once.2
  · have whole := slots.length_iter
    have avail := slots.avail
    rcases intact.alloc with ⟨none, answer⟩ | ⟨some, index, -, answer, -⟩
    · rw [answer]
      refine iff_of_true rfl ?_
      omega
    · rw [answer]
      refine iff_of_false (some_ne_none _) ?_
      omega
  · intro first second id
    exact intact.ids.unique
  · intro id item
    rw [findById, bind_eq_some_iff]
    refine exists_congr fun index => ?_
    rw [intact.ids, carried, find]
    constructor
    · rintro ⟨carries, found⟩
      rw [found] at carries
      exact ⟨found, Option.some.inj carries⟩
    · rintro ⟨found, carries⟩
      exact ⟨by rw [found, map_some, carries], found⟩

/-- After every prefix of a sequence of operations the pool is sound, exactly when no allocation of
the sequence gives an object the id that another live one carries. -/
theorem sound_run_iff [Inhabited T] (operations : List PoolOperation) :
  (∀ steps, (machine.run (new T size) (operations.take steps)).Sound) ↔
    machine.Along NextIdUnused (new T size) operations := by
  refine machine.reached_iff_along (fun pool (intact : Intact pool) => intact.sound) ?_ ?_
    intact_new operations
  · rintro pool (_ | index | id) intact condition
    · rcases intact.alloc with ⟨-, answer⟩ | ⟨room, index, empty, -, slots, hash, carries⟩
      · show Intact pool.alloc.1
        rw [answer]
        exact intact
      · have unused := condition.resolve_left room.ne'
        refine ⟨slots, ?_⟩
        show Inverts pool.alloc.1.idHash.lookup pool.alloc.1.carried
        rw [hash, carries, lookup_insert_eq]
        exact intact.ids.assign unused empty
    · exact intact.free index
    · exact intact.freeById id
  · rintro pool (_ | index | id) intact sound
    · rcases intact.alloc with ⟨full, -⟩ | ⟨-, index, empty, -, -, -, carries⟩
      · exact .inl full
      · refine .inr fun other carriesNext => ?_
        have differs : other ≠ index := by
          rintro rfl
          exact nomatch empty.symm.trans carriesNext
        refine differs (sound.distinct other index pool.nextId ?_ ?_)
        · show pool.alloc.1.carried other = _
          rw [carries, update_of_ne differs, carriesNext]
        · show pool.alloc.1.carried index = _
          rw [carries, update_self]
    · trivial
    · trivial

/-- An object that is no more than its id. -/
instance : PoolItem NextgcorePoolId where
  id item := item
  setId _ id := id
  id_setId _ _ := rfl

/-- A pool of two slots of which the second has come and gone, while the object with the first id
stays in the first. -/
def churned (turned : Bool) (nextId : NextgcorePoolId) :
  NextgcorePoolWithId NextgcorePoolId 2 where
  pool :=
    match turned with
    | false =>
      { head := 1, tail := 0, avail := 1, freeList := #v[none, some (Fin.last 1)]
        array := #v[some nextgcoreMinPoolId, none], index := #v[true, false] }
    | true =>
      { head := 0, tail := 1, avail := 1, freeList := #v[some (Fin.last 1), none]
        array := #v[some nextgcoreMinPoolId, none], index := #v[true, false] }
  idHash := AList.singleton nextgcoreMinPoolId 1
  nextId

lemma churned_step (turned : Bool) {nextId : NextgcorePoolId}
  (differs : nextId ≠ nextgcoreMinPoolId) :
  machine.run (churned turned nextId) [.alloc, .free 2] = churned (!turned)
      (if nextId = nextgcoreMaxPoolId then nextgcoreMinPoolId else nextId + 1) := by
  have whole : machine.run (churned turned nextId) [.alloc, .free 2] =
      { churned (!turned)
          (if nextId = nextgcoreMaxPoolId then nextgcoreMinPoolId else nextId + 1) with
        idHash := ((AList.singleton nextgcoreMinPoolId 1).insert nextId 2).erase nextId } := by
    cases turned
    · simp [machine, operate, churned, alloc, free, NextgcorePool.alloc, NextgcorePool.modify,
        NextgcorePool.find, NextgcorePool.free, PoolItem.setId, PoolItem.id]
    · simp [machine, operate, churned, alloc, free, NextgcorePool.alloc, NextgcorePool.modify,
        NextgcorePool.find, NextgcorePool.free, PoolItem.setId, PoolItem.id]
  have left : ((AList.singleton nextgcoreMinPoolId 1).insert nextId 2).erase nextId =
      (AList.singleton nextgcoreMinPoolId 1 : AList fun _ : NextgcorePoolId => ℕ) := by
    refine AList.ext ?_
    simp [AList.insert, AList.erase, AList.singleton, List.kinsert, List.kerase, differs]
  rw [whole, left]
  rfl

lemma churned_run (times : ℕ) (within : times ≤ 2147483645) :
  ∃ turned, machine.run (churned false 2) (List.replicate times [.alloc, .free 2]).flatten =
    churned turned (Int32.ofNat (times + 2)) := by
  induction times with
  | zero => exact ⟨false, rfl⟩
  | succ times ih =>
    obtain ⟨turned, ran⟩ := ih (Nat.le_of_succ_le within)
    have value : (Int32.ofNat (times + 2)).toInt = times + 2 :=
      Int32.toInt_ofNat_of_lt (by omega)
    have notFirst : Int32.ofNat (times + 2) ≠ nextgcoreMinPoolId := by
      intro same
      have first : (times + 2 : ℤ) = 1 := value.symm.trans (congrArg Int32.toInt same)
      omega
    have notLast : Int32.ofNat (times + 2) ≠ nextgcoreMaxPoolId := by
      intro same
      have last : (times + 2 : ℤ) = 2147483647 := value.symm.trans (congrArg Int32.toInt same)
      omega
    refine ⟨!turned, ?_⟩
    rw [List.replicate_succ', List.flatten_append, List.flatten_singleton, Machine.run_append,
      ran, churned_step turned notFirst, if_neg notLast, Nat.add_right_comm times 1,
      Int32.ofNat_add (times + 2) 1]
    rfl

/-- The first id comes round again while the object that was given it lives. -/
theorem not_sound_run : ¬ ∀ (size : ℕ) (operations : List PoolOperation),
    (machine.run (new NextgcorePoolId size) operations).Sound := by
  intro always
  obtain ⟨times, last⟩ : ∃ times : ℕ, times = 2147483645 := ⟨_, rfl⟩
  obtain ⟨turned, ran⟩ := churned_run times last.le
  have sound := always 2 ([.alloc] ++ ((List.replicate times [.alloc, .free 2]).flatten ++
    ([.alloc, .free 2] ++ [.alloc])))
  have began : machine.run (new NextgcorePoolId 2) [.alloc] = churned false 2 := rfl
  rw [Machine.run_append, began, Machine.run_append, ran, Machine.run_append, last,
    churned_step turned (by decide), if_pos (by decide)] at sound
  have twice := sound.distinct 1 2 nextgcoreMinPoolId
  cases turned with
  | false | true => exact absurd (twice (by decide) (by decide)) (by decide)

end NextgcorePoolWithId

end NextGCore.Core
