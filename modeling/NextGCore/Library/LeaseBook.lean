import Mathlib.Data.Set.Insert

/-!
# Lease books

Who has what of a pool of addresses.  An address is reserved, held by one
numbered tenant, handed out to nobody in particular yet, or free.  In an
exclusive book the first three exclude each other and no two tenants hold one
address; the operations of this file keep that, each under its own condition.
-/

namespace NextGCore.Library

open Function

structure LeaseBook (Address : Type) where
  reserved : Set Address
  held : ℕ → Option Address
  loose : Set Address

namespace LeaseBook

variable {Address : Type} {book : LeaseBook Address} {addr : Address} {id : ℕ} {other : Address}
  {tenant : ℕ}

def Holds (book : LeaseBook Address) (addr : Address) : Prop :=
  ∃ id, book.held id = some addr

def Taken (book : LeaseBook Address) (addr : Address) : Prop :=
  addr ∈ book.reserved ∨ book.Holds addr ∨ addr ∈ book.loose

structure Exclusive (book : LeaseBook Address) : Prop where
  sole : ∀ id id' addr, book.held id = some addr → book.held id' = some addr → id = id'
  heldUnreserved : ∀ addr, book.Holds addr → addr ∉ book.reserved
  looseUnreserved : ∀ addr ∈ book.loose, addr ∉ book.reserved
  looseUnheld : ∀ addr ∈ book.loose, ¬ book.Holds addr

def empty (reserved : Set Address) : LeaseBook Address := ⟨reserved, fun _ => none, ∅⟩

lemma not_holds_empty (reserved : Set Address) : ¬ (empty reserved).Holds addr := by
  rintro ⟨id, held⟩
  cases held

lemma taken_empty (reserved : Set Address) : (empty reserved).Taken addr ↔ addr ∈ reserved := by
  constructor
  · rintro (isReserved | holds | loose)
    · exact isReserved
    · exact absurd holds (not_holds_empty reserved)
    · exact absurd loose (Set.notMem_empty addr)
  · exact .inl

lemma exclusive_empty (reserved : Set Address) : (empty reserved).Exclusive where
  sole _ _ _ held := by cases held
  heldUnreserved _ holds := absurd holds (not_holds_empty reserved)
  looseUnreserved _ loose := absurd loose (Set.notMem_empty _)
  looseUnheld _ loose := absurd loose (Set.notMem_empty _)

def handOut (book : LeaseBook Address) (addr : Address) : LeaseBook Address :=
  { book with loose := insert addr book.loose }

lemma taken_handOut : (book.handOut addr).Taken other ↔ other = addr ∨ book.Taken other := by
  constructor
  · rintro (isReserved | holds | rfl | loose)
    · exact .inr (.inl isReserved)
    · exact .inr (.inr (.inl holds))
    · exact .inl rfl
    · exact .inr (.inr (.inr loose))
  · rintro (rfl | isReserved | holds | loose)
    · exact .inr (.inr (Set.mem_insert _ _))
    · exact .inl isReserved
    · exact .inr (.inl holds)
    · exact .inr (.inr (Set.mem_insert_of_mem _ loose))

lemma Exclusive.handOut (exclusive : book.Exclusive) (free : ¬ book.Taken addr) :
  (book.handOut addr).Exclusive := by
  constructor
  · exact exclusive.sole
  · exact exclusive.heldUnreserved
  · rintro other (rfl | loose)
    · exact fun isReserved => free (.inl isReserved)
    · exact exclusive.looseUnreserved other loose
  · rintro other (rfl | loose)
    · exact fun holds => free (.inr (.inl holds))
    · exact exclusive.looseUnheld other loose

def giveBack (book : LeaseBook Address) (addr : Address) : LeaseBook Address :=
  { book with loose := book.loose \ {addr} }

lemma taken_giveBack (unreserved : addr ∉ book.reserved) (unheld : ¬ book.Holds addr) :
  (book.giveBack addr).Taken other ↔ book.Taken other ∧ other ≠ addr := by
  constructor
  · rintro (isReserved | holds | ⟨loose, different⟩)
    · exact ⟨.inl isReserved, fun same => unreserved (same ▸ isReserved)⟩
    · exact ⟨.inr (.inl holds), fun same => unheld (same ▸ holds)⟩
    · exact ⟨.inr (.inr loose), different⟩
  · rintro ⟨isReserved | holds | loose, different⟩
    · exact .inl isReserved
    · exact .inr (.inl holds)
    · exact .inr (.inr ⟨loose, different⟩)

lemma Exclusive.giveBack (exclusive : book.Exclusive) (addr : Address) :
  (book.giveBack addr).Exclusive where
  sole := exclusive.sole
  heldUnreserved := exclusive.heldUnreserved
  looseUnreserved other loose := exclusive.looseUnreserved other loose.1
  looseUnheld other loose := exclusive.looseUnheld other loose.1

def store (book : LeaseBook Address) (id : ℕ) (addr : Address) : LeaseBook Address :=
  { book with
    held := update book.held id (some addr)
    loose := book.loose \ {addr} }

lemma held_of_store (held : (book.store id addr).held tenant = some other) :
  (tenant = id ∧ other = addr) ∨ (tenant ≠ id ∧ book.held tenant = some other) := by
  change update book.held id (some addr) tenant = some other at held
  by_cases same : tenant = id
  · rw [same, update_self] at held
    exact .inl ⟨same, (Option.some.inj held).symm⟩
  · rw [update_of_ne same] at held
    exact .inr ⟨same, held⟩

lemma holds_store (vacant : book.held id = none) :
  (book.store id addr).Holds other ↔ other = addr ∨ book.Holds other := by
  constructor
  · rintro ⟨tenant, held⟩
    rcases held_of_store held with ⟨-, isStored⟩ | ⟨-, wasHeld⟩
    · exact .inl isStored
    · exact .inr ⟨tenant, wasHeld⟩
  · rintro (rfl | ⟨tenant, held⟩)
    · exact ⟨id, update_self ..⟩
    · have different : tenant ≠ id := by
        rintro rfl
        rw [vacant] at held
        cases held
      exact ⟨tenant, (update_of_ne different ..).trans held⟩

lemma taken_store (vacant : book.held id = none) (loose : addr ∈ book.loose) :
  (book.store id addr).Taken other ↔ book.Taken other := by
  unfold Taken
  rw [holds_store vacant]
  constructor
  · rintro (isReserved | (rfl | holds) | ⟨stillLoose, -⟩)
    · exact .inl isReserved
    · exact .inr (.inr loose)
    · exact .inr (.inl holds)
    · exact .inr (.inr stillLoose)
  · rintro (isReserved | holds | wasLoose)
    · exact .inl isReserved
    · exact .inr (.inl (.inr holds))
    · by_cases same : other = addr
      · exact .inr (.inl (.inl same))
      · exact .inr (.inr ⟨wasLoose, same⟩)

lemma Exclusive.store (exclusive : book.Exclusive) (vacant : book.held id = none)
  (loose : addr ∈ book.loose) : (book.store id addr).Exclusive := by
  have unheld := exclusive.looseUnheld addr loose
  constructor
  · intro tenant tenant' other held held'
    rcases held_of_store held with ⟨rfl, rfl⟩ | ⟨-, wasHeld⟩
    · rcases held_of_store held' with ⟨rfl, -⟩ | ⟨-, wasHeld'⟩
      · rfl
      · exact absurd ⟨tenant', wasHeld'⟩ unheld
    · rcases held_of_store held' with ⟨rfl, rfl⟩ | ⟨-, wasHeld'⟩
      · exact absurd ⟨tenant, wasHeld⟩ unheld
      · exact exclusive.sole tenant tenant' other wasHeld wasHeld'
  · intro other holds
    rcases (holds_store vacant).mp holds with rfl | before
    · exact exclusive.looseUnreserved other loose
    · exact exclusive.heldUnreserved other before
  · exact fun other stillLoose => exclusive.looseUnreserved other stillLoose.1
  · intro other stillLoose holds
    rcases (holds_store vacant).mp holds with rfl | before
    · exact stillLoose.2 rfl
    · exact exclusive.looseUnheld other stillLoose.1 before

def vacate (book : LeaseBook Address) (id : ℕ) : LeaseBook Address :=
  { book with held := update book.held id none }

lemma held_of_vacate (held : (book.vacate id).held tenant = some addr) :
  tenant ≠ id ∧ book.held tenant = some addr := by
  change update book.held id none tenant = some addr at held
  by_cases same : tenant = id
  · rw [same, update_self] at held
    cases held
  · rw [update_of_ne same] at held
    exact ⟨same, held⟩

lemma taken_vacate (exclusive : book.Exclusive) (held : book.held id = some addr) :
  (book.vacate id).Taken other ↔ book.Taken other ∧ other ≠ addr := by
  constructor
  · rintro (isReserved | ⟨tenant, stillHeld⟩ | loose)
    · refine ⟨.inl isReserved, ?_⟩
      rintro rfl
      exact exclusive.heldUnreserved other ⟨id, held⟩ isReserved
    · obtain ⟨different, wasHeld⟩ := held_of_vacate stillHeld
      refine ⟨.inr (.inl ⟨tenant, wasHeld⟩), ?_⟩
      rintro rfl
      exact different (exclusive.sole tenant id other wasHeld held)
    · refine ⟨.inr (.inr loose), ?_⟩
      rintro rfl
      exact exclusive.looseUnheld other loose ⟨id, held⟩
  · rintro ⟨isReserved | ⟨tenant, wasHeld⟩ | loose, different⟩
    · exact .inl isReserved
    · refine .inr (.inl ⟨tenant, ?_⟩)
      have stays : tenant ≠ id := by
        rintro rfl
        exact different (Option.some.inj (wasHeld.symm.trans held))
      exact (update_of_ne stays ..).trans wasHeld
    · exact .inr (.inr loose)

lemma Exclusive.vacate (exclusive : book.Exclusive) (id : ℕ) : (book.vacate id).Exclusive := by
  constructor
  · intro tenant tenant' other held held'
    exact exclusive.sole tenant tenant' other (held_of_vacate held).2 (held_of_vacate held').2
  · rintro other ⟨tenant, held⟩
    exact exclusive.heldUnreserved other ⟨tenant, (held_of_vacate held).2⟩
  · exact exclusive.looseUnreserved
  · rintro other loose ⟨tenant, held⟩
    exact exclusive.looseUnheld other loose ⟨tenant, (held_of_vacate held).2⟩

end LeaseBook

end NextGCore.Library
