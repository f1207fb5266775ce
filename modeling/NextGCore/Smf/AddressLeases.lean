import NextGCore.Library.LeaseBook
import NextGCore.Smf.Operations

/-!
# Leases of UE addresses

The address pool and the sessions of an SMF context as a lease book, with the
addresses that `allocate` handed out and nobody stored yet beside the context.
Operations on UEs and new sessions leave the book alone; the others are the
operations of the book, as long as they do not reach what the code leaves undone.
-/

namespace NextGCore.Smf.SmfContext

open Library Option Function Ipv4Pool LeaseBook

variable {context next : SmfContext} {handedOut : Finset Ipv4Addr} {addr : Ipv4Addr}

def heldAddr (context : SmfContext) (id : ℕ) : Option Ipv4Addr :=
  (context.sessFindById id).bind SmfSess.ipv4Addr

def leaseBook (context : SmfContext) (handedOut : Finset Ipv4Addr) : LeaseBook Ipv4Addr where
  reserved := {addr | context.ipv4Pool.Reserved addr}
  held := context.heldAddr
  loose := handedOut

lemma mem_loose : addr ∈ (context.leaseBook handedOut).loose ↔ addr ∈ handedOut := Finset.mem_coe

def handedOutAfter (handedOut : Finset Ipv4Addr) (context : SmfContext) :
    SmfOperation → Finset Ipv4Addr
  | .allocate =>
    match context.ipv4Pool.allocate with
    | none => handedOut
    | some (addr, _) => insert addr handedOut
  | .release addr => handedOut.erase addr
  | .sessUpdate sess =>
    match context.sessFindById sess.id, sess.ipv4Addr with
    | some existing, some addr =>
      if existing.ipv4Addr = some addr then handedOut else handedOut.erase addr
    | _, _ => handedOut
  | _ => handedOut

/-- The bits of the pool are those of the reserved addresses, of the addresses of
live sessions and of those handed out; no two sessions hold one address; the
counter counts. -/
structure Leased (context : SmfContext) (handedOut : Finset Ipv4Addr) : Prop where
  allocated : ∀ addr, context.ipv4Pool.Allocated addr ↔ (context.leaseBook handedOut).Taken addr
  exclusive : (context.leaseBook handedOut).Exclusive
  counted : context.ipv4Pool.Counted

/-- The operation neither loses an address nor frees one in use. -/
def LeasesOnce (context : SmfContext) (handedOut : Finset Ipv4Addr) : SmfOperation → Prop
  -- An address that is replaced is not released.
  | .sessUpdate sess =>
    ∀ existing ∈ context.sessFindById sess.id, existing.ipv4Addr = sess.ipv4Addr ∨
        (existing.ipv4Addr = none ∧ ∀ addr ∈ sess.ipv4Addr, addr ∈ handedOut)
  -- The sessions are cleared without a release.
  | .ueRemoveAll => ∀ sess ∈ context.sessList.records, sess.ipv4Addr = none
  -- Any address of the subnet is released.
  | .release addr =>
    ¬ context.ipv4Pool.Reserved addr ∧ ∀ sess ∈ context.sessList.records, sess.ipv4Addr ≠ some addr
  | _ => True

instance decidableLeasesOnce (context : SmfContext) (handedOut : Finset Ipv4Addr) :
    (operation : SmfOperation) → Decidable (context.LeasesOnce handedOut operation)
  | .sessUpdate _ => inferInstanceAs (Decidable (∀ _ ∈ _, _ ∨ (_ ∧ ∀ _ ∈ _, _)))
  | .ueRemoveAll => inferInstanceAs (Decidable (∀ _ ∈ _, _))
  | .release _ => inferInstanceAs (Decidable (_ ∧ ∀ _ ∈ _, _))
  | .ueAddBySupi _ | .ueAddByImsi _ | .ueUpdate _ | .ueRemove _ _ | .sessAddByPsi _ _
  | .sessAddByApn _ _ _ | .sessRemove _ | .allocate => inferInstanceAs (Decidable True)

lemma heldAddr_eq_some {id : ℕ} : context.heldAddr id = some addr ↔
    ∃ sess, context.sessFindById id = some sess ∧ sess.ipv4Addr = some addr :=
  bind_eq_some_iff

lemma not_holds_of_records (none : ∀ sess ∈ context.sessList.records, sess.ipv4Addr ≠ some addr) :
  ¬ (context.leaseBook handedOut).Holds addr := by
  rintro ⟨id, held⟩
  obtain ⟨sess, found, bears⟩ := heldAddr_eq_some.mp held
  refine none sess (NumberedTable.mem_records.mpr ?_) bears
  rw [numberedSess found]
  exact found

lemma heldAddr_update {id : ℕ} {sess : Option SmfSess}
  (table : next.sessFindById = update context.sessFindById id sess) :
  next.heldAddr = update context.heldAddr id (sess.bind SmfSess.ipv4Addr) := by
  funext other
  unfold heldAddr
  rw [table]
  by_cases same : other = id
  · rw [same, update_self, update_self]
  · rw [update_of_ne same, update_of_ne same]

lemma leaseBook_congr (pool : next.ipv4Pool = context.ipv4Pool)
  (held : next.heldAddr = context.heldAddr) :
  next.leaseBook handedOut = context.leaseBook handedOut := by
  unfold leaseBook
  rw [pool, held]

lemma reserved_eq (sameBase : next.ipv4Pool.base = context.ipv4Pool.base) :
  {addr | next.ipv4Pool.Reserved addr} = {addr | context.ipv4Pool.Reserved addr} :=
  Set.ext fun _ => reserved_congr sameBase

lemma not_leased_of_leak {host : ℕ} (isHost : context.ipv4Pool.hostIdx addr = some host)
  (allocated : host < poolSize ∧ Bitmap.bit context.ipv4Pool.bitmap host = true)
  (unreserved : ¬ context.ipv4Pool.Reserved addr)
  (unheld : ∀ sess ∈ context.sessList.records, sess.ipv4Addr ≠ some addr)
  (stored : addr ∉ handedOut) : ¬ context.Leased handedOut := by
  intro leased
  have isAllocated : context.ipv4Pool.Allocated addr :=
    (allocated_iff isHost).mpr (mem_allocated.mpr allocated)
  rcases (leased.allocated addr).mp isAllocated with reserved | holds | loose
  · exact unreserved reserved
  · exact not_holds_of_records unheld holds
  · exact stored (mem_loose.mp loose)

namespace Leased

variable {sess : SmfSess} {addr : Ipv4Addr}

lemma init (maxUe maxSess : ℕ) : Leased (.init maxUe maxSess) ∅ := by
  have isEmpty : (SmfContext.init maxUe maxSess).leaseBook ∅ =
      .empty {addr | (new 10 45).Reserved addr} := by
    unfold leaseBook empty
    rw [Finset.coe_empty]
    rfl
  constructor
  · intro addr
    rw [isEmpty, taken_empty]
    change (new 10 45).Allocated addr ↔ (new 10 45).Reserved addr
    unfold Allocated Reserved
    rw [allocated_new]
  · rw [isEmpty]
    exact exclusive_empty _
  · exact counted_new 10 45

lemma keeps (leased : context.Leased handedOut) (pool : next.ipv4Pool = context.ipv4Pool)
  (held : next.heldAddr = context.heldAddr) : next.Leased handedOut := by
  have sameBook : next.leaseBook handedOut = context.leaseBook handedOut :=
    leaseBook_congr pool held
  constructor
  · rw [pool, sameBook]
    exact leased.allocated
  · rw [sameBook]
    exact leased.exclusive
  · rw [pool]
    exact leased.counted

lemma sessAdd {smfUeId : ℕ} (leased : context.Leased handedOut)
  (added : SessAdded context next smfUeId sess) : next.Leased handedOut := by
  have unused : context.sessFindById context.sessList.next = none :=
    NumberedTable.lookup_eq_none (Nat.le_refl _)
  apply leased.keeps added.pool
  rw [heldAddr_update added.table, bind_some, added.bare.1]
  apply update_eq_self_iff.mpr
  unfold heldAddr
  rw [unused]
  rfl

lemma allocate {pool : Ipv4Pool} (leased : context.Leased handedOut)
  (allocates : context.ipv4Pool.allocate = some (addr, pool)) :
  ¬ (context.leaseBook handedOut).Taken addr ∧
    Leased { context with ipv4Pool := pool } (insert addr handedOut) := by
  obtain ⟨fresh, allocated⟩ := allocated_allocate allocates
  have free : ¬ (context.leaseBook handedOut).Taken addr := by
    rw [← leased.allocated]
    exact fresh
  have grown : leaseBook { context with ipv4Pool := pool } (insert addr handedOut) =
      (context.leaseBook handedOut).handOut addr := by
    unfold leaseBook handOut
    rw [reserved_eq (allocate_base allocates), Finset.coe_insert]
    rfl
  refine ⟨free, ?_, ?_, ?_⟩
  · intro other
    rw [grown, taken_handOut, ← leased.allocated, allocated]
  · rw [grown]
    exact leased.exclusive.handOut free
  · exact leased.counted.allocate allocates fun reserved => free (.inl reserved)

section

variable (leased : context.Leased handedOut)

include leased

lemma release (leasesOnce : context.LeasesOnce handedOut (.release addr)) :
  Leased { context with ipv4Pool := (context.ipv4Pool.release addr).2 }
    (handedOut.erase addr) := by
  obtain ⟨unreserved, unheld⟩ := leasesOnce
  have shrunk : leaseBook { context with ipv4Pool := (context.ipv4Pool.release addr).2 }
      (handedOut.erase addr) = (context.leaseBook handedOut).giveBack addr := by
    unfold leaseBook giveBack
    rw [reserved_eq (release_base context.ipv4Pool addr), Finset.coe_erase]
    rfl
  constructor
  · intro other
    rw [shrunk, taken_giveBack unreserved (not_holds_of_records unheld), ← leased.allocated]
    exact allocated_release _ _ _
  · rw [shrunk]
    exact leased.exclusive.giveBack addr
  · exact leased.counted.release unreserved

lemma sessUpdate (leasesOnce : context.LeasesOnce handedOut (.sessUpdate sess)) :
  Leased (context.sessUpdate sess) (handedOutAfter handedOut context (.sessUpdate sess)) := by
  cases found : context.sessFindById sess.id with
  | none =>
    simp only [handedOutAfter, found]
    rw [sessUpdate_of_missing found]
    exact leased
  | some existing =>
    obtain ⟨table, -, -, -, -, -, -, pool⟩ := sessUpdate_eq found
    have held := heldAddr_update table
    rw [bind_some] at held
    have before : context.heldAddr sess.id = existing.ipv4Addr := by
      unfold heldAddr
      rw [found, bind_some]
    cases bears : sess.ipv4Addr with
    | none =>
      have wasNone : existing.ipv4Addr = none := by
        rcases leasesOnce existing found with same | ⟨wasNone, -⟩
        · rw [same, bears]
        · exact wasNone
      simp only [handedOutAfter, found, bears]
      apply leased.keeps pool
      rw [held, bears, ← wasNone, ← before, update_eq_self]
    | some addr =>
      simp only [handedOutAfter, found, bears]
      split
      case isTrue same =>
        apply leased.keeps pool
        rw [held, bears, ← same, ← before, update_eq_self]
      case isFalse differ =>
        rcases leasesOnce existing found with same | ⟨wasNone, known⟩
        · exact absurd (same.trans bears) differ
        · have loose : addr ∈ (context.leaseBook handedOut).loose :=
            mem_loose.mpr (known addr bears)
          have vacant : (context.leaseBook handedOut).held sess.id = none :=
            before.trans wasNone
          have stored : (context.sessUpdate sess).leaseBook (handedOut.erase addr) =
              (context.leaseBook handedOut).store sess.id addr := by
            unfold leaseBook store
            rw [pool, held, bears, Finset.coe_erase]
          constructor
          · intro other
            rw [pool, stored, taken_store vacant loose]
            exact leased.allocated other
          · rw [stored]
            exact leased.exclusive.store vacant loose
          · rw [pool]
            exact leased.counted

lemma sessRemove (id : ℕ) : (context.sessRemove id).Leased handedOut := by
  cases found : context.sessFindById id with
  | none =>
    rw [sessRemove_of_missing found]
    exact leased
  | some sess =>
    have pool : (context.sessRemove id).ipv4Pool = releaseAddr context.ipv4Pool sess.ipv4Addr := by
      rw [sessRemove_eq found]
      rfl
    have held : (context.sessRemove id).heldAddr = update context.heldAddr id none :=
      heldAddr_update (funext fun other => congrFun (sessFindById_sessRemove found) other)
    have before : context.heldAddr id = sess.ipv4Addr := by
      unfold heldAddr
      rw [found, bind_some]
    cases bears : sess.ipv4Addr with
    | none =>
      rw [bears] at pool before
      apply leased.keeps pool
      rw [held, ← before, update_eq_self]
    | some addr =>
      rw [bears] at pool before
      have vacated : (context.sessRemove id).leaseBook handedOut =
          (context.leaseBook handedOut).vacate id := by
        unfold leaseBook vacate
        rw [held, pool, releaseAddr]
        congr 1
        exact Set.ext fun _ => reserved_congr (release_base _ _)
      have unreserved : ¬ context.ipv4Pool.Reserved addr :=
        leased.exclusive.heldUnreserved addr ⟨id, before⟩
      constructor
      · intro other
        rw [vacated, taken_vacate leased.exclusive before, ← leased.allocated, pool]
        exact allocated_release _ _ _
      · rw [vacated]
        exact leased.exclusive.vacate id
      · rw [pool]
        exact leased.counted.release unreserved

lemma removeSessions (ids : List ℕ) :
  (ids.foldl SmfContext.sessRemove context).Leased handedOut := by
  induction ids generalizing context with
  | nil => exact leased
  | cons id ids ih => exact ih (leased.sessRemove id)

lemma ueRemoveAll (leasesOnce : context.LeasesOnce handedOut .ueRemoveAll) :
  context.ueRemoveAll.Leased handedOut := by
  refine leased.keeps rfl (funext fun id => ?_)
  have gone : context.ueRemoveAll.heldAddr id = none := rfl
  rw [gone]
  cases found : context.sessFindById id with
  | none =>
    unfold heldAddr
    rw [found]
    rfl
  | some sess =>
    have isRecord : sess ∈ context.sessList.records := by
      apply NumberedTable.mem_records.mpr
      rw [numberedSess found]
      exact found
    unfold heldAddr
    rw [found, bind_some, leasesOnce sess isRecord]

lemma operate {operation : SmfOperation} (leasesOnce : context.LeasesOnce handedOut operation) :
  (context.operate operation).Leased (handedOutAfter handedOut context operation) := by
  cases operation with
  | ueAddBySupi supi =>
    simp only [SmfContext.operate, handedOutAfter]
    cases added : context.ueAddBySupi supi with
    | none => exact leased
    | some result =>
      have same := (ueAddBySupi_eq added).1
      rw [orElse, same]
      exact leased.keeps rfl rfl
  | ueAddByImsi imsi =>
    simp only [SmfContext.operate, handedOutAfter]
    cases added : context.ueAddByImsi imsi with
    | none => exact leased
    | some result =>
      have same := (ueAddByImsi_eq added).1
      rw [orElse, same]
      exact leased.keeps rfl rfl
  | ueUpdate ue => exact leased.keeps rfl rfl
  | ueRemove id order =>
    have removed := leased.removeSessions (context.removalOrder id order)
    refine removed.keeps ?_ ?_
    · simp only [SmfContext.operate, ueRemove, sessRemoveAllForUe, dropUe]
      split <;> rfl
    · simp only [SmfContext.operate, ueRemove, sessRemoveAllForUe, dropUe]
      split <;> rfl
  | ueRemoveAll => exact leased.ueRemoveAll leasesOnce
  | sessAddByPsi smfUeId psi =>
    simp only [SmfContext.operate, handedOutAfter]
    cases added : context.sessAddByPsi smfUeId psi with
    | none => exact leased
    | some result => exact leased.sessAdd (sessAddByPsi_added added)
  | sessAddByApn smfUeId apn ratType =>
    simp only [SmfContext.operate, handedOutAfter]
    cases added : context.sessAddByApn smfUeId apn ratType with
    | none => exact leased
    | some result => exact leased.sessAdd (sessAddByApn_added added)
  | sessUpdate sess => exact leased.sessUpdate leasesOnce
  | sessRemove id => exact leased.sessRemove id
  | allocate =>
    simp only [SmfContext.operate, handedOutAfter]
    cases allocates : context.ipv4Pool.allocate with
    | none => exact leased
    | some result => exact (leased.allocate allocates).2
  | release addr => exact leased.release leasesOnce

end

end Leased

def leaseMachine : Machine (SmfContext × Finset Ipv4Addr) SmfOperation Unit :=
  machine.observed fun handedOut context operation _ => handedOutAfter handedOut context operation

/-- In every run of operations that lease each address once, the pool has the bits
of the reserved addresses, the addresses of live sessions and those handed out,
no two live sessions hold one address, the counter counts, and what is handed out
next is neither reserved nor taken. -/
theorem addresses_leased (maxUe maxSess : ℕ) (operations : List SmfOperation)
  (along : leaseMachine.Along (fun joint operation => joint.1.LeasesOnce joint.2 operation)
    (.init maxUe maxSess, ∅) operations) :
  ∀ context handedOut,
    leaseMachine.run (.init maxUe maxSess, ∅) operations = (context, handedOut) →
    context.Leased handedOut ∧ ∀ addr pool, context.ipv4Pool.allocate = some (addr, pool) →
        ¬ (context.leaseBook handedOut).Taken addr := by
  have kept : ∀ (joint : SmfContext × Finset Ipv4Addr) operation,
      joint.1.Leased joint.2 → joint.1.LeasesOnce joint.2 operation →
        (leaseMachine.step joint operation).1.1.Leased (leaseMachine.step joint operation).1.2 :=
    fun _ _ leased leasesOnce => leased.operate leasesOnce
  intro context handedOut reached
  have atEnd := leaseMachine.invariant_run kept (Leased.init maxUe maxSess) along
  rw [reached] at atEnd
  exact ⟨atEnd, fun addr pool allocates => (atEnd.allocate allocates).1⟩

/-- Two addresses are handed out and stored, one is released unstored; the first
session goes by itself and the second with its UE. -/
def leasedOnce : List SmfOperation :=
  [.ueAddBySupi "imsi-1", .sessAddByPsi 1 1, .sessAddByPsi 1 2, .allocate,
    .sessUpdate { SmfSess.new 1 1 1 with ipv4Addr := some ⟨10, 45, 0, 2⟩ }, .allocate, .allocate,
    .release ⟨10, 45, 0, 4⟩,
    .sessUpdate { SmfSess.new 2 2 1 with ipv4Addr := some ⟨10, 45, 0, 3⟩ }, .sessRemove 1,
    .ueRemove 1 [2]]

theorem addresses_leased_sample : Leased (leaseMachine.run (.init 8 8, ∅) leasedOnce).1
    (leaseMachine.run (.init 8 8, ∅) leasedOnce).2 :=
  (addresses_leased 8 8 leasedOnce (by decide +kernel) _ _ Prod.mk.eta.symm).1

def clearedLease : List SmfOperation :=
  [.ueAddBySupi "imsi-1", .sessAddByPsi 1 1, .allocate,
    .sessUpdate { SmfSess.new 1 1 1 with ipv4Addr := some ⟨10, 45, 0, 2⟩ }, .ueRemoveAll]

/-- The bit of the address is still set, and nobody has the address. -/
theorem cleared_lease_leaked : ¬ Leased (leaseMachine.run (.init 8 8, ∅) clearedLease).1
    (leaseMachine.run (.init 8 8, ∅) clearedLease).2 :=
  @not_leased_of_leak _ _ ⟨10, 45, 0, 2⟩ 2 (by decide +kernel) (by decide +kernel)
    (by decide +kernel) (by decide +kernel) (by decide +kernel)

end NextGCore.Smf.SmfContext
