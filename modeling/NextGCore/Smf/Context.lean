import NextGCore.Crypt.Primitives
import NextGCore.Library.Machine
import NextGCore.Library.NumberedTable
import NextGCore.Library.OwnedIndex
import NextGCore.Smf.Ipv4Pool

/-!
# The SMF context

The UEs and the sessions of `context.rs`, their hash tables and the operations
on them.  Each operation takes all its locks before it changes anything, so each
is one step.  Bearers and packet filters are left out; nothing here reads them.
-/

namespace NextGCore.Smf

open Library
open Crypt (Bytes)

structure SmfUe where
  id : ℕ
  supi : Option String
  imsi : Bytes
  sessIds : List ℕ

def SmfUe.new (id : ℕ) : SmfUe := ⟨id, none, [], []⟩

abbrev Ipv6Addr := Vector UInt8 16

structure SmfSess where
  id : ℕ
  index : UInt32
  smfUeId : ℕ
  epc : Bool
  psi : UInt8
  sessionName : Option String
  gtpRatType : UInt8
  smContextRef : Option String
  pduSessionRef : Option String
  chargingId : UInt32
  smfN4Seid : ℕ
  smfN4Teid : UInt32
  ipv4Addr : Option Ipv4Addr
  ipv6Prefix : Option (UInt8 × Ipv6Addr)
  pagingN1n2messageLocation : Option String
  deriving DecidableEq

def SmfSess.new (id : ℕ) (index : UInt32) (smfUeId : ℕ) : SmfSess where
  id := id
  index := index
  smfUeId := smfUeId
  epc := false
  psi := 0
  sessionName := none
  gtpRatType := 0
  smContextRef := none
  pduSessionRef := none
  chargingId := 0
  smfN4Seid := 0
  smfN4Teid := 0
  ipv4Addr := none
  ipv6Prefix := none
  pagingN1n2messageLocation := none

def prefixOf (addr : Ipv6Addr) : Vector UInt8 8 :=
  .ofFn fun index => addr[index.val]

def SmfSess.ipv6Key (sess : SmfSess) : Option (Vector UInt8 8) :=
  sess.ipv6Prefix.map fun (_, addr) => prefixOf addr

structure SmfContext where
  smfUeList : NumberedTable SmfUe SmfUe.id
  supiHash : AList (fun _ : String => ℕ)
  imsiHash : AList (fun _ : Bytes => ℕ)
  sessList : NumberedTable SmfSess SmfSess.id
  smfN4SeidHash : AList (fun _ : ℕ => ℕ)
  /-- By `u32::from(addr)`, which is the address as one number. -/
  ipv4Hash : AList (fun _ : Ipv4Addr => ℕ)
  ipv6Hash : AList (fun _ : Vector UInt8 8 => ℕ)
  n1n2messageHash : AList (fun _ : String => ℕ)
  sessIndex : ℕ
  n4SeidGenerator : ℕ
  maxNumOfUe : ℕ
  maxNumOfSess : ℕ
  ipv4Pool : Ipv4Pool

section Hashes

variable {Key : Type} [DecidableEq Key] (hash : AList (fun _ : Key => ℕ))

def eraseKey : Option Key → AList (fun _ : Key => ℕ)
  | none => hash
  | some key => hash.erase key

def insertKey (id : ℕ) : Option Key → AList (fun _ : Key => ℕ)
  | none => hash
  | some key => hash.insert key id

def rehash (id : ℕ) (old new : Option Key) : AList (fun _ : Key => ℕ) :=
  insertKey (eraseKey hash old) id new

lemma lookup_eraseKey (key : Option Key) :
  (eraseKey hash key).lookup = forget hash.lookup key := by
  cases key with
  | none => rfl
  | some key => exact lookup_erase_eq hash key

lemma lookup_insertKey (id : ℕ) (key : Option Key) :
  (insertKey hash id key).lookup = assign hash.lookup id key := by
  cases key with
  | none => rfl
  | some key => exact lookup_insert_eq hash key id

lemma lookup_rehash (id : ℕ) (old new : Option Key) :
  (rehash hash id old new).lookup = assign (forget hash.lookup old) id new := by
  rw [rehash, lookup_insertKey, lookup_eraseKey]

end Hashes

namespace SmfContext

variable (context : SmfContext)

def init (maxUe maxSess : ℕ) : SmfContext where
  smfUeList := .empty 1
  supiHash := ∅
  imsiHash := ∅
  sessList := .empty 1
  smfN4SeidHash := ∅
  ipv4Hash := ∅
  ipv6Hash := ∅
  n1n2messageHash := ∅
  sessIndex := 1
  n4SeidGenerator := 1
  maxNumOfUe := maxUe
  maxNumOfSess := maxSess
  ipv4Pool := .new 10 45

section Lookups

variable (context : SmfContext)

def ueFindById (id : ℕ) : Option SmfUe := context.smfUeList.lookup id

def ueFindBySupi (supi : String) : Option SmfUe :=
  (context.supiHash.lookup supi).bind context.ueFindById

def ueFindByImsi (imsi : Bytes) : Option SmfUe :=
  (context.imsiHash.lookup imsi).bind context.ueFindById

def sessFindById (id : ℕ) : Option SmfSess := context.sessList.lookup id

def sessFindBySeid (seid : ℕ) : Option SmfSess :=
  (context.smfN4SeidHash.lookup seid).bind context.sessFindById

def sessFindByTeid (teid : UInt32) : Option SmfSess := context.sessFindBySeid teid.toNat

def sessFindByIpv4 (addr : Ipv4Addr) : Option SmfSess :=
  (context.ipv4Hash.lookup addr).bind context.sessFindById

def sessFindByIpv6 (addr : Vector UInt8 8) : Option SmfSess :=
  (context.ipv6Hash.lookup addr).bind context.sessFindById

def sessFindByPagingN1n2messageLocation (location : String) : Option SmfSess :=
  (context.n1n2messageHash.lookup location).bind context.sessFindById

end Lookups

def ueAdd (build : ℕ → SmfUe) (built : ∀ id, (build id).id = id) : Option (SmfContext × SmfUe) :=
  if context.maxNumOfUe ≤ context.smfUeList.size then none
  else
    some ({ context with smfUeList := context.smfUeList.allocate build built },
      build context.smfUeList.next)

def ueAddBySupi (supi : String) : Option (SmfContext × SmfUe) :=
  (context.ueAdd (fun id => { SmfUe.new id with supi := some supi }) (fun _ => rfl)).map
    fun (next, ue) => ({ next with supiHash := next.supiHash.insert supi ue.id }, ue)

def ueAddByImsi (imsi : Bytes) : Option (SmfContext × SmfUe) :=
  (context.ueAdd (fun id => { SmfUe.new id with imsi := imsi }) (fun _ => rfl)).map
    fun (next, ue) => ({ next with imsiHash := next.imsiHash.insert imsi ue.id }, ue)

def ueUpdate (ue : SmfUe) : SmfContext :=
  { context with smfUeList := context.smfUeList.update ue }

/-- `smf_ue_list.get_mut(&id)`, with a change of the session identifiers. -/
def withSessIds (ueId : ℕ) (change : List ℕ → List ℕ) : SmfContext :=
  { context with
    smfUeList :=
      match context.ueFindById ueId with
      | none => context.smfUeList
      | some ue => context.smfUeList.update { ue with sessIds := change ue.sessIds } }

def blankSess (smfUeId id : ℕ) : SmfSess :=
  { SmfSess.new id (UInt32.ofNat context.sessIndex) smfUeId with
    smfN4Seid := context.n4SeidGenerator
    smfN4Teid := UInt32.ofNat context.n4SeidGenerator
    chargingId := UInt32.ofNat context.sessIndex }

def storeSess (build : ℕ → SmfSess) (built : ∀ id, (build id).id = id) : SmfContext :=
  { context with
    sessIndex := context.sessIndex + 1
    n4SeidGenerator := context.n4SeidGenerator + 1
    smfN4SeidHash := context.smfN4SeidHash.insert context.n4SeidGenerator context.sessList.next
    sessList := context.sessList.allocate build built }

/-- `fill` sets the fields in which the two ways of adding a session differ. -/
def sessAdd (smfUeId : ℕ) (fill : SmfSess → SmfSess) (filled : ∀ sess, (fill sess).id = sess.id) :
  Option (SmfContext × SmfSess) :=
  if context.maxNumOfSess ≤ context.sessList.size then none
  else
    let id := context.sessList.next
    let build := fun id => fill (context.blankSess smfUeId id)
    some ((context.storeSess build (fun _ => filled _)).withSessIds smfUeId (· ++ [id]), build id)

def sessAddByPsi (smfUeId : ℕ) (psi : UInt8) : Option (SmfContext × SmfSess) :=
  context.sessAdd smfUeId
    (fun sess =>
      { sess with
        psi := psi
        smContextRef := some (toString sess.index.toNat)
        pduSessionRef := some (toString sess.index.toNat) })
    (fun _ => rfl)

def sessAddByApn (smfUeId : ℕ) (apn : String) (ratType : UInt8) : Option (SmfContext × SmfSess) :=
  context.sessAdd smfUeId
    (fun sess => { sess with epc := true, sessionName := some apn, gtpRatType := ratType })
    (fun _ => rfl)

def releaseAddr (pool : Ipv4Pool) : Option Ipv4Addr → Ipv4Pool
  | none => pool
  | some addr => (pool.release addr).2

def dropSess (sess : SmfSess) : SmfContext :=
  { context with
    sessList := context.sessList.erase sess.id
    smfN4SeidHash := eraseKey context.smfN4SeidHash (some sess.smfN4Seid)
    ipv4Hash := eraseKey context.ipv4Hash sess.ipv4Addr
    ipv4Pool := releaseAddr context.ipv4Pool sess.ipv4Addr
    ipv6Hash := eraseKey context.ipv6Hash sess.ipv6Key
    n1n2messageHash := eraseKey context.n1n2messageHash sess.pagingN1n2messageLocation }

def sessRemove (id : ℕ) : SmfContext :=
  match context.sessFindById id with
  | none => context
  | some sess => (context.dropSess sess).withSessIds sess.smfUeId (·.filter (· ≠ id))

/-- The sessions of a UE that `sess_remove_all_for_ue` collects. -/
def sessIdsOf (ueId : ℕ) : List ℕ :=
  (context.sessList.records.filter fun sess => sess.smfUeId = ueId).map SmfSess.id

def removalOrder (ueId : ℕ) (order : List ℕ) : List ℕ :=
  if order.Perm (context.sessIdsOf ueId) then order else context.sessIdsOf ueId

def sessRemoveAllForUe (ueId : ℕ) (order : List ℕ) : SmfContext :=
  (context.removalOrder ueId order).foldl sessRemove context

def dropUe (id : ℕ) : SmfContext :=
  match context.ueFindById id with
  | none => context
  | some ue =>
    { context with
      smfUeList := context.smfUeList.erase id
      supiHash := eraseKey context.supiHash ue.supi
      imsiHash := if ue.imsi.isEmpty then context.imsiHash else context.imsiHash.erase ue.imsi }

def ueRemove (id : ℕ) (order : List ℕ) : SmfContext :=
  (context.sessRemoveAllForUe id order).dropUe id

def ueRemoveAll : SmfContext :=
  { context with
    smfUeList := context.smfUeList.clear
    supiHash := ∅
    imsiHash := ∅
    sessList := context.sessList.clear
    smfN4SeidHash := ∅
    ipv4Hash := ∅
    ipv6Hash := ∅
    n1n2messageHash := ∅ }

/-- The IPv6 table is keyed by the prefix, but it is the whole field that is
compared. -/
def sessUpdate (sess : SmfSess) : SmfContext :=
  match context.sessFindById sess.id with
  | none => context
  | some existing =>
    { context with
      ipv4Hash :=
        if existing.ipv4Addr = sess.ipv4Addr then context.ipv4Hash
        else rehash context.ipv4Hash sess.id existing.ipv4Addr sess.ipv4Addr
      ipv6Hash :=
        if existing.ipv6Prefix = sess.ipv6Prefix then context.ipv6Hash
        else rehash context.ipv6Hash sess.id existing.ipv6Key sess.ipv6Key
      n1n2messageHash :=
        if existing.pagingN1n2messageLocation = sess.pagingN1n2messageLocation then
          context.n1n2messageHash
        else
          rehash context.n1n2messageHash sess.id existing.pagingN1n2messageLocation
            sess.pagingN1n2messageLocation
      sessList := context.sessList.update sess }

end SmfContext

inductive SmfOperation where
  | ueAddBySupi (supi : String)
  | ueAddByImsi (imsi : Bytes)
  | ueUpdate (ue : SmfUe)
  | ueRemove (id : ℕ) (order : List ℕ)
  | ueRemoveAll
  | sessAddByPsi (smfUeId : ℕ) (psi : UInt8)
  | sessAddByApn (smfUeId : ℕ) (apn : String) (ratType : UInt8)
  | sessUpdate (sess : SmfSess)
  | sessRemove (id : ℕ)
  | allocate
  | release (addr : Ipv4Addr)

def SmfContext.orElse {Value : Type} (context : SmfContext) :
    Option (SmfContext × Value) → SmfContext
  | none => context
  | some (next, _) => next

def SmfContext.operate (context : SmfContext) : SmfOperation → SmfContext
  | .ueAddBySupi supi => context.orElse (context.ueAddBySupi supi)
  | .ueAddByImsi imsi => context.orElse (context.ueAddByImsi imsi)
  | .ueUpdate ue => context.ueUpdate ue
  | .ueRemove id order => context.ueRemove id order
  | .ueRemoveAll => context.ueRemoveAll
  | .sessAddByPsi smfUeId psi => context.orElse (context.sessAddByPsi smfUeId psi)
  | .sessAddByApn smfUeId apn ratType => context.orElse (context.sessAddByApn smfUeId apn ratType)
  | .sessUpdate sess => context.sessUpdate sess
  | .sessRemove id => context.sessRemove id
  | .allocate =>
    match context.ipv4Pool.allocate with
    | none => context
    | some (_, pool) => { context with ipv4Pool := pool }
  | .release addr => { context with ipv4Pool := (context.ipv4Pool.release addr).2 }

def SmfContext.machine : Machine SmfContext SmfOperation Unit where
  step context operation := (context.operate operation, ())

end NextGCore.Smf
