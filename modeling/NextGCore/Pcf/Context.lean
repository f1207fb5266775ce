import NextGCore.Library.NamedTable
import NextGCore.Sbi.IpAddress

/-!
# The context of the PCF

The AM and SM policy associations of `context.rs`, the sessions of a UE and the application
sessions of a session, with the hash maps that find them.  A removal takes with it what the
removed one owns, on one path for a session and on another for all sessions of a UE.
-/

namespace NextGCore.Pcf

open Library Sbi

structure PcfUeAm where
  id : ℕ
  associationId : String
  supi : String

structure PcfUeSm where
  id : ℕ
  supi : String
  sessIds : List ℕ

structure PcfSess where
  id : ℕ
  smPolicyId : String
  psi : UInt8
  ipv6prefixString : Option String
  ipv4addr : UInt32
  appIds : List ℕ
  pcfUeSmId : ℕ
  deriving DecidableEq

structure PcfApp where
  id : ℕ
  appSessionId : String
  sessId : ℕ
  deriving DecidableEq

/-- A policy association, a session and an application session each have a new UUID. -/
def PcfUeAm.new (supi uuid : String) (id : ℕ) : PcfUeAm := ⟨id, uuid, supi⟩

def PcfUeSm.new (supi : String) (id : ℕ) : PcfUeSm := ⟨id, supi, []⟩

def PcfSess.new (pcfUeSmId : ℕ) (psi : UInt8) (uuid : String) (id : ℕ) : PcfSess :=
  ⟨id, uuid, psi, none, 0, [], pcfUeSmId⟩

def PcfApp.new (sessId : ℕ) (uuid : String) (id : ℕ) : PcfApp := ⟨id, uuid, sessId⟩

lemma PcfUeAm.new_id (supi uuid : String) (id : ℕ) : (PcfUeAm.new supi uuid id).id = id := rfl

lemma PcfUeSm.new_id (supi : String) (id : ℕ) : (PcfUeSm.new supi id).id = id := rfl

lemma PcfSess.new_id (pcfUeSmId : ℕ) (psi : UInt8) (uuid : String) (id : ℕ) :
  (PcfSess.new pcfUeSmId psi uuid id).id = id := rfl

lemma PcfApp.new_id (sessId : ℕ) (uuid : String) (id : ℕ) :
  (PcfApp.new sessId uuid id).id = id := rfl

def PcfSess.ipv4Key (sess : PcfSess) : Option UInt32 :=
  if sess.ipv4addr = 0 then none else some sess.ipv4addr

structure PcfContext where
  ueAmList : NumberedTable PcfUeAm PcfUeAm.id
  ueSmList : NumberedTable PcfUeSm PcfUeSm.id
  sessList : NumberedTable PcfSess PcfSess.id
  appList : NumberedTable PcfApp PcfApp.id
  supiAmHash : AList (fun _ : String => ℕ)
  supiSmHash : AList (fun _ : String => ℕ)
  ipv4addrHash : AList (fun _ : UInt32 => ℕ)
  ipv6prefixHash : AList (fun _ : String => ℕ)
  associationIdHash : AList (fun _ : String => ℕ)
  smPolicyIdHash : AList (fun _ : String => ℕ)
  appSessionIdHash : AList (fun _ : String => ℕ)
  maxNumOfUe : ℕ
  maxNumOfSess : ℕ

namespace PcfContext

def init (maxUe maxSess : ℕ) : PcfContext where
  ueAmList := .empty 1
  ueSmList := .empty 1
  sessList := .empty 1
  appList := .empty 1
  supiAmHash := ∅
  supiSmHash := ∅
  ipv4addrHash := ∅
  ipv6prefixHash := ∅
  associationIdHash := ∅
  smPolicyIdHash := ∅
  appSessionIdHash := ∅
  maxNumOfUe := maxUe
  maxNumOfSess := maxSess

variable (context : PcfContext)

def ueAmFindById (id : ℕ) : Option PcfUeAm := context.ueAmList.lookup id

def ueAmFindBySupi (supi : String) : Option PcfUeAm :=
  (context.supiAmHash.lookup supi).bind context.ueAmFindById

def ueAmFindByAssociationId (associationId : String) : Option PcfUeAm :=
  (context.associationIdHash.lookup associationId).bind context.ueAmFindById

def ueSmFindById (id : ℕ) : Option PcfUeSm := context.ueSmList.lookup id

def ueSmFindBySupi (supi : String) : Option PcfUeSm :=
  (context.supiSmHash.lookup supi).bind context.ueSmFindById

def sessFindById (id : ℕ) : Option PcfSess := context.sessList.lookup id

def sessFindBySmPolicyId (smPolicyId : String) : Option PcfSess :=
  (context.smPolicyIdHash.lookup smPolicyId).bind context.sessFindById

def sessFindByPsi (pcfUeSmId : ℕ) (psi : UInt8) : Option PcfSess :=
  context.sessList.records.find? fun sess => sess.pcfUeSmId = pcfUeSmId ∧ sess.psi = psi

def sessFindByIpv4Key (ipv4addr : UInt32) : Option PcfSess :=
  (context.ipv4addrHash.lookup ipv4addr).bind context.sessFindById

def sessFindByIpv4addr (ipv4addrString : String) : Option PcfSess :=
  (parseIpv4 ipv4addrString).bind context.sessFindByIpv4Key

def sessFindByIpv6addr (ipv6prefixString : String) : Option PcfSess :=
  (context.ipv6prefixHash.lookup ipv6prefixString).bind context.sessFindById

def appFindById (id : ℕ) : Option PcfApp := context.appList.lookup id

def appFindByAppSessionId (appSessionId : String) : Option PcfApp :=
  (context.appSessionIdHash.lookup appSessionId).bind context.appFindById

def ueAmAdd (supi uuid : String) : PcfContext × Option PcfUeAm :=
  if context.maxNumOfUe ≤ context.ueAmList.size then (context, none)
  else
    let ueAm := PcfUeAm.new supi uuid context.ueAmList.next
    ({ context with
        supiAmHash := context.supiAmHash.insert supi ueAm.id
        associationIdHash := context.associationIdHash.insert ueAm.associationId ueAm.id
        ueAmList := context.ueAmList.allocate (.new supi uuid) (PcfUeAm.new_id supi uuid) },
      some ueAm)

def ueAmRemove (id : ℕ) : PcfContext × Option PcfUeAm :=
  match context.ueAmFindById id with
  | none => (context, none)
  | some ueAm =>
    ({ context with
        ueAmList := context.ueAmList.erase id
        supiAmHash := context.supiAmHash.erase ueAm.supi
        associationIdHash := context.associationIdHash.erase ueAm.associationId },
      some ueAm)

def ueSmAdd (supi : String) : PcfContext × Option PcfUeSm :=
  if context.maxNumOfUe ≤ context.ueSmList.size then (context, none)
  else
    let ueSm := PcfUeSm.new supi context.ueSmList.next
    ({ context with
        supiSmHash := context.supiSmHash.insert supi ueSm.id
        ueSmList := context.ueSmList.allocate (.new supi) (PcfUeSm.new_id supi) },
      some ueSm)

def sessRemoveAllForUe (pcfUeSmId : ℕ) : PcfContext :=
  let sessIds :=
    (context.sessList.records.filter fun sess => sess.pcfUeSmId = pcfUeSmId).map PcfSess.id
  { context with sessList := sessIds.foldl NumberedTable.erase context.sessList }

def ueSmRemove (id : ℕ) : PcfContext × Option PcfUeSm :=
  match context.ueSmFindById id with
  | none => (context, none)
  | some ueSm =>
    let removed := { context with
      ueSmList := context.ueSmList.erase id
      supiSmHash := context.supiSmHash.erase ueSm.supi }
    (removed.sessRemoveAllForUe id, some ueSm)

/-- `get_mut` on the list of UEs, and a change of the sessions of the UE. -/
def changeSessIds (pcfUeSmId : ℕ) (change : List ℕ → List ℕ) : NumberedTable PcfUeSm PcfUeSm.id :=
  match context.ueSmFindById pcfUeSmId with
  | none => context.ueSmList
  | some ueSm => context.ueSmList.update { ueSm with sessIds := change ueSm.sessIds }

def sessAdd (pcfUeSmId : ℕ) (psi : UInt8) (uuid : String) : PcfContext × Option PcfSess :=
  if context.maxNumOfSess ≤ context.sessList.size then (context, none)
  else
    let sess := PcfSess.new pcfUeSmId psi uuid context.sessList.next
    ({ context with
        smPolicyIdHash := context.smPolicyIdHash.insert sess.smPolicyId sess.id
        sessList := context.sessList.allocate (.new pcfUeSmId psi uuid)
          (PcfSess.new_id pcfUeSmId psi uuid)
        ueSmList := context.changeSessIds pcfUeSmId fun sessIds => sessIds ++ [sess.id] },
      some sess)

def appRemoveAllForSess (sessId : ℕ) : PcfContext :=
  let appIds := (context.appList.records.filter fun app => app.sessId = sessId).map PcfApp.id
  { context with appList := appIds.foldl NumberedTable.erase context.appList }

def sessRemove (id : ℕ) : PcfContext × Option PcfSess :=
  match context.sessFindById id with
  | none => (context, none)
  | some sess =>
    let removed := { context with
      sessList := context.sessList.erase id
      smPolicyIdHash := context.smPolicyIdHash.erase sess.smPolicyId
      ipv4addrHash := unname context.ipv4addrHash sess.ipv4Key
      ipv6prefixHash := unname context.ipv6prefixHash sess.ipv6prefixString
      ueSmList := context.changeSessIds sess.pcfUeSmId fun sessIds => sessIds.filter (· ≠ id) }
    (removed.appRemoveAllForSess id, some sess)

def sessUpdate (sess : PcfSess) : PcfContext × Bool :=
  match context.sessFindById sess.id with
  | none => (context, false)
  | some existing =>
    ({ context with
        ipv4addrHash :=
          if existing.ipv4addr ≠ sess.ipv4addr then
            name (unname context.ipv4addrHash existing.ipv4Key) sess.id sess.ipv4Key
          else context.ipv4addrHash
        ipv6prefixHash :=
          if existing.ipv6prefixString ≠ sess.ipv6prefixString then
            name (unname context.ipv6prefixHash existing.ipv6prefixString) sess.id
              sess.ipv6prefixString
          else context.ipv6prefixHash
        sessList := context.sessList.update sess },
      true)

/-- `get_mut` on the list of sessions, and a change of the application sessions. -/
def changeAppIds (sessId : ℕ) (change : List ℕ → List ℕ) : NumberedTable PcfSess PcfSess.id :=
  match context.sessFindById sessId with
  | none => context.sessList
  | some sess => context.sessList.update { sess with appIds := change sess.appIds }

def appAdd (sessId : ℕ) (uuid : String) : PcfContext × PcfApp :=
  let app := PcfApp.new sessId uuid context.appList.next
  ({ context with
      appSessionIdHash := context.appSessionIdHash.insert app.appSessionId app.id
      appList := context.appList.allocate (.new sessId uuid) (PcfApp.new_id sessId uuid)
      sessList := context.changeAppIds sessId fun appIds => appIds ++ [app.id] },
    app)

def appRemove (id : ℕ) : PcfContext × Option PcfApp :=
  match context.appFindById id with
  | none => (context, none)
  | some app =>
    ({ context with
        appList := context.appList.erase id
        appSessionIdHash := context.appSessionIdHash.erase app.appSessionId
        sessList := context.changeAppIds app.sessId fun appIds => appIds.filter (· ≠ id) },
      some app)

end PcfContext

inductive PcfOperation where
  | ueAmAdd (supi uuid : String)
  | ueAmRemove (id : ℕ)
  | ueSmAdd (supi : String)
  | ueSmRemove (id : ℕ)
  | sessAdd (pcfUeSmId : ℕ) (psi : UInt8) (uuid : String)
  | sessRemove (id : ℕ)
  | sessUpdate (sess : PcfSess)
  | appAdd (sessId : ℕ) (uuid : String)
  | appRemove (id : ℕ)

def PcfContext.operate (context : PcfContext) : PcfOperation → PcfContext
  | .ueAmAdd supi uuid => (context.ueAmAdd supi uuid).1
  | .ueAmRemove id => (context.ueAmRemove id).1
  | .ueSmAdd supi => (context.ueSmAdd supi).1
  | .ueSmRemove id => (context.ueSmRemove id).1
  | .sessAdd pcfUeSmId psi uuid => (context.sessAdd pcfUeSmId psi uuid).1
  | .sessRemove id => (context.sessRemove id).1
  | .sessUpdate sess => (context.sessUpdate sess).1
  | .appAdd sessId uuid => (context.appAdd sessId uuid).1
  | .appRemove id => (context.appRemove id).1

end NextGCore.Pcf
