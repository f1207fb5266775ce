import NextGCore.Library.Machine
import NextGCore.Library.NamedTable
import NextGCore.Upf.DataPlane

/-!
# The session manager

The sessions of the data plane are shared by three maps: by their SEID, by their uplink TEID and
by the address of their UE.  A session that is added is a new allocation, also when one with the
same SEID is there.
-/

namespace NextGCore.Upf

open Library

structure SharedSession where
  arc : ℕ
  session : DataPlaneSession
  deriving DecidableEq

/-- What `std::mem::take` leaves in a session: its rules and its buffer are gone. -/
def DataPlaneSession.taken (session : DataPlaneSession) : DataPlaneSession :=
  { session with
    pdrs := [], fars := .empty, qers := .empty, urrs := .empty, bars := .empty, dlBuffer := [] }

structure SessionManager where
  arcs : List DataPlaneSession
  seidMap : AList (fun _ : UInt64 => ℕ)
  ulTeidMap : AList (fun _ : UInt32 => ℕ)
  ueIpMap : AList (fun _ : UInt32 => ℕ)

namespace SessionManager

variable (manager : SessionManager)

def new : SessionManager := ⟨[], ∅, ∅, ∅⟩

def share (arc : ℕ) : Option SharedSession :=
  manager.arcs[arc]?.map fun session => ⟨arc, session⟩

def findBySeid (seid : UInt64) : Option SharedSession :=
  (manager.seidMap.lookup seid).bind manager.share

def findByUlTeid (teid : UInt32) : Option SharedSession :=
  (manager.ulTeidMap.lookup teid).bind manager.share

def findByUeIp (ip : UInt32) : Option SharedSession :=
  (manager.ueIpMap.lookup ip).bind manager.share

def write (arc : ℕ) (session : DataPlaneSession) : SessionManager :=
  { manager with arcs := manager.arcs.set arc session }

def addSession (session : DataPlaneSession) : SessionManager :=
  let arc := manager.arcs.length
  {
    arcs := manager.arcs ++ [session]
    seidMap := manager.seidMap.insert session.upfSeid arc
    ulTeidMap := manager.ulTeidMap.insert session.ulTeid arc
    ueIpMap := name manager.ueIpMap arc session.ueIpv4
  }

def removeSessionBySeid (seid : UInt64) : SessionManager :=
  match manager.findBySeid seid with
  | none => manager
  | some gone =>
    { manager with
      seidMap := manager.seidMap.erase seid
      ulTeidMap := manager.ulTeidMap.erase gone.session.ulTeid
      ueIpMap := unname manager.ueIpMap gone.session.ueIpv4 }

def removeSession (ulTeid : UInt32) : SessionManager :=
  match manager.findByUlTeid ulTeid with
  | none => manager
  | some gone =>
    { manager with
      ulTeidMap := manager.ulTeidMap.erase ulTeid
      seidMap := manager.seidMap.erase gone.session.upfSeid
      ueIpMap := unname manager.ueIpMap gone.session.ueIpv4 }

def updateSessionFromPfcp (manager : SessionManager) (upfSeid : UInt64) (dlTeid : Option UInt32)
  (gnbAddr : Option SocketAddr) : SessionManager :=
  match manager.findBySeid upfSeid with
  | none => manager
  | some old =>
    ((manager.write old.arc old.session.taken).removeSessionBySeid upfSeid).addSession
      (old.session.updateSessionFromPfcp dlTeid gnbAddr)

end SessionManager

inductive SessionOp where
  | addSession (session : DataPlaneSession)
  | removeSessionBySeid (seid : UInt64)
  | removeSession (ulTeid : UInt32)
  | updateSessionFromPfcp (upfSeid : UInt64) (dlTeid : Option UInt32)
      (gnbAddr : Option SocketAddr)

def SessionOp.apply (manager : SessionManager) : SessionOp → SessionManager
  | .addSession session => manager.addSession session
  | .removeSessionBySeid seid => manager.removeSessionBySeid seid
  | .removeSession ulTeid => manager.removeSession ulTeid
  | .updateSessionFromPfcp upfSeid dlTeid gnbAddr =>
    manager.updateSessionFromPfcp upfSeid dlTeid gnbAddr

def sessions : Machine SessionManager SessionOp Unit where
  step manager op := (op.apply manager, ())

end NextGCore.Upf
