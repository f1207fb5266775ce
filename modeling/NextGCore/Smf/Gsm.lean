import Mathlib.Data.UInt
import NextGCore.Library.Machine

/-!
# The 5GSM state machine of a session

`GsmFsm` of `gsm_sm.rs`, with the parts of `SmfEvent` that it reads.  One input of
the machine is an event that is dispatched or a call that marks a request as in
flight.
-/

namespace NextGCore.Smf

open Library

inductive SmfEventId where
  | fsmEntry
  | fsmExit
  | s5cMessage
  | s6bMessage
  | gnMessage
  | gxMessage
  | gyMessage
  | n4Message
  | n4Timer
  | n4NoHeartbeat
  | ngapMessage
  | ngapTimer
  | gsmMessage
  | gsmTimer
  | sessionRelease
  | sbiServer
  | sbiClient
  | sbiTimer
  deriving DecidableEq

inductive SmfTimerId where
  | nfInstanceRegistrationInterval
  | nfInstanceHeartbeatInterval
  | nfInstanceNoHeartbeat
  | nfInstanceValidity
  | subscriptionValidity
  | subscriptionPatch
  | sbiClientWait
  | pfcpAssociation
  | pfcpNoHeartbeat
  | pfcpNoEstablishmentResponse
  | pfcpNoDeletionResponse
  deriving DecidableEq

structure SbiMessage where
  serviceName : String
  resourceComponents : List String
  resStatus : Option ℕ

structure SbiEventData where
  message : Option SbiMessage

structure PfcpEventData where
  pfcpXactId : Option ℕ

structure DiameterEventData where
  ccRequestType : Option UInt32
  resultCode : Option UInt32

structure SmfEvent where
  id : SmfEventId
  timerId : Option SmfTimerId
  sbi : Option SbiEventData
  pfcp : Option PfcpEventData
  diameter : Option DiameterEventData

def SmfEvent.sbiMessage (event : SmfEvent) : Option SbiMessage :=
  event.sbi.bind SbiEventData.message

inductive GsmState where
  | initial
  | waitEpcAuthInitial
  | wait5gcSmPolicyAssociation
  | waitPfcpEstablishment
  | operational
  | waitPfcpDeletion
  | waitEpcAuthRelease
  | wait5gcN1N2Release
  | n1N2Reject5gc
  | sessionWillDeregister5gc
  | sessionWillRelease
  | exception
  | final
  deriving DecidableEq

structure SmData where
  s6bAarInFlight : Bool
  gxCcrInitInFlight : Bool
  gyCcrInitInFlight : Bool
  gxCcrTermInFlight : Bool
  gyCcrTermInFlight : Bool
  s6bStrInFlight : Bool
  s6bAaaErr : UInt32
  gxCcaInitErr : UInt32
  gyCcaInitErr : UInt32

def SmData.default : SmData := ⟨false, false, false, false, false, false, 0, 0, 0⟩

structure GsmFsm where
  state : GsmState
  sessId : ℕ
  smData : SmData

inductive GsmFsmResult where
  | handled
  | ignored
  | transition (state : GsmState)
  | error

def diameterSuccess : UInt32 := 2001

namespace GsmFsm

variable (event : SmfEvent) (fsm : GsmFsm)

def new (sessId : ℕ) : GsmFsm := ⟨.initial, sessId, .default⟩

def handleSbiServerInitial : GsmFsmResult :=
  match event.sbiMessage with
  | none => .handled
  | some message =>
    if message.serviceName = "nsmf-pdusession" ∧
        message.resourceComponents.head? = some "sm-contexts" then
      .transition .wait5gcSmPolicyAssociation
    else .handled

def handleInitial (event : SmfEvent) : GsmFsm × GsmFsmResult :=
  match event.id with
  | .fsmEntry => ({ fsm with smData := .default }, .handled)
  | .fsmExit => (fsm, .handled)
  | .gnMessage | .s5cMessage => (fsm, .transition .waitEpcAuthInitial)
  | .sbiServer => (fsm, handleSbiServerInitial event)
  | .gsmMessage => (fsm, .transition .wait5gcSmPolicyAssociation)
  | _ => (fsm, .ignored)

def checkEpcAuthComplete (data : SmData) : GsmFsmResult :=
  if !data.s6bAarInFlight && !data.gxCcrInitInFlight && !data.gyCcrInitInFlight then
    if (data.s6bAaaErr = diameterSuccess ∨ data.s6bAaaErr = 0) ∧
        (data.gxCcaInitErr = diameterSuccess ∨ data.gxCcaInitErr = 0) ∧
        (data.gyCcaInitErr = diameterSuccess ∨ data.gyCcaInitErr = 0) then
      .transition .waitPfcpEstablishment
    else .transition .exception
  else .handled

/-- The code that an answer leaves: its own, 0 if it has none, and the code from
before if the event has no Diameter data. -/
def codeAfter (before : UInt32) (event : SmfEvent) : UInt32 :=
  match event.diameter with
  | none => before
  | some diameter => diameter.resultCode.getD 0

def handleWaitEpcAuthInitial (event : SmfEvent) : GsmFsm × GsmFsmResult :=
  match event.id with
  | .fsmEntry | .fsmExit => (fsm, .handled)
  | .s6bMessage =>
    let data := { fsm.smData with
      s6bAarInFlight := false, s6bAaaErr := codeAfter fsm.smData.s6bAaaErr event }
    ({ fsm with smData := data }, checkEpcAuthComplete data)
  | .gxMessage =>
    let data := { fsm.smData with
      gxCcrInitInFlight := false, gxCcaInitErr := codeAfter fsm.smData.gxCcaInitErr event }
    ({ fsm with smData := data }, checkEpcAuthComplete data)
  | .gyMessage =>
    let data := { fsm.smData with
      gyCcrInitInFlight := false, gyCcaInitErr := codeAfter fsm.smData.gyCcaInitErr event }
    ({ fsm with smData := data }, checkEpcAuthComplete data)
  | _ => (fsm, .ignored)

def handleSbiClientSmPolicy : GsmFsmResult :=
  match event.sbiMessage with
  | none => .handled
  | some message =>
    if message.serviceName = "nudm-sdm" then
      match message.resStatus with
      | none => .handled
      | some status => if status = 200 then .handled else .transition .exception
    else if message.serviceName = "npcf-smpolicycontrol" then
      match message.resStatus with
      | none => .handled
      | some status =>
        if status = 201 then .transition .waitPfcpEstablishment
        else .transition .n1N2Reject5gc
    else .handled

def handleWait5gcSmPolicyAssociation : GsmFsmResult :=
  match event.id with
  | .fsmEntry | .fsmExit => .handled
  | .sbiClient => handleSbiClientSmPolicy event
  | _ => .ignored

def handlePfcpEstablishmentResponse : GsmFsmResult :=
  if event.pfcp.isSome then .transition .operational else .handled

def handleWaitPfcpEstablishment : GsmFsmResult :=
  match event.id with
  | .fsmEntry | .fsmExit => .handled
  | .n4Message => handlePfcpEstablishmentResponse event
  | .n4Timer =>
    if event.timerId = some .pfcpNoEstablishmentResponse then .transition .n1N2Reject5gc
    else .handled
  | _ => .ignored

def handleGyOperational : GsmFsmResult :=
  match event.diameter with
  | none => .handled
  | some diameter =>
    if diameter.ccRequestType = some 2 ∧ diameter.resultCode.getD 0 ≠ diameterSuccess then
      .transition .waitPfcpDeletion
    else .handled

def handleSbiServerOperational : GsmFsmResult :=
  match event.sbiMessage with
  | none => .handled
  | some message =>
    if message.serviceName = "nsmf-pdusession" ∧
        message.resourceComponents[2]? = some "release" then
      .transition .waitPfcpDeletion
    else .handled

def handleOperational : GsmFsmResult :=
  match event.id with
  | .fsmEntry | .fsmExit => .handled
  | .gnMessage => .transition .waitPfcpDeletion
  | .s5cMessage | .n4Message => .handled
  | .gyMessage => handleGyOperational event
  | .sbiServer => handleSbiServerOperational event
  | _ => .ignored

def handleWaitPfcpDeletion : GsmFsmResult :=
  match event.id with
  | .fsmEntry | .fsmExit => .handled
  | .n4Message => .transition .waitEpcAuthRelease
  | .n4Timer =>
    if event.timerId = some .pfcpNoDeletionResponse then .transition .sessionWillRelease
    else .handled
  | _ => .ignored

def checkEpcAuthReleaseComplete (data : SmData) : GsmFsmResult :=
  if !data.s6bStrInFlight && !data.gxCcrTermInFlight && !data.gyCcrTermInFlight then
    .transition .sessionWillRelease
  else .handled

def handleWaitEpcAuthRelease (event : SmfEvent) : GsmFsm × GsmFsmResult :=
  match event.id with
  | .fsmEntry | .fsmExit => (fsm, .handled)
  | .s6bMessage =>
    let data := { fsm.smData with s6bStrInFlight := false }
    ({ fsm with smData := data }, checkEpcAuthReleaseComplete data)
  | .gxMessage =>
    let data := { fsm.smData with gxCcrTermInFlight := false }
    ({ fsm with smData := data }, checkEpcAuthReleaseComplete data)
  | .gyMessage =>
    let data := { fsm.smData with gyCcrTermInFlight := false }
    ({ fsm with smData := data }, checkEpcAuthReleaseComplete data)
  | _ => (fsm, .ignored)

def handleWait5gcN1N2Release : GsmFsmResult :=
  match event.id with
  | .fsmEntry | .fsmExit | .sbiServer | .ngapMessage => .handled
  | .gsmMessage => .transition .sessionWillDeregister5gc
  | _ => .ignored

def handle5gcN1N2Reject : GsmFsmResult :=
  match event.id with
  | .fsmEntry | .fsmExit => .handled
  | .sbiClient => .transition .sessionWillRelease
  | _ => .ignored

def handle5gcSessionWillDeregister : GsmFsmResult :=
  match event.id with
  | .fsmEntry | .fsmExit => .handled
  | .sbiClient => .transition .sessionWillRelease
  | _ => .ignored

def handleSessionWillRelease : GsmFsmResult :=
  match event.id with
  | .fsmEntry | .fsmExit => .handled
  | _ => .ignored

def handleException : GsmFsmResult :=
  match event.id with
  | .fsmEntry | .fsmExit => .handled
  | _ => .ignored

def handle (event : SmfEvent) : GsmFsm × GsmFsmResult :=
  match fsm.state with
  | .initial => fsm.handleInitial event
  | .waitEpcAuthInitial => fsm.handleWaitEpcAuthInitial event
  | .wait5gcSmPolicyAssociation => (fsm, handleWait5gcSmPolicyAssociation event)
  | .waitPfcpEstablishment => (fsm, handleWaitPfcpEstablishment event)
  | .operational => (fsm, handleOperational event)
  | .waitPfcpDeletion => (fsm, handleWaitPfcpDeletion event)
  | .waitEpcAuthRelease => fsm.handleWaitEpcAuthRelease event
  | .wait5gcN1N2Release => (fsm, handleWait5gcN1N2Release event)
  | .n1N2Reject5gc => (fsm, handle5gcN1N2Reject event)
  | .sessionWillDeregister5gc => (fsm, handle5gcSessionWillDeregister event)
  | .sessionWillRelease => (fsm, handleSessionWillRelease event)
  | .exception => (fsm, handleException event)
  | .final => (fsm, .ignored)

def stateAfter (state : GsmState) : GsmFsmResult → GsmState
  | .transition next => next
  | _ => state

def dispatch (event : SmfEvent) : GsmFsm × GsmFsmResult :=
  let answer := fsm.handle event
  ({ answer.1 with state := stateAfter fsm.state answer.2 }, answer.2)

def setS6bAarInFlight (inFlight : Bool) : GsmFsm :=
  { fsm with smData := { fsm.smData with s6bAarInFlight := inFlight } }

def setGxCcrInitInFlight (inFlight : Bool) : GsmFsm :=
  { fsm with smData := { fsm.smData with gxCcrInitInFlight := inFlight } }

def setGyCcrInitInFlight (inFlight : Bool) : GsmFsm :=
  { fsm with smData := { fsm.smData with gyCcrInitInFlight := inFlight } }

def setGxCcrTermInFlight (inFlight : Bool) : GsmFsm :=
  { fsm with smData := { fsm.smData with gxCcrTermInFlight := inFlight } }

def setGyCcrTermInFlight (inFlight : Bool) : GsmFsm :=
  { fsm with smData := { fsm.smData with gyCcrTermInFlight := inFlight } }

def setS6bStrInFlight (inFlight : Bool) : GsmFsm :=
  { fsm with smData := { fsm.smData with s6bStrInFlight := inFlight } }

end GsmFsm

inductive EpcInterface where
  | s6b
  | gx
  | gy
  deriving DecidableEq

/-- The requests on an interface: the one of the establishment (AAR, CCR-Initial) and
the one of the release (STR, CCR-Termination). -/
inductive EpcRequest where
  | initial (interface : EpcInterface)
  | release (interface : EpcInterface)
  deriving DecidableEq

def GsmFsm.markInFlight (fsm : GsmFsm) : EpcRequest → GsmFsm
  | .initial .s6b => fsm.setS6bAarInFlight true
  | .initial .gx => fsm.setGxCcrInitInFlight true
  | .initial .gy => fsm.setGyCcrInitInFlight true
  | .release .s6b => fsm.setS6bStrInFlight true
  | .release .gx => fsm.setGxCcrTermInFlight true
  | .release .gy => fsm.setGyCcrTermInFlight true

inductive GsmInput where
  | dispatch (event : SmfEvent)
  | send (request : EpcRequest)

def gsmMachine : Machine GsmFsm GsmInput GsmFsmResult where
  step fsm input :=
    match input with
    | .dispatch event => fsm.dispatch event
    | .send request => (fsm.markInFlight request, .handled)

end NextGCore.Smf
