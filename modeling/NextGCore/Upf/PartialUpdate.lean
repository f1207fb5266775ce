import NextGCore.Upf.PfcpServer

/-!
# Session modifications as partial updates

An Update FAR or an Update QER says some of the attributes of a rule.  The UPF reads it as it
reads a Create FAR or a Create QER, with defaults for what is left out, and puts the result in the
place of the rule: a partial update only when what is left out has its default already.
-/

namespace NextGCore.Upf

open Library ParsedIe PfcpIe Option Prod KeyedTable ParsedOuterHeaderCreation SessionModified

lemma getD_eq_getD_iff {α : Type} (value : Option α) (default' kept : α) :
  value.getD default' = value.getD kept ↔ (value = none → kept = default') := by
  cases value <;> simp [eq_comm]

lemma eq_or_iff {α : Type} (value kept : Option α) :
  value = value.or kept ↔ (value = none → kept = none) := by
  cases value <;> simp [eq_comm]

structure ParametersUpdate where
  destinationInterface : Option UInt8
  networkInstance : Option String
  outerHeaderCreation : Option ParsedOuterHeaderCreation

structure FarUpdate where
  farId : UInt32
  applyAction : Option UInt16
  parameters : Option ParametersUpdate
  barId : Option UInt8

def ParametersUpdate.parse (data : Bytes) : Except String ParametersUpdate := do
  let ies := parseAll data
  let outerHeaderCreation ← (findIe ies OUTER_HEADER_CREATION).mapM fun ie =>
    ParsedOuterHeaderCreation.parse ie.value
  .ok ⟨firstOctet ies DESTINATION_INTERFACE, firstText ies NETWORK_INSTANCE, outerHeaderCreation⟩

namespace FarUpdate

variable (update : FarUpdate)

def parse (data : Bytes) : Except String FarUpdate :=
  let ies := parseAll data
  match findIe ies FAR_ID with
  | none => .error "FAR ID missing"
  | some ie => do
    let parameters ← (findParameters ies).mapM fun ie => ParametersUpdate.parse ie.value
    .ok {
      farId := (firstU32 ie.value).getD 0
      applyAction := (findIe ies APPLY_ACTION).bind fun ie => applyActionOf ie.value
      parameters
      barId := firstOctet ies BAR_ID
    }

def destinationInterface (update : FarUpdate) : Option UInt8 :=
  update.parameters.bind ParametersUpdate.destinationInterface

def outerHeaderCreation (update : FarUpdate) : Option ParsedOuterHeaderCreation :=
  update.parameters.bind ParametersUpdate.outerHeaderCreation

def apply (far : DataPlaneFar) : DataPlaneFar :=
  { far with
    applyAction := update.applyAction.getD far.applyAction
    destinationInterface := update.destinationInterface.getD far.destinationInterface
    ohcTeid := (update.outerHeaderCreation.map ParsedOuterHeaderCreation.teid).or far.ohcTeid
    ohcAddr := (update.outerHeaderCreation.map ipv4).getD far.ohcAddr
    barId := update.barId.or far.barId }

def filled : ParsedCreateFar where
  farId := update.farId
  applyAction := update.applyAction.getD 0
  forwardingParameters := update.parameters.map fun parameters =>
    ⟨parameters.destinationInterface.getD 0, parameters.networkInstance,
      parameters.outerHeaderCreation⟩
  barId := update.barId

/-- Without parameters the destination is the core, and without a destination in them the
access. -/
def defaultInterface : UInt8 :=
  if update.parameters.isSome then SRC_INTF_ACCESS else SRC_INTF_CORE

structure Restates (update : FarUpdate) (far : DataPlaneFar) : Prop where
  applyAction : update.applyAction = none → far.applyAction = 0
  destinationInterface : update.destinationInterface = none →
    far.destinationInterface = update.defaultInterface
  outerHeaderCreation : update.outerHeaderCreation = none → far.ohcTeid = none ∧ far.ohcAddr = none
  barId : update.barId = none → far.barId = none

lemma parametersParse_eq (data : Bytes) :
  parseForwardingParameters data = (ParametersUpdate.parse data).map fun parameters =>
    ⟨parameters.destinationInterface.getD 0, parameters.networkInstance,
      parameters.outerHeaderCreation⟩ := by
  unfold parseForwardingParameters ParametersUpdate.parse
  dsimp only
  cases (findIe (parseAll data) OUTER_HEADER_CREATION).mapM fun ie =>
    ParsedOuterHeaderCreation.parse ie.value <;> rfl

lemma parseCreateFar_eq (data : Bytes) :
  parseCreateFar data = (FarUpdate.parse data).map FarUpdate.filled := by
  unfold parseCreateFar FarUpdate.parse
  dsimp only
  cases findIe (parseAll data) FAR_ID with
  | none => rfl
  | some ie =>
    cases findParameters (parseAll data) with
    | none => rfl
    | some parameters =>
      simp only [mapM_some, parametersParse_eq]
      cases ParametersUpdate.parse parameters.value <;> rfl

lemma install_filled : update.filled.install = ⟨update.farId, update.applyAction.getD 0,
      update.destinationInterface.getD update.defaultInterface,
      update.outerHeaderCreation.map ParsedOuterHeaderCreation.teid,
      (update.outerHeaderCreation.map ipv4).getD none,
      update.barId⟩ := by
  obtain ⟨farId, applyAction, parameters, barId⟩ := update
  cases parameters with
  | none => rfl
  | some parameters =>
    obtain ⟨destination, networkInstance, ohc⟩ := parameters
    cases ohc <;> cases destination <;> rfl

lemma install_filled_eq_apply_iff {update : FarUpdate} {far : DataPlaneFar}
  (same : update.farId = far.farId) :
  update.filled.install = update.apply far ↔ update.Restates far := by
  rw [install_filled, apply, DataPlaneFar.mk.injEq, getD_eq_getD_iff, getD_eq_getD_iff,
    eq_or_iff, getD_eq_getD_iff, eq_or_iff, map_eq_none_iff, map_eq_none_iff]
  constructor
  · rintro ⟨-, action, destination, teid, addr, bar⟩
    exact ⟨action, destination, fun left => ⟨teid left, addr left⟩, bar⟩
  · intro restates
    exact ⟨same, restates.applyAction, restates.destinationInterface,
      fun left => (restates.outerHeaderCreation left).1,
      fun left => (restates.outerHeaderCreation left).2, restates.barId⟩

end FarUpdate

structure QerUpdate where
  qerId : UInt32
  gates : Option UInt8
  mbr : Option (UInt64 × UInt64)
  gbr : Option (UInt64 × UInt64)
  qfi : Option UInt8

def DataPlaneQer.remark (qer : DataPlaneQer) : DataPlaneQer :=
  (qer.qfi.map qer.setQfi).getD { qer with dscp := 0, isXr := false }

@[simp]
lemma DataPlaneQer.qerId_remark (qer : DataPlaneQer) : qer.remark.qerId = qer.qerId := by
  unfold remark
  cases qer.qfi <;> rfl

namespace QerUpdate

variable (update : QerUpdate)

def parse (data : Bytes) : Except String QerUpdate :=
  let ies := parseAll data
  match findIe ies QER_ID with
  | none => .error "QER ID missing"
  | some ie =>
    .ok {
      qerId := (firstU32 ie.value).getD 0
      gates := firstOctet ies 25
      mbr := findRates ies 26
      gbr := findRates ies 27
      qfi := (firstOctet ies PfcpIe.QFI).map fun qfi => qfi &&& 0x3F
    }

def opensUplink (gates : UInt8) : Bool := gates >>> 2 &&& 0x03 == 0

def opensDownlink (gates : UInt8) : Bool := gates &&& 0x03 == 0

def apply (qer : DataPlaneQer) : DataPlaneQer :=
  DataPlaneQer.remark { qer with
    ulGateOpen := (update.gates.map opensUplink).getD qer.ulGateOpen
    dlGateOpen := (update.gates.map opensDownlink).getD qer.dlGateOpen
    ulMbr := (update.mbr.map fst).getD qer.ulMbr
    dlMbr := (update.mbr.map snd).getD qer.dlMbr
    ulGbr := (update.gbr.map fst).getD qer.ulGbr
    dlGbr := (update.gbr.map snd).getD qer.dlGbr
    qfi := update.qfi.or qer.qfi }

def filled : ParsedCreateQer where
  qerId := update.qerId
  ulGate := update.gates.getD 0 >>> 2 &&& 0x03
  dlGate := update.gates.getD 0 &&& 0x03
  ulMbr := (update.mbr.getD (0, 0)).1
  dlMbr := (update.mbr.getD (0, 0)).2
  ulGbr := (update.gbr.getD (0, 0)).1
  dlGbr := (update.gbr.getD (0, 0)).2
  qfi := update.qfi

/-- The QER has the defaults of what is not carried: open gates, no rates and no QFI. -/
structure Restates (update : QerUpdate) (qer : DataPlaneQer) : Prop where
  gates : update.gates = none → qer.ulGateOpen = true ∧ qer.dlGateOpen = true
  mbr : update.mbr = none → qer.ulMbr = 0 ∧ qer.dlMbr = 0
  gbr : update.gbr = none → qer.ulGbr = 0 ∧ qer.dlGbr = 0
  qfi : update.qfi = none → qer.qfi = none

lemma parseCreateQer_eq (data : Bytes) :
  parseCreateQer data = (QerUpdate.parse data).map QerUpdate.filled := by
  unfold parseCreateQer QerUpdate.parse
  dsimp only
  cases findIe (parseAll data) QER_ID <;> rfl

lemma install_filled : update.filled.install = DataPlaneQer.remark
    ⟨update.qerId, (update.gates.map opensUplink).getD true,
      (update.gates.map opensDownlink).getD true,
      (update.mbr.map fst).getD 0, (update.mbr.map snd).getD 0,
      (update.gbr.map fst).getD 0, (update.gbr.map snd).getD 0, update.qfi, 0,
      false⟩ := by
  have uplink : (update.filled.ulGate == 0) = (update.gates.map opensUplink).getD true := by
    unfold filled
    cases update.gates with
    | none => exact (by decide : opensUplink 0 = true)
    | some gates => rfl
  have downlink : (update.filled.dlGate == 0) = (update.gates.map opensDownlink).getD true := by
    unfold filled
    cases update.gates with
    | none => exact (by decide : opensDownlink 0 = true)
    | some gates => rfl
  have first (rates : Option (UInt64 × UInt64)) :
      (rates.getD (0, 0)).1 = (rates.map fst).getD 0 := by cases rates <;> rfl
  have second (rates : Option (UInt64 × UInt64)) :
      (rates.getD (0, 0)).2 = (rates.map snd).getD 0 := by cases rates <;> rfl
  unfold ParsedCreateQer.install
  rw [uplink, downlink]
  simp only [filled, first, second]
  cases update.qfi <;> rfl

lemma remark_eq_remark_iff {qer other : DataPlaneQer} :
  qer.remark = other.remark ↔ qer.qerId = other.qerId ∧ qer.ulGateOpen = other.ulGateOpen ∧
    qer.dlGateOpen = other.dlGateOpen ∧ qer.ulMbr = other.ulMbr ∧ qer.dlMbr = other.dlMbr ∧
    qer.ulGbr = other.ulGbr ∧ qer.dlGbr = other.dlGbr ∧ qer.qfi = other.qfi := by
  have kept (qer : DataPlaneQer) : { qer.remark with dscp := 0, isXr := false } =
      { qer with dscp := 0, isXr := false } := by
    obtain ⟨qerId, ulGate, dlGate, ulMbr, dlMbr, ulGbr, dlGbr, qfi, dscp, isXr⟩ := qer
    cases qfi <;> rfl
  constructor
  · intro same
    have bare := (kept qer).symm.trans ((congrArg (fun qer : DataPlaneQer =>
      { qer with dscp := 0, isXr := false }) same).trans (kept other))
    injection bare
    refine ⟨?_, ?_, ?_, ?_, ?_, ?_, ?_, ?_⟩ <;> assumption
  · obtain ⟨qerId, ulGate, dlGate, ulMbr, dlMbr, ulGbr, dlGbr, qfi, dscp, isXr⟩ := qer
    rintro ⟨rfl, rfl, rfl, rfl, rfl, rfl, rfl, rfl⟩
    obtain ⟨qerId, ulGate, dlGate, ulMbr, dlMbr, ulGbr, dlGbr, qfi, dscp', isXr'⟩ := other
    cases qfi <;> rfl

lemma install_filled_eq_apply_iff {update : QerUpdate} {qer : DataPlaneQer}
  (same : update.qerId = qer.qerId) :
  update.filled.install = update.apply qer ↔ update.Restates qer := by
  rw [install_filled, apply, remark_eq_remark_iff]
  simp only [getD_eq_getD_iff, eq_or_iff, map_eq_none_iff]
  constructor
  · rintro ⟨-, ulGate, dlGate, ulMbr, dlMbr, ulGbr, dlGbr, qfi⟩
    exact ⟨fun left => ⟨ulGate left, dlGate left⟩, fun left => ⟨ulMbr left, dlMbr left⟩,
      fun left => ⟨ulGbr left, dlGbr left⟩, qfi⟩
  · intro restates
    exact ⟨same, fun left => (restates.gates left).1, fun left => (restates.gates left).2,
      fun left => (restates.mbr left).1, fun left => (restates.mbr left).2,
      fun left => (restates.gbr left).1, fun left => (restates.gbr left).2, restates.qfi⟩

end QerUpdate

namespace SessionModified

variable (payload : Bytes)

def farUpdates : List FarUpdate :=
  parsedRules FarUpdate.parse (parseAll payload) UPDATE_FAR

def qerUpdates : List QerUpdate :=
  parsedRules QerUpdate.parse (parseAll payload) UPDATE_QER

lemma parsedRules_map {Update Rule : Type} {parse : Bytes → Except String Rule}
  {parseUpdate : Bytes → Except String Update} {filled : Update → Rule}
  (same : ∀ data, parse data = (parseUpdate data).map filled) (ies : List ParsedIe)
  (ieType : UInt16) :
  parsedRules parse ies ieType = (parsedRules parseUpdate ies ieType).map filled := by
  unfold parsedRules
  rw [List.map_filterMap]
  congr 1
  funext ie
  rw [same]
  cases parseUpdate ie.value <;> rfl

lemma updatedFars_ofRequest :
  (ofRequest payload).updatedFars = (farUpdates payload).map FarUpdate.filled :=
  parsedRules_map FarUpdate.parseCreateFar_eq _ _

lemma updatedQers_ofRequest :
  (ofRequest payload).updatedQers = (qerUpdates payload).map QerUpdate.filled :=
  parsedRules_map QerUpdate.parseCreateQer_eq _ _

end SessionModified

namespace DataPlaneSession

variable (session : DataPlaneSession) (modified : SessionModified)

/-- A modification is a partial update.  What is left open are the packets and the octets that
the flush of the buffer sends. -/
structure PartiallyUpdated (session next : DataPlaneSession) (payload : Bytes) : Prop where
  fars : Updated FarUpdate.farId FarUpdate.apply session.fars next.fars
    (SessionModified.farUpdates payload)
  qers : Updated QerUpdate.qerId QerUpdate.apply session.qers next.qers
    (SessionModified.qerUpdates payload)
  bars : ∀ barId, (∀ bar ∈ (SessionModified.ofRequest payload).updatedBars, bar.barId ≠ barId) →
    next.bars.lookup barId = session.bars.lookup barId
  pdrs : next.pdrs = session.pdrs
  urrs : next.urrs = session.urrs
  names : (next.upfSeid, next.smfSeid, next.ueIpv4, next.ulTeid, next.qfi) =
    (session.upfSeid, session.smfSeid, session.ueIpv4, session.ulTeid, session.qfi)
  uplink : (next.ulPackets, next.ulBytes) = (session.ulPackets, session.ulBytes)
  tunnel : (SessionModified.ofRequest payload).dlTeid = none →
    (next.dlTeid, next.gnbAddr) = (session.dlTeid, session.gnbAddr)

/-- The buffer, the counters and the URRs stay. -/
structure Preserves (session next : DataPlaneSession) : Prop where
  dlBuffer : next.dlBuffer = session.dlBuffer
  ddnSent : next.ddnSent = session.ddnSent
  counters : (next.ulPackets, next.dlPackets, next.ulBytes, next.dlBytes) =
    (session.ulPackets, session.dlPackets, session.ulBytes, session.dlBytes)
  urrs : next.urrs = session.urrs

/-- What the updates leave out has its default, and the FARs toward the access that are not
updated have the tunnel already that an update gives. -/
structure OmitsDefaults (session : DataPlaneSession) (payload : Bytes) : Prop where
  fars : ∀ far ∈ session.fars.records, ∀ earlier last,
    (SessionModified.farUpdates payload).filter (fun update => update.farId = far.farId) =
      earlier ++ [last] →
    last.Restates (earlier.foldl (fun far update => update.apply far) far)
  tunnels : ∀ far ∈ session.fars.records, far.destinationInterface = SRC_INTF_ACCESS →
    (∀ update ∈ SessionModified.farUpdates payload, update.farId ≠ far.farId) →
    (∀ teid ∈ (SessionModified.ofRequest payload).dlTeid, far.ohcTeid = some teid) ∧
      ∀ addr ∈ (SessionModified.ofRequest payload).gnbAddr, far.ohcAddr = some addr
  qers : ∀ qer ∈ session.qers.records, ∀ earlier last,
    (SessionModified.qerUpdates payload).filter (fun update => update.qerId = qer.qerId) =
      earlier ++ [last] →
    last.Restates (earlier.foldl (fun qer update => update.apply qer) qer)

lemma preserves_updateSessionFromPfcp (dlTeid : Option UInt32) (gnbAddr : Option SocketAddr) :
  session.Preserves (session.updateSessionFromPfcp dlTeid gnbAddr) :=
  ⟨rfl, rfl, rfl, rfl⟩

def gnbSocket : Option SocketAddr :=
  modified.gnbAddr.map fun addr => ⟨.v4 addr, GTPU_PORT⟩

lemma retunnel_gnbSocket (far : DataPlaneFar) :
  retunnel modified.dlTeid (gnbSocket modified) far =
    if far.destinationInterface == SRC_INTF_ACCESS then
      { far with
        ohcTeid := modified.dlTeid.or far.ohcTeid
        ohcAddr := modified.gnbAddr.or far.ohcAddr }
    else far := by
  unfold gnbSocket
  cases modified.gnbAddr <;> rfl

lemma or_eq_right_iff {α : Type} (given kept : Option α) :
  given.or kept = kept ↔ ∀ value ∈ given, kept = some value := by
  cases given <;> simp [eq_comm]

lemma retunnel_eq_self_iff (far : DataPlaneFar) :
  retunnel modified.dlTeid (gnbSocket modified) far = far ↔
    (far.destinationInterface = SRC_INTF_ACCESS →
      (∀ teid ∈ modified.dlTeid, far.ohcTeid = some teid) ∧
        ∀ addr ∈ modified.gnbAddr, far.ohcAddr = some addr) := by
  rw [retunnel_gnbSocket, ← or_eq_right_iff, ← or_eq_right_iff]
  by_cases access : far.destinationInterface = SRC_INTF_ACCESS
  · rw [if_pos (beq_iff_eq.mpr access)]
    constructor
    · intro same _
      exact ⟨congrArg DataPlaneFar.ohcTeid same, congrArg DataPlaneFar.ohcAddr same⟩
    · intro same
      rw [(same access).1, (same access).2]
  · rw [if_neg (by simpa using access)]
    exact ⟨fun _ toAccess => absurd toAccess access, fun _ => rfl⟩

lemma updateSessionFromPfcp_none : session.updateSessionFromPfcp none none = session := by
  have same (far : DataPlaneFar) : retunnel none none far = far := by
    unfold retunnel
    dsimp only
    split <;> rfl
  unfold updateSessionFromPfcp
  rw [map_eq_self _ same]
  rfl

lemma modifyRules_cases (modified : SessionModified) :
  ∃ buffer sent, session.modifyRules modified =
    { session.updateSessionFromPfcp modified.dlTeid (gnbSocket modified) with
      fars := (modified.updatedFars.map ParsedCreateFar.install).foldl insert
        (session.fars.map (retunnel modified.dlTeid (gnbSocket modified))
          (farId_retunnel modified.dlTeid (gnbSocket modified)))
      qers := (modified.updatedQers.map ParsedCreateQer.install).foldl insert
        session.qers
      bars := modified.updatedBars.foldl insert session.bars
      dlBuffer := buffer
      ddnSent := sent } := by
  have tunnelled : (if modified.dlTeid.isSome || (gnbSocket modified).isSome then
        session.updateSessionFromPfcp modified.dlTeid (gnbSocket modified) else session) =
      session.updateSessionFromPfcp modified.dlTeid (gnbSocket modified) := by
    cases modified.dlTeid with
    | some teid => rfl
    | none =>
      cases gnbSocket modified with
      | some addr => rfl
      | none => exact (updateSessionFromPfcp_none session).symm
  unfold modifyRules
  dsimp only
  rw [show (modified.gnbAddr.map fun addr => (⟨.v4 addr, GTPU_PORT⟩ : SocketAddr)) =
    gnbSocket modified from rfl, tunnelled]
  split
  · exact ⟨_, _, rfl⟩
  · exact ⟨_, _, rfl⟩

lemma flushBufferedDl_eq (hasSocket : Bool) (sends : ℕ → Bool) (tos : UInt8) :
  ∃ packets bytes buffer sent, (session.flushBufferedDl hasSocket sends tos).1 =
      { session with
        dlPackets := packets, dlBytes := bytes, dlBuffer := buffer, ddnSent := sent } := by
  have counted (flushed : List Flushed) (session : DataPlaneSession) : ∃ packets bytes,
      flushed.foldl (fun session each => session.countDl (UInt64.ofNat each.gpdu.inner.length))
        session = { session with dlPackets := packets, dlBytes := bytes } := by
    induction flushed generalizing session with
    | nil => exact ⟨_, _, rfl⟩
    | cons first rest ih =>
      obtain ⟨packets, bytes, same⟩ :=
        ih (session.countDl (UInt64.ofNat first.gpdu.inner.length))
      exact ⟨packets, bytes, same⟩
  unfold flushBufferedDl
  cases session.forwardingFar with
  | none => exact ⟨_, _, _, _, rfl⟩
  | some far =>
    dsimp only
    split
    · obtain ⟨packets, bytes, same⟩ := counted _ session.drainDlBuffer
      rw [same]
      exact ⟨_, _, _, _, rfl⟩
    · exact ⟨_, _, _, _, rfl⟩

lemma handleSessionModified_eq (modified : SessionModified) (hasSocket : Bool)
  (sends : ℕ → Bool) (tos : UInt8) : ∃ packets bytes buffer sent,
    (session.handleSessionModified modified hasSocket sends tos).1 =
      { session.updateSessionFromPfcp modified.dlTeid (gnbSocket modified) with
        fars := (modified.updatedFars.map ParsedCreateFar.install).foldl insert
          (session.fars.map (retunnel modified.dlTeid (gnbSocket modified))
            (farId_retunnel modified.dlTeid (gnbSocket modified)))
        qers := (modified.updatedQers.map ParsedCreateQer.install).foldl insert
          session.qers
        bars := modified.updatedBars.foldl insert session.bars
        dlPackets := packets
        dlBytes := bytes
        dlBuffer := buffer
        ddnSent := sent } := by
  obtain ⟨buffer, sent, rules⟩ := session.modifyRules_cases modified
  unfold handleSessionModified
  split
  · obtain ⟨packets, bytes, buffer', sent', flushed⟩ :=
      (session.modifyRules modified).flushBufferedDl_eq hasSocket sends tos
    rw [flushed, rules]
    exact ⟨_, _, _, _, rfl⟩
  · rw [rules]
    exact ⟨_, _, _, _, rfl⟩

lemma fars_updated_iff (payload : Bytes) :
  Updated FarUpdate.farId FarUpdate.apply session.fars
      (((ofRequest payload).updatedFars.map ParsedCreateFar.install).foldl
        insert (session.fars.map (retunnel (ofRequest payload).dlTeid
            (gnbSocket (ofRequest payload)))
          (farId_retunnel _ _))) (farUpdates payload) ↔
    ∀ far ∈ session.fars.records, (∀ earlier last, (farUpdates payload).filter
          (fun update => update.farId = far.farId) = earlier ++ [last] →
        last.Restates (earlier.foldl (fun far update => update.apply far) far)) ∧
      ((∀ update ∈ farUpdates payload, update.farId ≠ far.farId) →
        far.destinationInterface = SRC_INTF_ACCESS →
        (∀ teid ∈ (ofRequest payload).dlTeid, far.ohcTeid = some teid) ∧
          ∀ addr ∈ (ofRequest payload).gnbAddr, far.ohcAddr = some addr) := by
  have keyed (update : FarUpdate) :
      ((ParsedCreateFar.install ∘ FarUpdate.filled) update).farId = update.farId := rfl
  have stays (update : FarUpdate) (far : DataPlaneFar) : (update.apply far).farId = far.farId := rfl
  rw [updatedFars_ofRequest, List.map_map, updated_foldl_insert_iff keyed stays
      fun _ _ => FarUpdate.install_filled_eq_apply_iff]
  exact forall₂_congr fun far _ => and_congr_right' (forall_congr' fun _ =>
    retunnel_eq_self_iff _ far)

lemma qers_updated_iff (payload : Bytes) :
  Updated QerUpdate.qerId QerUpdate.apply session.qers
      (((ofRequest payload).updatedQers.map ParsedCreateQer.install).foldl
        insert session.qers) (qerUpdates payload) ↔
    ∀ qer ∈ session.qers.records, ∀ earlier last,
      (qerUpdates payload).filter (fun update => update.qerId = qer.qerId) = earlier ++ [last] →
      last.Restates (earlier.foldl (fun qer update => update.apply qer) qer) := by
  have keyed (update : QerUpdate) :
      ((ParsedCreateQer.install ∘ QerUpdate.filled) update).qerId = update.qerId := by
    rw [Function.comp_apply, QerUpdate.install_filled, DataPlaneQer.qerId_remark]
  have stays (update : QerUpdate) (qer : DataPlaneQer) : (update.apply qer).qerId = qer.qerId :=
    DataPlaneQer.qerId_remark _
  have unchanged : session.qers = session.qers.map id fun _ => rfl :=
    (map_eq_self _ fun _ => rfl).symm
  rw [updatedQers_ofRequest, List.map_map]
  nth_rewrite 2 [unchanged]
  rw [updated_foldl_insert_iff keyed stays
      fun update qer same => QerUpdate.install_filled_eq_apply_iff same]
  simp

/-- A modification is a partial update just when what it leaves out has its default; the tunnel
update on its own loses nothing. -/
theorem modification_partial_update_iff (session : DataPlaneSession) (payload : Bytes)
  (hasSocket : Bool) (sends : ℕ → Bool) (tos : UInt8) :
  (session.PartiallyUpdated (session.handleSessionModified (SessionModified.ofRequest payload)
      hasSocket sends tos).1 payload ∧
    ∀ dlTeid gnbAddr, session.Preserves (session.updateSessionFromPfcp dlTeid gnbAddr)) ↔
  session.OmitsDefaults payload := by
  obtain ⟨packets, bytes, buffer, sent, modified⟩ := session.handleSessionModified_eq
    (SessionModified.ofRequest payload) hasSocket sends tos
  rw [modified]
  constructor
  · rintro ⟨updated, -⟩
    have fars := (fars_updated_iff session payload).mp updated.fars
    exact ⟨fun far member => (fars far member).1,
      fun far member toAccess unnamed => (fars far member).2 unnamed toAccess,
      (qers_updated_iff session payload).mp updated.qers⟩
  · intro omits
    refine ⟨?_, session.preserves_updateSessionFromPfcp⟩
    exact {
      fars := (fars_updated_iff session payload).mpr fun far member =>
        ⟨omits.fars far member, fun unnamed toAccess => omits.tunnels far member toAccess unnamed⟩
      qers := (qers_updated_iff session payload).mpr omits.qers
      bars := fun barId unnamed => by
        have named : (SessionModified.ofRequest payload).updatedBars.filter
            (fun bar => bar.barId = barId) = [] :=
          List.filter_eq_nil_iff.mpr fun bar member => by simpa using unnamed bar member
        exact (lookup_foldl_insert _ _ _).trans (by rw [named]; rfl)
      pdrs := rfl
      urrs := rfl
      names := rfl
      uplink := rfl
      tunnel := fun left => by
        have addr : (SessionModified.ofRequest payload).gnbAddr = none :=
          congrArg (fun ohc => Option.bind ohc ipv4)
            (map_eq_none_iff.mp left)
        simp only [updateSessionFromPfcp, gnbSocket, left, addr, map_none, getD_none]
    }

def forwarding : DataPlaneSession :=
  { newEmpty 1 1 (some 0x0A2D0002) 0x10000 0x55 ⟨.v4 0x0A000001, GTPU_PORT⟩ none with
    fars := tableOf [⟨2, FAR_ACTION_FORW, SRC_INTF_ACCESS, some 0x55, some 0x0A000001, none⟩] }

def deactivation : Bytes :=
  [0, 10, 0, 13, 0, 108, 0, 4, 0, 0, 0, 2, 0, 44, 0, 1, 0x0C]

/-- The update names neither a destination nor a tunnel, and both are gone. -/
theorem deactivation_forgets_tunnel :
  ¬ forwarding.PartiallyUpdated (forwarding.handleSessionModified
    (SessionModified.ofRequest deactivation) true (fun _ => true) 0).1 deactivation := by
  intro updated
  have kept := updated.fars.kept 2
    ⟨2, FAR_ACTION_FORW, SRC_INTF_ACCESS, some 0x55, some 0x0A000001, none⟩ (by decide)
  exact absurd kept (by decide)

end DataPlaneSession

end NextGCore.Upf
