import NextGCore.Upf.GtpuHeader
import NextGCore.Upf.SessionManager

/-!
# Uplink admission

A G-PDU is taken off its GTP-U header, led to a session by its TEID or by the source of what it
carries, and handled by the session.  It is written to the TUN device for a session whose UE sent
it and under a FAR that forwards, unless its PDR names no FAR, or what it carries is not IPv4.
-/

namespace NextGCore.Upf

open Library Option PacketTuple GtpuMsgType

/-- `Ipv4Addr` of octets 12 to 15, of a payload with version 4 and the octets of a header. -/
def innerIpv4Source (payload : Bytes) : Option UInt32 :=
  if 20 ≤ payload.length ∧ payload.getD 0 0 >>> 4 &&& 0x0F = 4 then
    some (addressAt payload 12)
  else none

inductive UplinkOutcome where
  | malformed (error : GtpPathError)
  /-- An echo, an error indication or an end marker, which does not go to the TUN device. -/
  | signalling (header : GtpuHeaderDesc)
  | unhandled (msgType : UInt8)
  | empty
  | unknownTeid (teid : UInt32)
  | gpdu (arc : ℕ) (verdict : Verdict)

def UplinkOutcome.toTun : UplinkOutcome → Option Bytes
  | .gpdu _ (.toTun inner _) => some inner
  | _ => none

namespace SessionManager

/-- `find_by_ul_teid`, and `find_by_ue_ip` of the source of an IPv4 packet. -/
def findUplink (manager : SessionManager) (teid : UInt32) (payload : Bytes) :
  Option SharedSession :=
  (manager.findByUlTeid teid).or ((innerIpv4Source payload).bind manager.findByUeIp)

def handleUplinkPacket (manager : SessionManager) (pkt : Bytes) (withinRate written : Bool)
  (now : ℕ) : SessionManager × UplinkOutcome :=
  match parseGtpuHeader pkt with
  | .error error => (manager, .malformed error)
  | .ok header =>
    if header.msgType = GPDU then
      if pkt.length ≤ header.headerLen then (manager, .empty)
      else
        let payload := pkt.drop header.headerLen
        match manager.findUplink header.teid payload with
        | none => (manager, .unknownTeid header.teid)
        | some found =>
          let handled := found.session.handleUplinkPacket payload
            (extractQfiFromGtpHeader pkt) withinRate written now
          (manager.write found.arc handled.1, .gpdu found.arc handled.2)
    else if header.msgType ∈ [ECHO_REQUEST, ECHO_RESPONSE,
        ERROR_INDICATION, END_MARKER] then
      (manager, .signalling header)
    else (manager, .unhandled header.msgType)

end SessionManager

def DataPlaneFar.Forwards (far : DataPlaneFar) : Prop :=
  far.applyAction &&& FAR_ACTION_FORW ≠ 0 ∧ far.applyAction &&& FAR_ACTION_DROP = 0

namespace DataPlaneSession

variable {withinRate : Bool}

def uplinkPdr (session : DataPlaneSession) (payload : Bytes) (pktQfi : Option UInt8) :
  Option DataPlanePdr :=
  session.matchPdrWithPacket SRC_INTF_ACCESS (fromIpv4Packet payload) pktQfi

/-- What the session must say of a payload that is written to the TUN device. -/
structure Admits (session : DataPlaneSession) (payload : Bytes) (pktQfi : Option UInt8) :
  Prop where
  source : ∀ ueIp, session.ueIpv4 = some ueIp → innerIpv4Source payload = some ueIp
  rules : ∃ pdr, session.uplinkPdr payload pktQfi = some pdr ∧
    (∃ farId far, pdr.farId = some farId ∧ session.fars.lookup farId = some far ∧ far.Forwards) ∧
    ∀ qerId qer, pdr.qerId = some qerId → session.qers.lookup qerId = some qer →
      qer.ulGateOpen = true

/-- The PDR names a FAR, and a FAR that forwards gets what an IPv4 source can be read of, if the
UE has an IPv4 address. -/
def Guards (session : DataPlaneSession) (payload : Bytes) (pdr : DataPlanePdr) : Prop :=
  ∃ farId, pdr.farId = some farId ∧ ((session.applyFar farId).forwards = true →
      session.ueIpv4.isSome → (innerIpv4Source payload).isSome)

structure Passes (session : DataPlaneSession) (payload : Bytes) (pktQfi : Option UInt8)
  (pdr : DataPlanePdr) : Prop where
  fits : payload.length ≤ TUN_MTU
  own : session.spoofs payload = false
  matched : session.uplinkPdr payload pktQfi = some pdr
  gate : ∀ qerId qer, pdr.qerId = some qerId → session.qers.lookup qerId = some qer →
    qer.ulGateOpen = true

variable {session : DataPlaneSession} {payload inner : Bytes} {pktQfi : Option UInt8}

lemma version_and_mask (octet : UInt8) : octet >>> 4 &&& (0x0F : UInt8) = octet >>> 4 := by
  apply UInt8.toNat.inj
  have small : octet.toNat >>> 4 < 2 ^ 4 := by
    have bound := octet.toNat_lt
    rw [Nat.shiftRight_eq_div_pow]
    omega
  rw [UInt8.toNat_and, UInt8.toNat_shiftRight]
  exact (Nat.and_two_pow_sub_one_eq_mod _ 4).trans (Nat.mod_eq_of_lt small)

lemma spoofs_eq : session.spoofs payload = session.ueIpv4.any fun ueIp =>
  (innerIpv4Source payload).any fun source => source != ueIp := by
  unfold spoofs innerIpv4Source
  congr 1
  funext ueIp
  rw [version_and_mask]
  generalize payload.getD 0 0 >>> 4 = version
  by_cases long : 20 ≤ payload.length
  · by_cases four : version = 4
    · simp [long, four]
    · simp [long, four]
  · simp [long]

lemma forwards_applyFar_iff {farId : UInt32} : (session.applyFar farId).forwards = true ↔
    ∃ far, session.fars.lookup farId = some far ∧ far.Forwards := by
  unfold applyFar DataPlaneFar.Forwards
  cases session.fars.lookup farId with
  | none => simp [FarDecision.forwards]
  | some far =>
    by_cases drops : far.applyAction &&& FAR_ACTION_DROP = 0
    · by_cases forwards : far.applyAction &&& FAR_ACTION_FORW = 0
      · by_cases buffers : far.applyAction &&& FAR_ACTION_BUFF = 0
        · simp [drops, forwards, buffers, FarDecision.forwards]
        · simp [drops, forwards, buffers, FarDecision.forwards]
      · simp [drops, forwards, FarDecision.forwards]
    · simp [drops, FarDecision.forwards]

lemma toTun_iff {written : Bool} {now : ℕ} {dscp : Option UInt8} :
  (session.handleUplinkPacket payload pktQfi withinRate written now).2 = .toTun inner dscp ↔
    session.spoofs payload = false ∧ payload.length ≤ TUN_MTU ∧ written = true ∧
      ∃ admitted, session.judge SRC_INTF_ACCESS (fromIpv4Packet payload) pktQfi
          withinRate = .ok admitted ∧
        admitted.decision.forwards = true ∧ payload = inner ∧ admitted.dscp = dscp := by
  unfold handleUplinkPacket
  cases spoofed : session.spoofs payload with
  | true => simp
  | false =>
    cases judged : session.judge SRC_INTF_ACCESS (fromIpv4Packet payload) pktQfi
        withinRate with
    | error cause => simp
    | ok admitted =>
      cases decided : admitted.decision with
      | drop | buffer nocp barId => simp [decided, FarDecision.forwards]
      | forward ohcTeid ohcAddr =>
        by_cases oversize : TUN_MTU < payload.length
        · simp [decided, oversize]
        · have fits : payload.length ≤ TUN_MTU := Nat.le_of_not_lt oversize
          cases written with
          | false => simp [decided, oversize]
          | true => simp [decided, oversize, fits, FarDecision.forwards]

lemma of_judge {admitted : Admitted}
  (judged : session.judge SRC_INTF_ACCESS (fromIpv4Packet payload) pktQfi
    withinRate = .ok admitted) :
  session.uplinkPdr payload pktQfi = some admitted.pdr ∧
    (∀ qerId qer, admitted.pdr.qerId = some qerId → session.qers.lookup qerId = some qer →
      qer.ulGateOpen = true) ∧
    admitted.decision = (admitted.pdr.farId.map session.applyFar).getD (.forward none none) := by
  unfold judge at judged
  unfold uplinkPdr
  cases matched : session.matchPdrWithPacket SRC_INTF_ACCESS
      (fromIpv4Packet payload) pktQfi with
  | none =>
    rw [matched] at judged
    cases judged
  | some pdr =>
    simp only [matched] at judged
    split at judged
    case isTrue gate =>
      cases judged
      refine ⟨rfl, ?_, rfl⟩
      intro qerId qer isQer found
      rw [isQer] at gate
      simp only [all_some, checkQerGate, found, beq_self_eq_true, if_true, Bool.and_eq_true] at gate
      exact gate.1
    case isFalse => cases judged

lemma judge_of_passes {pdr : DataPlanePdr} (passes : session.Passes payload pktQfi pdr) :
  ∃ admitted, session.judge SRC_INTF_ACCESS (fromIpv4Packet payload) pktQfi
    true = .ok admitted ∧ admitted.pdr = pdr := by
  have gate : (pdr.qerId.all fun qid => session.checkQerGate qid true true) = true := by
    cases isQer : pdr.qerId with
    | none => rfl
    | some qerId =>
      rw [all_some, checkQerGate, all_eq_true]
      intro qer found
      simpa using passes.gate qerId qer isQer found
  have matched := passes.matched
  unfold uplinkPdr at matched
  unfold judge
  simp only [matched, beq_self_eq_true, gate, if_true]
  exact ⟨_, rfl, rfl⟩

end DataPlaneSession

namespace SessionManager

/-- Whatever is written to the TUN device is what the packet carries, and a session that the
packet belongs to admits it. -/
def FailClosed (manager : SessionManager) (pkt : Bytes) : Prop :=
  ∀ withinRate written now inner,
    (manager.handleUplinkPacket pkt withinRate written now).2.toTun = some inner →
      ∃ header found, parseGtpuHeader pkt = .ok header ∧ inner = pkt.drop header.headerLen ∧
        manager.findUplink header.teid inner = some found ∧
        found.session.Admits inner (extractQfiFromGtpHeader pkt)

/-- A payload that reaches the FAR of its PDR meets one, and is IPv4 where the UE has an IPv4
address. -/
def Guarded (manager : SessionManager) (pkt : Bytes) : Prop :=
  ∀ header found pdr, parseGtpuHeader pkt = .ok header → header.msgType = GPDU →
    header.headerLen < pkt.length →
    manager.findUplink header.teid (pkt.drop header.headerLen) = some found →
    found.session.Passes (pkt.drop header.headerLen) (extractQfiFromGtpHeader pkt) pdr →
    found.session.Guards (pkt.drop header.headerLen) pdr

variable {manager : SessionManager} {pkt inner : Bytes}

lemma toTun_iff {withinRate written : Bool} {now : ℕ} :
  (manager.handleUplinkPacket pkt withinRate written now).2.toTun = some inner ↔
    ∃ header found dscp, parseGtpuHeader pkt = .ok header ∧
      header.msgType = GPDU ∧ header.headerLen < pkt.length ∧
      manager.findUplink header.teid (pkt.drop header.headerLen) = some found ∧
      (found.session.handleUplinkPacket (pkt.drop header.headerLen)
        (extractQfiFromGtpHeader pkt) withinRate written now).2 = .toTun inner dscp := by
  unfold handleUplinkPacket
  cases parsed : parseGtpuHeader pkt with
  | error error => simp [UplinkOutcome.toTun]
  | ok header =>
    by_cases gpdu : header.msgType = GPDU
    · by_cases empty : pkt.length ≤ header.headerLen
      · simp [gpdu, empty, UplinkOutcome.toTun]
      · have longer := Nat.lt_of_not_le empty
        cases led : manager.findUplink header.teid (pkt.drop header.headerLen) with
        | none => simp [gpdu, empty, led, UplinkOutcome.toTun]
        | some found =>
          simp only [gpdu, empty, longer, led, if_true, if_false, Except.ok.injEq,
            exists_eq_left', true_and, exists_and_left, Option.some.injEq]
          cases (found.session.handleUplinkPacket (pkt.drop header.headerLen)
            (extractQfiFromGtpHeader pkt) withinRate written now).2 <;>
            simp [UplinkOutcome.toTun]
    · simp only [gpdu, if_false, Except.ok.injEq]
      split <;> simp [gpdu, UplinkOutcome.toTun]

lemma guarded_of_failClosed (failClosed : manager.FailClosed pkt) : manager.Guarded pkt := by
  intro header found pdr parsed gpdu longer led passes
  obtain ⟨admitted, judged, rfl⟩ := DataPlaneSession.judge_of_passes passes
  obtain ⟨-, -, decision⟩ := DataPlaneSession.of_judge judged
  have admits (forwards : admitted.decision.forwards = true) :
      found.session.Admits (pkt.drop header.headerLen) (extractQfiFromGtpHeader pkt) := by
    have answer : (manager.handleUplinkPacket pkt true true 0).2.toTun =
        some (pkt.drop header.headerLen) :=
      toTun_iff.mpr ⟨header, found, admitted.dscp, parsed, gpdu, longer, led,
        DataPlaneSession.toTun_iff.mpr
          ⟨passes.own, passes.fits, rfl, admitted, judged, forwards, rfl, rfl⟩⟩
    obtain ⟨header', found', parsed', -, led', admits⟩ := failClosed _ _ _ _ answer
    cases parsed.symm.trans parsed'
    cases led.symm.trans led'
    exact admits
  cases isFar : admitted.pdr.farId with
  | none =>
    have forwards : admitted.decision.forwards = true := by
      rw [decision, isFar]
      rfl
    obtain ⟨pdr, matched, ⟨farId, -, isFarId, -⟩, -⟩ := (admits forwards).rules
    cases passes.matched.symm.trans matched
    rw [isFar] at isFarId
    cases isFarId
  | some farId =>
    refine ⟨farId, isFar, fun forwards addressed => ?_⟩
    have decided : admitted.decision.forwards = true := by
      rw [decision, isFar]
      exact forwards
    obtain ⟨ueIp, hasIp⟩ := isSome_iff_exists.mp addressed
    rw [(admits decided).source ueIp hasIp]
    rfl

lemma failClosed_of_guarded (guarded : manager.Guarded pkt) : manager.FailClosed pkt := by
  intro withinRate written now inner answer
  obtain ⟨header, found, dscp, parsed, gpdu, longer, led, toTun⟩ := toTun_iff.mp answer
  obtain ⟨own, fits, -, admitted, judged, forwards, rfl, -⟩ :=
    DataPlaneSession.toTun_iff.mp toTun
  obtain ⟨matched, gate, decision⟩ := DataPlaneSession.of_judge judged
  obtain ⟨farId, isFar, guards⟩ :=
    guarded header found admitted.pdr parsed gpdu longer led ⟨fits, own, matched, gate⟩
  rw [decision, isFar] at forwards
  obtain ⟨far, isFarRule, farForwards⟩ := DataPlaneSession.forwards_applyFar_iff.mp forwards
  refine ⟨header, found, parsed, rfl, led, ?_, admitted.pdr, matched,
    ⟨farId, far, isFar, isFarRule, farForwards⟩, gate⟩
  intro ueIp hasIp
  obtain ⟨source, isSource⟩ :=
    isSome_iff_exists.mp (guards forwards (isSome_iff_exists.mpr ⟨ueIp, hasIp⟩))
  rw [DataPlaneSession.spoofs_eq, hasIp, any_some, isSource, any_some, bne_eq_false_iff_eq] at own
  rw [isSource, own]

/-- A packet is only let to the TUN device by a session that admits it if and only if its
payload, when it reaches the FAR of its PDR, meets one, and is IPv4 where the UE has an IPv4
address. -/
theorem uplink_fail_closed (manager : SessionManager) (pkt : Bytes) :
  manager.FailClosed pkt ↔ manager.Guarded pkt :=
  ⟨guarded_of_failClosed, failClosed_of_guarded⟩

/-- A session with the UE 10.45.0.1, an uplink PDR with this FAR, and the FAR 1 that forwards. -/
def tunnelled (farId : Option UInt32) : SessionManager :=
  SessionManager.new.addSession
    { DataPlaneSession.newEmpty 1 0x1077 (some 0x0A2D0001) 0x64 200 ⟨.v4 0x0A000001, 2152⟩ none with
      pdrs := [⟨1, 100, SRC_INTF_ACCESS, farId, none, [], none, none⟩]
      fars := KeyedTable.empty.insert ⟨1, FAR_ACTION_FORW, SRC_INTF_CORE, none, none, none⟩ }

def gpdu (payload : Bytes) : Bytes :=
  [0x30, 0xFF, 0, 20, 0, 0, 0, 0x64] ++ payload

def fromUe : Bytes :=
  [0x45, 0, 0, 20, 0, 0, 0, 0, 64, 17, 0, 0, 10, 45, 0, 1, 8, 8, 8, 8]

/-- A PDR without a FAR, and a payload that is no IPv4 packet. -/
theorem unguarded_written : ¬ (tunnelled none).FailClosed (gpdu fromUe) ∧
    ¬ (tunnelled (some 1)).FailClosed (gpdu [0x60, 0, 0, 0]) := by
  constructor
  · intro failClosed
    obtain ⟨farId, isFar, -⟩ := guarded_of_failClosed failClosed ⟨0xFF, 0x64, none, none, 8⟩ _ _ rfl
      rfl (by decide) rfl ⟨by decide, by decide, rfl, nofun⟩
    cases isFar
  · intro failClosed
    obtain ⟨farId, isFar, guards⟩ := guarded_of_failClosed failClosed
      ⟨0xFF, 0x64, none, none, 8⟩ _ _ rfl rfl (by decide) rfl
      ⟨by decide, by decide, rfl, nofun⟩
    cases isFar
    exact absurd (guards rfl rfl) (by decide)

end SessionManager

end NextGCore.Upf
