import NextGCore.Sbi.Text
import NextGCore.Upf.DataPlane

/-!
# The information elements of PFCP requests

A payload is read as elements as long as they are whole.  Of a grouped element, the first element
of each type counts, and a value that is too short counts as a default.
-/

namespace NextGCore.Upf

open Sbi (fromUtf8Lossy)

variable (octets : Bytes) (data : Bytes) (value : Bytes)

structure ParsedIe where
  ieType : UInt16
  value : Bytes
  deriving DecidableEq

namespace ParsedIe

def parseFrom : ℕ → Bytes → List ParsedIe
  | fuel + 1, type₀ :: type₁ :: length₀ :: length₁ :: data =>
    let length := (beU16 length₀ length₁).toNat
    if data.length < length then []
    else ⟨beU16 type₀ type₁, data.take length⟩ :: parseFrom fuel (data.drop length)
  | _, _ => []

def parseAll (data : Bytes) : List ParsedIe := parseFrom data.length data

def findIe (ies : List ParsedIe) (ieType : UInt16) : Option ParsedIe :=
  ies.find? fun ie => ie.ieType == ieType

def findAllIes (ies : List ParsedIe) (ieType : UInt16) : List ParsedIe :=
  ies.filter fun ie => ie.ieType == ieType

end ParsedIe

namespace PfcpIe

def CREATE_PDR : UInt16 := 1
def PDI : UInt16 := 2
def CREATE_FAR : UInt16 := 3
def FORWARDING_PARAMETERS : UInt16 := 4
def CREATE_URR : UInt16 := 6
def CREATE_QER : UInt16 := 7
def UPDATE_FAR : UInt16 := 10
def UPDATE_FORWARDING_PARAMETERS : UInt16 := 11
def UPDATE_QER : UInt16 := 14
def SOURCE_INTERFACE : UInt16 := 20
def F_TEID : UInt16 := 21
def NETWORK_INSTANCE : UInt16 := 22
def SDF_FILTER : UInt16 := 23
def PRECEDENCE : UInt16 := 29
def VOLUME_THRESHOLD : UInt16 := 31
def TIME_THRESHOLD : UInt16 := 32
def REPORTING_TRIGGERS : UInt16 := 37
def DESTINATION_INTERFACE : UInt16 := 42
def APPLY_ACTION : UInt16 := 44
def DOWNLINK_DATA_NOTIFICATION_DELAY : UInt16 := 46
def PFCPSMREQ_FLAGS : UInt16 := 49
def PDR_ID : UInt16 := 56
def F_SEID : UInt16 := 57
def NODE_ID : UInt16 := 60
def MEASUREMENT_METHOD : UInt16 := 62
def URR_ID : UInt16 := 81
def OUTER_HEADER_CREATION : UInt16 := 84
def CREATE_BAR : UInt16 := 85
def UPDATE_BAR : UInt16 := 86
def BAR_ID : UInt16 := 88
def UE_IP_ADDRESS : UInt16 := 93
def OUTER_HEADER_REMOVAL : UInt16 := 95
def RECOVERY_TIME_STAMP : UInt16 := 96
def FAR_ID : UInt16 := 108
def QER_ID : UInt16 := 109
def QFI : UInt16 := 124
def SUGGESTED_BUFFERING_PACKETS_COUNT : UInt16 := 140

end PfcpIe

open ParsedIe PfcpIe

variable (ies : List ParsedIe)

/-- `u16::from_be_bytes` of the first octets, if there are so many. -/
def firstU16 : Bytes → Option UInt16
  | octet₀ :: octet₁ :: _ => some (beU16 octet₀ octet₁)
  | _ => none

def firstU32 : Bytes → Option UInt32
  | octet₀ :: octet₁ :: octet₂ :: octet₃ :: _ => some (beU32 octet₀ octet₁ octet₂ octet₃)
  | _ => none

def beNumber : ℕ := octets.foldl (fun value octet => 256 * value + octet.toNat) 0

def firstU64 : Option UInt64 :=
  if octets.length < 8 then none else some (UInt64.ofNat (beNumber (octets.take 8)))

def field (count : ℕ) (error : String) (cursor : Bytes) : Except String (Bytes × Bytes) :=
  if cursor.length < count then .error error else .ok (cursor.take count, cursor.drop count)

def fieldIf (present : Bool) (count : ℕ) (error : String) (cursor : Bytes) :
  Except String (Option Bytes × Bytes) :=
  if present then (field count error cursor).map fun parts => (some parts.1, parts.2)
  else .ok (none, cursor)

def addressOf : UInt32 := (firstU32 octets).getD 0

def ipv6Of : BitVec 128 := BitVec.ofNat 128 (beNumber octets)

structure ParsedFSeid where
  seid : UInt64

def ParsedFSeid.parse : Except String ParsedFSeid :=
  match data with
  | [] => .error "F-SEID IE empty"
  | flags :: cursor => do
    let seid ← field 8 "F-SEID too short for SEID" cursor
    let ipv4 ← fieldIf (flags &&& 0x02 != 0) 4 "F-SEID too short for IPv4" seid.2
    let _ ← fieldIf (flags &&& 0x01 != 0) 16 "F-SEID too short for IPv6" ipv4.2
    .ok ⟨UInt64.ofNat (beNumber seid.1)⟩

structure ParsedFTeid where
  teid : UInt32
  ipv4 : Option UInt32
  ipv6 : Option (BitVec 128)
  ch : Bool
  chid : Bool
  chooseId : Option UInt8

def ParsedFTeid.parse : Except String ParsedFTeid :=
  match data with
  | [] => .error "F-TEID IE empty"
  | flags :: cursor => do
    let ch := flags &&& 0x04 != 0
    let chid := flags &&& 0x08 != 0
    let teid ← fieldIf (!ch) 4 "F-TEID too short for TEID" cursor
    let ipv4 ← fieldIf (flags &&& 0x01 != 0 && !ch) 4 "F-TEID too short for IPv4" teid.2
    let ipv6 ← fieldIf (flags &&& 0x02 != 0 && !ch) 16 "F-TEID too short for IPv6" ipv4.2
    .ok {
      teid := (teid.1.map addressOf).getD 0
      ipv4 := ipv4.1.map addressOf
      ipv6 := ipv6.1.map ipv6Of
      ch
      chid
      chooseId := if chid then ipv6.2.head? else none
    }

structure ParsedUeIpAddr where
  ipv4 : Option UInt32
  ipv6 : Option (BitVec 128)
  ipv6PrefixLen : UInt8
  source : Bool
  destination : Bool

def defaultPrefixLen (v6 : Bool) : UInt8 := if v6 then 64 else 0

def ParsedUeIpAddr.parse : Except String ParsedUeIpAddr :=
  match data with
  | [] => .error "UE IP Address IE empty"
  | flags :: cursor => do
    let v6 := flags &&& 0x01 != 0
    let sd := flags &&& 0x04 != 0
    let ipv6d := flags &&& 0x08 != 0
    let ipv4 ← fieldIf (flags &&& 0x02 != 0) 4 "UE IP too short for IPv4" cursor
    let ipv6 ← fieldIf v6 16 "UE IP too short for IPv6" ipv4.2
    .ok {
      ipv4 := ipv4.1.map addressOf
      ipv6 := ipv6.1.map ipv6Of
      ipv6PrefixLen := (if ipv6d then ipv6.2.head? else none).getD (defaultPrefixLen v6)
      source := !sd
      destination := sd
    }

def ParsedOuterHeaderCreation.parse : Except String ParsedOuterHeaderCreation :=
  match data with
  | description₀ :: description₁ :: cursor => do
    let description := beU16 description₀ description₁
    let gtpuIpv4 := description &&& 0x0100 != 0
    let gtpuIpv6 := description &&& 0x0200 != 0
    let teid ← fieldIf (gtpuIpv4 || gtpuIpv6) 4 "OHC too short for TEID" cursor
    let ipv4 ← fieldIf gtpuIpv4 4 "OHC too short for IPv4" teid.2
    let ipv6 ← fieldIf gtpuIpv6 16 "OHC too short for IPv6" ipv4.2
    .ok {
      description
      teid := (teid.1.map addressOf).getD 0
      ipv4 := ipv4.1.map addressOf
      ipv6 := ipv6.1.map ipv6Of
      port := firstU16 ipv6.2
    }
  | _ => .error "Outer Header Creation too short"

structure ParsedPdi where
  sourceInterface : UInt8
  localFTeid : Option ParsedFTeid
  networkInstance : Option String
  ueIpAddress : Option ParsedUeIpAddr
  qfi : Option UInt8
  sdfFlowDescription : Option String

structure ParsedCreatePdr where
  pdrId : UInt16
  precedence : UInt32
  pdi : ParsedPdi
  outerHeaderRemoval : Option UInt8
  farId : Option UInt32
  urrIds : List UInt32
  qerId : Option UInt32

structure ParsedCreateUrr where
  urrId : UInt32
  volumeThresholdTotal : Option UInt64
  volumeThresholdUl : Option UInt64
  volumeThresholdDl : Option UInt64
  timeThresholdSecs : Option UInt32

def flowDescriptionOf : Option String :=
  match value with
  | flags :: _ :: length₀ :: length₁ :: description =>
    let fdLen := (beU16 length₀ length₁).toNat
    if flags &&& 0x01 != 0 && decide (fdLen ≤ description.length) then
      some (fromUtf8Lossy (description.take fdLen))
    else none
  | _ => none

def firstOctet (ieType : UInt16) : Option UInt8 :=
  (findIe ies ieType).bind fun ie => ie.value.head?

def firstText (ieType : UInt16) : Option String :=
  (findIe ies ieType).map fun ie => fromUtf8Lossy ie.value

def parsePdi : Except String ParsedPdi := do
  let ies := parseAll data
  let localFTeid ← (findIe ies F_TEID).mapM fun ie => ParsedFTeid.parse ie.value
  let ueIpAddress ← (findIe ies UE_IP_ADDRESS).mapM fun ie => ParsedUeIpAddr.parse ie.value
  .ok {
    sourceInterface := (firstOctet ies SOURCE_INTERFACE).getD 0
    localFTeid
    networkInstance := firstText ies NETWORK_INSTANCE
    ueIpAddress
    qfi := firstOctet ies PfcpIe.QFI
    sdfFlowDescription := (findIe ies SDF_FILTER).bind fun ie => flowDescriptionOf ie.value
  }

def ParsedPdi.none : ParsedPdi := ⟨0, .none, .none, .none, .none, .none⟩

def findU32 (ieType : UInt16) : Option UInt32 :=
  (findIe ies ieType).bind fun ie => firstU32 ie.value

def parseCreatePdr : Except String ParsedCreatePdr :=
  let ies := parseAll data
  match findIe ies PDR_ID with
  | none => .error "PDR ID missing"
  | some ie => do
    let pdi ← (findIe ies PDI).mapM fun ie => parsePdi ie.value
    .ok {
      pdrId := (firstU16 ie.value).getD 0
      precedence := (findU32 ies PRECEDENCE).getD 0
      pdi := pdi.getD .none
      outerHeaderRemoval := firstOctet ies OUTER_HEADER_REMOVAL
      farId := findU32 ies FAR_ID
      urrIds := (findAllIes ies URR_ID).filterMap fun ie => firstU32 ie.value
      qerId := findU32 ies QER_ID
    }

def parseForwardingParameters : Except String ParsedForwardingParameters := do
  let ies := parseAll data
  let outerHeaderCreation ← (findIe ies OUTER_HEADER_CREATION).mapM fun ie =>
    ParsedOuterHeaderCreation.parse ie.value
  .ok {
    destinationInterface := (firstOctet ies DESTINATION_INTERFACE).getD 0
    networkInstance := firstText ies NETWORK_INSTANCE
    outerHeaderCreation
  }

def applyActionOf : Option UInt16 :=
  (firstU16 value).or (value.head?.map UInt8.toUInt16)

def findParameters : Option ParsedIe :=
  (findIe ies FORWARDING_PARAMETERS).or (findIe ies UPDATE_FORWARDING_PARAMETERS)

def parseCreateFar : Except String ParsedCreateFar :=
  let ies := parseAll data
  match findIe ies FAR_ID with
  | none => .error "FAR ID missing"
  | some ie => do
    let forwardingParameters ← (findParameters ies).mapM fun ie =>
      parseForwardingParameters ie.value
    .ok {
      farId := (firstU32 ie.value).getD 0
      applyAction := ((findIe ies APPLY_ACTION).bind fun ie => applyActionOf ie.value).getD 0
      forwardingParameters
      barId := firstOctet ies BAR_ID
    }

def bitRate : UInt64 :=
  UInt64.ofNat (min (beNumber (octets.take 5) * 1000) (2 ^ 64 - 1))

def bitRates : Option (UInt64 × UInt64) :=
  if value.length < 10 then none else some (bitRate value, bitRate (value.drop 5))

def findRates (ieType : UInt16) : Option (UInt64 × UInt64) :=
  (findIe ies ieType).bind fun ie => bitRates ie.value

def parseCreateQer : Except String ParsedCreateQer :=
  let ies := parseAll data
  match findIe ies QER_ID with
  | none => .error "QER ID missing"
  | some ie =>
    let gates := (firstOctet ies 25).getD 0
    let mbr := (findRates ies 26).getD (0, 0)
    let gbr := (findRates ies 27).getD (0, 0)
    .ok {
      qerId := (firstU32 ie.value).getD 0
      ulGate := gates >>> 2 &&& 0x03
      dlGate := gates &&& 0x03
      ulMbr := mbr.1
      dlMbr := mbr.2
      ulGbr := gbr.1
      dlGbr := gbr.2
      qfi := (firstOctet ies PfcpIe.QFI).map fun qfi => qfi &&& 0x3F
    }

def threshold (present : Bool) (cursor : Bytes) : Option UInt64 × Bytes :=
  if present && decide (8 ≤ cursor.length) then (firstU64 cursor, cursor.drop 8)
  else (none, cursor)

def parseCreateUrr : Except String ParsedCreateUrr :=
  let ies := parseAll data
  match findIe ies URR_ID with
  | none => .error "URR ID missing"
  | some ie =>
    let value := ((findIe ies VOLUME_THRESHOLD).map ParsedIe.value).getD []
    let flags := value.headD 0
    let total := threshold (flags &&& 0x01 != 0) value.tail
    let uplink := threshold (flags &&& 0x02 != 0) total.2
    let downlink := threshold (flags &&& 0x04 != 0) uplink.2
    .ok {
      urrId := (firstU32 ie.value).getD 0
      volumeThresholdTotal := total.1
      volumeThresholdUl := uplink.1
      volumeThresholdDl := downlink.1
      timeThresholdSecs := findU32 ies TIME_THRESHOLD
    }

/-- All that `parse_create_urr` returns; the data plane keeps no flags. -/
structure FlaggedUrr extends ParsedCreateUrr where
  measureDuration : Bool
  measureVolume : Bool
  triggerPeriodic : Bool
  triggerVolumeThreshold : Bool
  triggerTimeThreshold : Bool

def parseFlaggedUrr : Except String FlaggedUrr :=
  let ies := parseAll data
  let method := (firstOctet ies MEASUREMENT_METHOD).getD 0
  let triggers := (firstOctet ies REPORTING_TRIGGERS).getD 0
  (parseCreateUrr data).map fun urr =>
    { urr with
      measureDuration := method &&& 0x01 != 0
      measureVolume := method &&& 0x02 != 0
      triggerPeriodic := triggers &&& 0x01 != 0
      triggerVolumeThreshold := triggers &&& 0x02 != 0
      triggerTimeThreshold := triggers &&& 0x04 != 0 }

def parseCreateBar : Except String DataPlaneBar :=
  let ies := parseAll data
  match findIe ies BAR_ID with
  | none => .error "BAR ID missing"
  | some ie =>
    match ie.value.head? with
    | none => .error "BAR ID empty"
    | some barId => .ok ⟨barId, firstOctet ies SUGGESTED_BUFFERING_PACKETS_COUNT,
        firstOctet ies DOWNLINK_DATA_NOTIFICATION_DELAY⟩

def parseRecoveryTimeStamp (payload : Bytes) : Option UInt32 :=
  findU32 (parseAll payload) RECOVERY_TIME_STAMP

def parsePfcpsmreqFlags (payload : Bytes) : Option UInt8 :=
  firstOctet (parseAll payload) PFCPSMREQ_FLAGS

def parsedRules {Rule : Type} (parse : Bytes → Except String Rule) (ies : List ParsedIe)
  (ieType : UInt16) : List Rule :=
  (findAllIes ies ieType).filterMap fun ie => (parse ie.value).toOption

end NextGCore.Upf
