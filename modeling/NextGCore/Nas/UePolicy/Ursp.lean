import NextGCore.Nas.UePolicy.Reader

/-!
# URSP part contents

Labels, traffic descriptor components, route selection descriptors and URSP rules
of `ue_policy.rs`, with their encoders and decoders.
-/

namespace NextGCore.Nas.UePolicy

open Library Reader Reading
open Crypt (Bytes)

def hexOctet (value : UInt8) : String :=
  String.ofList ['0', 'x', Nat.digitChar (value.toNat / 16), Nat.digitChar (value.toNat % 16)]

def copyFromSlice (n : ℕ) (octets : Bytes) : Vector UInt8 n :=
  .ofFn fun index => octets.getD index.val 0

def Reader.takeArray (n : ℕ) : Read (Vector UInt8 n) := do
  let octets ← take n
  return copyFromSlice n octets

def maxApnLen : ℕ := 100

def maxFqdnLen : ℕ := 255

def maxLabelLen : ℕ := 63

def isAscii (letters : List Char) : Bool := letters.all fun letter => letter.val < 128

def asBytes (letters : List Char) : Bytes := letters.map fun letter => letter.val.toUInt8

def asLetters (octets : Bytes) : List Char := octets.map fun octet => Char.ofNat octet.toNat

def encodeLabel (what : String) (label : List Char) (out : Bytes) : Except NasError Bytes :=
  if label.isEmpty then .error (.encodingError s!"{what} contains an empty label")
  else if maxLabelLen < label.length then
    .error (.encodingError s!"{what} label exceeds {maxLabelLen} octets (TS 23.003)")
  else .ok (out ++ shortFramed (asBytes label))

def encodeLabels (name : String) (maxTotal : ℕ) (what : String) : Except NasError Bytes :=
  if name.toList.isEmpty then .error (.encodingError s!"{what} must not be empty")
  else if !isAscii name.toList then
    .error (.encodingError s!"{what} must be ASCII (TS 23.003)")
  else do
    let out ← (name.toList.splitOn '.').foldlM (fun out label => encodeLabel what label out) []
    if maxTotal < out.length then
      .error (.encodingError s!"{what} encoding exceeds {maxTotal} octets (TS 23.003)")
    else return out

def decodeLabel (what : String) : Read (List Char) := do
  let length ← u8
  Reading.refuse (length = 0 ∨ maxLabelLen < length.toNat)
    (.decodingError s!"{what}: invalid label length {length}")
  let label ← take length.toNat
  Reading.refuse (∃ octet ∈ label, 128 ≤ octet)
    (.decodingError s!"{what}: non-ASCII label octets")
  return asLetters label

def decodeLabels (bytes : Bytes) (what : String) : Except NasError String := do
  let answer ← many (decodeLabel what) (.new bytes)
  if answer.1.isEmpty then .error (.decodingError s!"{what}: at least one label required")
  else return String.ofList (['.'].intercalate answer.1)

inductive TrafficDescriptorComponent where
  | matchAll
  | osIdOsAppId (osId : Vector UInt8 16) (osAppId : Bytes)
  | ipv4RemoteAddress (addr mask : Vector UInt8 4)
  | ipv6RemoteAddress (addr : Vector UInt8 16) (prefixLen : UInt8)
  | protocolIdentifier (value : UInt8)
  | singleRemotePort (port : UInt16)
  | remotePortRange (low high : UInt16)
  | dnn (name : String)
  | destinationFqdn (name : String)
  | sNssai (sst : UInt8) (sd : Option (Vector UInt8 3))
  deriving DecidableEq

def tdIdMatchAll : UInt8 := 0b00000001
def tdIdOsIdOsAppId : UInt8 := 0b00001000
def tdIdIpv4Remote : UInt8 := 0b00010000
def tdIdIpv6Remote : UInt8 := 0b00100001
def tdIdProtocol : UInt8 := 0b00110000
def tdIdSingleRemotePort : UInt8 := 0b01010000
def tdIdRemotePortRange : UInt8 := 0b01010001
def tdIdDnn : UInt8 := 0b10001000
def tdIdDestFqdn : UInt8 := 0b10010001

namespace TrafficDescriptorComponent

def encodeInto (component : TrafficDescriptorComponent) (out : Bytes) : Except NasError Bytes :=
  match component with
  | .matchAll => .ok (out ++ [tdIdMatchAll])
  | .osIdOsAppId osId osAppId =>
    if 255 < osAppId.length then
      .error (.encodingError "OS App Id exceeds its 1-octet length field")
    else .ok (out ++ [tdIdOsIdOsAppId] ++ osId.toList ++ shortFramed osAppId)
  | .ipv4RemoteAddress addr mask => .ok (out ++ [tdIdIpv4Remote] ++ addr.toList ++ mask.toList)
  | .ipv6RemoteAddress addr prefixLen =>
    if 128 < prefixLen then
      .error (.encodingError s!"IPv6 prefix length {prefixLen} exceeds 128")
    else .ok (out ++ [tdIdIpv6Remote] ++ addr.toList ++ [prefixLen])
  | .protocolIdentifier value => .ok (out ++ [tdIdProtocol] ++ [value])
  | .singleRemotePort port => .ok (out ++ [tdIdSingleRemotePort] ++ toBeBytes port)
  | .remotePortRange low high =>
    if high < low then
      .error (.encodingError s!"remote port range low limit {low} exceeds high limit {high}")
    else .ok (out ++ [tdIdRemotePortRange] ++ toBeBytes low ++ toBeBytes high)
  | .dnn name => do
    let apn ← encodeLabels name maxApnLen "TD DNN"
    return out ++ [tdIdDnn] ++ shortFramed apn
  | .destinationFqdn name => do
    let fqdn ← encodeLabels name maxFqdnLen "TD destination FQDN"
    return out ++ [tdIdDestFqdn] ++ shortFramed fqdn
  | .sNssai _ _ =>
    .error (.encodingError ("S-NSSAI traffic descriptor is unrepresentable: TS 24.526 V18.5.0 " ++
      "Table 5.2.1 defines no S-NSSAI TD component type identifier (all other values are " ++
      "spare); S-NSSAI exists only as a route selection descriptor component (0b00000010) " ++
      "— refusing to emit"))

def decodeValue (id : UInt8) : Read TrafficDescriptorComponent :=
  if id = tdIdMatchAll then return .matchAll
  else if id = tdIdOsIdOsAppId then do
    let osId ← takeArray 16
    let osAppId ← shortFrame
    return .osIdOsAppId osId osAppId
  else if id = tdIdIpv4Remote then do
    let addr ← takeArray 4
    let mask ← takeArray 4
    return .ipv4RemoteAddress addr mask
  else if id = tdIdIpv6Remote then do
    let addr ← takeArray 16
    let prefixLen ← u8
    Reading.refuse (128 < prefixLen)
      (.decodingError s!"IPv6 prefix length {prefixLen} exceeds 128")
    return .ipv6RemoteAddress addr prefixLen
  else if id = tdIdProtocol then do
    let value ← u8
    return .protocolIdentifier value
  else if id = tdIdSingleRemotePort then do
    let port ← u16
    return .singleRemotePort port
  else if id = tdIdRemotePortRange then do
    let low ← u16
    let high ← u16
    Reading.refuse (high < low)
      (.decodingError s!"remote port range low limit {low} exceeds high limit {high}")
    return .remotePortRange low high
  else if id = tdIdDnn then do
    let apn ← shortFrame
    let name ← lift (decodeLabels apn "TD DNN")
    return .dnn name
  else if id = tdIdDestFqdn then do
    let fqdn ← shortFrame
    let name ← lift (decodeLabels fqdn "TD destination FQDN")
    return .destinationFqdn name
  else
    .lift (.error (.decodingError
      ("unknown/unsupported traffic descriptor component type identifier " ++ hexOctet id ++
        " (TS 24.526 Table 5.2.1)")))

def decodeOne : Read TrafficDescriptorComponent := do
  let id ← u8
  decodeValue id

end TrafficDescriptorComponent

inductive PreferredAccessType where
  | threeGpp
  | nonThreeGpp
  deriving DecidableEq

def PreferredAccessType.value : PreferredAccessType → UInt8
  | .threeGpp => 1
  | .nonThreeGpp => 2

inductive SscMode where
  | sscMode1
  | sscMode2
  | sscMode3
  deriving DecidableEq

def SscMode.value : SscMode → UInt8
  | .sscMode1 => 1
  | .sscMode2 => 2
  | .sscMode3 => 3

inductive PduSessionType where
  | ipv4
  | ipv6
  | ipv4v6
  | unstructured
  | ethernet
  deriving DecidableEq

def PduSessionType.value : PduSessionType → UInt8
  | .ipv4 => 1
  | .ipv6 => 2
  | .ipv4v6 => 3
  | .unstructured => 4
  | .ethernet => 5

inductive RouteSelectionDescriptorComponent where
  | sscMode (mode : SscMode)
  | sNssai (sst : UInt8) (sd : Option (Vector UInt8 3))
  | dnn (name : String)
  | pduSessionType (type : PduSessionType)
  | preferredAccessType (type : PreferredAccessType)
  deriving DecidableEq

def rsdIdSscMode : UInt8 := 0b00000001
def rsdIdSnssai : UInt8 := 0b00000010
def rsdIdDnn : UInt8 := 0b00000100
def rsdIdPduSessionType : UInt8 := 0b00001000
def rsdIdPreferredAccess : UInt8 := 0b00010000

namespace RouteSelectionDescriptorComponent

variable (octet : UInt8)

def encodeInto (component : RouteSelectionDescriptorComponent) (out : Bytes) :
  Except NasError Bytes :=
  match component with
  | .sscMode mode => .ok (out ++ [rsdIdSscMode] ++ [mode.value])
  | .sNssai sst none => .ok (out ++ [rsdIdSnssai] ++ [1] ++ [sst])
  | .sNssai sst (some sd) => .ok (out ++ [rsdIdSnssai] ++ [4] ++ [sst] ++ sd.toList)
  | .dnn name => do
    let apn ← encodeLabels name maxApnLen "RSD DNN"
    return out ++ [rsdIdDnn] ++ shortFramed apn
  | .pduSessionType type => .ok (out ++ [rsdIdPduSessionType] ++ [type.value])
  | .preferredAccessType type => .ok (out ++ [rsdIdPreferredAccess] ++ [type.value])

def decodeSscMode : Except NasError SscMode :=
  if octet &&& 0xF8 ≠ 0 then
    .error (.decodingError "SSC mode component: spare bits 8..4 set")
  else if octet &&& 0x07 = 1 then .ok .sscMode1
  else if octet &&& 0x07 = 2 then .ok .sscMode2
  else if octet &&& 0x07 = 3 then .ok .sscMode3
  else
    .error (.decodingError
      s!"SSC mode component: invalid SSC mode value {octet &&& 0x07} (TS 24.501 §9.11.4.16)")

def decodePduSessionType : Except NasError PduSessionType :=
  if octet &&& 0xF8 ≠ 0 then
    .error (.decodingError "PDU session type component: spare bits 8..4 set")
  else if octet &&& 0x07 = 1 then .ok .ipv4
  else if octet &&& 0x07 = 2 then .ok .ipv6
  else if octet &&& 0x07 = 3 then .ok .ipv4v6
  else if octet &&& 0x07 = 4 then .ok .unstructured
  else if octet &&& 0x07 = 5 then .ok .ethernet
  else
    .error (.decodingError
      s!"PDU session type component: invalid value {octet &&& 0x07} (TS 24.501 §9.11.4.11)")

def decodePreferredAccessType : Except NasError PreferredAccessType :=
  if octet &&& 0xFC ≠ 0 then
    .error (.decodingError "preferred access type component: spare bits 8..3 set")
  else if octet &&& 0x03 = 1 then .ok .threeGpp
  else if octet &&& 0x03 = 2 then .ok .nonThreeGpp
  else
    .error (.decodingError
      s!"preferred access type component: invalid value {octet &&& 0x03} (TS 24.501 §9.11.2.1A)")

def sNssaiValue (length : UInt8) : Read RouteSelectionDescriptorComponent :=
  if length = 1 then do
    let sst ← u8
    return .sNssai sst none
  else if length = 4 then do
    let sst ← u8
    let sd ← takeArray 3
    return .sNssai sst (some sd)
  else
    .lift (.error (.decodingError
      (s!"RSD S-NSSAI component: invalid length {length} (must be 1 or 4 without " ++
        "mapped-HPLMN fields)")))

def decodeValue (id : UInt8) : Read RouteSelectionDescriptorComponent :=
  if id = rsdIdSscMode then do
    let octet ← u8
    let mode ← lift (decodeSscMode octet)
    return .sscMode mode
  else if id = rsdIdSnssai then do
    let length ← u8
    sNssaiValue length
  else if id = rsdIdDnn then do
    let apn ← shortFrame
    let name ← lift (decodeLabels apn "RSD DNN")
    return .dnn name
  else if id = rsdIdPduSessionType then do
    let octet ← u8
    let type ← lift (decodePduSessionType octet)
    return .pduSessionType type
  else if id = rsdIdPreferredAccess then do
    let octet ← u8
    let type ← lift (decodePreferredAccessType octet)
    return .preferredAccessType type
  else
    .lift (.error (.decodingError
      ("unknown/unsupported RSD component type identifier " ++ hexOctet id ++
        " (TS 24.526 Table 5.2.1)")))

def decodeOne : Read RouteSelectionDescriptorComponent := do
  let id ← u8
  decodeValue id

def isSingleton : RouteSelectionDescriptorComponent → Bool
  | .sscMode _ | .pduSessionType _ | .preferredAccessType _ => true
  | .sNssai _ _ | .dnn _ => false

def kindId : RouteSelectionDescriptorComponent → UInt8
  | .sscMode _ => rsdIdSscMode
  | .sNssai _ _ => rsdIdSnssai
  | .dnn _ => rsdIdDnn
  | .pduSessionType _ => rsdIdPduSessionType
  | .preferredAccessType _ => rsdIdPreferredAccess

end RouteSelectionDescriptorComponent

structure RouteSelectionDescriptor where
  precedence : UInt8
  components : List RouteSelectionDescriptorComponent
  deriving DecidableEq

namespace RouteSelectionDescriptor

def checkSingletons : List RouteSelectionDescriptorComponent → Except NasError Unit
  | [] => .ok ()
  | component :: behind =>
    if component.isSingleton && behind.any (fun other => other.kindId == component.kindId) then
      .error (.encodingError ("RSD component " ++ hexOctet component.kindId ++
        " shall not appear more than once in the route selection descriptor " ++
        "(TS 24.526 Table 5.2.1)"))
    else checkSingletons behind

def validate (rsd : RouteSelectionDescriptor) : Except NasError Unit :=
  if rsd.components.isEmpty then
    .error (.encodingError ("route selection descriptor must contain at least one component " ++
      "(TS 24.526 Table 5.2.1)"))
  else checkSingletons rsd.components

def encodeInto (rsd : RouteSelectionDescriptor) (out : Bytes) : Except NasError Bytes := do
  rsd.validate
  let contents ← rsd.components.foldlM (fun out component => component.encodeInto out) []
  let out ← pushU16Len out (1 + 2 + contents.length) "route selection descriptor"
  let out ← pushU16Len (out ++ [rsd.precedence]) contents.length
    "route selection descriptor contents"
  return out ++ contents

def decodeHead : Read (UInt8 × Bytes) := do
  let precedence ← u8
  let contents ← frame
  return (precedence, contents)

def asDecodingError (result : Except NasError Unit) : Except NasError Unit :=
  result.mapError fun error => .decodingError error.toText

def decodeOne : Read RouteSelectionDescriptor := do
  let body ← frame
  let head ← lift (whole "route selection descriptor" body decodeHead)
  let components ← lift (whole "route selection descriptor contents" head.2
    (many RouteSelectionDescriptorComponent.decodeOne))
  lift (asDecodingError (validate ⟨head.1, components⟩))
  return ⟨head.1, components⟩

end RouteSelectionDescriptor

structure UrspRule where
  precedence : UInt8
  trafficDescriptor : List TrafficDescriptorComponent
  routeSelectionDescriptors : List RouteSelectionDescriptor
  ureri : Option Bool
  deriving DecidableEq

namespace UrspRule

/-- `traffic_descriptor.contains(&TrafficDescriptorComponent::MatchAll)`. -/
def hasMatchAll (rule : UrspRule) : Bool :=
  decide (TrafficDescriptorComponent.matchAll ∈ rule.trafficDescriptor)

def validate (rule : UrspRule) : Except NasError Unit :=
  if rule.trafficDescriptor.isEmpty then
    .error (.encodingError ("traffic descriptor must contain at least one component " ++
      "(TS 24.526 Table 5.2.1)"))
  else if rule.hasMatchAll && rule.trafficDescriptor.length != 1 then
    .error (.encodingError ("a traffic descriptor containing match-all shall contain no other " ++
      "component (TS 24.526 Table 5.2.1, specs/24526-i50.txt:2500-2502)"))
  else if rule.routeSelectionDescriptors.isEmpty then
    .error (.encodingError ("URSP rule must contain at least one route selection descriptor " ++
      "(TS 24.526 Figure 5.2.3)"))
  else .ok ()

def ureriOctets : Option Bool → Bytes
  | none => []
  | some ureri => [if ureri then 1 else 0]

def encodeInto (rule : UrspRule) (out : Bytes) : Except NasError Bytes := do
  rule.validate
  let td ← rule.trafficDescriptor.foldlM (fun out component => component.encodeInto out) []
  let rsdList ← rule.routeSelectionDescriptors.foldlM (fun out rsd => rsd.encodeInto out) []
  let extra := if rule.ureri.isSome then 1 else 0
  let out ← pushU16Len out (1 + 2 + td.length + 2 + rsdList.length + extra) "URSP rule"
  let out ← pushU16Len (out ++ [rule.precedence]) td.length "traffic descriptor"
  let out ← pushU16Len (out ++ td) rsdList.length "route selection descriptor list"
  return out ++ rsdList ++ ureriOctets rule.ureri

def decodeUreri : Read (Option Bool) := fun reader =>
  if reader.remaining = 0 then .ok (none, reader)
  else if reader.remaining = 1 then
    (do
      let octet ← u8
      Reading.refuse (octet &&& 0xFE ≠ 0)
        (.decodingError "additional indications: spare bits 8..2 set (Figure 5.2.4A)")
      return some (octet &&& 0x01 == 0x01) : Read (Option Bool)) reader
  else
    .error (.decodingError (s!"URSP rule: {reader.remaining} unexpected octets after the " ++
      "route selection descriptor list"))

def decodeBody : Read UrspRule := do
  let precedence ← u8
  let td ← frame
  let trafficDescriptor ← lift (whole "traffic descriptor" td
    (many TrafficDescriptorComponent.decodeOne))
  let rsdList ← frame
  let routeSelectionDescriptors ← lift (whole "route selection descriptor list" rsdList
    (many RouteSelectionDescriptor.decodeOne))
  let ureri ← decodeUreri
  return ⟨precedence, trafficDescriptor, routeSelectionDescriptors, ureri⟩

def decodeOne : Read UrspRule := do
  let body ← frame
  let rule ← lift (whole "URSP rule" body decodeBody)
  lift (RouteSelectionDescriptor.asDecodingError rule.validate)
  return rule

end UrspRule

/-- The first loop of `encode_ursp_rules`: the number of match-all rules. -/
def checkPrecedence (seen : List UInt8) (matchAllCount : ℕ) : List UrspRule → Except NasError ℕ
  | [] => .ok matchAllCount
  | rule :: rules =>
    if rule.precedence ∈ seen then
      .error (.encodingError (s!"duplicate URSP rule precedence {rule.precedence}: multiple " ++
        "URSP rules shall not have the same precedence value (TS 24.526 Table 5.2.1)"))
    else
      checkPrecedence (rule.precedence :: seen)
        (if rule.hasMatchAll then matchAllCount + 1 else matchAllCount) rules

def encodeUrspRules (rules : List UrspRule) : Except NasError Bytes :=
  if rules.isEmpty then
    .error (.encodingError ("URSP part contents must contain at least one URSP rule " ++
      "(TS 24.526 Figure 5.2.1)"))
  else do
    let matchAllCount ← checkPrecedence [] 0 rules
    if 1 < matchAllCount then
      .error (.encodingError ("the match-all traffic descriptor component shall not appear more " ++
        "than once among all traffic descriptors of the whole URSP rules (TS 24.526 Table 5.2.1)"))
    else rules.foldlM (fun out rule => rule.encodeInto out) []

def decodeUrspRules (bytes : Bytes) : Except NasError (List UrspRule) := do
  let rules ← whole "URSP part contents" bytes (many UrspRule.decodeOne)
  if rules.isEmpty then
    .error (.decodingError "URSP part contents must contain at least one URSP rule")
  else return rules

end NextGCore.Nas.UePolicy
