import NextGCore.Sepp.Prins

/-!
# The N32-c handshake

`n32c_build.rs` and `n32c_handler.rs`: the negotiation of the security scheme, the exchange of
the N32-f parameters and the derivation of the N32-f keys.  A handler works on the node of the
peer and on the stores of the process.
-/

namespace NextGCore.Sepp

open Crypt (Bytes)
open Library Sbi Attempt

inductive SecurityCapability where
  | null
  | tls
  | prins
  | none
  deriving DecidableEq

structure SecurityCapabilityConfig where
  tls : Bool
  prins : Bool

structure SecNegotiateReqData where
  sender : String
  supportedSecCapabilityList : List SecurityCapability
  targetApirootSupported : Bool
  plmnIdList : List PlmnId
  targetPlmnId : Option PlmnId
  supportedFeatures : Option String

structure SecNegotiateRspData where
  sender : String
  selectedSecCapability : SecurityCapability
  targetApirootSupported : Bool
  plmnIdList : List PlmnId
  supportedFeatures : Option String

inductive IeType where
  | ueid
  | location
  | keyMaterial
  | authenticationMaterial
  | authorizationToken
  | recursiveNonLeaf
  | other
  | nonsensitive
  deriving DecidableEq

structure IeInfo where
  ieLoc : IeLocation
  ieType : IeType
  reqIe : Option String
  rspIe : Option String
  isModifiable : Option Bool

structure ApiIeMapping where
  apiSignature : String
  apiMethod : String
  ieList : List IeInfo

structure ProtectionPolicy where
  apiIeMappingList : List ApiIeMapping
  dataTypeEncPolicy : Option (List IeType)

def ProtectionPolicy.encTypes (policy : ProtectionPolicy) : List IeType :=
  policy.dataTypeEncPolicy.getD []

structure IpxProviderSecInfo where
  ipxProviderId : String
  rawPublicKeyList : Option (List String)
  certificateList : Option (List String)

structure SecParamExchReqData where
  sender : String
  n32fContextId : String
  jweCipherSuiteList : List String
  jwsCipherSuiteList : List String
  protectionPolicyInfo : Option ProtectionPolicy
  secProfiles : Option (List String)
  ipxProviderSecInfoList : Option (List IpxProviderSecInfo)
  senderApiRoot : Option String

structure SecParamExchRspData where
  sender : String
  n32fContextId : String
  selectedJweCipherSuite : String
  selectedJwsCipherSuite : String
  selProtectionPolicyInfo : Option ProtectionPolicy
  selSecProfiles : Option (List String)
  ipxProviderSecInfoList : Option (List IpxProviderSecInfo)

structure N32fSecurityInfo where
  localContextId : String
  peerContextId : String
  keyMaterial : N32fKeyMaterial
  role : N32fRole
  kid : String
  jweCipherSuite : String
  jwsCipherSuite : String
  encProfiles : List DataTypeProfile

structure SeppNode where
  receiver : String
  negotiatedSecurityScheme : SecurityCapability
  targetApirootSupported : Bool
  plmnIds : List PlmnId
  targetPlmnId : Option PlmnId
  supportedFeatures : UInt64
  peerApiRoot : Option String
  n32fSecurity : Option N32fSecurityInfo

def maxNumOfPlmn : ℕ := 16

def hexDigit (digit : Char) : Option ℕ :=
  if digit.isDigit then some (digit.toNat - 48)
  else if 'a' ≤ digit ∧ digit ≤ 'f' then some (digit.toNat - 87)
  else if 'A' ≤ digit ∧ digit ≤ 'F' then some (digit.toNat - 55)
  else none

def parseHexU64 (text : String) : Option UInt64 :=
  let digits :=
    match text.toList with
    | '+' :: rest => rest
    | other => other
  if digits = [] then none
  else do
    let value ← digits.foldlM (fun value digit => (hexDigit digit).map (16 * value + ·)) 0
    if value < 2 ^ 64 then some (UInt64.ofNat value) else none

def lowerHex (value : UInt64) : String :=
  String.ofList (Nat.toDigits 16 value.toNat)

namespace SeppNode

variable (node : SeppNode)

def addPlmnId (plmn : PlmnId) : SeppNode :=
  if node.plmnIds.length < maxNumOfPlmn then { node with plmnIds := node.plmnIds ++ [plmn] }
  else node

def replacePlmnIds (plmns : List PlmnId) : SeppNode :=
  plmns.foldl addPlmnId { node with plmnIds := [] }

def adoptTargetPlmnId : Option PlmnId → SeppNode
  | some plmn => { node with targetPlmnId := some plmn }
  | none => node

def learnApiRoot : Option String → SeppNode
  | some apiRoot => { node with peerApiRoot := some apiRoot }
  | none => node

def restrictFeatures : Option String → SeppNode
  | some text =>
    match parseHexU64 text with
    | some features =>
      { node with supportedFeatures := node.supportedFeatures &&& features }
    | none => node
  | none => { node with supportedFeatures := 0 }

end SeppNode

/-- `N32F_EXPORTER_SECRET_LEN` octets, from the TLS exporter or from SHA-512. -/
abbrev Master := Vector UInt8 64

structure SeppContext where
  sender : Option String
  securityCapability : SecurityCapabilityConfig
  targetApirootSupported : Bool
  servingPlmnIds : List PlmnId
  exporterSecrets : String → Option Master
  allowInsecureNoTls : Bool
  localSigningKey : Option SigningKey
  verifyingKeys : List (String × VerifyingKey)

structure Handling where
  context : SeppContext
  node : SeppNode

abbrev Handler := Attempt Handling String

structure N32cCrates where
  hkdfExpand : Master → Bytes → (length : ℕ) → Vector UInt8 length
  sha512 : Bytes → Master
  publicKeyPem : SigningKey → Option String
  parsePublicKeyPem : String → Except JoseError VerifyingKey
  parsePublicKeyFromCert : String → Except JoseError VerifyingKey

def setN32cTlsExporterSecret (context : SeppContext) (peer : String) (secret : Master) :
  SeppContext :=
  { context with exporterSecrets := Function.update context.exporterSecrets peer (some secret) }

def n32HandshakeNftlst : UInt64 := 0x01

def offeredCapabilities (config : SecurityCapabilityConfig) (terminating : Bool) :
  List SecurityCapability :=
  if terminating then [.none]
  else (if config.tls then [.tls] else []) ++ (if config.prins then [.prins] else [])

def buildSecurityCapabilityRequest (context : SeppContext) (node : SeppNode) (terminating : Bool) :
  Option (SecNegotiateReqData × SeppNode) := do
  let sender ← context.sender
  let offered := offeredCapabilities context.securityCapability terminating
  if offered = [] then none
  else
    let features := node.supportedFeatures ||| n32HandshakeNftlst
    some
      ({ sender := sender
         supportedSecCapabilityList := offered
         targetApirootSupported := !terminating && context.targetApirootSupported
         plmnIdList := context.servingPlmnIds
         targetPlmnId := node.targetPlmnId
         supportedFeatures := some (lowerHex features) },
       { node with supportedFeatures := features })

def checkSender (missing : String) (sender : String) : Handler Unit := do
  inspect fun _ => refuse (sender = "") missing
  inspect fun now => refuse (sender ≠ now.node.receiver)
    ("FQDN mismatch: expected [" ++ now.node.receiver ++ "], got [" ++ sender ++ "]")

def selectCapability (config : SecurityCapabilityConfig) (offered : List SecurityCapability) :
  Except String SecurityCapability :=
  if .tls ∈ offered ∧ config.tls then .ok .tls
  else if .prins ∈ offered ∧ config.prins then .ok .prins
  else if .none ∈ offered then .ok .none
  else .error "No mutually supported security capability"

def changeNode (change : SeppNode → SeppNode) : Handler Unit :=
  Attempt.modify fun now => { now with node := change now.node }

def handleSecurityCapabilityRequest (req : SecNegotiateReqData) : Handler Unit := do
  checkSender "No SecNegotiateReqData.sender" req.sender
  inspect fun _ =>
    refuse (req.supportedSecCapabilityList = []) "No supported_sec_capability_list"
  let scheme ← inspect fun now =>
    selectCapability now.context.securityCapability req.supportedSecCapabilityList
  changeNode fun node => { node with negotiatedSecurityScheme := scheme }
  changeNode fun node => { node with targetApirootSupported := req.targetApirootSupported }
  changeNode fun node => node.replacePlmnIds req.plmnIdList
  changeNode fun node => node.adoptTargetPlmnId req.targetPlmnId
  changeNode fun node => node.restrictFeatures req.supportedFeatures

def handleSecurityCapabilityResponse (rsp : SecNegotiateRspData) : Handler Unit := do
  checkSender "No SecNegotiateRspData.sender" rsp.sender
  inspect fun _ =>
    refuse (rsp.selectedSecCapability = .null) "No selected_sec_capability"
  changeNode fun node => { node with negotiatedSecurityScheme := rsp.selectedSecCapability }
  changeNode fun node => { node with targetApirootSupported := rsp.targetApirootSupported }
  changeNode fun node => node.replacePlmnIds rsp.plmnIdList
  changeNode fun node => node.restrictFeatures rsp.supportedFeatures

def bodyIe (pointer : String) (ieType : IeType) : IeInfo where
  ieLoc := .body
  ieType := ieType
  reqIe := some pointer
  rspIe := none
  isModifiable := some false

def localProtectionPolicy : ProtectionPolicy where
  apiIeMappingList :=
    [{ apiSignature := "nudm-sdm"
       apiMethod := "GET"
       ieList := [bodyIe "/supi" .ueid, bodyIe "/pei" .ueid, bodyIe "/gpsi" .ueid] },
     { apiSignature := "nudm-uecm"
       apiMethod := "PUT"
       ieList := [bodyIe "/supi" .ueid, bodyIe "/pei" .ueid] },
     { apiSignature := "nausf-auth"
       apiMethod := "POST"
       ieList :=
         [bodyIe "/supiOrSuci" .ueid,
          bodyIe "/authenticationVector" .authenticationMaterial] }]
  dataTypeEncPolicy := some [.ueid, .authenticationMaterial]

def IeInfo.encrypted (encTypes : List IeType) (ie : IeInfo) : Option IeDescriptor :=
  if ie.ieLoc = .body ∧ ie.ieType ∈ encTypes then ie.reqIe.map fun path => ⟨"BODY", path⟩
  else none

def ApiIeMapping.profile (encTypes : List IeType) (mapping : ApiIeMapping) :
  DataTypeProfile where
  id := mapping.apiSignature ++ "-profile"
  serviceName := mapping.apiSignature
  encryptIes := mapping.ieList.filterMap (IeInfo.encrypted encTypes)

def profilesFromProtectionPolicy (policy : ProtectionPolicy) (encTypes : List IeType) :
  List DataTypeProfile :=
  policy.apiIeMappingList.map (ApiIeMapping.profile encTypes)

/-- The types of the peer's policy, if it has one, that the local policy encrypts. -/
def agreedTypes (peer : Option ProtectionPolicy) : List IeType :=
  match peer.bind ProtectionPolicy.dataTypeEncPolicy with
  | some peerTypes => localProtectionPolicy.encTypes.filter (· ∈ peerTypes)
  | none => localProtectionPolicy.encTypes

def negotiateProtectionPolicy (peer : Option ProtectionPolicy) :
  ProtectionPolicy × List DataTypeProfile :=
  let selected : ProtectionPolicy :=
    { apiIeMappingList := localProtectionPolicy.apiIeMappingList
      dataTypeEncPolicy := some (agreedTypes peer) }
  (selected, profilesFromProtectionPolicy selected (agreedTypes peer))

/-- The profiles that the initiator adopts with the policy that its peer selected. -/
def adoptedProfiles : Option ProtectionPolicy → List DataTypeProfile
  | some selected => profilesFromProtectionPolicy selected selected.encTypes
  | none => (negotiateProtectionPolicy none).2

def supportedJweSuites : List String :=
  ["A256GCM", "A128GCM"]

def supportedJwsSuites : List String :=
  ["ES256"]

def selectCipherSuite (peerList ours : List String) : Option String :=
  ours.find? (· ∈ peerList)

def canonicalN32fContextId (initiator responder : String) : String :=
  initiator ++ "-" ++ responder

def generateN32fContextId (random : UInt64) : String :=
  String.ofList (List.leftpad 16 '0' (lowerHex random).toList)

namespace N32cCrates

variable (crates : N32cCrates)

def n32Kdf (master : Master) (contextId label : String) (length : ℕ) : Vector UInt8 length :=
  crates.hkdfExpand master (asBytes "N32" ++ asBytes contextId ++ asBytes label) length

def deriveN32fKeyMaterial (master : Master) (contextId : String) : N32fKeyMaterial where
  parallelReq := (crates.n32Kdf master contextId "parallel_request_key" 32,
    crates.n32Kdf master contextId "parallel_request_iv_salt" 8)
  parallelResp := (crates.n32Kdf master contextId "parallel_response_key" 32,
    crates.n32Kdf master contextId "parallel_response_iv_salt" 8)
  reverseReq := (crates.n32Kdf master contextId "reverse_request_key" 32,
    crates.n32Kdf master contextId "reverse_request_iv_salt" 8)
  reverseResp := (crates.n32Kdf master contextId "reverse_response_key" 32,
    crates.n32Kdf master contextId "reverse_response_iv_salt" 8)

def noTlsFallback (initiator responder : String) : Master :=
  let lower := if initiator ≤ responder then initiator else responder
  let upper := if initiator ≤ responder then responder else initiator
  crates.sha512 (asBytes "N32f-no-tls-fallback" ++ asBytes lower ++ asBytes "|" ++ asBytes upper)

def resolveExporterSecret (peer initiator responder : String) : Handler Master := fun now =>
  match now.context.exporterSecrets peer with
  | some secret =>
    (.ok secret,
     { now with
       context :=
         { now.context with
           exporterSecrets := Function.update now.context.exporterSecrets peer none } })
  | none =>
    if now.context.allowInsecureNoTls then (.ok (crates.noTlsFallback initiator responder), now)
    else
      (.error ("[" ++ peer ++ "] UNAVAILABLE_PRINS_CONTEXT: no N32-c TLS RFC 5705 exporter " ++
        "secret and the no-TLS fallback is disabled (production strict); cannot " ++
        "derive the N32-f key hierarchy"), now)

def registerVerifyingKey (identity : String) (key : VerifyingKey) : Handler Unit :=
  Attempt.modify fun now =>
    { now with
      context :=
        { now.context with
          verifyingKeys := Members.insert now.context.verifyingKeys identity key } }

def registerKeys (parse : String → Except JoseError VerifyingKey) (peer identity kind : String)
  (texts : List String) : Handler Unit :=
  texts.forM fun text => do
    let key ← inspect fun _ => (parse text).mapError fun problem =>
      "peer [" ++ peer ++ "] RI [" ++ identity ++ "] sent bad " ++ kind ++ ": " ++ problem.display
    registerVerifyingKey identity key

def registerPeerIpxSecInfo (peer : String) (list : Option (List IpxProviderSecInfo)) :
  Handler Unit :=
  (list.getD []).forM fun info => do
    registerKeys crates.parsePublicKeyPem peer info.ipxProviderId "ES256 raw public key"
      (info.rawPublicKeyList.getD [])
    registerKeys crates.parsePublicKeyFromCert peer info.ipxProviderId
      "X.509 signing certificate" (info.certificateList.getD [])

def localIpxProviderSecInfo (generated : SigningKey) (fqdn : String) :
  Handler (Option (List IpxProviderSecInfo)) := do
  Attempt.modify fun now =>
    { now with
      context :=
        { now.context with
          localSigningKey := some (now.context.localSigningKey.getD generated) } }
  inspect fun now => .ok
    ((now.context.localSigningKey.bind crates.publicKeyPem).map fun pem =>
      [⟨fqdn, some [pem], none⟩])

def localIdentity : Handler String :=
  inspect fun now => given "local sender FQDN not configured" now.context.sender

/-- The responder; its context identifier and its signing key are drawn when they are needed. -/
def handleExchangeParamsRequest (random : UInt64) (generated : SigningKey)
  (req : SecParamExchReqData) : Handler SecParamExchRspData := do
  checkSender "No SecParamExchReqData.sender" req.sender
  inspect fun now => refuse (now.node.negotiatedSecurityScheme ≠ .prins)
    "exchange-params requires negotiated PRINS"
  let jwe ← inspect fun _ => given "No mutually supported JWE cipher suite"
    (selectCipherSuite req.jweCipherSuiteList supportedJweSuites)
  let jws ← inspect fun _ => given "No mutually supported JWS cipher suite"
    (selectCipherSuite req.jwsCipherSuiteList supportedJwsSuites)
  let localFqdn ← localIdentity
  let localContextId := generateN32fContextId random
  crates.registerPeerIpxSecInfo req.sender req.ipxProviderSecInfoList
  let master ← crates.resolveExporterSecret req.sender req.n32fContextId localContextId
  let contextId := canonicalN32fContextId req.n32fContextId localContextId
  let negotiated := negotiateProtectionPolicy req.protectionPolicyInfo
  changeNode fun node =>
    { node with
      n32fSecurity := some
        { localContextId := localContextId
          peerContextId := req.n32fContextId
          keyMaterial := crates.deriveN32fKeyMaterial master contextId
          role := .responder
          kid := contextId
          jweCipherSuite := jwe
          jwsCipherSuite := jws
          encProfiles := negotiated.2 } }
  changeNode fun node => node.learnApiRoot req.senderApiRoot
  let localIpx ← crates.localIpxProviderSecInfo generated localFqdn
  pure
    { sender := localFqdn
      n32fContextId := localContextId
      selectedJweCipherSuite := jwe
      selectedJwsCipherSuite := jws
      selProtectionPolicyInfo := some negotiated.1
      selSecProfiles := req.secProfiles
      ipxProviderSecInfoList := localIpx }

def handleExchangeParamsResponse (sent : SecParamExchReqData) (rsp : SecParamExchRspData) :
  Handler Unit := do
  checkSender "No SecParamExchRspData.sender" rsp.sender
  inspect fun _ => refuse (rsp.selectedJweCipherSuite ∉ supportedJweSuites)
    ("Peer selected unsupported JWE suite [" ++ rsp.selectedJweCipherSuite ++ "]")
  inspect fun _ => refuse (rsp.selectedJwsCipherSuite ∉ supportedJwsSuites)
    ("Peer selected unsupported JWS suite [" ++ rsp.selectedJwsCipherSuite ++ "]")
  crates.registerPeerIpxSecInfo rsp.sender rsp.ipxProviderSecInfoList
  let master ← crates.resolveExporterSecret rsp.sender sent.n32fContextId rsp.n32fContextId
  let contextId := canonicalN32fContextId sent.n32fContextId rsp.n32fContextId
  changeNode fun node =>
    { node with
      n32fSecurity := some
        { localContextId := sent.n32fContextId
          peerContextId := rsp.n32fContextId
          keyMaterial := crates.deriveN32fKeyMaterial master contextId
          role := .initiator
          kid := contextId
          jweCipherSuite := rsp.selectedJweCipherSuite
          jwsCipherSuite := rsp.selectedJwsCipherSuite
          encProfiles := adoptedProfiles rsp.selProtectionPolicyInfo } }

/-- The request with which `initiate_n32c_handshake` starts the exchange. -/
def paramsRequest (random : UInt64) (generated : SigningKey) (localApiRoot : Option String) :
  Handler SecParamExchReqData := do
  let localSender ← inspect fun now => given "sender not configured" now.context.sender
  let localIpx ← crates.localIpxProviderSecInfo generated localSender
  pure
    { sender := localSender
      n32fContextId := generateN32fContextId random
      jweCipherSuiteList := supportedJweSuites
      jwsCipherSuiteList := supportedJwsSuites
      protectionPolicyInfo := some localProtectionPolicy
      secProfiles := none
      ipxProviderSecInfoList := localIpx
      senderApiRoot := localApiRoot }

end N32cCrates

end NextGCore.Sepp
