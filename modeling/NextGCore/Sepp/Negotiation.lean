import NextGCore.Sepp.N32c

/-!
# Negotiation on N32-c

A handler that fails leaves the node of the peer alone, and a responder selects the best scheme
that both sides support.  The initiator takes what its peer answers, so a peer that answers
honestly is what keeps the scheme among those that were offered and the profiles as strong as
the policy of the initiator.
-/

namespace NextGCore.Sepp

open Library Option Attempt FailSafe NeverFails Keeps

variable {now after : Handling} {done : Unit} (node : SeppNode) {rsp : SecNegotiateRspData}
  {path : String} {context : SeppContext} {terminating : Bool}

@[simp]
lemma SeppNode.negotiatedSecurityScheme_addPlmnId (plmn : PlmnId) :
  (node.addPlmnId plmn).negotiatedSecurityScheme = node.negotiatedSecurityScheme := by
  unfold addPlmnId
  split <;> rfl

@[simp]
lemma SeppNode.negotiatedSecurityScheme_replacePlmnIds (plmns : List PlmnId) :
  (node.replacePlmnIds plmns).negotiatedSecurityScheme = node.negotiatedSecurityScheme := by
  have kept : ∀ changed : SeppNode, (plmns.foldl addPlmnId changed).negotiatedSecurityScheme =
        changed.negotiatedSecurityScheme := by
    induction plmns with
    | nil => exact fun _ => rfl
    | cons plmn rest ih =>
      intro changed
      rw [List.foldl_cons, ih, negotiatedSecurityScheme_addPlmnId]
  exact kept _

@[simp]
lemma SeppNode.negotiatedSecurityScheme_restrictFeatures (features : Option String) :
  (node.restrictFeatures features).negotiatedSecurityScheme = node.negotiatedSecurityScheme := by
  unfold restrictFeatures
  split
  · split <;> rfl
  · rfl

@[simp]
lemma SeppNode.negotiatedSecurityScheme_adoptTargetPlmnId (target : Option PlmnId) :
  (node.adoptTargetPlmnId target).negotiatedSecurityScheme = node.negotiatedSecurityScheme := by
  cases target <;> rfl

@[simp]
lemma checkSender_eq_ok_iff {missing sender : String} :
  checkSender missing sender now = (.ok done, after) ↔
    (sender ≠ "" ∧ sender = now.node.receiver) ∧ now = after := by
  unfold checkSender
  simp only [Attempt.bind_eq_ok_iff, inspect_eq_ok_iff, refuse_eq_ok_iff, not_not]
  constructor
  · rintro ⟨_, _, ⟨present, rfl⟩, named, rfl⟩
    exact ⟨⟨present, named⟩, rfl⟩
  · rintro ⟨⟨present, named⟩, rfl⟩
    exact ⟨(), now, ⟨present, rfl⟩, named, rfl⟩

@[simp]
lemma changeNode_eq_ok_iff {change : SeppNode → SeppNode} :
  changeNode change now = (.ok done, after) ↔ { now with node := change now.node } = after := by
  simp [changeNode]

lemma handleSecurityCapabilityRequest_eq_ok {req : SecNegotiateReqData}
  (handled : handleSecurityCapabilityRequest req now = (.ok done, after)) :
  selectCapability now.context.securityCapability req.supportedSecCapabilityList =
    .ok after.node.negotiatedSecurityScheme := by
  simp [handleSecurityCapabilityRequest] at handled
  obtain ⟨_, _, scheme, selected, rfl⟩ := handled
  simp [selected]

@[mk_iff]
structure SecNegotiateRspData.Acceptable (rsp : SecNegotiateRspData) (now : Handling) : Prop where
  sender_ne : rsp.sender ≠ ""
  sender_eq : rsp.sender = now.node.receiver
  selects : rsp.selectedSecCapability ≠ .null

lemma succeeds_handleSecurityCapabilityResponse :
  (handleSecurityCapabilityResponse rsp).Succeeds now ↔ rsp.Acceptable now := by
  simp [handleSecurityCapabilityResponse, Succeeds, SecNegotiateRspData.acceptable_iff, and_assoc]

lemma handleSecurityCapabilityResponse_eq_ok
  (handled : handleSecurityCapabilityResponse rsp now = (.ok done, after)) :
  after.node.negotiatedSecurityScheme = rsp.selectedSecCapability := by
  simp [handleSecurityCapabilityResponse] at handled
  obtain ⟨_, _, rfl⟩ := handled
  simp

namespace N32cCrates

variable (crates : N32cCrates) {peer : String} {now after : Handling}
  {list : Option (List IpxProviderSecInfo)} {initiator responder : String}
  {sent : SecParamExchReqData} {rsp : SecParamExchRspData}

def withoutKeys (now : Handling) : SeppContext × SeppNode :=
  ({ now.context with verifyingKeys := [] }, now.node)

lemma keeps_registerKeys (parse : String → Except JoseError VerifyingKey)
  (peer identity kind : String) (texts : List String) :
  Keeps withoutKeys (registerKeys parse peer identity kind texts) := by
  refine forM (fun text => ?_) texts
  exact bind (inspect _) fun key =>
    modify fun now => rfl

lemma succeeds_registerKeys {parse : String → Except JoseError VerifyingKey}
  {identity kind : String} {texts : List String} :
  (registerKeys parse peer identity kind texts).Succeeds now ↔
    ∀ text ∈ texts, ∃ key, parse text = .ok key := by
  refine succeeds_forM (fun text now => ?_) texts now
  simp [Succeeds, registerVerifyingKey]

def Readable (list : Option (List IpxProviderSecInfo)) : Prop :=
  ∀ info ∈ list.getD [],
    (∀ text ∈ info.rawPublicKeyList.getD [], ∃ key, crates.parsePublicKeyPem text = .ok key) ∧
    ∀ text ∈ info.certificateList.getD [], ∃ key, crates.parsePublicKeyFromCert text = .ok key

lemma keeps_registerPeerIpxSecInfo (peer : String) (list : Option (List IpxProviderSecInfo)) :
  Keeps withoutKeys (crates.registerPeerIpxSecInfo peer list) :=
  forM (fun _ => bind (keeps_registerKeys _ _ _ _ _) fun _ => keeps_registerKeys _ _ _ _ _) _

lemma succeeds_registerPeerIpxSecInfo :
  (crates.registerPeerIpxSecInfo peer list).Succeeds now ↔ crates.Readable list := by
  refine succeeds_forM (fun info now => ?_) (list.getD []) now
  rw [succeeds_bind fun _ _ => succeeds_registerKeys, succeeds_registerKeys]

variable {crates}

section

variable (same : withoutKeys after = withoutKeys now)

include same

lemma node_eq_of_withoutKeys_eq : after.node = now.node :=
  congrArg Prod.snd same

lemma exporterSecrets_eq_of_withoutKeys_eq :
  after.context.exporterSecrets = now.context.exporterSecrets :=
  congrArg (fun view => view.1.exporterSecrets) same

lemma allowInsecureNoTls_eq_of_withoutKeys_eq :
  after.context.allowInsecureNoTls = now.context.allowInsecureNoTls :=
  congrArg (fun view => view.1.allowInsecureNoTls) same

end

lemma keeps_resolveExporterSecret (peer initiator responder : String) :
  Keeps Handling.node (crates.resolveExporterSecret peer initiator responder) := by
  intro now
  unfold resolveExporterSecret
  split
  · rfl
  · split <;> rfl

def HasMaster (context : SeppContext) (peer : String) : Prop :=
  context.exporterSecrets peer = none → context.allowInsecureNoTls = true

lemma succeeds_resolveExporterSecret :
  (crates.resolveExporterSecret peer initiator responder).Succeeds now ↔
    HasMaster now.context peer := by
  unfold Succeeds resolveExporterSecret HasMaster
  cases deposited : now.context.exporterSecrets peer with
  | some secret => simp
  | none => cases allowed : now.context.allowInsecureNoTls <;> simp

lemma registered_and_resolved :
  (∃ done between, crates.registerPeerIpxSecInfo peer list now = (.ok done, between) ∧
      ∃ master after,
        crates.resolveExporterSecret peer initiator responder between = (.ok master, after)) ↔
    crates.Readable list ∧ HasMaster now.context peer := by
  have same {between : Handling} {done : PUnit}
      (registered : crates.registerPeerIpxSecInfo peer list now = (.ok done, between)) :
      HasMaster between.context peer ↔ HasMaster now.context peer := by
    have kept := crates.keeps_registerPeerIpxSecInfo peer list now
    rw [registered] at kept
    unfold HasMaster
    rw [exporterSecrets_eq_of_withoutKeys_eq kept, allowInsecureNoTls_eq_of_withoutKeys_eq kept]
  constructor
  · rintro ⟨done, between, registered, resolved⟩
    exact ⟨(crates.succeeds_registerPeerIpxSecInfo).mp ⟨done, between, registered⟩,
      (same registered).mp (succeeds_resolveExporterSecret.mp resolved)⟩
  · rintro ⟨readable, hasMaster⟩
    obtain ⟨done, between, registered⟩ := (crates.succeeds_registerPeerIpxSecInfo).mpr readable
    exact ⟨done, between, registered,
      succeeds_resolveExporterSecret.mpr ((same registered).mpr hasMaster)⟩

@[mk_iff]
structure Acceptable (crates : N32cCrates) (rsp : SecParamExchRspData) (now : Handling) :
  Prop where
  sender_ne : rsp.sender ≠ ""
  sender_eq : rsp.sender = now.node.receiver
  jweSuite : rsp.selectedJweCipherSuite ∈ supportedJweSuites
  jwsSuite : rsp.selectedJwsCipherSuite ∈ supportedJwsSuites
  readable : crates.Readable rsp.ipxProviderSecInfoList
  hasMaster : HasMaster now.context rsp.sender

lemma handleExchangeParamsResponse_eq_ok {done : Unit}
  (handled : crates.handleExchangeParamsResponse sent rsp now = (.ok done, after)) :
  ∃ info, after.node.n32fSecurity = some info ∧
    info.encProfiles = adoptedProfiles rsp.selProtectionPolicyInfo := by
  simp [handleExchangeParamsResponse] at handled
  obtain ⟨_, _, _, _, _, _, _, _, _, rfl⟩ := handled
  exact ⟨_, rfl, rfl⟩

lemma succeeds_handleExchangeParamsResponse :
  (crates.handleExchangeParamsResponse sent rsp).Succeeds now ↔ crates.Acceptable rsp now := by
  simp [handleExchangeParamsResponse, Succeeds, acceptable_iff, and_assoc, registered_and_resolved]

end N32cCrates

lemma keeps_checkSender {View : Type} (view : Handling → View) (missing sender : String) :
  Keeps view (checkSender missing sender) :=
  bind (inspect _) fun _ => inspect _

lemma neverFails_changeNode (change : SeppNode → SeppNode) :
  NeverFails (changeNode change) :=
  modify _

lemma failSafe_handleSecurityCapabilityRequest (req : SecNegotiateReqData) :
  FailSafe Handling.node (handleSecurityCapabilityRequest req) := by
  refine bind (keeps_checkSender _ _ _) fun _ => ?_
  refine bind (inspect _) fun _ => ?_
  refine bind (inspect _) fun scheme => ?_
  refine of_neverFails ?_
  refine bind (neverFails_changeNode _) fun _ => ?_
  refine bind (neverFails_changeNode _) fun _ => ?_
  refine bind (neverFails_changeNode _) fun _ => ?_
  exact bind (neverFails_changeNode _) fun _ => neverFails_changeNode _

lemma failSafe_handleSecurityCapabilityResponse (rsp : SecNegotiateRspData) :
  FailSafe Handling.node (handleSecurityCapabilityResponse rsp) := by
  refine bind (keeps_checkSender _ _ _) fun _ => ?_
  refine bind (inspect _) fun _ => ?_
  refine of_neverFails ?_
  refine bind (neverFails_changeNode _) fun _ => ?_
  refine bind (neverFails_changeNode _) fun _ => ?_
  exact bind (neverFails_changeNode _) fun _ => neverFails_changeNode _

namespace N32cCrates

variable (crates : N32cCrates)

lemma keeps_node_registerPeerIpxSecInfo (peer : String)
  (list : Option (List IpxProviderSecInfo)) :
  Keeps Handling.node (crates.registerPeerIpxSecInfo peer list) :=
  fun now => node_eq_of_withoutKeys_eq (crates.keeps_registerPeerIpxSecInfo peer list now)

lemma neverFails_localIpxProviderSecInfo (generated : SigningKey) (fqdn : String) :
  NeverFails (crates.localIpxProviderSecInfo generated fqdn) :=
  bind (modify _) fun _ _ => ⟨_, rfl⟩

lemma failSafe_handleExchangeParamsRequest (random : UInt64) (generated : SigningKey)
  (req : SecParamExchReqData) :
  FailSafe Handling.node (crates.handleExchangeParamsRequest random generated req) := by
  refine bind (keeps_checkSender _ _ _) fun _ => ?_
  refine bind (inspect _) fun _ => ?_
  refine bind (inspect _) fun jwe => ?_
  refine bind (inspect _) fun jws => ?_
  refine bind (inspect _) fun localFqdn => ?_
  refine bind (crates.keeps_node_registerPeerIpxSecInfo _ _) fun _ => ?_
  refine bind (keeps_resolveExporterSecret _ _ _) fun master => ?_
  refine of_neverFails ?_
  refine bind (neverFails_changeNode _) fun _ => ?_
  refine bind (neverFails_changeNode _) fun _ => ?_
  exact bind (crates.neverFails_localIpxProviderSecInfo _ _)
    fun _ => pure _

lemma failSafe_handleExchangeParamsResponse (sent : SecParamExchReqData)
  (rsp : SecParamExchRspData) :
  FailSafe Handling.node (crates.handleExchangeParamsResponse sent rsp) := by
  refine bind (keeps_checkSender _ _ _) fun _ => ?_
  refine bind (inspect _) fun _ => ?_
  refine bind (inspect _) fun _ => ?_
  refine bind (crates.keeps_node_registerPeerIpxSecInfo _ _) fun _ => ?_
  refine bind (keeps_resolveExporterSecret _ _ _) fun master => ?_
  exact of_neverFails (neverFails_changeNode _)

end N32cCrates

def SecurityCapability.rank : SecurityCapability → ℕ
  | .tls => 3
  | .prins => 2
  | .none => 1
  | .null => 0

def SecurityCapabilityConfig.Supports (config : SecurityCapabilityConfig) :
    SecurityCapability → Prop
  | .tls => config.tls
  | .prins => config.prins
  | .none => True
  | .null => False

structure Highest (config : SecurityCapabilityConfig) (offered : List SecurityCapability)
  (scheme : SecurityCapability) : Prop where
  isOffered : scheme ∈ offered
  isSupported : config.Supports scheme
  best : ∀ other ∈ offered, config.Supports other → other.rank ≤ scheme.rank

lemma highest_of_selectCapability {config : SecurityCapabilityConfig}
  {offered : List SecurityCapability} {scheme : SecurityCapability}
  (selected : selectCapability config offered = .ok scheme) :
  Highest config offered scheme := by
  unfold selectCapability at selected
  split at selected
  · rename_i tls
    cases selected
    refine ⟨tls.1, tls.2, fun other _ _ => ?_⟩
    cases other <;> decide
  · rename_i noTls
    split at selected
    · rename_i prins
      cases selected
      refine ⟨prins.1, prins.2, fun other isOffered supported => ?_⟩
      cases other with
      | tls => exact absurd ⟨isOffered, supported⟩ noTls
      | _ => decide
    · rename_i noPrins
      split at selected
      · rename_i none
        cases selected
        refine ⟨none, trivial, fun other isOffered supported => ?_⟩
        cases other with
        | tls => exact absurd ⟨isOffered, supported⟩ noTls
        | prins => exact absurd ⟨isOffered, supported⟩ noPrins
        | _ => decide
      · cases selected

/-- The body pointers that the own policy encrypts for the selected types, by service. -/
def Required (selectedTypes : List IeType) (service path : String) : Prop :=
  ∃ mapping ∈ localProtectionPolicy.apiIeMappingList, mapping.apiSignature = service ∧
    ∃ ie ∈ mapping.ieList, ie.ieLoc = .body ∧ ie.ieType ∈ localProtectionPolicy.encTypes ∧
      ie.ieType ∈ selectedTypes ∧ ie.reqIe = some path

def Covers (profiles : List DataTypeProfile) (service path : String) : Prop :=
  ∃ profile, (profiles.find? fun profile => profile.serviceName = service) = some profile ∧
    path ∈ profile.bodyPaths

/-- The first mapping of the policy for the service has the pointer with an encrypted type. -/
def ProtectionPolicy.Maps (policy : ProtectionPolicy) (service path : String) : Prop :=
  ∃ mapping, (policy.apiIeMappingList.find? fun mapping => mapping.apiSignature = service) =
      some mapping ∧
    ∃ ie ∈ mapping.ieList, ie.ieLoc = .body ∧ ie.ieType ∈ policy.encTypes ∧ ie.reqIe = some path

lemma ApiIeMapping.mem_bodyPaths_profile {mapping : ApiIeMapping} {encTypes : List IeType} :
  path ∈ (mapping.profile encTypes).bodyPaths ↔
    ∃ ie ∈ mapping.ieList, ie.ieLoc = .body ∧ ie.ieType ∈ encTypes ∧ ie.reqIe = some path := by
  simp only [DataTypeProfile.bodyPaths, profile, List.mem_map, List.mem_filter,
    List.mem_filterMap, IeInfo.encrypted, decide_eq_true_eq]
  constructor
  · rintro ⟨descriptor, ⟨⟨ie, isIe, encrypted⟩, inBody⟩, rfl⟩
    split at encrypted
    · rename_i designated
      obtain ⟨path, given, rfl⟩ := map_eq_some_iff.mp encrypted
      exact ⟨ie, isIe, designated.1, designated.2, given⟩
    · cases encrypted
  · rintro ⟨ie, isIe, inBody, designated, given⟩
    exact ⟨⟨"BODY", path⟩, ⟨⟨ie, isIe, by simp [inBody, designated, given]⟩, rfl⟩, rfl⟩

lemma covers_profilesFromProtectionPolicy {policy : ProtectionPolicy} {service : String} :
  Covers (profilesFromProtectionPolicy policy policy.encTypes) service path ↔
    policy.Maps service path := by
  have found : ((profilesFromProtectionPolicy policy policy.encTypes).find? fun profile =>
        profile.serviceName = service) =
      (policy.apiIeMappingList.find? fun mapping => mapping.apiSignature = service).map
        (ApiIeMapping.profile policy.encTypes) := by
    rw [profilesFromProtectionPolicy, List.find?_map]
    rfl
  unfold Covers ProtectionPolicy.Maps
  rw [found]
  constructor
  · rintro ⟨profile, isFound, covered⟩
    obtain ⟨mapping, first, rfl⟩ := map_eq_some_iff.mp isFound
    exact ⟨mapping, first, ApiIeMapping.mem_bodyPaths_profile.mp covered⟩
  · rintro ⟨mapping, first, mapped⟩
    exact ⟨_, map_eq_some_iff.mpr ⟨mapping, first, rfl⟩,
      ApiIeMapping.mem_bodyPaths_profile.mpr mapped⟩

def adoptedPolicy (selected : Option ProtectionPolicy) : ProtectionPolicy :=
  selected.getD (negotiateProtectionPolicy none).1

lemma adoptedProfiles_eq (selected : Option ProtectionPolicy) : adoptedProfiles selected =
    profilesFromProtectionPolicy (adoptedPolicy selected) (adoptedPolicy selected).encTypes := by
  cases selected <;> rfl

/-- A policy maps what the own policy requires for the types that it encrypts. -/
def ProtectionPolicy.KeepsOwn (policy : ProtectionPolicy) : Prop :=
  ∀ service path, Required policy.encTypes service path → policy.Maps service path

lemma keepsOwn_adoptedPolicy_none : (adoptedPolicy none).KeepsOwn := by
  rintro service path ⟨mapping, isMapping, rfl, ie, isIe, inBody, _, encrypted, given⟩
  refine ⟨mapping, ?_, ie, isIe, inBody, encrypted, given⟩
  simp only [localProtectionPolicy, List.mem_cons, List.not_mem_nil, or_false] at isMapping
  rcases isMapping with rfl | rfl | rfl <;> rfl

structure Negotiation where
  offering : Handling
  terminating : Bool
  answer : SecNegotiateRspData
  exchanging : Handling
  sent : SecParamExchReqData
  selection : SecParamExchRspData
  responding : Handling
  request : SecNegotiateReqData

namespace Negotiation

variable (negotiation : Negotiation)

def AdoptsOffered : Prop :=
  ∀ offer node after,
    buildSecurityCapabilityRequest negotiation.offering.context negotiation.offering.node
        negotiation.terminating = some (offer, node) →
      handleSecurityCapabilityResponse negotiation.answer
          { negotiation.offering with node } = (.ok (), after) →
        after.node.negotiatedSecurityScheme ∈ offer.supportedSecCapabilityList

def SelectsHighest : Prop :=
  ∀ after, handleSecurityCapabilityRequest negotiation.request negotiation.responding =
      (.ok (), after) →
    Highest negotiation.responding.context.securityCapability
      negotiation.request.supportedSecCapabilityList after.node.negotiatedSecurityScheme

/-- The profiles of the initiator cover its own policy under the selected types. -/
def CoversOwnPolicy (crates : N32cCrates) : Prop :=
  ∀ after, crates.handleExchangeParamsResponse negotiation.sent negotiation.selection
      negotiation.exchanging = (.ok (), after) →
    ∃ info, after.node.n32fSecurity = some info ∧ ∀ service path,
        Required (adoptedPolicy negotiation.selection.selProtectionPolicyInfo).encTypes
          service path → Covers info.encProfiles service path

end Negotiation

/-- No scheme that was not offered, the best scheme, no weaker profiles, and no traces of a
failure. -/
structure CannotBeBidDown (crates : N32cCrates) (negotiation : Negotiation) : Prop where
  adoptsOffered : negotiation.AdoptsOffered
  selectsHighest : negotiation.SelectsHighest
  coversOwnPolicy : negotiation.CoversOwnPolicy crates
  failSafeRequest : ∀ req, FailSafe Handling.node (handleSecurityCapabilityRequest req)
  failSafeResponse : ∀ rsp, FailSafe Handling.node (handleSecurityCapabilityResponse rsp)
  failSafeParamsRequest : ∀ random generated req,
    FailSafe Handling.node (crates.handleExchangeParamsRequest random generated req)
  failSafeParamsResponse : ∀ sent rsp,
    FailSafe Handling.node (crates.handleExchangeParamsResponse sent rsp)

/-- An answer that is not refused selects a scheme that the SEPP offers when it can. -/
def HonestAnswer (negotiation : Negotiation) : Prop :=
  negotiation.answer.Acceptable negotiation.offering → negotiation.offering.context.sender ≠ none →
      offeredCapabilities negotiation.offering.context.securityCapability
          negotiation.terminating ≠ [] →
        negotiation.answer.selectedSecCapability ∈
          offeredCapabilities negotiation.offering.context.securityCapability
            negotiation.terminating

/-- A selection that is not refused names no policy, or one that keeps the own policy. -/
def HonestSelection (crates : N32cCrates) (negotiation : Negotiation) : Prop :=
  crates.Acceptable negotiation.selection negotiation.exchanging →
    ∀ policy, negotiation.selection.selProtectionPolicyInfo = some policy → policy.KeepsOwn

lemma buildSecurityCapabilityRequest_eq_some {node sending : SeppNode}
  {offer : SecNegotiateReqData}
  (built : buildSecurityCapabilityRequest context node terminating = some (offer, sending)) :
  offer.supportedSecCapabilityList = offeredCapabilities context.securityCapability terminating ∧
    sending.receiver = node.receiver ∧ context.sender ≠ none ∧
    offeredCapabilities context.securityCapability terminating ≠ [] := by
  simp only [buildSecurityCapabilityRequest, bind_eq_bind, bind_eq_some_iff] at built
  obtain ⟨sender, isSender, built⟩ := built
  split at built
  · cases built
  · rename_i offered
    cases built
    exact ⟨rfl, rfl, by simp [isSender], offered⟩

lemma exists_buildSecurityCapabilityRequest (node : SeppNode) (named : context.sender ≠ none)
  (offered : offeredCapabilities context.securityCapability terminating ≠ []) :
  ∃ offer sending,
    buildSecurityCapabilityRequest context node terminating = some (offer, sending) := by
  obtain ⟨sender, isSender⟩ := ne_none_iff_exists'.mp named
  simp [buildSecurityCapabilityRequest, isSender, offered]

lemma adoptsOffered_iff (negotiation : Negotiation) :
  negotiation.AdoptsOffered ↔ HonestAnswer negotiation := by
  constructor
  · intro adopts acceptable named offered
    obtain ⟨offer, sending, built⟩ :=
      exists_buildSecurityCapabilityRequest negotiation.offering.node named offered
    obtain ⟨sameList, sameReceiver, _, _⟩ := buildSecurityCapabilityRequest_eq_some built
    have stillAcceptable :
        negotiation.answer.Acceptable { negotiation.offering with node := sending } :=
      ⟨acceptable.sender_ne, acceptable.sender_eq.trans sameReceiver.symm, acceptable.selects⟩
    obtain ⟨_, after, handled⟩ :=
      succeeds_handleSecurityCapabilityResponse.mpr stillAcceptable
    have adopted := adopts offer sending after built handled
    rwa [sameList, handleSecurityCapabilityResponse_eq_ok handled] at adopted
  · intro honest offer sending after built handled
    obtain ⟨sameList, sameReceiver, named, offered⟩ := buildSecurityCapabilityRequest_eq_some built
    have acceptable := succeeds_handleSecurityCapabilityResponse.mp ⟨_, after, handled⟩
    rw [sameList, handleSecurityCapabilityResponse_eq_ok handled]
    exact honest ⟨acceptable.sender_ne, acceptable.sender_eq.trans sameReceiver,
      acceptable.selects⟩ named offered

lemma coversOwnPolicy_iff (crates : N32cCrates) (negotiation : Negotiation) :
  negotiation.CoversOwnPolicy crates ↔ HonestSelection crates negotiation := by
  constructor
  · rintro covers acceptable policy selected service path required
    obtain ⟨_, after, handled⟩ :=
      N32cCrates.succeeds_handleExchangeParamsResponse.mpr acceptable
    obtain ⟨info, installed, profiles⟩ := N32cCrates.handleExchangeParamsResponse_eq_ok handled
    obtain ⟨adopted, isAdopted, covered⟩ := covers after handled
    obtain rfl := Option.some.inj (installed.symm.trans isAdopted)
    rw [selected] at covered profiles
    have found := covered service path required
    rwa [profiles, adoptedProfiles_eq, covers_profilesFromProtectionPolicy] at found
  · intro honest after handled
    obtain ⟨info, installed, profiles⟩ := N32cCrates.handleExchangeParamsResponse_eq_ok handled
    refine ⟨info, installed, fun service path required => ?_⟩
    rw [profiles, adoptedProfiles_eq, covers_profilesFromProtectionPolicy]
    cases selected : negotiation.selection.selProtectionPolicyInfo with
    | none =>
      rw [selected] at required
      exact keepsOwn_adoptedPolicy_none service path required
    | some policy =>
      rw [selected] at required
      have acceptable :=
        N32cCrates.succeeds_handleExchangeParamsResponse.mp ⟨_, after, handled⟩
      exact honest acceptable policy selected service path required

/-- The peer has no other way to bid an initiator down than to answer with a scheme that was not
offered or with a policy that maps less, and none to bid a responder down. -/
theorem cannotBeBidDown_iff (crates : N32cCrates) (negotiation : Negotiation) :
  CannotBeBidDown crates negotiation ↔
    HonestAnswer negotiation ∧ HonestSelection crates negotiation := by
  rw [← adoptsOffered_iff, ← coversOwnPolicy_iff]
  constructor
  · intro sound
    exact ⟨sound.adoptsOffered, sound.coversOwnPolicy⟩
  · rintro ⟨adoptsOffered, coversOwnPolicy⟩
    refine ⟨adoptsOffered, ?_, coversOwnPolicy, failSafe_handleSecurityCapabilityRequest,
      failSafe_handleSecurityCapabilityResponse, crates.failSafe_handleExchangeParamsRequest,
      crates.failSafe_handleExchangeParamsResponse⟩
    intro after handled
    exact highest_of_selectCapability (handleSecurityCapabilityRequest_eq_ok handled)

def homeNode : SeppNode where
  receiver := "sepp.visited"
  negotiatedSecurityScheme := .prins
  targetApirootSupported := false
  plmnIds := []
  targetPlmnId := none
  supportedFeatures := 0
  peerApiRoot := none
  n32fSecurity := none

def tlsOnly : Handling where
  context :=
    { sender := some "sepp.home"
      securityCapability := ⟨true, false⟩
      targetApirootSupported := true
      servingPlmnIds := []
      exporterSecrets := fun _ => some (Vector.replicate 64 0x5a)
      allowInsecureNoTls := false
      localSigningKey := none
      verifyingKeys := [] }
  node := homeNode

def constantCrates : N32cCrates where
  hkdfExpand _ _ length := Vector.replicate length 0
  sha512 _ := Vector.replicate 64 0
  publicKeyPem _ := none
  parsePublicKeyPem _ := .error .tampered
  parsePublicKeyFromCert _ := .error .tampered

/-- The peer answers with `NONE`, and it selects UE identities to be encrypted in no API. -/
def biddingDown : Negotiation where
  offering := tlsOnly
  terminating := false
  answer := ⟨"sepp.visited", .none, false, [], none⟩
  exchanging := tlsOnly
  sent := ⟨"sepp.home", "0000000000000001", supportedJweSuites, supportedJwsSuites,
    some localProtectionPolicy, none, none, none⟩
  selection := ⟨"sepp.visited", "0000000000000002", "A256GCM", "ES256",
    some ⟨[], some [.ueid]⟩, none, none⟩
  responding := tlsOnly
  request := ⟨"sepp.visited", [.none, .tls], false, [], none, none⟩

/-- Neither the scheme nor the policy of an answer is compared with what was offered. -/
theorem biddingDown_adopted :
  ¬ biddingDown.AdoptsOffered ∧ ¬ biddingDown.CoversOwnPolicy constantCrates ∧
    ¬ CannotBeBidDown constantCrates biddingDown := by
  have adoptsNone : ¬ biddingDown.AdoptsOffered := by
    rw [adoptsOffered_iff]
    intro honest
    have offered := honest ⟨by decide, rfl, by decide⟩ (by decide) (by decide)
    revert offered
    decide
  have leavesSupi : ¬ biddingDown.CoversOwnPolicy constantCrates := by
    rw [coversOwnPolicy_iff]
    intro honest
    have readable : constantCrates.Readable biddingDown.selection.ipxProviderSecInfoList := by
      intro info isInfo
      cases isInfo
    obtain ⟨mapping, first, _⟩ :=
      honest ⟨by decide, rfl, by decide, by decide, readable, by rintro ⟨⟩⟩ _ rfl "nudm-sdm" "/supi"
        ⟨_, List.mem_cons_self, rfl, _, List.mem_cons_self, rfl, by decide, by decide, rfl⟩
    cases first
  exact ⟨adoptsNone, leavesSupi, fun sound => adoptsNone sound.adoptsOffered⟩

end NextGCore.Sepp
