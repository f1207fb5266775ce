import NextGCore.Upf.N4Values

/-!
# The rules that the SMF writes are the rules that the UPF reads

A group is a list of columns: a type, and the values that stand under it.  What the UPF looks for in
a group is the column of a type.
-/

namespace NextGCore.Upf

open NextGCore.Smf.PfcpIe Library Smf ParsedIe List Option Prod PfcpMessageBuilder
open Sbi (asBytes fromUtf8Lossy fromUtf8Lossy_asBytes)

abbrev Columns := List (UInt16 × List Bytes)

namespace Columns

def elements (columns : Columns) : List ParsedIe :=
  columns.flatMap fun column => column.2.map (ParsedIe.mk column.1)

def octets (columns : Columns) : Bytes :=
  columns.flatMap fun column => column.2.flatMap (tlv column.1)

def values (columns : Columns) (ieType : UInt16) : List Bytes :=
  (columns.lookup ieType).getD []

def Short (columns : Columns) : Prop :=
  ∀ column ∈ columns, ∀ value ∈ column.2, value.length < 65536

variable {columns : Columns}

lemma octets_eq (columns : Columns) :
  columns.octets = columns.elements.flatMap fun ie => tlv ie.ieType ie.value := by
  unfold octets elements
  rw [flatMap_assoc]
  refine flatMap_congr fun column _ => ?_
  rw [flatMap_map]

lemma parseAll_octets (short : columns.Short) : parseAll columns.octets = columns.elements := by
  rw [octets_eq]
  refine parseAll_flatMap_tlv fun ie inside => ?_
  obtain ⟨column, isColumn, value, isValue, rfl⟩ := by
    simpa only [elements, mem_flatMap, List.mem_map] using inside
  exact short column isColumn value isValue

lemma length_le_flatMap {Item Chunk : Type} (chunks : Item → List Chunk) {item : Item}
  {items : List Item} (inside : item ∈ items) :
  (chunks item).length ≤ (items.flatMap chunks).length :=
  (infix_of_mem_flatten (List.mem_map_of_mem inside)).length_le

lemma short_of_octets (few : columns.octets.length < 65536) : columns.Short := by
  intro column isColumn value isValue
  have inColumn : (tlv column.1 value).length ≤ (column.2.flatMap (tlv column.1)).length :=
    length_le_flatMap (tlv column.1) isValue
  have inGroup : (column.2.flatMap (tlv column.1)).length ≤ columns.octets.length :=
    length_le_flatMap (fun column => column.2.flatMap (tlv column.1)) isColumn
  have headed : value.length ≤ (tlv column.1 value).length := by
    rw [tlv, length_append]
    exact Nat.le_add_left _ _
  omega

lemma findAllIes_elements (distinct : (columns.map fst).Nodup) (ieType : UInt16) :
  findAllIes columns.elements ieType = (columns.values ieType).map (ParsedIe.mk ieType) := by
  have among (column : UInt16 × List Bytes) :
      findAllIes (column.2.map (ParsedIe.mk column.1)) ieType =
        if column.1 = ieType then column.2.map (ParsedIe.mk ieType) else [] := by
    split
    case isTrue same =>
      subst same
      exact filter_eq_self.mpr (by simp)
    case isFalse other => exact filter_eq_nil_iff.mpr (by simp [other])
  unfold elements values
  induction columns with
  | nil => rfl
  | cons column columns ih =>
    obtain ⟨isNew, distinctRest⟩ := nodup_cons.mp distinct
    have rest := ih distinctRest
    rw [flatMap_cons, findAllIes, filter_append]
    rw [findAllIes] at rest
    rw [rest, ← findAllIes, among, lookup_cons]
    by_cases same : column.1 = ieType
    · have absent : columns.lookup ieType = none := by
        rw [lookup_eq_none_iff]
        intro other isOther
        rw [bne_iff_ne]
        rintro rfl
        exact isNew (same ▸ List.mem_map_of_mem isOther)
      rw [if_pos same, absent, same]
      simp
    · have other : (ieType == column.1) = false := by
        rw [beq_eq_false_iff_ne]
        exact Ne.symm same
      rw [if_neg same, other]
      rfl

lemma findIe_elements (distinct : (columns.map fst).Nodup) (ieType : UInt16) :
  findIe columns.elements ieType = (columns.values ieType).head?.map (ParsedIe.mk ieType) := by
  rw [findIe, ← head?_filter, ← findAllIes, findAllIes_elements distinct, head?_map]

lemma findIe_given {Value : Type} (distinct : (columns.map fst).Nodup) (ieType : UInt16)
  (given : Option Value) (put : Value → Bytes)
  (column : columns.values ieType = (given.map put).toList) :
  findIe columns.elements ieType = given.map fun value => ⟨ieType, put value⟩ := by
  rw [findIe_elements distinct, column, Option.head?_toList, Option.map_map]
  rfl

section

variable (distinct : (columns.map fst).Nodup)

include distinct

lemma firstOctet_given (ieType : UInt16) (given : Option UInt8)
  (column : columns.values ieType = (given.map fun octet => [octet]).toList) :
  firstOctet columns.elements ieType = given := by
  rw [firstOctet, findIe_given distinct ieType given _ column]
  cases given <;> rfl

lemma findU32_given (ieType : UInt16) (given : Option UInt32)
  (column : columns.values ieType = (given.map fun number => putU32 number).toList) :
  findU32 columns.elements ieType = given := by
  rw [findU32, findIe_given distinct ieType given _ column]
  cases given with
  | none => rfl
  | some number => exact firstU32_putU32 number []

lemma findAllU32_each (ieType : UInt16) (numbers : List UInt32)
  (column : columns.values ieType = numbers.map fun number => putU32 number) :
  ((findAllIes columns.elements ieType).filterMap fun ie => firstU32 ie.value) = numbers := by
  have read (number : UInt32) : firstU32 (putU32 number) = some number :=
    firstU32_putU32 number []
  rw [findAllIes_elements distinct, column, List.map_map, filterMap_map]
  exact (filterMap_congr fun number _ => read number).trans filterMap_some

lemma firstText_given (ieType : UInt16) (given : Option String)
  (column : columns.values ieType = (given.map asBytes).toList) :
  firstText columns.elements ieType = given := by
  rw [firstText, findIe_given distinct ieType given _ column]
  cases given with
  | none => rfl
  | some text => exact congrArg some (fromUtf8Lossy_asBytes text)

end

end Columns

lemma map_value_mapM {Value Result : Type} (ieType : UInt16) (given : Option Value)
  (put : Value → Bytes) (parse : Bytes → Except String Result) :
  ((given.map fun value => ParsedIe.mk ieType (put value)).mapM fun ie => parse ie.value) =
    given.mapM fun value => parse (put value) := by
  cases given <;> rfl

lemma mapM_eq_ok_iff {Source Member : Type} (read : Source → Except String Member)
  (members : Source → Member) (given : Option Source) :
  given.mapM read = .ok (given.map members) ↔
    ∀ source ∈ given, read source = .ok (members source) := by
  cases given with
  | none => exact iff_of_true rfl nofun
  | some source =>
    rw [mapM_some, map_some]
    simp only [mem_some_iff, forall_eq']
    cases read source with
    | error message => exact iff_of_false nofun nofun
    | ok member =>
      change Except.ok (some member) = _ ↔ _
      rw [Except.ok.injEq, Except.ok.injEq, Option.some.injEq]

section Builder

variable (builder : PfcpMessageBuilder) (ieType : UInt16) {Value : Type}

lemma buffer_addTlv (value : Bytes) :
  (builder.addTlv ieType value).buffer = builder.buffer ++ [value].flatMap (tlv ieType) := by
  rw [flatMap_singleton]
  rfl

lemma buffer_addSome (given : Option Value) (put : Value → Bytes) :
  (builder.addSome given fun builder value => builder.addTlv ieType (put value)).buffer =
    builder.buffer ++ (given.map put).toList.flatMap (tlv ieType) := by
  cases given with
  | none => exact (append_nil _).symm
  | some value => exact buffer_addTlv builder ieType (put value)

lemma buffer_ite (written : Prop) [Decidable written] (value : Bytes) :
  (if written then builder.addTlv ieType value else builder).buffer =
    builder.buffer ++ (if written then [value] else []).flatMap (tlv ieType) := by
  split
  · exact buffer_addTlv builder ieType value
  · exact (append_nil _).symm

lemma buffer_foldl (values : List Value) (put : Value → Bytes) :
  (values.foldl (fun builder value => builder.addTlv ieType (put value)) builder).buffer =
    builder.buffer ++ (values.map put).flatMap (tlv ieType) := by
  induction values generalizing builder with
  | nil => exact (append_nil _).symm
  | cons value values ih =>
    rw [foldl_cons, ih, buffer_addTlv, flatMap_singleton, map_cons, flatMap_cons, append_assoc]

end Builder

/-- A Create PDR whose F-TEID, UE IP address and SDF filters are these, and not those of the
parameters. -/
structure PdrGroup where
  params : PdrParams
  fTeid : Option FTeidSource
  ueIpAddress : Option UeIpSource
  sdfFilters : List SdfMembers

namespace PdrGroup

variable (params : PdrParams)

def ofParams : PdrGroup where
  params
  fTeid := params.fTeid.map fun fTeid => .smf fTeid.1 fTeid.2.1 fTeid.2.2 none
  ueIpAddress := params.ueIpAddress.map fun ueIp => .smf ueIp.1 ueIp.2.1 ueIp.2.2 !ueIp.2.2
  sdfFilters := params.sdfFilters.map fun text => ⟨some text, none, none, none, none⟩

variable (group : PdrGroup)

def pdi : Columns :=
  [(SOURCE_INTERFACE, [[group.params.sourceInterface]]),
    (F_TEID, (group.fTeid.map FTeidSource.octets).toList),
    (UE_IP_ADDRESS, (group.ueIpAddress.map UeIpSource.octets).toList),
    (SDF_FILTER, group.sdfFilters.map SdfMembers.octets),
    (QFI, (group.params.qfi.map fun qfi => [qfi]).toList),
    (NETWORK_INSTANCE, (group.params.networkInstance.map asBytes).toList)]

def columns : Columns :=
  [(PDR_ID, [putU16 group.params.pdrId]), (PRECEDENCE, [putU32 group.params.precedence]),
    (PDI, [group.pdi.octets]),
    (OUTER_HEADER_REMOVAL, (group.params.outerHeaderRemoval.map fun octet => [octet]).toList),
    (FAR_ID, (group.params.farId.map fun farId => putU32 farId).toList),
    (URR_ID, group.params.urrIds.map fun urrId => putU32 urrId),
    (QER_ID, (group.params.qerId.map fun qerId => putU32 qerId).toList)]

def members : ParsedCreatePdr where
  pdrId := group.params.pdrId
  precedence := group.params.precedence
  pdi := {
    sourceInterface := group.params.sourceInterface
    localFTeid := group.fTeid.map FTeidSource.members
    networkInstance := group.params.networkInstance
    ueIpAddress := group.ueIpAddress.map UeIpSource.members
    qfi := group.params.qfi
    sdfFlowDescription := group.sdfFilters.head?.bind SdfMembers.flowDescription
  }
  outerHeaderRemoval := group.params.outerHeaderRemoval
  farId := group.params.farId
  urrIds := group.params.urrIds
  qerId := group.params.qerId

def Encodable : Prop := group.pdi.octets.length < 65536

def Understood : Prop :=
  (∀ fTeid ∈ group.fTeid, fTeid.Understood) ∧ ∀ ueIp ∈ group.ueIpAddress, ueIp.Understood

lemma pdi_ofParams : buildPdi params = (ofParams params).pdi.octets := by
  unfold buildPdi build addSourceInterface
    addFTeid addUeIpAddress addSdfFilter
    addQfi addNetworkInstance addU8
  simp only [buffer_addSome, buffer_foldl, buffer_addTlv]
  simp only [Columns.octets, pdi, ofParams, flatMap_cons, flatMap_nil, Option.map_map,
    List.map_map, append_assoc, append_nil]
  rfl

lemma octets_ofParams : buildCreatePdr params = (ofParams params).columns.octets := by
  unfold buildCreatePdr build addPdrId
    addPrecedence addOuterHeaderRemoval
    addFarId addUrrId addQerId
    addU8 addU16 addU32
  simp only [buffer_addSome, buffer_foldl, buffer_addTlv, pdi_ofParams]
  simp only [Columns.octets, columns, flatMap_cons, flatMap_nil, append_assoc, append_nil]
  rfl

variable {group}

lemma parsePdi_octets (encodable : group.Encodable) :
  parsePdi group.pdi.octets = (do
    let localFTeid ← group.fTeid.mapM fun source => ParsedFTeid.parse source.octets
    let ueIpAddress ← group.ueIpAddress.mapM fun source => ParsedUeIpAddr.parse source.octets
    .ok { group.members.pdi with localFTeid, ueIpAddress }) := by
  have distinct : (group.pdi.map fst).Nodup := by
    unfold pdi
    simp only [map_cons, map_nil]
    decide
  have short := Columns.short_of_octets encodable
  have interface := Columns.firstOctet_given distinct PfcpIe.SOURCE_INTERFACE
    (some group.params.sourceInterface) rfl
  have fTeid := Columns.findIe_given distinct PfcpIe.F_TEID group.fTeid FTeidSource.octets rfl
  have networkInstance := Columns.firstText_given distinct PfcpIe.NETWORK_INSTANCE
    group.params.networkInstance rfl
  have ueIp := Columns.findIe_given distinct PfcpIe.UE_IP_ADDRESS group.ueIpAddress
    UeIpSource.octets rfl
  have qfi := Columns.firstOctet_given distinct PfcpIe.QFI group.params.qfi rfl
  have sdf : ((findIe group.pdi.elements PfcpIe.SDF_FILTER).bind fun ie =>
      flowDescriptionOf ie.value) = group.sdfFilters.head?.bind SdfMembers.flowDescription := by
    have column : group.pdi.values PfcpIe.SDF_FILTER = group.sdfFilters.map SdfMembers.octets := rfl
    rw [Columns.findIe_elements distinct, column, head?_map, Option.map_map]
    cases first : group.sdfFilters.head? with
    | none => rfl
    | some filter =>
      refine SdfMembers.flowDescriptionOf_octets
        (short (SDF_FILTER, group.sdfFilters.map SdfMembers.octets) ?_ _ ?_)
      · simp [pdi]
      · exact List.mem_map_of_mem (List.mem_of_head? first)
  unfold parsePdi
  rw [Columns.parseAll_octets short]
  dsimp only
  rw [sdf, interface, fTeid, networkInstance, ueIp, qfi, map_value_mapM, map_value_mapM]
  rfl

lemma parsePdi_iff (encodable : group.Encodable) :
  parsePdi group.pdi.octets = .ok group.members.pdi ↔ group.Understood := by
  have fTeids := mapM_eq_ok_iff (fun source => ParsedFTeid.parse source.octets)
    FTeidSource.members group.fTeid
  have ueIps := mapM_eq_ok_iff (fun source => ParsedUeIpAddr.parse source.octets)
    UeIpSource.members group.ueIpAddress
  simp only [FTeidSource.parse_iff] at fTeids
  simp only [UeIpSource.parse_iff] at ueIps
  rw [parsePdi_octets encodable, Understood, ← fTeids, ← ueIps]
  constructor
  · intro read
    obtain ⟨localFTeid, readFTeid, rest⟩ := bind_eq_ok_iff.mp read
    obtain ⟨ueIpAddress, readUeIp, built⟩ := bind_eq_ok_iff.mp rest
    have same := Except.ok.inj built
    obtain rfl := congrArg ParsedPdi.localFTeid same
    obtain rfl := congrArg ParsedPdi.ueIpAddress same
    exact ⟨readFTeid, readUeIp⟩
  · rintro ⟨readFTeid, readUeIp⟩
    rw [readFTeid, ok_bind, readUeIp, ok_bind]
    rfl

lemma parse_iff (encodable : group.Encodable) :
  parseCreatePdr group.columns.octets = .ok group.members ↔ group.Understood := by
  have distinct : (group.columns.map fst).Nodup := by
    unfold columns
    simp only [map_cons, map_nil]
    decide
  have short : group.columns.Short := by
    have pdiShort : group.pdi.octets.length < 65536 := encodable
    unfold Columns.Short columns
    simp
    omega
  have named := Columns.findIe_given distinct PfcpIe.PDR_ID (some group.params.pdrId)
    (fun pdrId => putU16 pdrId) rfl
  have precedence := Columns.findU32_given distinct PfcpIe.PRECEDENCE
    (some group.params.precedence) rfl
  have pdi := Columns.findIe_given distinct PfcpIe.PDI (some group.pdi) Columns.octets rfl
  have removal := Columns.firstOctet_given distinct PfcpIe.OUTER_HEADER_REMOVAL
    group.params.outerHeaderRemoval rfl
  have farId := Columns.findU32_given distinct PfcpIe.FAR_ID group.params.farId rfl
  have urrIds := Columns.findAllU32_each distinct PfcpIe.URR_ID group.params.urrIds rfl
  have qerId := Columns.findU32_given distinct PfcpIe.QER_ID group.params.qerId rfl
  have pdrId : firstU16 (putU16 group.params.pdrId) = some group.params.pdrId :=
    firstU16_putU16 group.params.pdrId []
  unfold parseCreatePdr
  rw [Columns.parseAll_octets short]
  dsimp only
  rw [named]
  dsimp only [map_some]
  rw [precedence, pdi, removal, farId, urrIds, qerId, pdrId, ← parsePdi_iff encodable,
    map_some, mapM_some]
  cases parsePdi group.pdi.octets with
  | error message => exact iff_of_false nofun nofun
  | ok pdi =>
    constructor
    · intro read
      exact congrArg Except.ok (congrArg ParsedCreatePdr.pdi (Except.ok.inj read))
    · intro read
      obtain rfl := Except.ok.inj read
      rfl

end PdrGroup

/-- A Create FAR whose action and outer header creation are these, and not those of the
parameters. -/
structure FarGroup where
  params : FarParams
  action : ActionSource
  header : Option HeaderSource

namespace FarGroup

variable (params : FarParams)

def ofParams : FarGroup where
  params
  action := .smf params.applyAction
  header := params.outerHeaderCreation.map fun creation =>
    .smf creation.1 creation.2.1 creation.2.2.1 creation.2.2.2

variable (group : FarGroup)

def Forwards : Prop := (group.action.flags &&& ApplyActionFlag.FORW != 0) = true

instance : Decidable group.Forwards := inferInstanceAs (Decidable (_ = true))

def parameters : Columns :=
  [(DESTINATION_INTERFACE,
      (group.params.destinationInterface.map fun interface => [interface]).toList),
    (NETWORK_INSTANCE, (group.params.networkInstance.map asBytes).toList),
    (OUTER_HEADER_CREATION, (group.header.map HeaderSource.octets).toList)]

def columns : Columns :=
  [(FAR_ID, [putU32 group.params.farId]), (APPLY_ACTION, [group.action.octets]),
    (FORWARDING_PARAMETERS, if group.Forwards then [group.parameters.octets] else [])]

def forwardingMembers : ParsedForwardingParameters where
  destinationInterface := group.params.destinationInterface.getD 0
  networkInstance := group.params.networkInstance
  outerHeaderCreation := group.header.map HeaderSource.members

def members : ParsedCreateFar where
  farId := group.params.farId
  applyAction := group.action.flags
  forwardingParameters := if group.Forwards then some group.forwardingMembers else none
  barId := none

def Encodable : Prop := group.Forwards → group.parameters.octets.length < 65536

def Understood : Prop :=
  group.action.Understood ∧ (group.Forwards → ∀ header ∈ group.header, header.Understood)

lemma parameters_ofParams :
  buildForwardingParameters params = (ofParams params).parameters.octets := by
  unfold buildForwardingParameters build
    addDestinationInterface addNetworkInstance
    addOuterHeaderCreation addU8
  simp only [buffer_addSome]
  simp only [Columns.octets, parameters, ofParams, flatMap_cons, flatMap_nil,
    Option.map_map, append_assoc, append_nil]
  rfl

lemma octets_ofParams : buildCreateFar params = (ofParams params).columns.octets := by
  unfold buildCreateFar build addFarId
    addApplyAction addU16 addU32
  simp only [buffer_ite, buffer_addTlv, parameters_ofParams]
  simp only [Columns.octets, columns, flatMap_cons, flatMap_nil, append_assoc, append_nil]
  rfl

variable {group}

lemma parseForwardingParameters_iff (few : group.parameters.octets.length < 65536) :
  parseForwardingParameters group.parameters.octets = .ok group.forwardingMembers ↔
    ∀ header ∈ group.header, header.Understood := by
  have distinct : (group.parameters.map fst).Nodup := by
    unfold parameters
    simp only [map_cons, map_nil]
    decide
  have interface := Columns.firstOctet_given distinct PfcpIe.DESTINATION_INTERFACE
    group.params.destinationInterface rfl
  have networkInstance := Columns.firstText_given distinct PfcpIe.NETWORK_INSTANCE
    group.params.networkInstance rfl
  have header := Columns.findIe_given distinct PfcpIe.OUTER_HEADER_CREATION group.header
    HeaderSource.octets rfl
  have headers := mapM_eq_ok_iff (fun source => ParsedOuterHeaderCreation.parse source.octets)
    HeaderSource.members group.header
  simp only [HeaderSource.parse_iff] at headers
  unfold parseForwardingParameters
  rw [Columns.parseAll_octets (Columns.short_of_octets few), ← headers]
  dsimp only
  rw [interface, networkInstance, header, map_value_mapM, bind_eq_ok_iff]
  constructor
  · rintro ⟨creation, read, built⟩
    obtain rfl := congrArg ParsedForwardingParameters.outerHeaderCreation (Except.ok.inj built)
    exact read
  · intro read
    exact ⟨_, read, rfl⟩

lemma length_action (action : ActionSource) : action.octets.length = 2 := by
  cases action with
  | smf action => exact length_beOctets 2 _
  | shared action => rfl

lemma parse_iff (encodable : group.Encodable) :
  parseCreateFar group.columns.octets = .ok group.members ↔ group.Understood := by
  have distinct : (group.columns.map fst).Nodup := by
    unfold columns
    simp only [map_cons, map_nil]
    decide
  have short : group.columns.Short := by
    unfold Columns.Short columns
    simp [length_action]
    exact encodable
  have named := Columns.findIe_given distinct PfcpIe.FAR_ID (some group.params.farId)
    (fun farId => putU32 farId) rfl
  have action := Columns.findIe_given distinct PfcpIe.APPLY_ACTION (some group.action)
    ActionSource.octets rfl
  have barId := Columns.firstOctet_given distinct PfcpIe.BAR_ID none rfl
  have farId : firstU32 (putU32 group.params.farId) = some group.params.farId :=
    firstU32_putU32 group.params.farId []
  have parameters : findParameters group.columns.elements =
      (if group.Forwards then some group.parameters else none).map fun parameters =>
        ⟨PfcpIe.FORWARDING_PARAMETERS, parameters.octets⟩ := by
    have updated := Columns.findIe_given distinct PfcpIe.UPDATE_FORWARDING_PARAMETERS none
      Columns.octets rfl
    rw [findParameters, updated, map_none, or_none]
    refine Columns.findIe_given distinct PfcpIe.FORWARDING_PARAMETERS _ Columns.octets ?_
    change (if group.Forwards then [group.parameters.octets] else []) = _
    split <;> rfl
  have understood : group.Understood ↔ group.action.Understood ∧ (group.Forwards →
      parseForwardingParameters group.parameters.octets = .ok group.forwardingMembers) :=
    and_congr_right fun _ => forall_congr' fun forwards =>
      (parseForwardingParameters_iff (encodable forwards)).symm
  unfold parseCreateFar
  rw [Columns.parseAll_octets short]
  dsimp only
  rw [named]
  dsimp only [map_some]
  rw [action, barId, farId, parameters, map_value_mapM, understood,
    ← ActionSource.applyActionOf_iff, bind_eq_ok_iff]
  unfold members
  constructor
  · rintro ⟨read, isRead, built⟩
    have same := Except.ok.inj built
    obtain rfl := congrArg ParsedCreateFar.forwardingParameters same
    refine ⟨congrArg ParsedCreateFar.applyAction same, fun forwards => ?_⟩
    rw [if_pos forwards, if_pos forwards, mapM_some] at isRead
    obtain ⟨parameters, isParsed, same⟩ := bind_eq_ok_iff.mp isRead
    rw [isParsed, Option.some.inj (Except.ok.inj same)]
  · rintro ⟨flags, read⟩
    refine ⟨if group.Forwards then some group.forwardingMembers else none, ?_, ?_⟩
    · by_cases forwards : group.Forwards
      · rw [if_pos forwards, if_pos forwards, mapM_some, read forwards]
        rfl
      · rw [if_neg forwards, if_neg forwards]
        rfl
    · exact congrArg (fun applyAction => Except.ok (ParsedCreateFar.mk _ applyAction _ _)) flags

end FarGroup

namespace QerWriting

variable (rates : Option (UInt64 × UInt64)) {octet mask : UInt8}

def roundedRate (rate : UInt64) : UInt64 := UInt64.ofNat (1000 * kbitsOf rate)

def roundedRates : UInt64 × UInt64 :=
  (rates.map fun rates => (roundedRate rates.1, roundedRate rates.2)).getD (0, 0)

def members (params : QerParams) : ParsedCreateQer where
  qerId := params.qerId
  ulGate := params.gateStatus.2
  dlGate := params.gateStatus.1
  ulMbr := (roundedRates params.mbr).1
  dlMbr := (roundedRates params.mbr).2
  ulGbr := (roundedRates params.gbr).1
  dlGbr := (roundedRates params.gbr).2
  qfi := params.qfi

def RatesFit : Prop :=
  ∀ given ∈ rates, kbitsOf given.1 < 2 ^ 40 ∧ kbitsOf given.2 < 2 ^ 40

structure Understood (params : QerParams) : Prop where
  dlGate : params.gateStatus.1 < 4
  ulGate : params.gateStatus.2 < 4
  mbr : RatesFit params.mbr
  gbr : RatesFit params.gbr
  qfi : ∀ qfi ∈ params.qfi, qfi < 64

lemma wrapped_ne {kbits : ℕ} (bound : kbits ≤ 18446744073709552)
  (wraps : 2 ^ 64 ≤ 1000 * kbits) (remainder : ℕ) :
  1000 * kbits % 2 ^ 64 ≠ 1000 * remainder := by
  have largest : kbits = 18446744073709552 := by omega
  have wrapped : 1000 * 18446744073709552 % 2 ^ 64 = 384 := rfl
  rw [largest, wrapped]
  omega

lemma parsedRate_eq_iff (rate : UInt64) :
  parsedRate rate = roundedRate rate ↔ kbitsOf rate < 2 ^ 40 := by
  have bound : kbitsOf rate ≤ 18446744073709552 := by
    have small := rate.toNat_lt
    unfold kbitsOf
    omega
  have reduced : kbitsOf rate % 2 ^ 40 < 2 ^ 40 := Nat.mod_lt _ (by decide)
  rw [← UInt64.toNat_inj, toNat_parsedRate, roundedRate, UInt64.toNat_ofNat']
  rcases Nat.lt_or_ge (1000 * kbitsOf rate) (2 ^ 64) with small | wraps
  · rw [Nat.mod_eq_of_lt small, Nat.mul_right_inj (by decide), Nat.mod_eq_iff_lt (by decide)]
  · refine iff_of_false (wrapped_ne bound wraps _).symm fun fits => ?_
    omega

lemma parsedRates_eq_iff : parsedRates rates = roundedRates rates ↔ RatesFit rates := by
  cases rates with
  | none => exact iff_of_true rfl nofun
  | some rates =>
    simp [parsedRates, roundedRates, RatesFit, parsedRate_eq_iff]

lemma toNat_and_mask (width : ℕ) (isMask : mask.toNat = 2 ^ width - 1) :
  (octet &&& mask).toNat = octet.toNat % 2 ^ width := by
  rw [UInt8.toNat_and, isMask, Nat.and_two_pow_sub_one_eq_mod]

lemma and_mask_eq_iff (width : ℕ) (isMask : mask.toNat = 2 ^ width - 1) :
  octet &&& mask = octet ↔ octet.toNat < 2 ^ width := by
  rw [← UInt8.toNat_inj, toNat_and_mask width isMask, Nat.mod_eq_iff_lt (by positivity)]

lemma gates_read (dlGate ulGate : UInt8) :
  (dlGate &&& 0x03 ||| (ulGate &&& 0x03) <<< (2 : UInt8)) &&& 0x03 = dlGate &&& 0x03 ∧
    (dlGate &&& 0x03 ||| (ulGate &&& 0x03) <<< (2 : UInt8)) >>> 2 &&& 0x03 = ulGate &&& 0x03 := by
  have low (octet : UInt8) : (octet &&& 0x03).toNat = octet.toNat % 2 ^ 2 := toNat_and_mask 2 rfl
  have dlBelow : (dlGate &&& 0x03).toNat < 2 ^ 2 := low dlGate ▸ Nat.mod_lt _ (by decide)
  have ulBelow : (ulGate &&& 0x03).toNat < 2 ^ 2 := low ulGate ▸ Nat.mod_lt _ (by decide)
  generalize dlGate &&& 0x03 = dl at *
  generalize ulGate &&& 0x03 = ul at *
  have shifted : (ul <<< (2 : UInt8)).toNat = 2 ^ 2 * ul.toNat := by
    rw [UInt8.toNat_shiftLeft, Nat.shiftLeft_eq, Nat.mul_comm]
    exact Nat.mod_eq_of_lt (by change 2 ^ 2 * _ < 2 ^ 8; omega)
  have packed : (dl ||| ul <<< (2 : UInt8)).toNat = 2 ^ 2 * ul.toNat + dl.toNat := by
    rw [UInt8.toNat_or, shifted, Nat.or_comm, ← Nat.two_pow_add_eq_or_of_lt dlBelow]
  refine ⟨UInt8.toNat_inj.mp ?_, UInt8.toNat_inj.mp ?_⟩
  · rw [low, packed]
    omega
  · rw [low, UInt8.toNat_shiftRight, packed, Nat.shiftRight_eq_div_pow]
    change (2 ^ 2 * ul.toNat + dl.toNat) / 2 ^ 2 % 2 ^ 2 = ul.toNat
    omega

lemma parse_iff (params : QerParams) :
  parseCreateQer (buildCreateQer params) = .ok (members params) ↔ Understood params := by
  have named : findIe (qerElements params) PfcpIe.QER_ID =
      some ⟨PfcpIe.QER_ID, beOctets 4 params.qerId.toNat⟩ := rfl
  have qerId : firstU32 (beOctets 4 params.qerId.toNat) = some params.qerId :=
    firstU32_putU32 params.qerId []
  have gates : firstOctet (qerElements params) 25 = some (params.gateStatus.1 &&& 0x03 |||
      (params.gateStatus.2 &&& 0x03) <<< (2 : UInt8)) := rfl
  have qfi : firstOctet (qerElements params) PfcpIe.QFI = params.qfi := by
    obtain ⟨qerId, gates, mbr, gbr, qfi⟩ := params
    cases mbr <;> cases gbr <;> cases qfi <;> rfl
  obtain ⟨dlRead, ulRead⟩ := gates_read params.gateStatus.1 params.gateStatus.2
  unfold parseCreateQer
  rw [parseAll_buildCreateQer]
  dsimp only
  rw [named]
  dsimp only
  rw [qerId, gates, qfi, findRates_mbr, findRates_gbr, getD_some, getD_some, dlRead,
    ulRead, Except.ok.injEq, members, ParsedCreateQer.mk.injEq]
  have gate (octet : UInt8) : octet &&& 0x03 = octet ↔ octet < 4 := and_mask_eq_iff 2 rfl
  have six (octet : UInt8) : octet &&& 0x3F = octet ↔ octet < 64 := and_mask_eq_iff 6 rfl
  have qfis : params.qfi.map (fun qfi => qfi &&& 0x3F) = params.qfi ↔
      ∀ qfi ∈ params.qfi, qfi < 64 := by
    cases params.qfi with
    | none => exact iff_of_true rfl nofun
    | some qfi => simp [six]
  rw [qfis, gate, gate]
  constructor
  · rintro ⟨-, ulGate, dlGate, ulMbr, dlMbr, ulGbr, dlGbr, qfi⟩
    exact ⟨dlGate, ulGate, (parsedRates_eq_iff _).mp (Prod.ext ulMbr dlMbr),
      (parsedRates_eq_iff _).mp (Prod.ext ulGbr dlGbr), qfi⟩
  · rintro ⟨dlGate, ulGate, mbr, gbr, qfi⟩
    have mbrRead := (parsedRates_eq_iff _).mpr mbr
    have gbrRead := (parsedRates_eq_iff _).mpr gbr
    rw [mbrRead, gbrRead]
    exact ⟨rfl, ulGate, dlGate, rfl, rfl, rfl, rfl, qfi⟩

end QerWriting

namespace UrrWriting

variable (params : UrrParams)

def volumesOf (volumes : Option UInt64 × Option UInt64 × Option UInt64) : Bytes :=
  volumesValue volumes.1 volumes.2.1 volumes.2.2

def columns : Columns :=
  [(URR_ID, [putU32 params.urrId]),
    (MEASUREMENT_METHOD, [[measurementMethodValue params.measurementMethod.1
      params.measurementMethod.2.1 params.measurementMethod.2.2]]),
    (REPORTING_TRIGGERS, [beOctets 3 params.reportingTriggers.toNat]),
    (VOLUME_THRESHOLD, (params.volumeThreshold.map volumesOf).toList),
    (VOLUME_QUOTA, (params.volumeQuota.map volumesOf).toList),
    (TIME_THRESHOLD, (params.timeThreshold.map fun seconds => putU32 seconds).toList),
    (TIME_QUOTA, (params.timeQuota.map fun seconds => putU32 seconds).toList),
    (QUOTA_VALIDITY_TIME, (params.quotaValidityTime.map fun seconds => putU32 seconds).toList)]

/-- The members that were written; the triggers that the UPF reads are in the first of three
octets. -/
def members : FlaggedUrr where
  urrId := params.urrId
  volumeThresholdTotal := params.volumeThreshold.bind fun volumes => volumes.1
  volumeThresholdUl := params.volumeThreshold.bind fun volumes => volumes.2.1
  volumeThresholdDl := params.volumeThreshold.bind fun volumes => volumes.2.2
  timeThresholdSecs := params.timeThreshold
  measureDuration := params.measurementMethod.1
  measureVolume := params.measurementMethod.2.1
  triggerPeriodic := params.reportingTriggers.toNat.testBit 16
  triggerVolumeThreshold := params.reportingTriggers.toNat.testBit 17
  triggerTimeThreshold := params.reportingTriggers.toNat.testBit 18

lemma octets_eq : buildCreateUrr params = (columns params).octets := by
  unfold buildCreateUrr build addUrrId
    addMeasurementMethod addReportingTriggers
    addVolumeThreshold addVolumeQuota
    addTimeThreshold addTimeQuota
    addQuotaValidityTime addU8 addU32
  simp only [buffer_addSome, buffer_addTlv]
  simp only [Columns.octets, columns, flatMap_cons, flatMap_nil, append_assoc, append_nil]
  rfl

lemma trigger_read (triggers : UInt32) (mask : UInt8) (place : ℕ) (inside : place < 8)
  (isMask : mask.toNat = 2 ^ place) :
  (UInt8.ofNat (triggers.toNat / 256 ^ 2) &&& mask != 0) =
    triggers.toNat.testBit (16 + place) := by
  rw [mask_eq_testBit isMask, UInt8.toNat_ofNat', Nat.testBit_mod_two_pow, decide_eq_true inside,
    Bool.true_and, Nat.add_comm]
  exact Nat.testBit_div_two_pow (n := 16) triggers.toNat place

lemma threshold_putSome {present : Bool} (given : Option UInt64)
  (flagged : given.isSome = present) (rest : Bytes) :
  threshold present (putSome putU64 given ++ rest) = (given, rest) := by
  subst flagged
  cases given with
  | none => rfl
  | some volume =>
    have enough : 8 ≤ (putU64 volume ++ rest).length := by
      rw [length_append, length_beOctets]
      omega
    change threshold true (putU64 volume ++ rest) = _
    rw [threshold, decide_eq_true enough, firstU64_putU64, drop_left' (length_beOctets 8 _)]
    rfl

lemma thresholds_read (total uplink downlink : Option UInt64) :
  let flags := (volumesValue total uplink downlink).headD 0
  let rest := threshold (flags &&& 0x01 != 0) (volumesValue total uplink downlink).tail
  let last := threshold (flags &&& 0x02 != 0) rest.2
  rest.1 = total ∧ last.1 = uplink ∧ (threshold (flags &&& 0x04 != 0) last.2).1 = downlink := by
  obtain ⟨hasTotal, hasUplink, hasDownlink, -⟩ := flags_read total.isSome uplink.isSome
    downlink.isSome
  have lastRead := threshold_putSome downlink rfl []
  rw [append_nil] at lastRead
  dsimp only
  unfold volumesValue
  rw [headD_cons, tail_cons, hasTotal, hasUplink, hasDownlink,
    threshold_putSome total rfl, threshold_putSome uplink rfl, lastRead]
  exact ⟨rfl, rfl, rfl⟩

lemma length_volumesOf (volumes : Option UInt64 × Option UInt64 × Option UInt64) :
  (volumesOf volumes).length ≤ 25 := by
  obtain ⟨total, uplink, downlink⟩ := volumes
  cases total <;> cases uplink <;> cases downlink <;> simp [volumesOf, volumesValue, putSome]

lemma short_columns : (columns params).Short := by
  have volumes (given : Option (Option UInt64 × Option UInt64 × Option UInt64)) (value : Bytes)
      (inside : value ∈ (given.map volumesOf).toList) : value.length < 65536 := by
    obtain ⟨volumes, -, rfl⟩ := map_eq_some_iff.mp (mem_toList.mp inside)
    exact (length_volumesOf volumes).trans_lt (by decide)
  have seconds (given : Option UInt32) (value : Bytes)
      (inside : value ∈ (given.map fun seconds => putU32 seconds).toList) :
      value.length < 65536 := by
    obtain ⟨seconds, -, rfl⟩ := map_eq_some_iff.mp (mem_toList.mp inside)
    rw [length_beOctets]
    decide
  unfold Columns.Short columns
  simp only [forall_mem_cons, length_beOctets]
  exact ⟨by simp, by simp, by simp, volumes _, volumes _, seconds _, seconds _, seconds _,
    forall_mem_nil _⟩

lemma parse_eq : parseFlaggedUrr (buildCreateUrr params) = .ok (members params) := by
  have distinct : ((columns params).map fst).Nodup := by
    unfold columns
    simp only [map_cons, map_nil]
    decide
  have named := Columns.findIe_given distinct PfcpIe.URR_ID (some params.urrId)
    (fun urrId => putU32 urrId) rfl
  have method := Columns.firstOctet_given distinct PfcpIe.MEASUREMENT_METHOD
    (some (measurementMethodValue params.measurementMethod.1 params.measurementMethod.2.1
      params.measurementMethod.2.2)) rfl
  have triggers : firstOctet (columns params).elements PfcpIe.REPORTING_TRIGGERS =
      some (UInt8.ofNat (params.reportingTriggers.toNat / 256 ^ 2)) := by
    rw [firstOctet, Columns.findIe_given distinct PfcpIe.REPORTING_TRIGGERS
      (some params.reportingTriggers) (fun triggers => beOctets 3 triggers.toNat) rfl]
    rfl
  have volumes := Columns.findIe_given distinct PfcpIe.VOLUME_THRESHOLD params.volumeThreshold
    volumesOf rfl
  have seconds := Columns.findU32_given distinct PfcpIe.TIME_THRESHOLD params.timeThreshold rfl
  have urrId : firstU32 (putU32 params.urrId) = some params.urrId :=
    firstU32_putU32 params.urrId []
  obtain ⟨duration, volume, -⟩ := flags_read params.measurementMethod.1
    params.measurementMethod.2.1 params.measurementMethod.2.2
  have periodic := trigger_read params.reportingTriggers 0x01 0 (by decide) rfl
  have volumeTrigger := trigger_read params.reportingTriggers 0x02 1 (by decide) rfl
  have timeTrigger := trigger_read params.reportingTriggers 0x04 2 (by decide) rfl
  unfold parseFlaggedUrr parseCreateUrr
  rw [octets_eq, Columns.parseAll_octets (short_columns params)]
  dsimp only
  rw [named, method, triggers, volumes, seconds]
  dsimp only [map_some, getD_some]
  rw [urrId, measurementMethodValue, duration, volume, periodic, volumeTrigger, timeTrigger]
  cases given : params.volumeThreshold with
  | none =>
    unfold members
    rw [given]
    rfl
  | some volumes =>
    obtain ⟨total, uplink, downlink⟩ := thresholds_read volumes.1 volumes.2.1 volumes.2.2
    simp only [map_some, getD_some, volumesOf, total, uplink, downlink]
    unfold members
    rw [given]
    rfl

end UrrWriting

/-- A rule that a builder of the SMF is called with, or a group in which other values of the SMF or
of the shared library stand. -/
inductive N4Rule where
  | createPdr (params : PdrParams)
  | createFar (params : FarParams)
  | createQer (params : QerParams)
  | createUrr (params : UrrParams)
  | pdrGroup (group : PdrGroup)
  | farGroup (group : FarGroup)

namespace N4Rule

def Encodable : N4Rule → Prop
  | createPdr params => (buildPdi params).length < 65536
  | createFar params => params.applyAction &&& ApplyActionFlag.FORW != 0 →
      (buildForwardingParameters params).length < 65536
  | createQer _ => True
  | createUrr _ => True
  | pdrGroup group | farGroup group => group.Encodable

/-- The UPF reads from the rule what the SMF has written. -/
def Agrees : N4Rule → Prop
  | createPdr params =>
    parseCreatePdr (buildCreatePdr params) = .ok (PdrGroup.ofParams params).members
  | createFar params =>
    parseCreateFar (buildCreateFar params) = .ok (FarGroup.ofParams params).members
  | createQer params => parseCreateQer (buildCreateQer params) = .ok (QerWriting.members params)
  | createUrr params => parseFlaggedUrr (buildCreateUrr params) = .ok (UrrWriting.members params)
  | pdrGroup group => parseCreatePdr group.columns.octets = .ok group.members
  | farGroup group => parseCreateFar group.columns.octets = .ok group.members

def Understood : N4Rule → Prop
  | createPdr _ => True
  | createFar params => (FarGroup.ofParams params).Understood
  | createQer params => QerWriting.Understood params
  | createUrr _ => True
  | pdrGroup group | farGroup group => group.Understood

lemma understood_ofParams (params : PdrParams) : (PdrGroup.ofParams params).Understood := by
  constructor
  · intro fTeid isFTeid
    obtain ⟨given, -, rfl⟩ := map_eq_some_iff.mp isFTeid
    rfl
  · intro ueIp isUeIp
    obtain ⟨given, -, rfl⟩ := map_eq_some_iff.mp isUeIp
    exact (Bool.not_not _).symm

/-- The UPF reads a rule as it was written exactly when it understands the values in it. -/
theorem agrees_iff (rule : N4Rule) (encodable : rule.Encodable) :
  rule.Agrees ↔ rule.Understood := by
  cases rule with
  | createPdr params =>
    have few : (PdrGroup.ofParams params).Encodable :=
      (congrArg length (PdrGroup.pdi_ofParams params)).symm.trans_lt encodable
    change parseCreatePdr (buildCreatePdr params) = _ ↔ True
    rw [PdrGroup.octets_ofParams, PdrGroup.parse_iff few]
    exact iff_of_true (understood_ofParams params) trivial
  | createFar params =>
    have few : (FarGroup.ofParams params).Encodable := fun forwards =>
      (congrArg length (FarGroup.parameters_ofParams params)).symm.trans_lt
        (encodable forwards)
    change parseCreateFar (buildCreateFar params) = _ ↔ _
    rw [FarGroup.octets_ofParams, FarGroup.parse_iff few]
    rfl
  | createQer params => exact QerWriting.parse_iff params
  | createUrr params => exact iff_of_true (UrrWriting.parse_eq params) trivial
  | pdrGroup group => exact PdrGroup.parse_iff encodable
  | farGroup group => exact FarGroup.parse_iff encodable

def choosing (fTeid : FTeidSource) : PdrGroup where
  params := ⟨1, 255, 0, some 1, [1, 2], none, some 0, none, none, [], some 5, none⟩
  fTeid := some fTeid
  ueIpAddress := some (.smf (some #v[10, 45, 0, 2]) none true false)
  sdfFilters := []

def sharedChoose : FTeidSource :=
  .shared (.newChoose true false (some 7)) ⟨fun _ => rfl, fun _ => rfl, rfl, rfl, rfl⟩

/-- The library asks for an F-TEID with a CHOOSE ID, and the UPF reads so. -/
theorem shared_choose_agrees : (pdrGroup (choosing sharedChoose)).Agrees := by
  have encodable : (choosing sharedChoose).Encodable := by
    unfold PdrGroup.Encodable
    decide
  refine (agrees_iff (pdrGroup (choosing sharedChoose)) encodable).mpr ⟨?_, ?_⟩
  · rintro fTeid ⟨rfl⟩
    trivial
  · rintro ueIp ⟨rfl⟩
    rfl

def smfChoose : FTeidSource := .smf 0 (some #v[10, 11, 0, 7]) none (some 7)

def sharedForward : FarGroup where
  params := ⟨1, 0, some 1, none, none⟩
  action := .shared { Pfcp.ApplyAction.default with forw := true }
  header := none

/-- The CHOOSE ID of the SMF is lost, and so is the action of the library. -/
theorem chooseId_and_forward_misread :
  ((pdrGroup (choosing smfChoose)).Encodable ∧ ¬ (pdrGroup (choosing smfChoose)).Agrees) ∧
    (farGroup sharedForward).Encodable ∧ ¬ (farGroup sharedForward).Agrees := by
  have encodable : (choosing smfChoose).Encodable := by
    unfold PdrGroup.Encodable
    decide
  have forwardEncodable : sharedForward.Encodable := fun _ => by decide
  refine ⟨⟨encodable, fun agrees => ?_⟩, forwardEncodable, fun agrees => ?_⟩
  · obtain ⟨fTeids, -⟩ := (PdrGroup.parse_iff encodable).mp agrees
    exact absurd (fTeids smfChoose rfl) nofun
  · obtain ⟨action, -⟩ := (FarGroup.parse_iff forwardEncodable).mp agrees
    exact absurd action.2.1 nofun

end N4Rule

end NextGCore.Upf
