import NextGCore.Nas.UePolicy.Labels

/-!
# The format of URSP part contents

Each structure of the URSP rules as a strict format.  What is not plain in a rule
is a name whose labels the encoder would split further or find too long.
-/

namespace NextGCore.Nas.UePolicy

open Library Reader Vector ReadsOnly ReadsToEnd
open Crypt (Bytes)

variable {n : ℕ}

lemma copyFromSlice_toList (array : Vector UInt8 n) : copyFromSlice n array.toList = array := by
  apply Vector.ext
  intro index inside
  have within : index < array.toList.length := by rwa [length_toList]
  rw [copyFromSlice, getElem_ofFn, List.getD_eq_getElem?_getD,
    List.getElem?_eq_getElem within, Option.getD_some, getElem_toList]

lemma toList_copyFromSlice {octets : Bytes} (counted : octets.length = n) :
  (copyFromSlice n octets).toList = octets := by
  apply List.ext_getElem
  · rw [length_toList, counted]
  · intro index inside within
    rw [getElem_toList]
    unfold copyFromSlice
    rw [getElem_ofFn, List.getD_eq_getElem?_getD, List.getElem?_eq_getElem within, Option.getD_some]

lemma takeArray_readsBack (array : Vector UInt8 n) :
  ReadsBack rest (takeArray n) array.toList array := by
  have reads : ReadsBack rest (take array.toList.length >>= fun octets =>
      pure (copyFromSlice n octets)) array.toList (copyFromSlice n array.toList) :=
    (take_readsBack array.toList).last
  rwa [copyFromSlice_toList, length_toList] at reads

lemma takeArray_readsOnly (n : ℕ) :
  ReadsOnly rest (takeArray n) fun chunk array => chunk = array.toList := by
  apply (take_readsOnly n).last.mono
  rintro chunk array ⟨octets, ⟨rfl, counted⟩, rfl⟩
  exact (toList_copyFromSlice counted).symm

namespace TrafficDescriptorComponent

variable {component : TrafficDescriptorComponent}

def id : TrafficDescriptorComponent → UInt8
  | .matchAll => tdIdMatchAll
  | .osIdOsAppId _ _ => tdIdOsIdOsAppId
  | .ipv4RemoteAddress _ _ => tdIdIpv4Remote
  | .ipv6RemoteAddress _ _ => tdIdIpv6Remote
  | .protocolIdentifier _ => tdIdProtocol
  | .singleRemotePort _ => tdIdSingleRemotePort
  | .remotePortRange _ _ => tdIdRemotePortRange
  | .dnn _ => tdIdDnn
  | .destinationFqdn _ => tdIdDestFqdn
  | .sNssai _ _ => 0

def valueWire : TrafficDescriptorComponent → Bytes
  | .matchAll => []
  | .osIdOsAppId osId osAppId => osId.toList ++ shortFramed osAppId
  | .ipv4RemoteAddress addr mask => addr.toList ++ mask.toList
  | .ipv6RemoteAddress addr prefixLen => addr.toList ++ [prefixLen]
  | .protocolIdentifier value => [value]
  | .singleRemotePort port => toBeBytes port
  | .remotePortRange low high => toBeBytes low ++ toBeBytes high
  | .dnn name | .destinationFqdn name => shortFramed (labelsWire name)
  | .sNssai _ _ => []

def wire (component : TrafficDescriptorComponent) : Bytes := component.id :: component.valueWire

def Encodable : TrafficDescriptorComponent → Prop
  | .osIdOsAppId _ osAppId => osAppId.length ≤ 255
  | .ipv6RemoteAddress _ prefixLen => prefixLen ≤ 128
  | .remotePortRange low high => low ≤ high
  | .dnn name => NameEncodable maxApnLen name
  | .destinationFqdn name => NameEncodable maxFqdnLen name
  | .sNssai _ _ => False
  | _ => True

def size : Bytes → ℕ
  | [] => 0
  | id :: value =>
    if id = tdIdOsIdOsAppId then 18 + (value.getD 16 0).toNat
    else if id = tdIdIpv4Remote then 9
    else if id = tdIdIpv6Remote then 18
    else if id = tdIdProtocol then 2
    else if id = tdIdSingleRemotePort then 3
    else if id = tdIdRemotePortRange then 5
    else if id = tdIdDnn ∨ id = tdIdDestFqdn then 2 + (value.getD 0 0).toNat
    else 1

def Plain (chunk : Bytes) : Prop :=
  (chunk.head? = some tdIdDnn → PlainName maxApnLen (chunk.drop 2)) ∧
    (chunk.head? = some tdIdDestFqdn → PlainName maxFqdnLen (chunk.drop 2))

lemma encodeInto_writes : Writes encodeInto Encodable wire := by
  intro component out written
  cases component with
  | matchAll | ipv4RemoteAddress | protocolIdentifier | singleRemotePort =>
    simp only [encodeInto, Encodable, wire, valueWire, id, ok_iff, true_and, List.append_assoc,
      List.cons_append, List.nil_append]
  | osIdOsAppId | ipv6RemoteAddress | remotePortRange =>
    simp only [encodeInto, Encodable, wire, valueWire, id, refuse_ok_iff, ok_iff, Nat.not_lt,
      UInt8.not_lt, UInt16.not_lt, List.append_assoc, List.cons_append, List.nil_append]
  | dnn name | destinationFqdn name =>
    rw [encodeInto, encodeName_ok_iff, List.append_assoc]
    exact Iff.rfl
  | sNssai => exact iff_of_false (fun impossible => by cases impossible) fun both => both.1

lemma decodeValue_readsBack (encodable : component.Encodable) :
  ReadsBack rest (decodeValue component.id) component.valueWire component := by
  cases component with
  | matchAll => exact ReadsBack.pure _
  | osIdOsAppId osId osAppId =>
    apply (takeArray_readsBack osId).bind
    exact (shortFrame_readsBack (Nat.lt_succ_of_le encodable)).last
  | ipv4RemoteAddress addr mask =>
    apply (takeArray_readsBack addr).bind
    exact (takeArray_readsBack mask).last
  | ipv6RemoteAddress addr prefixLen =>
    apply (takeArray_readsBack addr).bind
    apply (u8_readsBack prefixLen).bind_nil
    apply ReadsBack.skip (ReadsBack.refuse (UInt8.not_lt.mpr encodable))
    exact ReadsBack.pure _
  | protocolIdentifier value => exact (u8_readsBack value).last
  | singleRemotePort port => exact (u16_readsBack port).last
  | remotePortRange low high =>
    apply (u16_readsBack low).bind
    apply (u16_readsBack high).bind_nil
    apply ReadsBack.skip (ReadsBack.refuse (UInt16.not_lt.mpr encodable))
    exact ReadsBack.pure _
  | dnn name | destinationFqdn name => exact name_readsBack encodable (by decide)
  | sNssai => exact encodable.elim

lemma decodeOne_readsBack (encodable : component.Encodable) :
  ReadsBack rest decodeOne component.wire component :=
  (u8_readsBack component.id).bind (decodeValue_readsBack encodable)

lemma sized_osIdOsAppId (osId : Vector UInt8 16) {osAppId : Bytes}
  (fits : osAppId.length < 2 ^ 8) :
  Sized size (tdIdOsIdOsAppId :: (osId.toList ++ shortFramed osAppId)) where
  nonempty := List.cons_ne_nil _ _
  size_append tail := by
    have length : (UInt8.ofNat osAppId.length).toNat = osAppId.length :=
      UInt8.toNat_ofNat_of_lt' fits
    change 18 + ((osId.toList ++ shortFramed osAppId ++ tail).getD 16 0).toNat = _
    rw [List.append_assoc, List.getD_eq_getElem?_getD,
      List.getElem?_append_right (Nat.le_of_eq osId.length_toList), osId.length_toList,
      List.length_cons, List.length_append, osId.length_toList]
    change 18 + (UInt8.ofNat osAppId.length).toNat = 16 + (osAppId.length + 1) + 1
    omega

lemma decodeValue_readsOnly (id : UInt8) : ReadsOnly rest (decodeValue id) fun chunk component =>
  component.id = id ∧ Sized size (id :: chunk) ∧
    (Plain (id :: chunk) → component.Encodable ∧ component.valueWire = chunk) := by
  refine .ite (fun same => ?matchAll) fun _ => .ite (fun same => ?osIdOsAppId) fun _ =>
    .ite (fun same => ?ipv4) fun _ => .ite (fun same => ?ipv6) fun _ =>
    .ite (fun same => ?protocol) fun _ => .ite (fun same => ?port) fun _ =>
    .ite (fun same => ?range) fun _ => .ite (fun same => ?dnn) fun _ =>
    .ite (fun same => ?fqdn) fun _ => (ReadsOnly.throw _).mono fun _ _ => False.elim
  all_goals subst same
  case matchAll =>
    apply (ReadsOnly.pure _).mono
    rintro chunk component ⟨rfl, rfl⟩
    exact ⟨rfl, fixed_sized _ (fun _ => rfl) rfl, fun _ => ⟨trivial, rfl⟩⟩
  case osIdOsAppId =>
    apply ((takeArray_readsOnly 16).bind fun osId => shortFrame_readsOnly.last).mono
    rintro chunk component ⟨_, _, osId, rfl, rfl, osAppId, ⟨fits, rfl⟩, rfl⟩
    exact ⟨rfl, sized_osIdOsAppId osId fits, fun _ => ⟨Nat.le_of_lt_succ fits, rfl⟩⟩
  case ipv4 =>
    apply ((takeArray_readsOnly 4).bind fun addr => (takeArray_readsOnly 4).last).mono
    rintro chunk component ⟨_, _, addr, rfl, rfl, mask, rfl, rfl⟩
    refine ⟨rfl, fixed_sized 9 (fun _ => rfl) ?_, fun _ => ⟨trivial, rfl⟩⟩
    rw [List.length_append, length_toList, length_toList]
  case ipv6 =>
    apply ((takeArray_readsOnly 16).bind fun addr => u8_readsOnly.bind fun prefixLen =>
      (ReadsOnly.refuse _ _).skip fun _ => ReadsOnly.pure _).mono
    rintro chunk component ⟨_, _, addr, rfl, rfl, _, _, prefixLen, rfl, rfl, _, accepted, rfl, rfl⟩
    refine ⟨rfl, fixed_sized 18 (fun _ => rfl) ?_, fun _ => ⟨UInt8.not_lt.mp accepted, rfl⟩⟩
    rw [List.length_append, length_toList]
    rfl
  case protocol =>
    apply u8_readsOnly.last.mono
    rintro chunk component ⟨value, rfl, rfl⟩
    exact ⟨rfl, fixed_sized _ (fun _ => rfl) rfl, fun _ => ⟨trivial, rfl⟩⟩
  case port =>
    apply u16_readsOnly.last.mono
    rintro chunk component ⟨port, rfl, rfl⟩
    exact ⟨rfl, fixed_sized _ (fun _ => rfl) rfl, fun _ => ⟨trivial, rfl⟩⟩
  case range =>
    apply (u16_readsOnly.bind fun low => u16_readsOnly.bind fun high =>
      (ReadsOnly.refuse _ _).skip fun _ => ReadsOnly.pure _).mono
    rintro chunk component ⟨_, _, low, rfl, rfl, _, _, high, rfl, rfl, _, accepted, rfl, rfl⟩
    refine ⟨rfl, fixed_sized _ (fun _ => rfl) rfl, fun _ => ⟨UInt16.not_lt.mp accepted, ?_⟩⟩
    rw [List.append_nil]
    rfl
  case dnn =>
    apply name_readsOnly.mono
    rintro chunk component ⟨octets, name, fits, rfl, decodes, rfl⟩
    refine ⟨rfl, counted_sized (fun _ => rfl) fits, fun plain => ?_⟩
    obtain ⟨encodable, wire⟩ := of_decodeLabels decodes (plain.1 rfl)
    exact ⟨encodable, congrArg shortFramed wire⟩
  case fqdn =>
    apply name_readsOnly.mono
    rintro chunk component ⟨octets, name, fits, rfl, decodes, rfl⟩
    refine ⟨rfl, counted_sized (fun _ => rfl) fits, fun plain => ?_⟩
    obtain ⟨encodable, wire⟩ := of_decodeLabels decodes (plain.2 rfl)
    exact ⟨encodable, congrArg shortFramed wire⟩

lemma decodeOne_readsOnly : ReadsOnly rest decodeOne fun chunk component =>
  Sized size chunk ∧ (Plain chunk → component.Encodable ∧ component.wire = chunk) := by
  apply (u8_readsOnly.bind decodeValue_readsOnly).mono
  rintro chunk component ⟨_, value, id, rfl, rfl, rfl, sized, plain⟩
  refine ⟨sized, fun isPlain => ?_⟩
  obtain ⟨encodable, same⟩ := plain isPlain
  exact ⟨encodable, congrArg _ same⟩

lemma wire_plain (encodable : component.Encodable) : Plain component.wire := by
  have apart : tdIdDnn ≠ tdIdDestFqdn := by decide
  cases component with
  | dnn name =>
    exact ⟨fun _ => plainName_wire encodable, fun same => absurd (Option.some.inj same) apart⟩
  | destinationFqdn name =>
    exact ⟨fun same => absurd (Option.some.inj same).symm apart, fun _ => plainName_wire encodable⟩
  | sNssai => exact encodable.elim
  | _ =>
    -- No other identifier is that of a name.
    refine ⟨fun same => absurd (Option.some.inj same) ?_,
      fun same => absurd (Option.some.inj same) ?_⟩
    all_goals simp only [id]
    all_goals decide

end TrafficDescriptorComponent

def trafficDescriptorFormat : StrictFormat rest NasError TrafficDescriptorComponent where
  write := TrafficDescriptorComponent.encodeInto
  read := TrafficDescriptorComponent.decodeOne
  Encodable := TrafficDescriptorComponent.Encodable
  Canonical _ := True
  wire := TrafficDescriptorComponent.wire
  size := TrafficDescriptorComponent.size
  Plain := TrafficDescriptorComponent.Plain
  writes := TrafficDescriptorComponent.encodeInto_writes
  sized _ encodable :=
    (TrafficDescriptorComponent.decodeOne_readsOnly.of_readsBack (rest_new _)
      (TrafficDescriptorComponent.decodeOne_readsBack encodable)).1
  plain _ := TrafficDescriptorComponent.wire_plain
  readsBack _ encodable _ := TrafficDescriptorComponent.decodeOne_readsBack encodable
  readsOnly := TrafficDescriptorComponent.decodeOne_readsOnly

namespace RouteSelectionDescriptorComponent

variable {octet : UInt8} {component : RouteSelectionDescriptorComponent}

lemma decodeSscMode_ok_iff {mode : SscMode} :
  decodeSscMode octet = .ok mode ↔ octet = mode.value := by
  revert octet
  cases mode
  all_goals
    apply forall_octet
    decide +kernel

lemma decodePduSessionType_ok_iff {type : PduSessionType} :
  decodePduSessionType octet = .ok type ↔ octet = type.value := by
  revert octet
  cases type
  all_goals
    apply forall_octet
    decide +kernel

lemma decodePreferredAccessType_ok_iff {type : PreferredAccessType} :
  decodePreferredAccessType octet = .ok type ↔ octet = type.value := by
  revert octet
  cases type
  all_goals
    apply forall_octet
    decide +kernel

def valueWire : RouteSelectionDescriptorComponent → Bytes
  | .sscMode mode => [mode.value]
  | .sNssai sst none => [1, sst]
  | .sNssai sst (some sd) => [4, sst] ++ sd.toList
  | .dnn name => shortFramed (labelsWire name)
  | .pduSessionType type => [type.value]
  | .preferredAccessType type => [type.value]

def wire (component : RouteSelectionDescriptorComponent) : Bytes :=
  component.kindId :: component.valueWire

def Encodable : RouteSelectionDescriptorComponent → Prop
  | .dnn name => NameEncodable maxApnLen name
  | _ => True

def size : Bytes → ℕ
  | [] => 0
  | id :: value =>
    if id = rsdIdSnssai ∨ id = rsdIdDnn then 2 + (value.getD 0 0).toNat else 2

def Plain (chunk : Bytes) : Prop :=
  chunk.head? = some rsdIdDnn → PlainName maxApnLen (chunk.drop 2)

lemma encodeInto_writes : Writes encodeInto Encodable wire := by
  intro component out written
  cases component with
  | sscMode | pduSessionType | preferredAccessType =>
    simp only [encodeInto, Encodable, wire, valueWire, kindId, ok_iff, true_and,
      List.append_assoc, List.cons_append, List.nil_append]
  | sNssai sst sd =>
    cases sd with
    | none | some =>
      simp only [encodeInto, Encodable, wire, valueWire, kindId, ok_iff, true_and,
        List.append_assoc, List.cons_append, List.nil_append]
  | dnn name =>
    rw [encodeInto, encodeName_ok_iff, List.append_assoc]
    exact Iff.rfl

lemma decodeValue_readsBack (encodable : component.Encodable) :
  ReadsBack rest (decodeValue component.kindId) component.valueWire component := by
  cases component with
  | sscMode mode =>
    apply (u8_readsBack mode.value).bind_nil
    exact (ReadsBack.lift (decodeSscMode_ok_iff.mpr rfl)).last
  | sNssai sst sd =>
    cases sd with
    | none =>
      apply (u8_readsBack 1).bind
      exact (u8_readsBack sst).last
    | some sd =>
      apply (u8_readsBack 4).bind
      apply (u8_readsBack sst).bind
      exact (takeArray_readsBack sd).last
  | dnn name => exact name_readsBack encodable (by decide)
  | pduSessionType type =>
    apply (u8_readsBack type.value).bind_nil
    exact (ReadsBack.lift (decodePduSessionType_ok_iff.mpr rfl)).last
  | preferredAccessType type =>
    apply (u8_readsBack type.value).bind_nil
    exact (ReadsBack.lift (decodePreferredAccessType_ok_iff.mpr rfl)).last

lemma decodeOne_readsBack (encodable : component.Encodable) :
  ReadsBack rest decodeOne component.wire component :=
  (u8_readsBack component.kindId).bind (decodeValue_readsBack encodable)

lemma sized_sNssai (sst : UInt8) (sd : Option (Vector UInt8 3)) :
  Sized size (rsdIdSnssai :: valueWire (.sNssai sst sd)) := by
  cases sd with
  | none => exact ⟨List.cons_ne_nil _ _, fun _ => rfl⟩
  | some sd =>
    refine ⟨List.cons_ne_nil _ _, fun _ => ?_⟩
    change 6 = sd.toList.length + 1 + 1 + 1
    rw [length_toList]

lemma sNssaiValue_readsOnly (length : UInt8) :
  ReadsOnly rest (sNssaiValue length) fun chunk component =>
    ∃ sst sd, component = .sNssai sst sd ∧ length :: chunk = valueWire component := by
  refine .ite (fun isOne => ?_) fun _ => .ite (fun isFour => ?_) fun _ =>
    (ReadsOnly.throw _).mono fun _ _ => False.elim
  · apply u8_readsOnly.last.mono
    rintro chunk component ⟨sst, rfl, rfl⟩
    exact ⟨sst, none, rfl, isOne ▸ rfl⟩
  · apply (u8_readsOnly.bind fun sst => (takeArray_readsOnly 3).last).mono
    rintro chunk component ⟨_, _, sst, rfl, rfl, sd, rfl, rfl⟩
    exact ⟨sst, some sd, rfl, isFour ▸ rfl⟩

lemma decodeValue_readsOnly (id : UInt8) : ReadsOnly rest (decodeValue id) fun chunk component =>
  component.kindId = id ∧ Sized size (id :: chunk) ∧
    (Plain (id :: chunk) → component.Encodable ∧ component.valueWire = chunk) := by
  refine .ite (fun same => ?sscMode) fun _ => .ite (fun same => ?sNssai) fun _ =>
    .ite (fun same => ?dnn) fun _ => .ite (fun same => ?pduSessionType) fun _ =>
    .ite (fun same => ?preferredAccessType) fun _ =>
      (ReadsOnly.throw _).mono fun _ _ => False.elim
  all_goals subst same
  case sscMode =>
    apply (u8_readsOnly.bind fun octet => (lift (decodeSscMode octet)).last).mono
    rintro chunk component ⟨_, _, octet, rfl, rfl, mode, ⟨rfl, decodes⟩, rfl⟩
    obtain rfl := decodeSscMode_ok_iff.mp decodes
    exact ⟨rfl, fixed_sized _ (fun _ => rfl) rfl, fun _ => ⟨trivial, rfl⟩⟩
  case sNssai =>
    apply (u8_readsOnly.bind sNssaiValue_readsOnly).mono
    rintro chunk component ⟨_, value, length, rfl, rfl, sst, sd, rfl, wire⟩
    change length :: value = _ at wire
    refine ⟨rfl, ?_, fun _ => ⟨trivial, wire.symm⟩⟩
    change Sized size (rsdIdSnssai :: length :: value)
    rw [wire]
    exact sized_sNssai sst sd
  case dnn =>
    apply name_readsOnly.mono
    rintro chunk component ⟨octets, name, fits, rfl, decodes, rfl⟩
    refine ⟨rfl, counted_sized (fun _ => rfl) fits, fun plain => ?_⟩
    obtain ⟨encodable, wire⟩ := of_decodeLabels decodes (plain rfl)
    exact ⟨encodable, congrArg shortFramed wire⟩
  case pduSessionType =>
    apply (u8_readsOnly.bind fun octet =>
      (lift (decodePduSessionType octet)).last).mono
    rintro chunk component ⟨_, _, octet, rfl, rfl, type, ⟨rfl, decodes⟩, rfl⟩
    obtain rfl := decodePduSessionType_ok_iff.mp decodes
    exact ⟨rfl, fixed_sized _ (fun _ => rfl) rfl, fun _ => ⟨trivial, rfl⟩⟩
  case preferredAccessType =>
    apply (u8_readsOnly.bind fun octet =>
      (lift (decodePreferredAccessType octet)).last).mono
    rintro chunk component ⟨_, _, octet, rfl, rfl, type, ⟨rfl, decodes⟩, rfl⟩
    obtain rfl := decodePreferredAccessType_ok_iff.mp decodes
    exact ⟨rfl, fixed_sized _ (fun _ => rfl) rfl, fun _ => ⟨trivial, rfl⟩⟩

lemma decodeOne_readsOnly : ReadsOnly rest decodeOne fun chunk component =>
  Sized size chunk ∧ (Plain chunk → component.Encodable ∧ component.wire = chunk) := by
  apply (u8_readsOnly.bind decodeValue_readsOnly).mono
  rintro chunk component ⟨_, value, id, rfl, rfl, rfl, sized, plain⟩
  refine ⟨sized, fun isPlain => ?_⟩
  obtain ⟨encodable, same⟩ := plain isPlain
  exact ⟨encodable, congrArg _ same⟩

lemma wire_plain (encodable : component.Encodable) : Plain component.wire := by
  cases component with
  | dnn name => exact fun _ => plainName_wire encodable
  | _ =>
    intro same
    refine absurd (Option.some.inj same) ?_
    simp only [kindId]
    decide

end RouteSelectionDescriptorComponent

def routeSelectionComponentFormat :
  StrictFormat rest NasError RouteSelectionDescriptorComponent where
  write := RouteSelectionDescriptorComponent.encodeInto
  read := RouteSelectionDescriptorComponent.decodeOne
  Encodable := RouteSelectionDescriptorComponent.Encodable
  Canonical _ := True
  wire := RouteSelectionDescriptorComponent.wire
  size := RouteSelectionDescriptorComponent.size
  Plain := RouteSelectionDescriptorComponent.Plain
  writes := RouteSelectionDescriptorComponent.encodeInto_writes
  sized _ encodable :=
    (RouteSelectionDescriptorComponent.decodeOne_readsOnly.of_readsBack (rest_new _)
      (RouteSelectionDescriptorComponent.decodeOne_readsBack encodable)).1
  plain _ := RouteSelectionDescriptorComponent.wire_plain
  readsBack _ encodable _ := RouteSelectionDescriptorComponent.decodeOne_readsBack encodable
  readsOnly := RouteSelectionDescriptorComponent.decodeOne_readsOnly

namespace RouteSelectionDescriptor

variable {rsd : RouteSelectionDescriptor}

def contents (rsd : RouteSelectionDescriptor) : Bytes :=
  rsd.components.flatMap RouteSelectionDescriptorComponent.wire

def wire (rsd : RouteSelectionDescriptor) : Bytes :=
  framed ([rsd.precedence] ++ framed rsd.contents)

def SingletonsOnce (components : List RouteSelectionDescriptorComponent) : Prop :=
  components.Pairwise fun component other =>
    component.isSingleton = true → other.kindId ≠ component.kindId

def Valid (rsd : RouteSelectionDescriptor) : Prop :=
  rsd.components ≠ [] ∧ SingletonsOnce rsd.components

structure Encodable (rsd : RouteSelectionDescriptor) : Prop where
  valid : rsd.Valid
  components : ∀ component ∈ rsd.components, component.Encodable
  fits : 3 + rsd.contents.length < 2 ^ 16

def Plain (chunk : Bytes) : Prop := routeSelectionComponentFormat.EachPlain (chunk.drop 5)

lemma checkSingletons_ok_iff {components : List RouteSelectionDescriptorComponent} :
  checkSingletons components = .ok () ↔ SingletonsOnce components := by
  induction components with
  | nil => exact iff_of_true rfl .nil
  | cons component behind ih =>
    rw [checkSingletons, refuse_ok_iff, ih, SingletonsOnce, SingletonsOnce, List.pairwise_cons]
    refine and_congr ?_ Iff.rfl
    rw [Bool.and_eq_true, List.any_eq_true]
    constructor
    · intro apart other member isSingleton same
      exact apart ⟨isSingleton, other, member, beq_iff_eq.mpr same⟩
    · rintro apart ⟨isSingleton, other, member, same⟩
      exact apart other member isSingleton (beq_iff_eq.mp same)

lemma validate_ok_iff : rsd.validate = .ok () ↔ rsd.Valid := by
  rw [validate, refuse_ok_iff, checkSingletons_ok_iff, List.isEmpty_iff]
  exact Iff.rfl

lemma asDecodingError_ok_iff {result : Except NasError Unit} :
  asDecodingError result = .ok () ↔ result = .ok () := by
  cases result with
  | error error => exact iff_of_false (fun other => by cases other) fun other => by cases other
  | ok value => exact iff_of_true rfl rfl

lemma length_body (rsd : RouteSelectionDescriptor) :
  ([rsd.precedence] ++ framed rsd.contents).length = 3 + rsd.contents.length := by
  rw [List.length_append, length_framed, ← Nat.add_assoc]
  rfl

lemma encodeInto_writes : Writes encodeInto Encodable wire := by
  intro rsd out written
  have wire_eq (out : Bytes) : out ++ rsd.wire =
      out ++ toBeBytes (UInt16.ofNat (1 + 2 + rsd.contents.length)) ++ [rsd.precedence] ++
        toBeBytes (UInt16.ofNat rsd.contents.length) ++ rsd.contents := by
    rw [wire, framed, length_body, framed]
    simp only [List.append_assoc]
  simp only [encodeInto, bind_ok_iff, pushU16Len_eq_ok]
  constructor
  · rintro ⟨_, valid, contents, wrote, _, ⟨fits, rfl⟩, _, ⟨-, rfl⟩, made⟩
    obtain ⟨components, rfl⟩ := routeSelectionComponentFormat.writes_each.mp wrote
    refine ⟨⟨validate_ok_iff.mp valid, components, fits⟩, ?_⟩
    rw [ok_iff.mp made, wire_eq]
    rfl
  · rintro ⟨encodable, rfl⟩
    refine ⟨(), validate_ok_iff.mpr encodable.valid, rsd.contents,
      routeSelectionComponentFormat.writes_each.mpr ⟨encodable.components, rfl⟩, _,
      ⟨encodable.fits, rfl⟩, _, ⟨?_, rfl⟩, ?_⟩
    · have fits := encodable.fits
      omega
    · rw [wire_eq]
      rfl

lemma decodeHead_readsBack {precedence : UInt8} {contents : Bytes}
  (fits : contents.length < 2 ^ 16) :
  ReadsBack rest decodeHead ([precedence] ++ framed contents) (precedence, contents) := by
  apply (u8_readsBack precedence).bind
  exact (frame_readsBack fits).last

lemma decodeHead_readsOnly : ReadsOnly rest decodeHead fun chunk head =>
  head.2.length < 2 ^ 16 ∧ chunk = [head.1] ++ framed head.2 := by
  apply (u8_readsOnly.bind fun precedence => frame_readsOnly.last).mono
  rintro chunk head ⟨_, _, precedence, rfl, rfl, contents, ⟨fits, rfl⟩, rfl⟩
  exact ⟨fits, rfl⟩

lemma decodeOne_readsBack (encodable : rsd.Encodable) :
  ReadsBack rest decodeOne rsd.wire rsd := by
  have fits := encodable.fits
  have components : whole "route selection descriptor contents" rsd.contents
      (many RouteSelectionDescriptorComponent.decodeOne) = .ok rsd.components :=
    whole_of_readsToEnd (routeSelectionComponentFormat.readsBack_each encodable.components
      fun _ _ => trivial) _
  apply (frame_readsBack (by rwa [length_body])).bind_nil
  apply ReadsBack.skip (ReadsBack.lift (whole_of_readsBack (decodeHead_readsBack (by omega)) _))
  apply ReadsBack.skip (ReadsBack.lift components)
  apply ReadsBack.skip (ReadsBack.lift
    (asDecodingError_ok_iff.mpr (validate_ok_iff.mpr encodable.valid)))
  exact ReadsBack.pure rsd

lemma decodeOne_readsOnly : ReadsOnly rest decodeOne fun chunk rsd =>
  Sized frameSize chunk ∧ (Plain chunk → rsd.Encodable ∧ rsd.wire = chunk) := by
  apply (frame_readsOnly.bind fun body => (lift _).skip fun head =>
    (lift _).skip fun components => (lift _).skip fun _ =>
      ReadsOnly.pure _).mono
  rintro chunk rsd ⟨_, _, body, rfl, ⟨fits, rfl⟩, ⟨precedence, contents⟩, headed, components,
    decodes, _, valid, rfl, rfl⟩
  obtain ⟨-, rfl⟩ := of_whole decodeHead_readsOnly headed
  rw [List.append_nil]
  refine ⟨framed_sized fits, fun plain => ?_⟩
  obtain ⟨encodable, same⟩ := of_whole routeSelectionComponentFormat.readsOnly_each decodes plain
  obtain rfl : RouteSelectionDescriptor.contents ⟨precedence, components⟩ = contents := same
  have within := (Nat.le_of_eq (length_body ⟨precedence, components⟩).symm).trans_lt fits
  exact ⟨⟨validate_ok_iff.mp (asDecodingError_ok_iff.mp valid), encodable, within⟩, rfl⟩

lemma wire_plain (encodable : rsd.Encodable) : Plain rsd.wire :=
  routeSelectionComponentFormat.eachPlain_wire encodable.components

end RouteSelectionDescriptor

def routeSelectionFormat : StrictFormat rest NasError RouteSelectionDescriptor where
  write := RouteSelectionDescriptor.encodeInto
  read := RouteSelectionDescriptor.decodeOne
  Encodable := RouteSelectionDescriptor.Encodable
  Canonical _ := True
  wire := RouteSelectionDescriptor.wire
  size := frameSize
  Plain := RouteSelectionDescriptor.Plain
  writes := RouteSelectionDescriptor.encodeInto_writes
  sized _ encodable :=
    (RouteSelectionDescriptor.decodeOne_readsOnly.of_readsBack (rest_new _)
      (RouteSelectionDescriptor.decodeOne_readsBack encodable)).1
  plain _ := RouteSelectionDescriptor.wire_plain
  readsBack _ encodable _ := RouteSelectionDescriptor.decodeOne_readsBack encodable
  readsOnly := RouteSelectionDescriptor.decodeOne_readsOnly

namespace UrspRule

variable {rule : UrspRule}

def tdContents (rule : UrspRule) : Bytes :=
  rule.trafficDescriptor.flatMap TrafficDescriptorComponent.wire

def rsdContents (rule : UrspRule) : Bytes :=
  rule.routeSelectionDescriptors.flatMap RouteSelectionDescriptor.wire

def body (rule : UrspRule) : Bytes :=
  [rule.precedence] ++ (framed rule.tdContents ++ (framed rule.rsdContents ++
    ureriOctets rule.ureri))

def wire (rule : UrspRule) : Bytes := framed rule.body

structure Valid (rule : UrspRule) : Prop where
  trafficDescriptor : rule.trafficDescriptor ≠ []
  matchAll : .matchAll ∈ rule.trafficDescriptor → rule.trafficDescriptor.length = 1
  routeSelectionDescriptors : rule.routeSelectionDescriptors ≠ []

structure Encodable (rule : UrspRule) : Prop where
  valid : rule.Valid
  trafficDescriptor : ∀ component ∈ rule.trafficDescriptor, component.Encodable
  routeSelectionDescriptors : ∀ rsd ∈ rule.routeSelectionDescriptors, rsd.Encodable
  fits : rule.body.length < 2 ^ 16

/-- The traffic descriptor and the route selection descriptors of a rule that is
plain. -/
def Plain (chunk : Bytes) : Prop :=
  trafficDescriptorFormat.EachPlain (frontFrame (chunk.drop 3)) ∧
    routeSelectionFormat.EachPlain (frontFrame (afterFrame (chunk.drop 3)))

lemma validate_ok_iff : rule.validate = .ok () ↔ rule.Valid := by
  simp only [validate, refuse_ok_iff, List.isEmpty_iff, hasMatchAll, Bool.and_eq_true,
    decide_eq_true_eq, bne_iff_ne, not_and, not_not, and_true]
  constructor
  · rintro ⟨trafficDescriptor, matchAll, routeSelectionDescriptors⟩
    exact ⟨trafficDescriptor, matchAll, routeSelectionDescriptors⟩
  · rintro ⟨trafficDescriptor, matchAll, routeSelectionDescriptors⟩
    exact ⟨trafficDescriptor, matchAll, routeSelectionDescriptors⟩

lemma length_ureriOctets (ureri : Option Bool) :
  (ureriOctets ureri).length = if ureri.isSome then 1 else 0 := by
  cases ureri with
  | none => rfl
  | some => rfl

lemma length_body (rule : UrspRule) : rule.body.length =
  1 + 2 + rule.tdContents.length + 2 + rule.rsdContents.length +
    if rule.ureri.isSome then 1 else 0 := by
  rw [body, List.length_append, List.length_append, List.length_append, length_framed,
    length_framed, length_ureriOctets, List.length_singleton]
  omega

lemma encodeInto_writes : Writes encodeInto Encodable wire := by
  intro rule out written
  have wire_eq (out : Bytes) : out ++ rule.wire =
      out ++ toBeBytes (UInt16.ofNat rule.body.length) ++ [rule.precedence] ++
        toBeBytes (UInt16.ofNat rule.tdContents.length) ++ rule.tdContents ++
        toBeBytes (UInt16.ofNat rule.rsdContents.length) ++ rule.rsdContents ++
        ureriOctets rule.ureri := by
    simp only [wire, body, framed, List.append_assoc]
  rw [length_body] at wire_eq
  simp only [encodeInto, bind_ok_iff, pushU16Len_eq_ok]
  constructor
  · rintro ⟨_, valid, td, wroteTd, rsdList, wroteRsd, _, ⟨fits, rfl⟩, _, ⟨-, rfl⟩, _, ⟨-, rfl⟩,
      made⟩
    obtain ⟨components, rfl⟩ := trafficDescriptorFormat.writes_each.mp wroteTd
    obtain ⟨rsds, rfl⟩ := routeSelectionFormat.writes_each.mp wroteRsd
    refine ⟨⟨validate_ok_iff.mp valid, components, rsds, ?_⟩, ?_⟩
    · rw [length_body]
      exact fits
    · rw [ok_iff.mp made, wire_eq]
      rfl
  · rintro ⟨encodable, rfl⟩
    have fits := encodable.fits
    rw [length_body] at fits
    refine ⟨(), validate_ok_iff.mpr encodable.valid, rule.tdContents,
      trafficDescriptorFormat.writes_each.mpr ⟨encodable.trafficDescriptor, rfl⟩, rule.rsdContents,
      routeSelectionFormat.writes_each.mpr ⟨encodable.routeSelectionDescriptors, rfl⟩, _,
      ⟨fits, rfl⟩, _, ⟨?_, rfl⟩, _, ⟨?_, rfl⟩, ?_⟩
    · omega
    · omega
    · rw [wire_eq]
      rfl

lemma ureri_octet (octet : UInt8) : octet &&& 0xFE = 0 →
  ureriOctets (some (octet &&& 0x01 == 0x01)) = [octet] := by
  revert octet
  apply forall_octet
  decide +kernel

lemma decodeUreri_readsToEnd (ureri : Option Bool) :
  ReadsToEnd rest decodeUreri (ureriOctets ureri) ureri := by
  intro reader whole
  have left : reader.remaining = (ureriOctets ureri).length := by rw [remaining_eq, whole]
  cases ureri with
  | none =>
    have done : reader.remaining = 0 := left
    refine ⟨reader, ?_, whole⟩
    rw [decodeUreri, if_pos done]
  | some ureri =>
    have one : reader.remaining = 1 := left
    rw [decodeUreri, if_neg (by omega), if_pos one]
    apply ReadsToEnd.of_readsBack _ reader whole
    cases ureri with
    | false | true =>
      apply (u8_readsBack _).bind_nil
      apply ReadsBack.skip (ReadsBack.refuse (by decide))
      exact ReadsBack.pure _

lemma decodeUreri_readsOnly :
  ReadsOnly rest decodeUreri fun chunk ureri => chunk = ureriOctets ureri := by
  intro reader ureri next answer
  unfold decodeUreri at answer
  split at answer
  case isTrue =>
    obtain ⟨rfl, rfl⟩ := Prod.mk.injEq _ _ _ _ ▸ Except.ok.inj answer
    exact ⟨[], rfl, rfl⟩
  case isFalse =>
    split at answer
    case isFalse => cases answer
    case isTrue =>
      have reads := u8_readsOnly.bind fun octet =>
        (ReadsOnly.refuse (octet &&& 0xFE ≠ 0) (NasError.decodingError
          "additional indications: spare bits 8..2 set (Figure 5.2.4A)")).skip fun _ =>
          ReadsOnly.pure (some (octet &&& 0x01 == 0x01))
      obtain ⟨_, front, _, _, octet, rfl, rfl, _, spare, rfl, rfl⟩ :=
        reads reader ureri next answer
      exact ⟨_, front, (ureri_octet octet (not_not.mp spare)).symm⟩

lemma decodeBody_readsToEnd (encodable : rule.Encodable) :
  ReadsToEnd rest decodeBody rule.body rule := by
  have fits := encodable.fits
  rw [length_body] at fits
  have td : whole "traffic descriptor" rule.tdContents
      (many TrafficDescriptorComponent.decodeOne) = .ok rule.trafficDescriptor :=
    whole_of_readsToEnd (trafficDescriptorFormat.readsBack_each encodable.trafficDescriptor
      fun _ _ => trivial) _
  have rsds : whole "route selection descriptor list" rule.rsdContents
      (many RouteSelectionDescriptor.decodeOne) = .ok rule.routeSelectionDescriptors :=
    whole_of_readsToEnd (routeSelectionFormat.readsBack_each encodable.routeSelectionDescriptors
      fun _ _ => trivial) _
  apply ReadsToEnd.bind (u8_readsBack rule.precedence)
  apply ReadsToEnd.bind (frame_readsBack (by omega))
  apply ReadsToEnd.bind (ReadsBack.lift td)
  apply ReadsToEnd.bind (frame_readsBack (by omega))
  apply ReadsToEnd.bind (ReadsBack.lift rsds)
  exact (decodeUreri_readsToEnd rule.ureri).last

lemma decodeOne_readsBack (encodable : rule.Encodable) :
  ReadsBack rest decodeOne rule.wire rule := by
  apply (frame_readsBack encodable.fits).bind_nil
  apply ReadsBack.skip (ReadsBack.lift (whole_of_readsToEnd (decodeBody_readsToEnd encodable) _))
  apply ReadsBack.skip (ReadsBack.lift
    (RouteSelectionDescriptor.asDecodingError_ok_iff.mpr (validate_ok_iff.mpr encodable.valid)))
  exact ReadsBack.pure rule

lemma decodeBody_readsOnly : ReadsOnly rest decodeBody fun chunk rule =>
  ∃ td rsdList, td.length < 2 ^ 16 ∧ rsdList.length < 2 ^ 16 ∧
    chunk = [rule.precedence] ++ (framed td ++ (framed rsdList ++ ureriOctets rule.ureri)) ∧
    (trafficDescriptorFormat.EachPlain td →
      (∀ component ∈ rule.trafficDescriptor, component.Encodable) ∧ rule.tdContents = td) ∧
    (routeSelectionFormat.EachPlain rsdList →
      (∀ rsd ∈ rule.routeSelectionDescriptors, rsd.Encodable) ∧ rule.rsdContents = rsdList) := by
  apply (u8_readsOnly.bind fun precedence => frame_readsOnly.bind fun td =>
    (lift _).skip fun components => frame_readsOnly.bind fun rsdList =>
      (lift _).skip fun rsds => decodeUreri_readsOnly.last).mono
  rintro chunk rule ⟨_, _, precedence, rfl, rfl, _, _, td, rfl, ⟨tdFits, rfl⟩, components,
    decodesTd, _, _, rsdList, rfl, ⟨rsdFits, rfl⟩, rsds, decodesRsd, ureri, rfl, rfl⟩
  exact ⟨td, rsdList, tdFits, rsdFits, rfl,
    of_whole trafficDescriptorFormat.readsOnly_each decodesTd,
    of_whole routeSelectionFormat.readsOnly_each decodesRsd⟩

lemma decodeOne_readsOnly : ReadsOnly rest decodeOne fun chunk rule =>
  Sized frameSize chunk ∧ (Plain chunk → rule.Encodable ∧ rule.wire = chunk) := by
  apply (frame_readsOnly.bind fun body => (lift _).skip fun rule =>
    (lift _).skip fun _ => ReadsOnly.pure rule).mono
  rintro chunk rule ⟨_, _, body, rfl, ⟨fits, rfl⟩, rule, decodes, _, valid, rfl, rfl⟩
  obtain ⟨td, rsdList, tdFits, rsdFits, rfl, ofTd, ofRsd⟩ := of_whole decodeBody_readsOnly decodes
  rw [List.append_nil]
  refine ⟨framed_sized fits, fun plain => ?_⟩
  have plainTd : frontFrame ((framed ([rule.precedence] ++ (framed td ++ (framed rsdList ++
      ureriOctets rule.ureri)))).drop 3) = td := frontFrame_framed tdFits _
  have plainRsd : afterFrame ((framed ([rule.precedence] ++ (framed td ++ (framed rsdList ++
      ureriOctets rule.ureri)))).drop 3) = framed rsdList ++ ureriOctets rule.ureri :=
    afterFrame_framed tdFits _
  rw [Plain, plainTd, plainRsd, frontFrame_framed rsdFits] at plain
  obtain ⟨components, rfl⟩ := ofTd plain.1
  obtain ⟨rsds, rfl⟩ := ofRsd plain.2
  exact ⟨⟨validate_ok_iff.mp (RouteSelectionDescriptor.asDecodingError_ok_iff.mp valid),
    components, rsds, fits⟩, rfl⟩

lemma wire_plain (encodable : rule.Encodable) : Plain rule.wire := by
  have fits := encodable.fits
  rw [length_body] at fits
  have plainTd : frontFrame (rule.wire.drop 3) = rule.tdContents :=
    frontFrame_framed (by omega) _
  have plainRsd : afterFrame (rule.wire.drop 3) =
      framed rule.rsdContents ++ ureriOctets rule.ureri := afterFrame_framed (by omega) _
  rw [Plain, plainTd, plainRsd, frontFrame_framed (by omega)]
  exact ⟨trafficDescriptorFormat.eachPlain_wire encodable.trafficDescriptor,
    routeSelectionFormat.eachPlain_wire encodable.routeSelectionDescriptors⟩

end UrspRule

def urspRuleFormat : StrictFormat rest NasError UrspRule where
  write := UrspRule.encodeInto
  read := UrspRule.decodeOne
  Encodable := UrspRule.Encodable
  Canonical _ := True
  wire := UrspRule.wire
  size := frameSize
  Plain := UrspRule.Plain
  writes := UrspRule.encodeInto_writes
  sized _ encodable := framed_sized encodable.fits
  plain _ := UrspRule.wire_plain
  readsBack _ encodable _ := UrspRule.decodeOne_readsBack encodable
  readsOnly := UrspRule.decodeOne_readsOnly

variable {rules : List UrspRule}

structure RulesEncodable (rules : List UrspRule) : Prop where
  nonempty : rules ≠ []
  precedence : (rules.map UrspRule.precedence).Nodup
  matchAll : rules.countP UrspRule.hasMatchAll ≤ 1
  each : ∀ rule ∈ rules, rule.Encodable

def rulesWire (rules : List UrspRule) : Bytes := rules.flatMap UrspRule.wire

def precedenceOctet (chunk : Bytes) : UInt8 := chunk.getD 2 0

def isMatchAllRule (chunk : Bytes) : Bool := frontFrame (chunk.drop 3) == [tdIdMatchAll]

/-- The names are plain, the precedences are distinct, and at most one rule
matches all. -/
structure PlainRules (octets : Bytes) : Prop where
  each : urspRuleFormat.EachPlain octets
  precedence : ((slices frameSize octets).map precedenceOctet).Nodup
  matchAll : (slices frameSize octets).countP isMatchAllRule ≤ 1

lemma checkPrecedence_ok_iff {seen : List UInt8} {count found : ℕ} :
  checkPrecedence seen count rules = .ok found ↔
    (∀ rule ∈ rules, rule.precedence ∉ seen) ∧ (rules.map UrspRule.precedence).Nodup ∧
      found = count + rules.countP UrspRule.hasMatchAll := by
  induction rules generalizing seen count with
  | nil =>
    rw [checkPrecedence, ok_iff]
    exact ⟨fun same => ⟨List.forall_mem_nil _, .nil, same⟩, fun all => all.2.2⟩
  | cons rule rules ih =>
    have counted : (if rule.hasMatchAll then count + 1 else count) +
          rules.countP UrspRule.hasMatchAll =
        count + (rule :: rules).countP UrspRule.hasMatchAll := by
      rw [List.countP_cons]
      split <;> omega
    rw [checkPrecedence, refuse_ok_iff, ih, counted, List.forall_mem_cons,
      List.map_cons, List.nodup_cons]
    constructor
    · rintro ⟨fresh, others, distinct, same⟩
      refine ⟨⟨fresh, fun other member seen => ?_⟩, ⟨?_, distinct⟩, same⟩
      · exact others other member (List.mem_cons_of_mem _ seen)
      · intro twice
        obtain ⟨other, member, equal⟩ := List.mem_map.mp twice
        exact others other member (equal ▸ List.mem_cons_self)
    · rintro ⟨⟨fresh, others⟩, ⟨once, distinct⟩, same⟩
      refine ⟨fresh, fun other member seen => ?_, distinct, same⟩
      rcases List.mem_cons.mp seen with equal | seen
      · exact once (equal ▸ List.mem_map_of_mem member)
      · exact others other member seen

lemma encodeUrspRules_ok_iff {written : Bytes} : encodeUrspRules rules = .ok written ↔
    RulesEncodable rules ∧ written = rulesWire rules := by
  rw [encodeUrspRules, refuse_ok_iff, bind_ok_iff, List.isEmpty_iff]
  constructor
  · rintro ⟨nonempty, count, checked, wrote⟩
    obtain ⟨-, distinct, rfl⟩ := checkPrecedence_ok_iff.mp checked
    obtain ⟨few, wrote⟩ := refuse_ok_iff.mp wrote
    obtain ⟨each, rfl⟩ := urspRuleFormat.writes_each.mp wrote
    exact ⟨⟨nonempty, distinct, by omega, each⟩, rfl⟩
  · rintro ⟨encodable, rfl⟩
    refine ⟨encodable.nonempty, _, checkPrecedence_ok_iff.mpr
      ⟨fun _ _ => List.not_mem_nil, encodable.precedence, rfl⟩, refuse_ok_iff.mpr ⟨?_, ?_⟩⟩
    · have few := encodable.matchAll
      omega
    · exact urspRuleFormat.writes_each.mpr ⟨encodable.each, rfl⟩

lemma hasMatchAll_iff {rule : UrspRule} (encodable : rule.Encodable) :
  rule.hasMatchAll = isMatchAllRule rule.wire := by
  have fits := encodable.fits
  rw [UrspRule.length_body] at fits
  have front : frontFrame (rule.wire.drop 3) = rule.tdContents := frontFrame_framed (by omega) _
  rw [UrspRule.hasMatchAll, isMatchAllRule, front, Bool.eq_iff_iff, decide_eq_true_eq, beq_iff_eq]
  constructor
  · intro member
    obtain ⟨component, only⟩ := List.length_eq_one_iff.mp (encodable.valid.matchAll member)
    rw [only, List.mem_singleton] at member
    rw [UrspRule.tdContents, only, ← member]
    rfl
  · intro wire
    obtain ⟨component, others, components⟩ :=
      List.exists_cons_of_ne_nil encodable.valid.trafficDescriptor
    rw [UrspRule.tdContents, components, List.flatMap_cons] at wire
    have identifier : component.id = tdIdMatchAll := (List.cons.inj wire).1
    have isMatchAll : component = .matchAll := by
      cases component with
      | matchAll => rfl
      | _ => exact absurd identifier (by simp only [TrafficDescriptorComponent.id]; decide)
    rw [components, isMatchAll]
    exact List.mem_cons_self

lemma plainRules_wire_iff (each : ∀ rule ∈ rules, rule.Encodable) : PlainRules (rulesWire rules) ↔
    (rules.map UrspRule.precedence).Nodup ∧ rules.countP UrspRule.hasMatchAll ≤ 1 := by
  have pieces : slices frameSize (rulesWire rules) = rules.map UrspRule.wire :=
    slices_flatMap fun rule member => framed_sized (each rule member).fits
  have precedence : (rules.map UrspRule.wire).map precedenceOctet =
      rules.map UrspRule.precedence := by
    rw [List.map_map]
    rfl
  have matchAll : (rules.map UrspRule.wire).countP isMatchAllRule =
      rules.countP UrspRule.hasMatchAll := by
    rw [List.countP_map]
    apply List.countP_congr
    intro rule member
    rw [Function.comp_apply, hasMatchAll_iff (each rule member)]
  constructor
  · intro plain
    have distinct := plain.precedence
    have few := plain.matchAll
    rw [pieces] at distinct few
    exact ⟨precedence ▸ distinct, matchAll ▸ few⟩
  · rintro ⟨distinct, few⟩
    refine ⟨urspRuleFormat.eachPlain_wire each, ?_, ?_⟩
    · rw [pieces, precedence]
      exact distinct
    · rw [pieces, matchAll]
      exact few

lemma decodeUrspRules_wire (encodable : RulesEncodable rules) :
  decodeUrspRules (rulesWire rules) = .ok rules := by
  have reads : whole "URSP part contents" (rulesWire rules) (many UrspRule.decodeOne) = .ok rules :=
    whole_of_readsToEnd (urspRuleFormat.readsBack_each encodable.each fun _ _ => trivial) _
  rw [decodeUrspRules, bind_ok_iff]
  refine ⟨rules, reads, refuse_ok_iff.mpr ⟨?_, rfl⟩⟩
  rw [List.isEmpty_iff]
  exact encodable.nonempty

lemma of_decodeUrspRules {octets : Bytes} (decodes : decodeUrspRules octets = .ok rules) :
  RulesEncodable rules ∧ rulesWire rules = octets ↔ PlainRules octets := by
  obtain ⟨found, reads, kept⟩ := bind_ok_iff.mp decodes
  obtain ⟨nonempty, kept⟩ := refuse_ok_iff.mp kept
  obtain rfl := ok_iff.mp kept
  rw [List.isEmpty_iff] at nonempty
  constructor
  · rintro ⟨encodable, rfl⟩
    exact (plainRules_wire_iff encodable.each).mpr ⟨encodable.precedence, encodable.matchAll⟩
  · intro plain
    obtain ⟨each, rfl⟩ := of_whole urspRuleFormat.readsOnly_each reads plain.each
    obtain ⟨distinct, few⟩ := (plainRules_wire_iff each).mp plain
    exact ⟨⟨nonempty, distinct, few, each⟩, rfl⟩

end NextGCore.Nas.UePolicy
