import NextGCore.Nas.UePolicy.MessageFormat

/-!
# Strictness of the UE policy codec

Every message that encodes is decoded as itself.  In the other direction the
decoders are not strict inverses: they take contents longer than the encoders
give, parts without contents, classmarks of more than one octet, and the rules
and names that are not plain.
-/

namespace NextGCore.Nas.UePolicy

open Library Reader ReadsToEnd ReadsBack
open Crypt (Bytes)

namespace UePolicySectionManagementList

variable {list : UePolicySectionManagementList} {written : Bytes}

def contents (list : UePolicySectionManagementList) : Bytes :=
  list.sublists.flatMap PlmnSublist.wire

structure Encodable (list : UePolicySectionManagementList) : Prop where
  nonempty : list.sublists ≠ []
  sublists : ∀ sublist ∈ list.sublists, sublist.Encodable
  within : list.contents.length ≤ maxListLveContents

def Canonical (list : UePolicySectionManagementList) : Prop :=
  ∀ sublist ∈ list.sublists, sublist.plmnId.Canonical

/-- The parts of the instructions have contents, and the list is not too long. -/
def Plain (octets : Bytes) : Prop :=
  sublistFormat.EachPlain octets ∧ octets.length ≤ maxListLveContents

lemma encodeContents_ok_iff :
  list.encodeContents = .ok written ↔ list.Encodable ∧ written = list.contents := by
  rw [encodeContents, refuse_ok_iff, List.isEmpty_iff]
  refine (and_congr Iff.rfl (limited_ok_iff sublistFormat)).trans ?_
  constructor
  · rintro ⟨nonempty, sublists, within, rfl⟩
    exact ⟨⟨nonempty, sublists, within⟩, rfl⟩
  · rintro ⟨⟨nonempty, sublists, within⟩, rfl⟩
    exact ⟨nonempty, sublists, within, rfl⟩

lemma encodeLvE_ok_iff :
  list.encodeLvE = .ok written ↔ list.Encodable ∧ written = framed list.contents := by
  simp only [encodeLvE, bind_ok_iff, encodeContents_ok_iff, pushU16Len_eq_ok]
  constructor
  · rintro ⟨_, ⟨encodable, rfl⟩, _, ⟨-, rfl⟩, made⟩
    exact ⟨encodable, ok_iff.mp made⟩
  · rintro ⟨encodable, rfl⟩
    exact ⟨_, ⟨encodable, rfl⟩, _, ⟨Nat.lt_of_le_of_lt encodable.within (by decide), rfl⟩, rfl⟩

lemma decodeContents_wire (encodable : list.Encodable) (canonical : list.Canonical) :
  decodeContents list.contents = .ok list := by
  rw [decodeContents, bind_ok_iff]
  refine ⟨list.sublists, whole_of_readsToEnd
    (sublistFormat.readsBack_each encodable.sublists canonical) _, refuse_ok_iff.mpr ⟨?_, rfl⟩⟩
  rw [List.isEmpty_iff]
  exact encodable.nonempty

lemma of_decodeContents {octets : Bytes} (decodes : decodeContents octets = .ok list) :
  list.Encodable ∧ list.contents = octets ↔ Plain octets := by
  obtain ⟨sublists, reads, kept⟩ := bind_ok_iff.mp decodes
  obtain ⟨nonempty, kept⟩ := refuse_ok_iff.mp kept
  obtain rfl := ok_iff.mp kept
  rw [List.isEmpty_iff] at nonempty
  rw [Plain, ← limited_strict sublistFormat _ reads]
  constructor
  · rintro ⟨encodable, same⟩
    exact ⟨encodable.sublists, encodable.within, same⟩
  · rintro ⟨each, within, same⟩
    exact ⟨⟨nonempty, each, within⟩, same⟩

end UePolicySectionManagementList

namespace UePolicySectionManagementResult

variable {result : UePolicySectionManagementResult}

def contents (result : UePolicySectionManagementResult) : Bytes :=
  result.subresults.flatMap UePolicySectionManagementSubresult.wire

structure Encodable (result : UePolicySectionManagementResult) : Prop where
  nonempty : result.subresults ≠ []
  subresults : ∀ subresult ∈ result.subresults, subresult.Encodable
  within : result.contents.length ≤ maxResultLveContents

def Canonical (result : UePolicySectionManagementResult) : Prop :=
  ∀ subresult ∈ result.subresults, subresult.plmnId.Canonical

lemma encodeContents_ok_iff {written : Bytes} :
  result.encodeContents = .ok written ↔ result.Encodable ∧ written = result.contents := by
  rw [encodeContents, refuse_ok_iff, List.isEmpty_iff]
  refine (and_congr Iff.rfl (limited_ok_iff subresultFormat)).trans ?_
  constructor
  · rintro ⟨nonempty, subresults, within, rfl⟩
    exact ⟨⟨nonempty, subresults, within⟩, rfl⟩
  · rintro ⟨⟨nonempty, subresults, within⟩, rfl⟩
    exact ⟨nonempty, subresults, within, rfl⟩

lemma decodeContents_wire (encodable : result.Encodable) (canonical : result.Canonical) :
  decodeContents result.contents = .ok result := by
  rw [decodeContents, bind_ok_iff]
  refine ⟨result.subresults, whole_of_readsToEnd
    (subresultFormat.readsBack_each encodable.subresults canonical) _,
    refuse_ok_iff.mpr ⟨?_, rfl⟩⟩
  rw [List.isEmpty_iff]
  exact encodable.nonempty

lemma of_decodeContents {octets : Bytes} (decodes : decodeContents octets = .ok result) :
  result.Encodable ∧ result.contents = octets ↔ octets.length ≤ maxResultLveContents := by
  obtain ⟨subresults, reads, kept⟩ := bind_ok_iff.mp decodes
  obtain ⟨nonempty, kept⟩ := refuse_ok_iff.mp kept
  obtain rfl := ok_iff.mp kept
  rw [List.isEmpty_iff] at nonempty
  have plain : subresultFormat.EachPlain octets := fun _ _ => trivial
  have strict := limited_strict subresultFormat maxResultLveContents reads
  rw [and_iff_right plain] at strict
  rw [← strict]
  constructor
  · rintro ⟨encodable, same⟩
    exact ⟨encodable.subresults, encodable.within, same⟩
  · rintro ⟨each, within, same⟩
    exact ⟨⟨nonempty, each, within⟩, same⟩

end UePolicySectionManagementResult

namespace UpsiList

variable {list : UpsiList}

def contents (list : UpsiList) : Bytes := list.sublists.flatMap UpsiSublist.wire

structure Encodable (list : UpsiList) : Prop where
  sublists : ∀ sublist ∈ list.sublists, sublist.Encodable
  within : list.contents.length ≤ maxUpsiLveContents

def Canonical (list : UpsiList) : Prop :=
  ∀ sublist ∈ list.sublists, sublist.plmnId.Canonical

lemma encodeContents_ok_iff {written : Bytes} :
  list.encodeContents = .ok written ↔ list.Encodable ∧ written = list.contents := by
  refine (limited_ok_iff upsiSublistFormat).trans ?_
  constructor
  · rintro ⟨sublists, within, rfl⟩
    exact ⟨⟨sublists, within⟩, rfl⟩
  · rintro ⟨⟨sublists, within⟩, rfl⟩
    exact ⟨sublists, within, rfl⟩

lemma decodeContents_wire (encodable : list.Encodable) (canonical : list.Canonical) :
  decodeContents list.contents = .ok list := by
  rw [decodeContents, bind_ok_iff]
  exact ⟨list.sublists, whole_of_readsToEnd
    (upsiSublistFormat.readsBack_each encodable.sublists canonical) _, rfl⟩

lemma of_decodeContents {octets : Bytes} (decodes : decodeContents octets = .ok list) :
  list.Encodable ∧ list.contents = octets ↔ octets.length ≤ maxUpsiLveContents := by
  obtain ⟨sublists, reads, kept⟩ := bind_ok_iff.mp decodes
  obtain rfl := ok_iff.mp kept
  have plain : upsiSublistFormat.EachPlain octets := fun _ _ => trivial
  have strict := limited_strict upsiSublistFormat maxUpsiLveContents reads
  rw [and_iff_right plain] at strict
  rw [← strict]
  constructor
  · rintro ⟨encodable, same⟩
    exact ⟨encodable.sublists, encodable.within, same⟩
  · rintro ⟨each, within, same⟩
    exact ⟨⟨each, within⟩, same⟩

end UpsiList

namespace UePolicyClassmark

lemma flags_ofOctet (octet : UInt8) : octet &&& 0xF0 = 0 → (ofOctet octet).flags = octet := by
  revert octet
  apply forall_octet
  decide +kernel

lemma ofOctet_flags (classmark : UePolicyClassmark) :
  ofOctet classmark.flags = classmark ∧ classmark.flags &&& 0xF0 = 0 := by
  obtain ⟨andsp, epsUrsp, vpsUrsp, rure⟩ := classmark
  cases andsp <;> cases epsUrsp <;> cases vpsUrsp <;> cases rure <;> decide

lemma decodeLv_readsBack (classmark : UePolicyClassmark) :
  ReadsBack rest decodeLv classmark.encodeLv classmark := by
  obtain ⟨same, spare⟩ := classmark.ofOctet_flags
  apply (u8_readsBack 1).bind
  apply ReadsBack.skip (refuse (by decide))
  apply (take_readsBack [classmark.flags]).bind_nil
  apply ReadsBack.skip (refuse (not_not.mpr spare))
  apply ReadsBack.skip (refuse (by simp))
  change ReadsBack rest (pure (ofOctet classmark.flags)) [] classmark
  rw [same]
  exact pure classmark

lemma decodeLv_readsOnly : ReadsOnly rest decodeLv fun chunk classmark =>
  ∃ contents, contents ≠ [] ∧ chunk = shortFramed contents ∧ contents.length < 2 ^ 8 ∧
    (contents.length = 1 → chunk = classmark.encodeLv) := by
  apply (u8_readsOnly.bind fun length => (ReadsOnly.refuse _ _).skip fun _ =>
    (take_readsOnly length.toNat).bind fun contents => (ReadsOnly.refuse _ _).skip fun _ =>
      (ReadsOnly.refuse _ _).skip fun _ => ReadsOnly.pure _).mono
  rintro chunk classmark ⟨_, _, length, rfl, rfl, _, inside, contents, _, _, rfl, ⟨rfl, counted⟩,
    _, spare, _, _, rfl, rfl⟩
  have bound := length.toNat_lt
  have framedAs : [length] ++ (contents ++ []) = shortFramed contents := by
    rw [List.append_nil, shortFramed, counted, UInt8.ofNat_toNat]
    rfl
  refine ⟨contents, List.ne_nil_of_length_pos (by omega), framedAs, counted ▸ bound, ?_⟩
  intro single
  obtain ⟨octet, rfl⟩ := List.length_eq_one_iff.mp single
  rw [framedAs, encodeLv]
  change _ = [1, (ofOctet octet).flags]
  rw [flags_ofOctet octet (not_not.mp spare)]
  rfl

end UePolicyClassmark

variable {pti : UInt8} {rules : List UrspRule} {part : UePolicyPart}

lemma checkPcfPti_ok_iff {msg : String} {error : String → NasError} :
  checkPcfPti pti msg error = .ok () ↔ isPcfPti pti = true := by
  unfold checkPcfPti
  split
  case isTrue inRange => exact iff_of_true rfl inRange
  case isFalse outside => exact iff_of_false (fun other => by cases other) outside

lemma decodeLvEMessage_readsBack {msgType : UInt8} (inRange : isPcfPti pti = true)
  {contents : Bytes} (fits : contents.length < 2 ^ 16) (msg : String) :
  ReadsBack rest (decodeLvEMessage msgType msg) ([pti] ++ ([msgType] ++ framed contents))
    (pti, contents) := by
  apply (u8_readsBack pti).bind
  apply (u8_readsBack msgType).bind
  apply ReadsBack.skip (refuse (not_not.mpr rfl))
  apply ReadsBack.skip (lift (checkPcfPti_ok_iff.mpr inRange))
  exact (frame_readsBack fits).last

lemma decodeLvEMessage_readsOnly (msgType : UInt8) (msg : String) :
  ReadsOnly rest (decodeLvEMessage msgType msg) fun chunk head =>
    isPcfPti head.1 = true ∧ chunk = [head.1] ++ ([msgType] ++ framed head.2) := by
  apply (u8_readsOnly.bind fun pti => u8_readsOnly.bind fun found =>
    (ReadsOnly.refuse _ _).skip fun _ => (ReadsOnly.lift _).skip fun _ =>
      frame_readsOnly.last).mono
  rintro chunk head ⟨_, _, pti, rfl, rfl, _, _, found, rfl, rfl, _, same, _, inRange, contents,
    ⟨-, rfl⟩, rfl⟩
  obtain rfl := not_not.mp same
  exact ⟨checkPcfPti_ok_iff.mp inRange, rfl⟩

namespace ManageUePolicyCommand

variable {command : ManageUePolicyCommand}

structure Encodable (command : ManageUePolicyCommand) : Prop where
  pti : isPcfPti command.pti = true
  list : command.list.Encodable

def wire (command : ManageUePolicyCommand) : Bytes :=
  [command.pti] ++ ([updpMsgManageUePolicyCommand] ++ framed command.list.contents)

def Plain (octets : Bytes) : Prop := UePolicySectionManagementList.Plain (octets.drop 4)

lemma encode_ok_iff {written : Bytes} :
  command.encode = .ok written ↔ command.Encodable ∧ written = command.wire := by
  simp only [encode, bind_ok_iff, UePolicySectionManagementList.encodeLvE_ok_iff]
  constructor
  · rintro ⟨_, pti, _, ⟨list, rfl⟩, made⟩
    exact ⟨⟨checkPcfPti_ok_iff.mp pti, list⟩, ok_iff.mp made⟩
  · rintro ⟨encodable, rfl⟩
    exact ⟨(), checkPcfPti_ok_iff.mpr encodable.pti, _, ⟨encodable.list, rfl⟩, rfl⟩

lemma decode_wire (encodable : command.Encodable) (canonical : command.list.Canonical) :
  decode command.wire = .ok command := by
  have fits : command.list.contents.length < 2 ^ 16 :=
    Nat.lt_of_le_of_lt encodable.list.within (by decide)
  rw [decode, bind_ok_iff]
  refine ⟨_, whole_of_readsBack (decodeLvEMessage_readsBack encodable.pti fits _) _, ?_⟩
  rw [bind_ok_iff]
  exact ⟨_, UePolicySectionManagementList.decodeContents_wire encodable.list canonical, rfl⟩

lemma of_decode {octets : Bytes} (decodes : decode octets = .ok command) :
  command.Encodable ∧ command.wire = octets ↔ Plain octets := by
  obtain ⟨⟨pti, contents⟩, headed, rest⟩ := bind_ok_iff.mp decodes
  obtain ⟨list, decodesList, made⟩ := bind_ok_iff.mp rest
  obtain rfl := ok_iff.mp made
  obtain ⟨inRange, rfl⟩ := of_whole (decodeLvEMessage_readsOnly _ _) headed
  change _ ↔ UePolicySectionManagementList.Plain contents
  rw [← UePolicySectionManagementList.of_decodeContents decodesList]
  constructor
  · rintro ⟨encodable, same⟩
    exact ⟨encodable.list, congrArg (List.drop 4) same⟩
  · rintro ⟨list, rfl⟩
    exact ⟨⟨inRange, list⟩, rfl⟩

end ManageUePolicyCommand

namespace ManageUePolicyCommandReject

variable {reject : ManageUePolicyCommandReject}

structure Encodable (reject : ManageUePolicyCommandReject) : Prop where
  pti : isPcfPti reject.pti = true
  result : reject.result.Encodable

def wire (reject : ManageUePolicyCommandReject) : Bytes :=
  [reject.pti] ++ ([updpMsgManageUePolicyCommandReject] ++ framed reject.result.contents)

def Plain (octets : Bytes) : Prop := (octets.drop 4).length ≤ maxResultLveContents

lemma encode_ok_iff {written : Bytes} :
  reject.encode = .ok written ↔ reject.Encodable ∧ written = reject.wire := by
  simp only [encode, bind_ok_iff, UePolicySectionManagementResult.encodeContents_ok_iff,
    pushU16Len_eq_ok]
  constructor
  · rintro ⟨_, pti, _, ⟨result, rfl⟩, _, ⟨-, rfl⟩, made⟩
    exact ⟨⟨checkPcfPti_ok_iff.mp pti, result⟩, ok_iff.mp made⟩
  · rintro ⟨encodable, rfl⟩
    have fits : reject.result.contents.length < 2 ^ 16 :=
      Nat.lt_of_le_of_lt encodable.result.within (by decide)
    exact ⟨(), checkPcfPti_ok_iff.mpr encodable.pti, _, ⟨encodable.result, rfl⟩, _,
      ⟨fits, rfl⟩, rfl⟩

lemma decode_wire (encodable : reject.Encodable) (canonical : reject.result.Canonical) :
  decode reject.wire = .ok reject := by
  have fits : reject.result.contents.length < 2 ^ 16 :=
    Nat.lt_of_le_of_lt encodable.result.within (by decide)
  rw [decode, bind_ok_iff]
  refine ⟨_, whole_of_readsBack (decodeLvEMessage_readsBack encodable.pti fits _) _, ?_⟩
  rw [bind_ok_iff]
  exact ⟨_, UePolicySectionManagementResult.decodeContents_wire encodable.result canonical, rfl⟩

lemma of_decode {octets : Bytes} (decodes : decode octets = .ok reject) :
  reject.Encodable ∧ reject.wire = octets ↔ Plain octets := by
  obtain ⟨⟨pti, contents⟩, headed, rest⟩ := bind_ok_iff.mp decodes
  obtain ⟨result, decodesResult, made⟩ := bind_ok_iff.mp rest
  obtain rfl := ok_iff.mp made
  obtain ⟨inRange, rfl⟩ := of_whole (decodeLvEMessage_readsOnly _ _) headed
  change _ ↔ contents.length ≤ maxResultLveContents
  rw [← UePolicySectionManagementResult.of_decodeContents decodesResult]
  constructor
  · rintro ⟨encodable, same⟩
    exact ⟨encodable.result, congrArg (List.drop 4) same⟩
  · rintro ⟨result, rfl⟩
    exact ⟨⟨inRange, result⟩, rfl⟩

end ManageUePolicyCommandReject

namespace UeStateIndication

variable {indication : UeStateIndication}

structure Encodable (indication : UeStateIndication) : Prop where
  pti : indication.pti ≤ uePtiMax
  osIds : indication.osIds.length ≤ 15
  upsiList : indication.upsiList.Encodable

def behind (indication : UeStateIndication) : Bytes :=
  indication.classmark.encodeLv ++ osIdOctets indication.osIds

def wire (indication : UeStateIndication) : Bytes :=
  [indication.pti] ++ ([updpMsgUeStateIndication] ++
    (framed indication.upsiList.contents ++ indication.behind))

def Plain (octets : Bytes) : Prop :=
  (frontFrame (octets.drop 2)).length ≤ maxUpsiLveContents ∧
    (afterFrame (octets.drop 2)).head? = some 1

lemma encode_ok_iff {written : Bytes} :
  indication.encode = .ok written ↔ indication.Encodable ∧ written = indication.wire := by
  have wire_eq : indication.wire = [indication.pti] ++ [updpMsgUeStateIndication] ++
      toBeBytes (UInt16.ofNat indication.upsiList.contents.length) ++
      indication.upsiList.contents ++ indication.classmark.encodeLv ++
      osIdOctets indication.osIds := by
    simp only [wire, behind, framed, List.append_assoc]
  rw [encode, refuse_ok_iff, refuse_ok_iff, UInt8.not_lt, Nat.not_lt, wire_eq]
  simp only [bind_ok_iff, UpsiList.encodeContents_ok_iff, pushU16Len_eq_ok]
  constructor
  · rintro ⟨pti, osIds, _, ⟨upsiList, rfl⟩, _, ⟨-, rfl⟩, made⟩
    exact ⟨⟨pti, osIds, upsiList⟩, ok_iff.mp made⟩
  · rintro ⟨⟨pti, osIds, upsiList⟩, rfl⟩
    have fits : indication.upsiList.contents.length < 2 ^ 16 :=
      Nat.lt_of_le_of_lt upsiList.within (by decide)
    exact ⟨pti, osIds, _, ⟨upsiList, rfl⟩, _, ⟨fits, rfl⟩, rfl⟩

lemma decodeOsIds_readsToEnd {osIds : List (Vector UInt8 16)} (few : osIds.length ≤ 15) :
  ReadsToEnd rest decodeOsIds (osIdOctets osIds) osIds := by
  intro reader whole
  have left : reader.remaining = (osIdOctets osIds).length := by rw [remaining_eq, whole]
  by_cases none : osIds = []
  · subst none
    have done : ¬ 0 < reader.remaining := Nat.not_lt_of_le (Nat.le_of_eq left)
    refine ⟨reader, ?_, whole⟩
    rw [decodeOsIds, if_neg done]
  · have positive := List.length_pos_of_ne_nil none
    have element : osIdOctets osIds =
        [ieiUeOsId] ++ ([UInt8.ofNat (16 * osIds.length)] ++ osIds.flatMap Vector.toList) := by
      rw [osIdOctets, if_neg (by rwa [List.isEmpty_iff]), List.append_assoc]
    have length : (UInt8.ofNat (16 * osIds.length)).toNat = 16 * osIds.length :=
      UInt8.toNat_ofNat_of_lt' (Nat.lt_of_le_of_lt (Nat.mul_le_mul_left 16 few) (by decide))
    have more : 0 < reader.remaining := by
      rw [left, element]
      exact Nat.succ_pos _
    rw [decodeOsIds, if_pos more]
    rw [element] at whole
    apply of_readsBack _ reader whole
    apply (u8_readsBack ieiUeOsId).bind
    apply ReadsBack.skip (refuse (not_not.mpr rfl))
    apply (u8_readsBack _).bind
    apply ReadsBack.skip
    · apply ReadsBack.refuse
      rw [← UInt8.toNat_inj, length]
      change ¬ (16 * osIds.length = 0 ∨ _)
      omega
    · rw [length, Nat.mul_div_cancel_left _ (by decide)]
      exact timesEach fun osId _ => takeArray_readsBack osId

lemma decodeOsIds_readsOnly : ReadsOnly rest decodeOsIds fun chunk osIds =>
  osIds.length ≤ 15 ∧ chunk = osIdOctets osIds := by
  intro reader osIds next answer
  unfold decodeOsIds at answer
  split at answer
  case isFalse =>
    obtain ⟨rfl, rfl⟩ := Prod.mk.injEq _ _ _ _ ▸ Except.ok.inj answer
    exact ⟨[], rfl, Nat.zero_le _, rfl⟩
  case isTrue =>
    have array : ReadsOnly rest (takeArray 16) fun chunk osId => True ∧ chunk = osId.toList :=
      (takeArray_readsOnly 16).mono fun _ _ same => ⟨trivial, same⟩
    obtain ⟨_, front, _, _, iei, rfl, rfl, _, same, _, _, length, rfl, rfl, _, accepted, counted,
        -, rfl⟩ :=
      (u8_readsOnly.bind fun iei => (ReadsOnly.refuse _ _).skip fun _ => u8_readsOnly.bind
        fun length => (ReadsOnly.refuse _ _).skip fun _ =>
          ReadsOnly.timesEach array (length.toNat / 16)) reader osIds next answer
    rw [← UInt8.toNat_inj] at accepted
    change ¬ (length.toNat = 0 ∨ _ ∨ 240 < length.toNat) at accepted
    have number : 16 * osIds.length = length.toNat := by omega
    have some' : ¬ osIds.isEmpty = true := by
      rw [List.isEmpty_iff]
      rintro rfl
      exact accepted (.inl number.symm)
    refine ⟨_, front, by omega, ?_⟩
    rw [osIdOctets, if_neg some', number, UInt8.ofNat_toNat, not_not.mp same]
    rfl

lemma decodeBody_readsToEnd (encodable : indication.Encodable)
  (canonical : indication.upsiList.Canonical) :
  ReadsToEnd rest decodeBody indication.wire indication := by
  have fits : indication.upsiList.contents.length < 2 ^ 16 :=
    Nat.lt_of_le_of_lt encodable.upsiList.within (by decide)
  apply ReadsToEnd.bind (u8_readsBack indication.pti)
  apply ReadsToEnd.bind (u8_readsBack updpMsgUeStateIndication)
  apply ReadsToEnd.bind (refuse (not_not.mpr rfl))
  apply ReadsToEnd.bind (refuse (UInt8.not_lt.mpr encodable.pti))
  apply ReadsToEnd.bind (frame_readsBack fits)
  apply ReadsToEnd.bind (lift (UpsiList.decodeContents_wire encodable.upsiList canonical))
  apply ReadsToEnd.bind (UePolicyClassmark.decodeLv_readsBack indication.classmark)
  exact (decodeOsIds_readsToEnd encodable.osIds).last

lemma decode_wire (encodable : indication.Encodable) (canonical : indication.upsiList.Canonical) :
  decode indication.wire = .ok indication :=
  whole_of_readsToEnd (decodeBody_readsToEnd encodable canonical) _

lemma decodeBody_readsOnly : ReadsOnly rest decodeBody fun chunk indication =>
  indication.pti ≤ uePtiMax ∧ indication.osIds.length ≤ 15 ∧
    ∃ upsi contents, upsi.length < 2 ^ 16 ∧
      UpsiList.decodeContents upsi = .ok indication.upsiList ∧ contents.length < 2 ^ 8 ∧
      (contents.length = 1 → shortFramed contents = indication.classmark.encodeLv) ∧
      chunk = [indication.pti] ++ ([updpMsgUeStateIndication] ++
        (framed upsi ++ (shortFramed contents ++ osIdOctets indication.osIds))) := by
  apply (u8_readsOnly.bind fun pti => u8_readsOnly.bind fun msgType =>
    (ReadsOnly.refuse _ _).skip fun _ => (ReadsOnly.refuse _ _).skip fun _ =>
      frame_readsOnly.bind fun upsi => (ReadsOnly.lift _).skip fun upsiList =>
        UePolicyClassmark.decodeLv_readsOnly.bind fun classmark =>
          decodeOsIds_readsOnly.last).mono
  rintro chunk indication ⟨_, _, pti, rfl, rfl, _, _, msgType, rfl, rfl, _, same, _, inRange, _, _,
    upsi, rfl, ⟨fits, rfl⟩, upsiList, decodes, _, _, classmark, rfl,
    ⟨contents, -, rfl, counted, single⟩, osIds, ⟨few, rfl⟩, rfl⟩
  obtain rfl := not_not.mp same
  exact ⟨UInt8.not_lt.mp inRange, few, upsi, contents, fits, decodes, counted, single, rfl⟩

lemma of_decode {octets : Bytes} (decodes : decode octets = .ok indication) :
  indication.Encodable ∧ indication.wire = octets ↔ Plain octets := by
  obtain ⟨inRange, few, upsi, contents, fits, decodesList, counted, single, rfl⟩ :=
    of_whole decodeBody_readsOnly decodes
  have strict := UpsiList.of_decodeContents decodesList
  constructor
  · rintro ⟨encodable, same⟩
    have within := encodable.upsiList.within
    have upsiFits : indication.upsiList.contents.length < 2 ^ 16 :=
      Nat.lt_of_le_of_lt within (by decide)
    have front : frontFrame (indication.wire.drop 2) = indication.upsiList.contents :=
      frontFrame_framed upsiFits _
    have after : afterFrame (indication.wire.drop 2) = indication.behind :=
      afterFrame_framed upsiFits _
    rw [← same, Plain, front, after]
    exact ⟨within, rfl⟩
  · intro plain
    have front : frontFrame (framed upsi ++ (shortFramed contents ++
        osIdOctets indication.osIds)) = upsi := frontFrame_framed fits _
    have after : afterFrame (framed upsi ++ (shortFramed contents ++
        osIdOctets indication.osIds)) = shortFramed contents ++ osIdOctets indication.osIds :=
      afterFrame_framed fits _
    change (frontFrame (framed upsi ++ _)).length ≤ _ ∧
      (afterFrame (framed upsi ++ _)).head? = _ at plain
    rw [front, after] at plain
    obtain ⟨encodable, rfl⟩ := strict.mpr plain.1
    have one : UInt8.ofNat contents.length = 1 := Option.some.inj plain.2
    rw [← UInt8.toNat_inj, UInt8.toNat_ofNat_of_lt' counted] at one
    refine ⟨⟨inRange, few, encodable⟩, ?_⟩
    rw [single one]
    rfl

end UeStateIndication

/-- The two directions of a codec at a value and at its wire form: what is encoded
is decoded as the value, and what is decoded as it is encodable and encodes as the
same wire form exactly if that is plain. -/
structure StrictAt {Wire Value : Type} (encode : Value → Except NasError Wire)
  (decode : Wire → Except NasError Value) (Canonical Encodable : Value → Prop)
  (Plain : Wire → Prop) (value : Value) (wire : Wire) : Prop where
  decodesBack : Canonical value → encode value = .ok wire → decode wire = .ok value
  encodesBack : decode wire = .ok value → (Encodable value ∧ encode value = .ok wire ↔ Plain wire)

lemma StrictAt.of_wire {Value : Type} {encode : Value → Except NasError Bytes}
  {decode : Bytes → Except NasError Value} {Canonical Encodable : Value → Prop}
  {Plain : Bytes → Prop} {toWire : Value → Bytes} {value : Value} {octets : Bytes}
  (encode_ok_iff : encode value = .ok octets ↔ Encodable value ∧ octets = toWire value)
  (decode_wire : Encodable value → Canonical value → decode (toWire value) = .ok value)
  (of_decode : decode octets = .ok value →
    (Encodable value ∧ toWire value = octets ↔ Plain octets)) :
  StrictAt encode decode Canonical Encodable Plain value octets where
  decodesBack canonical encodes := by
    obtain ⟨encodable, rfl⟩ := encode_ok_iff.mp encodes
    exact decode_wire encodable canonical
  encodesBack decodes := by
    rw [← of_decode decodes, encode_ok_iff]
    constructor
    · rintro ⟨-, encodable, same⟩
      exact ⟨encodable, same.symm⟩
    · rintro ⟨encodable, same⟩
      exact ⟨encodable, encodable, same.symm⟩

lemma UePolicyPart.ursp_ok_iff :
  UePolicyPart.ursp rules = .ok part ↔
    part.partType = .ursp ∧ encodeUrspRules rules = .ok part.contents := by
  rw [UePolicyPart.ursp, bind_ok_iff]
  constructor
  · rintro ⟨contents, encodes, made⟩
    obtain rfl := ok_iff.mp made
    exact ⟨rfl, encodes⟩
  · obtain ⟨partType, contents⟩ := part
    rintro ⟨rfl, encodes⟩
    exact ⟨contents, encodes, rfl⟩

lemma UePolicyPart.decodeUrsp_ok_iff :
  part.decodeUrsp = .ok rules ↔
    part.partType = .ursp ∧ decodeUrspRules part.contents = .ok rules := by
  rw [UePolicyPart.decodeUrsp, refuse_ok_iff, not_not]

lemma rules_strictAt (rules : List UrspRule) (octets : Bytes) :
  StrictAt encodeUrspRules decodeUrspRules (fun _ => True) RulesEncodable PlainRules rules
    octets :=
  .of_wire encodeUrspRules_ok_iff (fun encodable _ => decodeUrspRules_wire encodable)
    of_decodeUrspRules

/-- The codec is strict but for octets that are not plain, in each of the messages,
in lists of rules, and in the parts that hold them. -/
theorem codec_strict_iff (command : ManageUePolicyCommand) (reject : ManageUePolicyCommandReject)
  (indication : UeStateIndication) (rules : List UrspRule) (octets : Bytes)
  (part : UePolicyPart) :
  StrictAt ManageUePolicyCommand.encode ManageUePolicyCommand.decode
      (fun command => command.list.Canonical) ManageUePolicyCommand.Encodable
      ManageUePolicyCommand.Plain command octets ∧
    StrictAt ManageUePolicyCommandReject.encode ManageUePolicyCommandReject.decode
      (fun reject => reject.result.Canonical) ManageUePolicyCommandReject.Encodable
      ManageUePolicyCommandReject.Plain reject octets ∧
    StrictAt UeStateIndication.encode UeStateIndication.decode
      (fun indication => indication.upsiList.Canonical) UeStateIndication.Encodable
      UeStateIndication.Plain indication octets ∧
    StrictAt encodeUrspRules decodeUrspRules (fun _ => True) RulesEncodable PlainRules
      rules octets ∧
    StrictAt UePolicyPart.ursp UePolicyPart.decodeUrsp (fun _ => True) RulesEncodable
      (fun part => PlainRules part.contents) rules part := by
  refine ⟨.of_wire ManageUePolicyCommand.encode_ok_iff ManageUePolicyCommand.decode_wire
      ManageUePolicyCommand.of_decode,
    .of_wire ManageUePolicyCommandReject.encode_ok_iff ManageUePolicyCommandReject.decode_wire
      ManageUePolicyCommandReject.of_decode,
    .of_wire UeStateIndication.encode_ok_iff UeStateIndication.decode_wire
      UeStateIndication.of_decode,
    rules_strictAt rules octets, ?_, ?_⟩
  · intro canonical encodes
    obtain ⟨isUrsp, encodes⟩ := UePolicyPart.ursp_ok_iff.mp encodes
    exact UePolicyPart.decodeUrsp_ok_iff.mpr
      ⟨isUrsp, (rules_strictAt rules part.contents).decodesBack canonical encodes⟩
  · intro decodes
    obtain ⟨isUrsp, decodes⟩ := UePolicyPart.decodeUrsp_ok_iff.mp decodes
    rw [← (rules_strictAt rules part.contents).encodesBack decodes, UePolicyPart.ursp_ok_iff,
      and_iff_right isUrsp]

def plainRule : UrspRule where
  precedence := 5
  trafficDescriptor := [.protocolIdentifier 6]
  routeSelectionDescriptors := [⟨1, [.preferredAccessType .threeGpp]⟩]
  ureri := none

def plainRuleOctets : Bytes :=
  [0, 14, 5, 0, 2, 0x30, 6, 0, 7, 0, 5, 1, 0, 2, 0x10, 1]

def dottedRule : UrspRule where
  precedence := 5
  trafficDescriptor := [.dnn "a.b"]
  routeSelectionDescriptors := [⟨1, [.preferredAccessType .threeGpp]⟩]
  ureri := none

def dottedRuleOctets : Bytes :=
  [0, 18, 5, 0, 6, 0x88, 4, 3, 0x61, 0x2E, 0x62, 0, 7, 0, 5, 1, 0, 2, 0x10, 1]

def bareCommand : ManageUePolicyCommand where
  pti := 0x80
  list := ⟨[⟨⟨#v[0, 0, 1], #v[0, 1, 0], 2⟩, [⟨1, [⟨.ursp, []⟩]⟩]⟩]⟩

def bareCommandOctets : Bytes :=
  [0x80, 1, 0, 12, 0, 10, 0x00, 0xF1, 0x10, 0, 5, 0, 1, 0, 1, 1]

def longIndication : UeStateIndication where
  pti := 0
  upsiList := ⟨[]⟩
  classmark := ⟨true, false, false, false⟩
  osIds := []

def longIndicationOctets : Bytes := [0, 4, 0, 0, 2, 1, 0]

/-- Two rules of one precedence, a label with a separator, a part without contents
and a classmark of two octets are decoded, and none of them is what the encoder
gives for the decoded value. -/
theorem decoders_not_strict :
  (decodeUrspRules (plainRuleOctets ++ plainRuleOctets) = .ok [plainRule, plainRule] ∧
      ¬ RulesEncodable [plainRule, plainRule]) ∧
    (decodeUrspRules dottedRuleOctets = .ok [dottedRule] ∧
      encodeUrspRules [dottedRule] ≠ .ok dottedRuleOctets) ∧
    (ManageUePolicyCommand.decode bareCommandOctets = .ok bareCommand ∧ ¬ bareCommand.Encodable) ∧
    (UeStateIndication.decode longIndicationOctets = .ok longIndication ∧
      longIndication.encode ≠ .ok longIndicationOctets) := by
  refine ⟨⟨?_, ?_⟩, ⟨?_, ?_⟩, ⟨?_, ?_⟩, ?_, ?_⟩
  · decide +kernel
  · exact fun encodable => absurd encodable.precedence (by decide)
  · decide +kernel
  · decide +kernel
  · decide +kernel
  · intro encodable
    have sublist := encodable.list.sublists _ List.mem_cons_self
    have instruction := sublist.instructions _ List.mem_cons_self
    exact (instruction.parts _ List.mem_cons_self).nonempty rfl
  · decide +kernel
  · decide +kernel

theorem codec_strict_iff_sample :
  RulesEncodable [plainRule] ∧ encodeUrspRules [plainRule] = .ok plainRuleOctets ↔
    PlainRules plainRuleOctets := by
  have strict := codec_strict_iff bareCommand ⟨0x80, ⟨[]⟩⟩ longIndication [plainRule]
    plainRuleOctets ⟨.ursp, plainRuleOctets⟩
  exact strict.2.2.2.1.encodesBack (by decide +kernel)

end NextGCore.Nas.UePolicy
