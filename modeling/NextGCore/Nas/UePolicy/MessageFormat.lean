import NextGCore.Nas.UePolicy.Message
import NextGCore.Nas.UePolicy.UrspFormat

/-!
# The format of the UE policy messages

The PLMN identities and the nested lists of the messages as strict formats.  What
is not plain in them is a part without contents.
-/

namespace NextGCore.Nas.UePolicy

open Library Reader Vector ReadsOnly ReadsToEnd
open Crypt (Bytes)

variable {plmn : PlmnId}

lemma low_nibble {high low : UInt8} (highBound : high < 16) (lowBound : low < 16) :
  (high <<< 4 ||| low) &&& 0x0F = low ∧ (high <<< 4 ||| low) >>> 4 &&& 0x0F = high := by
  have nibbles : ∀ first second : Fin 16,
      (UInt8.ofNat first <<< 4 ||| UInt8.ofNat second) &&& 0x0F = UInt8.ofNat second ∧
        (UInt8.ofNat first <<< 4 ||| UInt8.ofNat second) >>> 4 &&& 0x0F = UInt8.ofNat first := by
    decide
  have found := nibbles ⟨high.toNat, highBound⟩ ⟨low.toNat, lowBound⟩
  rwa [UInt8.ofNat_toNat, UInt8.ofNat_toNat] at found

lemma octet_nibbles (octet : UInt8) :
  (octet >>> 4 &&& 0x0F) <<< 4 ||| octet &&& 0x0F = octet := by
  revert octet
  apply forall_octet
  decide +kernel

structure PlmnEncodable (plmn : PlmnId) : Prop where
  mncLen : plmn.mncLen = 2 ∨ plmn.mncLen = 3
  mcc : plmn.mcc.toList.all isBcd = true
  mnc : (plmn.mnc.toList.take plmn.mncLen.toNat).all isBcd = true

lemma encodePlmnBcd_ok_iff {written : Bytes} :
  encodePlmnBcd plmn = .ok written ↔ PlmnEncodable plmn ∧ written = (plmnWire plmn).toList := by
  rw [encodePlmnBcd, refuse_ok_iff, refuse_ok_iff, ok_iff, not_and_or, not_not, not_not,
    Bool.not_eq_true', Bool.not_eq_false, Bool.and_eq_true]
  constructor
  · rintro ⟨mncLen, ⟨mcc, mnc⟩, rfl⟩
    exact ⟨⟨mncLen, mcc, mnc⟩, rfl⟩
  · rintro ⟨⟨mncLen, mcc, mnc⟩, rfl⟩
    exact ⟨mncLen, ⟨mcc, mnc⟩, rfl⟩

lemma get_three (first second third : UInt8) :
  #v[first, second, third].get 0 = first ∧ #v[first, second, third].get 1 = second ∧
    #v[first, second, third].get 2 = third :=
  ⟨rfl, rfl, rfl⟩

lemma get_two (first second : UInt8) :
  #v[first, second].get 0 = first ∧ #v[first, second].get 1 = second :=
  ⟨rfl, rfl⟩

lemma exists_three (array : Vector UInt8 3) :
  ∃ first second third, array = #v[first, second, third] := by
  obtain ⟨⟨octets⟩, size⟩ := array
  obtain ⟨first, second, third, rfl⟩ := List.length_eq_three.mp size
  exact ⟨first, second, third, rfl⟩

lemma isBcd_lt {digit : UInt8} (bcd : isBcd digit = true) : digit < 16 :=
  Nat.lt_of_le_of_lt (of_decide_eq_true bcd) (by decide)

lemma decodePlmnBcd_wire (encodable : PlmnEncodable plmn) (canonical : plmn.Canonical) :
  decodePlmnBcd (plmnWire plmn) = .ok plmn := by
  obtain ⟨mcc, mnc, mncLen⟩ := plmn
  obtain ⟨mcc1, mcc2, mcc3, rfl⟩ := exists_three mcc
  obtain ⟨mnc1, mnc2, mnc3, rfl⟩ := exists_three mnc
  obtain ⟨length, mccDigits, mncDigits⟩ := encodable
  change (isBcd mcc1 && (isBcd mcc2 && (isBcd mcc3 && true))) = true at mccDigits
  simp only [Bool.and_eq_true, and_true] at mccDigits
  obtain ⟨isMcc1, isMcc2, isMcc3⟩ := mccDigits
  have ofMcc12 := low_nibble (isBcd_lt isMcc2) (isBcd_lt isMcc1)
  rcases length with rfl | rfl
  · obtain rfl : mnc3 = 0 := canonical rfl
    change (isBcd mnc1 && (isBcd mnc2 && true)) = true at mncDigits
    simp only [Bool.and_eq_true, and_true] at mncDigits
    obtain ⟨isMnc1, isMnc2⟩ := mncDigits
    have ofFiller := @low_nibble 0x0F mcc3 (by decide) (isBcd_lt isMcc3)
    have ofMnc12 := low_nibble (isBcd_lt isMnc2) (isBcd_lt isMnc1)
    simp only [decodePlmnBcd, plmnWire, get_three, get_two]
    simp [ofMcc12, ofFiller, ofMnc12, isMcc1, isMcc2,
      isMcc3, isMnc1, isMnc2]
  · change (isBcd mnc1 && (isBcd mnc2 && (isBcd mnc3 && true))) = true at mncDigits
    simp only [Bool.and_eq_true, and_true] at mncDigits
    obtain ⟨isMnc1, isMnc2, isMnc3⟩ := mncDigits
    have small : mnc3 ≤ 9 := of_decide_eq_true isMnc3
    have isDigit : mnc3 ≠ 0x0F := by
      rintro rfl
      cases isMnc3
    have ofDigit := low_nibble (isBcd_lt isMnc3) (isBcd_lt isMcc3)
    have ofMnc12 := low_nibble (isBcd_lt isMnc2) (isBcd_lt isMnc1)
    simp only [decodePlmnBcd, plmnWire, get_three, get_two]
    simp [ofMcc12, ofDigit, ofMnc12, isMcc1, isMcc2,
      isMcc3, isMnc1, isMnc2, isDigit, small]

lemma of_decodePlmnBcd {octets : Vector UInt8 3} (decodes : decodePlmnBcd octets = .ok plmn) :
  PlmnEncodable plmn ∧ plmnWire plmn = octets := by
  obtain ⟨first, second, third, rfl⟩ := exists_three octets
  obtain ⟨digits, decodes⟩ := refuse_ok_iff.mp decodes
  simp only [get_three, toList_mk, List.all_cons, List.all_nil, Bool.and_true, Bool.not_and,
    Bool.or_eq_true, Bool.not_eq_true', not_or, Bool.not_eq_false] at digits
  obtain ⟨⟨isMcc1, isMcc2, isMcc3⟩, isMnc1, isMnc2⟩ := digits
  by_cases filler : second >>> 4 &&& 0x0F = 0x0F
  · obtain rfl := ok_iff.mp ((if_pos filler).symm.trans decodes)
    refine ⟨⟨.inl rfl, ?_, ?_⟩, ?_⟩
    · simp only [get_three]
      simp [isMcc1, isMcc2, isMcc3]
    · simp only [get_three, get_two]
      simp [isMnc1, isMnc2]
    · have last := octet_nibbles second
      rw [filler] at last
      simp only [plmnWire, get_three, get_two]
      simp [last, octet_nibbles]
  · have decodes := (if_neg filler).symm.trans decodes
    by_cases digit : second >>> 4 &&& 0x0F ≤ 9
    · obtain rfl := ok_iff.mp ((if_pos digit).symm.trans decodes)
      refine ⟨⟨.inr rfl, ?_, ?_⟩, ?_⟩
      · simp only [get_three]
        simp [isMcc1, isMcc2, isMcc3]
      · have isMnc3 : isBcd (second >>> 4 &&& 0x0F) = true := decide_eq_true digit
        simp only [get_three, get_two]
        simp [isMnc1, isMnc2, isMnc3]
      · simp only [plmnWire, get_three, get_two]
        simp [octet_nibbles]
    · cases (if_neg digit).symm.trans decodes

lemma decodePlmn_readsBack (encodable : PlmnEncodable plmn) (canonical : plmn.Canonical) :
  ReadsBack rest decodePlmn (plmnWire plmn).toList plmn := by
  apply (takeArray_readsBack (plmnWire plmn)).bind_nil
  exact ReadsBack.lift (decodePlmnBcd_wire encodable canonical)

lemma decodePlmn_readsOnly : ReadsOnly rest decodePlmn fun chunk plmn =>
  PlmnEncodable plmn ∧ chunk = (plmnWire plmn).toList := by
  apply ((takeArray_readsOnly 3).bind fun octets => lift (decodePlmnBcd octets)).mono
  rintro chunk plmn ⟨_, _, octets, rfl, rfl, rfl, decodes⟩
  obtain ⟨encodable, rfl⟩ := of_decodePlmnBcd decodes
  exact ⟨encodable, List.append_nil _⟩

namespace UePolicyPart

def wire (part : UePolicyPart) : Bytes := framed ([part.partType.value] ++ part.contents)

structure Encodable (part : UePolicyPart) : Prop where
  nonempty : part.contents ≠ []
  fits : 1 + part.contents.length < 2 ^ 16

def Plain (chunk : Bytes) : Prop := chunk.length ≠ 3

lemma value_bits (partType : UePolicyPartType) : partType.value &&& 0xF0 = 0 ∧
    UePolicyPartType.fromBits (partType.value &&& 0x0F) = .ok partType := by
  cases partType <;> decide

lemma of_fromBits (octet : UInt8) (partType : UePolicyPartType) : octet &&& 0xF0 = 0 →
  UePolicyPartType.fromBits (octet &&& 0x0F) = .ok partType → octet = partType.value := by
  revert octet
  cases partType
  all_goals
    apply forall_octet
    decide +kernel

lemma encodeInto_writes : Writes encodeInto Encodable wire := by
  intro part out written
  rw [encodeInto, refuse_ok_iff, bind_ok_iff, List.isEmpty_iff]
  simp only [pushU16Len_eq_ok]
  have wire_eq : out ++ part.wire = out ++ toBeBytes (UInt16.ofNat (1 + part.contents.length)) ++
      [part.partType.value] ++ part.contents := by
    rw [wire, framed, List.length_append, List.length_singleton]
    simp only [List.append_assoc]
  rw [wire_eq]
  constructor
  · rintro ⟨nonempty, _, ⟨fits, rfl⟩, made⟩
    exact ⟨⟨nonempty, fits⟩, ok_iff.mp made⟩
  · rintro ⟨⟨nonempty, fits⟩, rfl⟩
    exact ⟨nonempty, _, ⟨fits, rfl⟩, rfl⟩

lemma takeAll_readsToEnd (octets : Bytes) : ReadsToEnd rest takeAll octets octets := by
  intro reader whole
  have left : reader.remaining = octets.length := by rw [remaining_eq, whole]
  obtain ⟨next, answer, done⟩ := take_readsBack octets reader [] (by rw [whole, List.append_nil])
  refine ⟨next, ?_, done⟩
  rw [takeAll, left]
  exact answer

lemma takeAll_readsOnly : ReadsOnly rest takeAll fun chunk octets => chunk = octets := by
  intro reader octets next answer
  obtain ⟨chunk, front, rfl, -⟩ := take_readsOnly reader.remaining reader octets next answer
  exact ⟨chunk, front, rfl⟩

lemma decodeBody_readsToEnd (part : UePolicyPart) :
  ReadsToEnd rest decodeBody ([part.partType.value] ++ part.contents) part := by
  obtain ⟨spare, bits⟩ := value_bits part.partType
  apply ReadsToEnd.bind (u8_readsBack part.partType.value)
  apply ReadsToEnd.bind (ReadsBack.refuse (not_not.mpr spare))
  apply ReadsToEnd.bind (ReadsBack.lift bits)
  exact (takeAll_readsToEnd part.contents).last

lemma decodeBody_readsOnly : ReadsOnly rest decodeBody fun chunk part =>
  chunk = [part.partType.value] ++ part.contents := by
  apply (u8_readsOnly.bind fun typeOctet => (ReadsOnly.refuse _ _).skip fun _ =>
    (lift _).skip fun partType => takeAll_readsOnly.last).mono
  rintro chunk part ⟨_, _, typeOctet, rfl, rfl, _, spare, partType, bits, contents, rfl, rfl⟩
  rw [of_fromBits typeOctet partType (not_not.mp spare) bits]

lemma decodeOne_readsBack {part : UePolicyPart} (encodable : part.Encodable) :
  ReadsBack rest decodeOne part.wire part := by
  have fits : ([part.partType.value] ++ part.contents).length < 2 ^ 16 := by
    rw [List.length_append]
    exact encodable.fits
  apply checkedScope_readsBack fits
  · rw [← UInt16.toNat_inj, UInt16.toNat_ofNat_of_lt' fits]
    exact Nat.succ_ne_zero _
  · exact whole_of_readsToEnd (decodeBody_readsToEnd part) _

lemma decodeOne_readsOnly : ReadsOnly rest decodeOne fun chunk part =>
  Sized frameSize chunk ∧ (Plain chunk → part.Encodable ∧ part.wire = chunk) := by
  apply checkedScope_readsOnly.mono
  rintro chunk part ⟨body, fits, -, rfl, decodes⟩
  obtain rfl := of_whole decodeBody_readsOnly decodes
  refine ⟨framed_sized fits, fun plain => ⟨⟨?_, ?_⟩, rfl⟩⟩
  · intro empty
    rw [Plain, empty] at plain
    exact plain rfl
  · rwa [List.length_append] at fits

lemma wire_plain {part : UePolicyPart} (encodable : part.Encodable) : Plain part.wire := by
  have positive := List.length_pos_of_ne_nil encodable.nonempty
  rw [Plain, wire, length_framed, List.length_append, List.length_singleton]
  omega

end UePolicyPart

def partFormat : StrictFormat rest NasError UePolicyPart where
  write := UePolicyPart.encodeInto
  read := UePolicyPart.decodeOne
  Encodable := UePolicyPart.Encodable
  Canonical _ := True
  wire := UePolicyPart.wire
  size := frameSize
  Plain := UePolicyPart.Plain
  writes := UePolicyPart.encodeInto_writes
  sized _ encodable :=
    (UePolicyPart.decodeOne_readsOnly.of_readsBack (rest_new _)
      (UePolicyPart.decodeOne_readsBack encodable)).1
  plain _ := UePolicyPart.wire_plain
  readsBack _ encodable _ := UePolicyPart.decodeOne_readsBack encodable
  readsOnly := UePolicyPart.decodeOne_readsOnly

namespace Instruction

variable (instruction : Instruction)

def partsWire : Bytes := instruction.parts.flatMap UePolicyPart.wire

def wire : Bytes :=
  framed (toBeBytes instruction.upsc ++ instruction.partsWire)

structure Encodable (instruction : Instruction) : Prop where
  parts : ∀ part ∈ instruction.parts, part.Encodable
  fits : 2 + instruction.partsWire.length < 2 ^ 16

def Plain (chunk : Bytes) : Prop := partFormat.EachPlain (chunk.drop 4)

lemma length_body : (toBeBytes instruction.upsc ++ instruction.partsWire).length =
    2 + instruction.partsWire.length := by
  rw [List.length_append]
  rfl

lemma encodeInto_writes : Writes encodeInto Encodable wire := by
  intro instruction out written
  have wire_eq : out ++ instruction.wire =
      out ++ toBeBytes (UInt16.ofNat (2 + instruction.partsWire.length)) ++
        toBeBytes instruction.upsc ++ instruction.partsWire := by
    rw [wire, framed, length_body]
    simp only [List.append_assoc]
  rw [wire_eq]
  simp only [encodeInto, bind_ok_iff, pushU16Len_eq_ok]
  constructor
  · rintro ⟨_, wrote, _, ⟨fits, rfl⟩, made⟩
    obtain ⟨parts, rfl⟩ := partFormat.writes_each.mp wrote
    exact ⟨⟨parts, fits⟩, ok_iff.mp made⟩
  · rintro ⟨⟨parts, fits⟩, rfl⟩
    exact ⟨instruction.partsWire, partFormat.writes_each.mpr ⟨parts, rfl⟩, _, ⟨fits, rfl⟩, rfl⟩

lemma decodeOne_readsBack {instruction : Instruction} (encodable : instruction.Encodable) :
  ReadsBack rest decodeOne instruction.wire instruction := by
  have body : ReadsToEnd rest decodeBody (toBeBytes instruction.upsc ++ instruction.partsWire)
      instruction := by
    apply ReadsToEnd.bind (u16_readsBack instruction.upsc)
    exact (partFormat.readsBack_each encodable.parts fun _ _ => trivial).last
  apply scope_readsBack
  · rw [length_body]
    exact encodable.fits
  · exact whole_of_readsToEnd body _

lemma decodeOne_readsOnly : ReadsOnly rest decodeOne fun chunk instruction =>
  Sized frameSize chunk ∧ (Plain chunk → instruction.Encodable ∧ instruction.wire = chunk) := by
  apply scope_readsOnly.mono
  rintro chunk instruction ⟨body, fits, rfl, decodes⟩
  obtain ⟨_, parts, upsc, rfl, rfl, values, ofParts, rfl⟩ :=
    of_whole (u16_readsOnly.bind fun upsc => partFormat.readsOnly_each.last) decodes
  refine ⟨framed_sized fits, fun plain => ?_⟩
  obtain ⟨each, rfl⟩ := ofParts plain
  exact ⟨⟨each, (length_body ⟨upsc, values⟩).symm.trans_lt fits⟩, rfl⟩

lemma wire_plain {instruction : Instruction} (encodable : instruction.Encodable) :
  Plain instruction.wire :=
  partFormat.eachPlain_wire encodable.parts

end Instruction

def instructionFormat : StrictFormat rest NasError Instruction where
  write := Instruction.encodeInto
  read := Instruction.decodeOne
  Encodable := Instruction.Encodable
  Canonical _ := True
  wire := Instruction.wire
  size := frameSize
  Plain := Instruction.Plain
  writes := Instruction.encodeInto_writes
  sized _ encodable :=
    (Instruction.decodeOne_readsOnly.of_readsBack (rest_new _)
      (Instruction.decodeOne_readsBack encodable)).1
  plain _ := Instruction.wire_plain
  readsBack _ encodable _ := Instruction.decodeOne_readsBack encodable
  readsOnly := Instruction.decodeOne_readsOnly

namespace PlmnSublist

variable (sublist : PlmnSublist)

def instructionsWire : Bytes :=
  sublist.instructions.flatMap Instruction.wire

def wire : Bytes :=
  framed ((plmnWire sublist.plmnId).toList ++ sublist.instructionsWire)

structure Encodable (sublist : PlmnSublist) : Prop where
  nonempty : sublist.instructions ≠ []
  plmnId : PlmnEncodable sublist.plmnId
  instructions : ∀ instruction ∈ sublist.instructions, instruction.Encodable
  fits : 3 + sublist.instructionsWire.length < 2 ^ 16

def Plain (chunk : Bytes) : Prop := instructionFormat.EachPlain (chunk.drop 5)

lemma length_body : ((plmnWire sublist.plmnId).toList ++ sublist.instructionsWire).length =
    3 + sublist.instructionsWire.length := by
  rw [List.length_append, length_toList]

lemma encodeInto_writes : Writes encodeInto Encodable wire := by
  intro sublist out written
  have wire_eq : out ++ sublist.wire =
      out ++ toBeBytes (UInt16.ofNat (3 + sublist.instructionsWire.length)) ++
        (plmnWire sublist.plmnId).toList ++ sublist.instructionsWire := by
    rw [wire, framed, length_body]
    simp only [List.append_assoc]
  rw [wire_eq, encodeInto, refuse_ok_iff, List.isEmpty_iff]
  simp only [bind_ok_iff, pushU16Len_eq_ok, encodePlmnBcd_ok_iff]
  constructor
  · rintro ⟨nonempty, _, ⟨plmnId, rfl⟩, _, wrote, _, ⟨fits, rfl⟩, made⟩
    obtain ⟨instructions, rfl⟩ := instructionFormat.writes_each.mp wrote
    exact ⟨⟨nonempty, plmnId, instructions, fits⟩, ok_iff.mp made⟩
  · rintro ⟨⟨nonempty, plmnId, instructions, fits⟩, rfl⟩
    exact ⟨nonempty, _, ⟨plmnId, rfl⟩, sublist.instructionsWire,
      instructionFormat.writes_each.mpr ⟨instructions, rfl⟩, _, ⟨fits, rfl⟩, rfl⟩

lemma decodeOne_readsBack {sublist : PlmnSublist} (encodable : sublist.Encodable)
  (canonical : sublist.plmnId.Canonical) : ReadsBack rest decodeOne sublist.wire sublist := by
  have body : ReadsToEnd rest decodeBody
      ((plmnWire sublist.plmnId).toList ++ sublist.instructionsWire) sublist := by
    apply ReadsToEnd.bind (decodePlmn_readsBack encodable.plmnId canonical)
    exact (instructionFormat.readsBack_each encodable.instructions fun _ _ => trivial).last
  have fits : ((plmnWire sublist.plmnId).toList ++ sublist.instructionsWire).length < 2 ^ 16 := by
    rw [length_body]
    exact encodable.fits
  apply (frame_readsBack fits).bind_nil
  apply ReadsBack.skip (ReadsBack.lift (whole_of_readsToEnd body _))
  apply ReadsBack.skip (ReadsBack.refuse _)
  · exact ReadsBack.pure sublist
  · rw [List.isEmpty_iff]
    exact encodable.nonempty

lemma decodeOne_readsOnly : ReadsOnly rest decodeOne fun chunk sublist =>
  Sized frameSize chunk ∧ (Plain chunk → sublist.Encodable ∧ sublist.wire = chunk) := by
  apply (frame_readsOnly.bind fun body => (lift _).skip fun sublist =>
    (ReadsOnly.refuse _ _).skip fun _ => ReadsOnly.pure sublist).mono
  rintro chunk sublist ⟨_, _, body, rfl, ⟨fits, rfl⟩, sublist, decodes, _, nonempty, rfl, rfl⟩
  obtain ⟨_, instructions, plmnId, rfl, ⟨plmn, rfl⟩, values, ofInstructions, rfl⟩ :=
    of_whole (decodePlmn_readsOnly.bind fun plmnId => instructionFormat.readsOnly_each.last)
      decodes
  rw [List.isEmpty_iff] at nonempty
  rw [List.append_nil]
  refine ⟨framed_sized fits, fun plain => ?_⟩
  have behind : (framed ((plmnWire plmnId).toList ++ instructions)).drop 5 = instructions :=
    List.drop_left' length_toList
  rw [Plain, behind] at plain
  obtain ⟨each, rfl⟩ := ofInstructions plain
  exact ⟨⟨nonempty, plmn, each, (length_body ⟨plmnId, values⟩).symm.trans_lt fits⟩, rfl⟩

lemma wire_plain {sublist : PlmnSublist} (encodable : sublist.Encodable) :
  Plain sublist.wire := by
  have behind : sublist.wire.drop 5 = sublist.instructionsWire :=
    List.drop_left' length_toList
  rw [Plain, behind]
  exact instructionFormat.eachPlain_wire encodable.instructions

end PlmnSublist

def sublistFormat : StrictFormat rest NasError PlmnSublist where
  write := PlmnSublist.encodeInto
  read := PlmnSublist.decodeOne
  Encodable := PlmnSublist.Encodable
  Canonical sublist := sublist.plmnId.Canonical
  wire := PlmnSublist.wire
  size := frameSize
  Plain := PlmnSublist.Plain
  writes := PlmnSublist.encodeInto_writes
  sized sublist encodable := framed_sized (sublist.length_body ▸ encodable.fits)
  plain _ := PlmnSublist.wire_plain
  readsBack _ := PlmnSublist.decodeOne_readsBack
  readsOnly := PlmnSublist.decodeOne_readsOnly

namespace UePolicyResult

lemma decodeOne_readsBack (result : UePolicyResult) :
  ReadsBack rest decodeOne result.wire result := by
  rw [wire, List.append_assoc]
  apply (u16_readsBack result.upsc).bind
  apply (u16_readsBack result.failedInstructionOrder).bind
  exact (u8_readsBack result.cause).last

lemma decodeOne_readsOnly : ReadsOnly rest decodeOne fun chunk result =>
  True ∧ chunk = result.wire := by
  apply (u16_readsOnly.bind fun upsc => u16_readsOnly.bind fun order => u8_readsOnly.last).mono
  rintro chunk result ⟨_, _, upsc, rfl, rfl, _, _, order, rfl, rfl, cause, rfl, rfl⟩
  exact ⟨trivial, rfl⟩

end UePolicyResult

namespace UePolicySectionManagementSubresult

def wire (subresult : UePolicySectionManagementSubresult) : Bytes :=
  UInt8.ofNat subresult.results.length :: ((plmnWire subresult.plmnId).toList ++
    subresult.results.flatMap UePolicyResult.wire)

structure Encodable (subresult : UePolicySectionManagementSubresult) : Prop where
  nonempty : subresult.results ≠ []
  counted : subresult.results.length < 2 ^ 8
  plmnId : PlmnEncodable subresult.plmnId

def size : Bytes → ℕ
  | [] => 0
  | count :: _ => 4 + 5 * count.toNat

lemma encodeInto_writes : Writes encodeInto Encodable wire := by
  intro subresult out written
  have wire_eq : out ++ subresult.wire =
      out ++ [UInt8.ofNat subresult.results.length] ++ (plmnWire subresult.plmnId).toList ++
        subresult.results.flatMap UePolicyResult.wire := by
    simp only [wire, List.append_assoc, List.cons_append, List.nil_append]
  rw [wire_eq, encodeInto, refuse_ok_iff, refuse_ok_iff, List.isEmpty_iff, Nat.not_le]
  simp only [bind_ok_iff, encodePlmnBcd_ok_iff]
  constructor
  · rintro ⟨nonempty, counted, _, ⟨plmnId, rfl⟩, made⟩
    exact ⟨⟨nonempty, counted, plmnId⟩, ok_iff.mp made⟩
  · rintro ⟨⟨nonempty, counted, plmnId⟩, rfl⟩
    exact ⟨nonempty, counted, _, ⟨plmnId, rfl⟩, rfl⟩

lemma length_results (results : List UePolicyResult) :
  (results.flatMap UePolicyResult.wire).length = 5 * results.length := by
  induction results with
  | nil => rfl
  | cons result results ih =>
    rw [List.flatMap_cons, List.length_append, ih, List.length_cons]
    change 5 + _ = _
    omega

lemma wire_sized {subresult : UePolicySectionManagementSubresult}
  (counted : subresult.results.length < 2 ^ 8) : Sized size subresult.wire where
  nonempty := List.cons_ne_nil _ _
  size_append tail := by
    have count : (UInt8.ofNat subresult.results.length).toNat = subresult.results.length :=
      UInt8.toNat_ofNat_of_lt' counted
    rw [wire, List.cons_append, size, count, List.length_cons, List.length_append, length_results,
      length_toList]
    omega

lemma decodeOne_readsBack {subresult : UePolicySectionManagementSubresult}
  (encodable : subresult.Encodable) (canonical : subresult.plmnId.Canonical) :
  ReadsBack rest decodeOne subresult.wire subresult := by
  have count : (UInt8.ofNat subresult.results.length).toNat = subresult.results.length :=
    UInt8.toNat_ofNat_of_lt' encodable.counted
  have positive := List.length_pos_of_ne_nil encodable.nonempty
  apply (u8_readsBack _).bind
  apply ReadsBack.skip
  · apply ReadsBack.refuse
    rw [← UInt8.toNat_inj, count]
    exact Nat.pos_iff_ne_zero.mp positive
  · apply (decodePlmn_readsBack encodable.plmnId canonical).bind
    rw [count]
    exact (ReadsBack.timesEach fun result _ => result.decodeOne_readsBack).last

lemma decodeOne_readsOnly : ReadsOnly rest decodeOne fun chunk subresult =>
  subresult.Encodable ∧ chunk = subresult.wire := by
  apply (u8_readsOnly.bind fun count => (ReadsOnly.refuse _ _).skip fun _ =>
    decodePlmn_readsOnly.bind fun plmnId =>
      (timesEach UePolicyResult.decodeOne_readsOnly count.toNat).last).mono
  rintro chunk subresult ⟨_, _, count, rfl, rfl, _, some', _, _, plmnId, rfl, ⟨plmn, rfl⟩,
    results, ⟨counted, -, rfl⟩, rfl⟩
  have bound := count.toNat_lt
  rw [← UInt8.toNat_inj, ← counted] at some'
  refine ⟨⟨List.ne_nil_of_length_pos (Nat.pos_of_ne_zero some'), counted ▸ bound, plmn⟩, ?_⟩
  rw [wire, counted, UInt8.ofNat_toNat]
  rfl

end UePolicySectionManagementSubresult

def subresultFormat : StrictFormat rest NasError UePolicySectionManagementSubresult where
  write := UePolicySectionManagementSubresult.encodeInto
  read := UePolicySectionManagementSubresult.decodeOne
  Encodable := UePolicySectionManagementSubresult.Encodable
  Canonical subresult := subresult.plmnId.Canonical
  wire := UePolicySectionManagementSubresult.wire
  size := UePolicySectionManagementSubresult.size
  Plain _ := True
  writes := UePolicySectionManagementSubresult.encodeInto_writes
  sized _ encodable := UePolicySectionManagementSubresult.wire_sized encodable.counted
  plain _ _ := trivial
  readsBack _ := UePolicySectionManagementSubresult.decodeOne_readsBack
  readsOnly := by
    apply UePolicySectionManagementSubresult.decodeOne_readsOnly.mono
    rintro chunk subresult ⟨encodable, rfl⟩
    exact ⟨UePolicySectionManagementSubresult.wire_sized encodable.counted,
      fun _ => ⟨encodable, rfl⟩⟩

namespace UpsiSublist

variable (sublist : UpsiSublist)

def body : Bytes :=
  (plmnWire sublist.plmnId).toList ++ sublist.upscs.flatMap toBeBytes

def wire : Bytes := framed sublist.body

structure Encodable (sublist : UpsiSublist) : Prop where
  nonempty : sublist.upscs ≠ []
  fits : 3 + 2 * sublist.upscs.length < 2 ^ 16
  plmnId : PlmnEncodable sublist.plmnId

lemma length_body : sublist.body.length = 3 + 2 * sublist.upscs.length := by
  have upscs (values : List UInt16) : (values.flatMap toBeBytes).length = 2 * values.length := by
    induction values with
    | nil => rfl
    | cons value values ih =>
      rw [List.flatMap_cons, List.length_append, ih, List.length_cons]
      change 2 + _ = _
      omega
  rw [body, List.length_append, length_toList, upscs]

lemma encodeInto_writes : Writes encodeInto Encodable wire := by
  intro sublist out written
  have wire_eq : out ++ sublist.wire =
      out ++ toBeBytes (UInt16.ofNat (3 + 2 * sublist.upscs.length)) ++
        (plmnWire sublist.plmnId).toList ++ sublist.upscs.flatMap toBeBytes := by
    rw [wire, framed, length_body, body]
    simp only [List.append_assoc]
  rw [wire_eq, encodeInto, refuse_ok_iff, List.isEmpty_iff]
  simp only [bind_ok_iff, pushU16Len_eq_ok, encodePlmnBcd_ok_iff]
  constructor
  · rintro ⟨nonempty, _, ⟨fits, rfl⟩, _, ⟨plmnId, rfl⟩, made⟩
    exact ⟨⟨nonempty, fits, plmnId⟩, ok_iff.mp made⟩
  · rintro ⟨⟨nonempty, fits, plmnId⟩, rfl⟩
    exact ⟨nonempty, _, ⟨fits, rfl⟩, _, ⟨plmnId, rfl⟩, rfl⟩

lemma decodeOne_readsBack {sublist : UpsiSublist} (encodable : sublist.Encodable)
  (canonical : sublist.plmnId.Canonical) : ReadsBack rest decodeOne sublist.wire sublist := by
  have positive := List.length_pos_of_ne_nil encodable.nonempty
  have fits : sublist.body.length < 2 ^ 16 := by
    rw [length_body]
    exact encodable.fits
  have reads : ReadsToEnd rest decodeBody sublist.body sublist := by
    apply ReadsToEnd.bind (decodePlmn_readsBack encodable.plmnId canonical)
    exact (ReadsBack.each (fun upsc _ => u16_readsBack upsc) fun _ _ => List.cons_ne_nil _ _).last
  apply checkedScope_readsBack fits
  · rw [UInt16.toNat_ofNat_of_lt' fits, length_body]
    omega
  · exact whole_of_readsToEnd reads _

lemma decodeOne_readsOnly : ReadsOnly rest decodeOne fun chunk sublist =>
  sublist.Encodable ∧ chunk = sublist.wire := by
  apply checkedScope_readsOnly.mono
  rintro chunk sublist ⟨body, fits, accepted, rfl, decodes⟩
  obtain ⟨_, _, plmnId, rfl, ⟨plmn, rfl⟩, upscs, ⟨-, rfl⟩, rfl⟩ :=
    of_whole (decodePlmn_readsOnly.bind fun plmnId =>
      (ReadsOnly.each (u16_readsOnly.mono fun _ _ same => ⟨trivial, same⟩)).last) decodes
  have length : ((plmnWire plmnId).toList ++ upscs.flatMap toBeBytes).length =
      3 + 2 * upscs.length := length_body ⟨plmnId, upscs⟩
  rw [UInt16.toNat_ofNat_of_lt' fits, length] at accepted
  rw [length] at fits
  have positive : 0 < upscs.length := by omega
  exact ⟨⟨List.ne_nil_of_length_pos positive, fits, plmn⟩, rfl⟩

end UpsiSublist

def upsiSublistFormat : StrictFormat rest NasError UpsiSublist where
  write := UpsiSublist.encodeInto
  read := UpsiSublist.decodeOne
  Encodable := UpsiSublist.Encodable
  Canonical sublist := sublist.plmnId.Canonical
  wire := UpsiSublist.wire
  size := frameSize
  Plain _ := True
  writes := UpsiSublist.encodeInto_writes
  sized sublist encodable := framed_sized (sublist.length_body ▸ encodable.fits)
  plain _ _ := trivial
  readsBack _ := UpsiSublist.decodeOne_readsBack
  readsOnly := by
    apply UpsiSublist.decodeOne_readsOnly.mono
    rintro chunk sublist ⟨encodable, rfl⟩
    exact ⟨framed_sized (sublist.length_body ▸ encodable.fits), fun _ => ⟨encodable, rfl⟩⟩

section Limited

variable {Value : Type} (format : StrictFormat rest NasError Value)

lemma limited_ok_iff {values : List Value} {limit : ℕ} {error : Bytes → NasError}
  {written : Bytes} :
  (do let out ← values.foldlM (fun out value => format.write value out) []
      if limit < out.length then .error (error out) else return out) = .ok written ↔
    (∀ value ∈ values, format.Encodable value) ∧
      (values.flatMap format.wire).length ≤ limit ∧ written = values.flatMap format.wire := by
  rw [bind_ok_iff]
  constructor
  · rintro ⟨out, wrote, kept⟩
    obtain ⟨encodable, rfl⟩ := format.writes_each.mp wrote
    obtain ⟨within, kept⟩ := refuse_ok_iff.mp kept
    exact ⟨encodable, Nat.not_lt.mp within, ok_iff.mp kept⟩
  · rintro ⟨encodable, within, rfl⟩
    exact ⟨_, format.writes_each.mpr ⟨encodable, rfl⟩,
      refuse_ok_iff.mpr ⟨Nat.not_lt.mpr within, rfl⟩⟩

lemma limited_strict (limit : ℕ) {octets : Bytes} {values : List Value} {scope : String}
  (decodes : whole scope octets (many format.read) = .ok values) :
  (∀ value ∈ values, format.Encodable value) ∧ (values.flatMap format.wire).length ≤ limit ∧
      values.flatMap format.wire = octets ↔
    format.EachPlain octets ∧ octets.length ≤ limit := by
  constructor
  · rintro ⟨encodable, within, rfl⟩
    exact ⟨format.eachPlain_wire encodable, within⟩
  · rintro ⟨plain, within⟩
    obtain ⟨encodable, rfl⟩ := of_whole format.readsOnly_each decodes plain
    exact ⟨encodable, within, rfl⟩

end Limited

end NextGCore.Nas.UePolicy
