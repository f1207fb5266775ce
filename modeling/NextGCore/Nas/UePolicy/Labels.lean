import NextGCore.Nas.UePolicy.Ursp

/-!
# Names as labels

What `encode_labels` and `decode_labels` do on each other's results.  The decoder
takes labels that contain the separator, and names of any length; octets without
these are plain.
-/

namespace NextGCore.Nas.UePolicy

open Library Reader List
open Crypt (Bytes)

variable {name what : String} {label : List Char} {maxTotal : ℕ} {letter : Char}
  {octets written : Bytes}

lemma forall_octet {property : UInt8 → Prop}
  (each : ∀ number : Fin 256, property (UInt8.ofNat number)) (octet : UInt8) :
  property octet := by
  have found := each ⟨octet.toNat, octet.toNat_lt⟩
  rwa [UInt8.ofNat_toNat] at found

lemma letter_octet (ascii : letter.val < 128) :
  letter.val.toUInt8 < 128 ∧ Char.ofNat letter.val.toUInt8.toNat = letter := by
  have small : letter.val.toNat < 128 := UInt32.lt_iff_toNat_lt.mp ascii
  have octet : letter.val.toUInt8.toNat = letter.toNat := by
    rw [UInt32.toNat_toUInt8]
    exact Nat.mod_eq_of_lt (by omega)
  refine ⟨UInt8.lt_iff_toNat_lt.mpr ?_, ?_⟩
  · rw [octet]
    exact small
  · rw [octet, Char.ofNat_toNat]

lemma octet_letter (octet : UInt8) : octet < 128 →
  (Char.ofNat octet.toNat).val < 128 ∧ (Char.ofNat octet.toNat).val.toUInt8 = octet ∧
    (Char.ofNat octet.toNat = '.' ↔ octet = 0x2E) := by
  revert octet
  apply forall_octet
  decide +kernel

lemma asLetters_asBytes {letters : List Char} (ascii : isAscii letters = true) :
  asLetters (asBytes letters) = letters ∧ ∀ octet ∈ asBytes letters, octet < 128 := by
  induction letters with
  | nil => exact ⟨rfl, fun _ member => by cases member⟩
  | cons letter letters ih =>
    rw [isAscii, all_cons, Bool.and_eq_true, decide_eq_true_eq] at ascii
    obtain ⟨small, same⟩ := letter_octet ascii.1
    obtain ⟨sames, smalls⟩ := ih ascii.2
    exact ⟨cons_eq_cons.mpr ⟨same, sames⟩, forall_mem_cons.mpr ⟨small, smalls⟩⟩

lemma asBytes_asLetters (ascii : ∀ octet ∈ octets, octet < 128) :
  asBytes (asLetters octets) = octets ∧ isAscii (asLetters octets) = true ∧
    ('.' ∈ asLetters octets ↔ 0x2E ∈ octets) := by
  induction octets with
  | nil => exact ⟨rfl, rfl, iff_of_false not_mem_nil not_mem_nil⟩
  | cons octet octets ih =>
    rw [forall_mem_cons] at ascii
    obtain ⟨small, same, separator⟩ := octet_letter octet ascii.1
    obtain ⟨sames, smalls, separators⟩ := ih ascii.2
    refine ⟨cons_eq_cons.mpr ⟨same, sames⟩, ?_, ?_⟩
    · exact Bool.and_eq_true_iff.mpr ⟨decide_eq_true small, smalls⟩
    · rw [asLetters, map_cons, mem_cons, mem_cons, eq_comm, separator,
        eq_comm (a := (0x2E : UInt8))]
      exact or_congr Iff.rfl separators

def labelsOf (name : String) : List (List Char) := name.toList.splitOn '.'

def labelWire (label : List Char) : Bytes := shortFramed (asBytes label)

def labelsWire (name : String) : Bytes := (labelsOf name).flatMap labelWire

def LabelEncodable (label : List Char) : Prop := label ≠ [] ∧ label.length ≤ maxLabelLen

structure NameEncodable (maxTotal : ℕ) (name : String) : Prop where
  nonempty : name.toList ≠ []
  ascii : isAscii name.toList = true
  labels : ∀ label ∈ labelsOf name, LabelEncodable label
  total : (labelsWire name).length ≤ maxTotal

def PlainName (maxTotal : ℕ) (octets : Bytes) : Prop :=
  octets.length ≤ maxTotal ∧ ∀ piece ∈ slices shortFrameSize octets, 0x2E ∉ piece.drop 1

lemma mem_splitOn {separator : Char} {text piece : List Char}
  (member : piece ∈ text.splitOn separator) (inside : letter ∈ piece) :
  letter ∈ text ∧ letter ≠ separator := by
  induction text generalizing piece with
  | nil =>
    rw [splitOn_nil, mem_singleton] at member
    rw [member] at inside
    cases inside
  | cons first text ih =>
    rw [splitOn_cons_eq_if_modifyHead] at member
    split at member
    case isTrue found =>
      rcases mem_cons.mp member with rfl | member
      · cases inside
      · obtain ⟨among, apart⟩ := ih member inside
        exact ⟨mem_cons_of_mem _ among, apart⟩
    case isFalse other =>
      obtain ⟨head, others, pieces⟩ :=
        exists_cons_of_ne_nil (splitOn_ne_nil separator text)
      rw [pieces, modifyHead_cons] at member
      rcases mem_cons.mp member with rfl | member
      · rcases mem_cons.mp inside with rfl | inside
        · exact ⟨mem_cons_self, fun same => other (beq_iff_eq.mpr same)⟩
        · obtain ⟨among, apart⟩ :=
            ih (pieces ▸ mem_cons_self) inside
          exact ⟨mem_cons_of_mem _ among, apart⟩
      · obtain ⟨among, apart⟩ :=
          ih (pieces ▸ mem_cons_of_mem _ member) inside
        exact ⟨mem_cons_of_mem _ among, apart⟩

lemma isAscii_label (ascii : isAscii name.toList = true) (member : label ∈ labelsOf name) :
  isAscii label = true := by
  rw [isAscii, all_eq_true] at ascii ⊢
  intro letter inside
  exact ascii letter (mem_splitOn member inside).1

lemma encodeLabel_writes (what : String) :
  Writes (encodeLabel what) LabelEncodable labelWire := by
  intro label out written
  rw [encodeLabel, refuse_ok_iff, refuse_ok_iff, ok_iff, List.isEmpty_iff, Nat.not_lt, ← and_assoc]
  exact Iff.rfl

lemma encodeLabels_ok_iff : encodeLabels name maxTotal what = .ok written ↔
    NameEncodable maxTotal name ∧ written = labelsWire name := by
  rw [encodeLabels, refuse_ok_iff, refuse_ok_iff, bind_ok_iff, List.isEmpty_iff]
  constructor
  · rintro ⟨nonempty, ascii, out, wrote, within⟩
    obtain ⟨labels, rfl⟩ := ((encodeLabel_writes what).each _ _ _).mp wrote
    obtain ⟨total, within⟩ := refuse_ok_iff.mp within
    refine ⟨⟨nonempty, ?_, labels, Nat.not_lt.mp total⟩, ok_iff.mp within⟩
    rwa [Bool.not_eq_true', Bool.not_eq_false] at ascii
  · rintro ⟨encodable, rfl⟩
    refine ⟨encodable.nonempty, ?_, labelsWire name, ?_, ?_⟩
    · rw [encodable.ascii]
      exact Bool.false_ne_true
    · exact ((encodeLabel_writes what).each _ _ _).mpr ⟨encodable.labels, rfl⟩
    · exact refuse_ok_iff.mpr ⟨Nat.not_lt.mpr encodable.total, rfl⟩

lemma encodeName_ok_iff {finish : Bytes → Bytes} :
  (do let octets ← encodeLabels name maxTotal what return finish octets) = .ok written ↔
    NameEncodable maxTotal name ∧ written = finish (labelsWire name) := by
  rw [bind_ok_iff]
  constructor
  · rintro ⟨octets, encodes, made⟩
    obtain ⟨encodable, rfl⟩ := encodeLabels_ok_iff.mp encodes
    exact ⟨encodable, ok_iff.mp made⟩
  · rintro ⟨encodable, rfl⟩
    exact ⟨_, encodeLabels_ok_iff.mpr ⟨encodable, rfl⟩, rfl⟩

lemma length_asBytes (letters : List Char) : (asBytes letters).length = letters.length :=
  length_map _

lemma separator_mem (ascii : isAscii label = true) : '.' ∈ label ↔ 0x2E ∈ asBytes label := by
  obtain ⟨same, small⟩ := asLetters_asBytes ascii
  have separators := (asBytes_asLetters small).2.2
  rwa [same] at separators

lemma labelWire_sized (encodable : LabelEncodable label) :
  Sized shortFrameSize (labelWire label) := by
  apply shortFramed_sized
  rw [length_asBytes]
  exact Nat.lt_of_le_of_lt encodable.2 (by decide)

lemma decodeLabel_readsBack (encodable : LabelEncodable label) (ascii : isAscii label = true)
  (what : String) : ReadsBack rest (decodeLabel what) (labelWire label) label := by
  obtain ⟨same, small⟩ := asLetters_asBytes ascii
  have positive := length_pos_of_ne_nil encodable.1
  have bound : label.length ≤ 63 := encodable.2
  have length : (UInt8.ofNat (asBytes label).length).toNat = (asBytes label).length := by
    apply UInt8.toNat_ofNat_of_lt'
    rw [length_asBytes]
    exact Nat.lt_of_le_of_lt bound (by decide)
  apply ReadsBack.bind (u8_readsBack _)
  apply ReadsBack.skip
  · apply ReadsBack.refuse
    rw [← UInt8.toNat_inj, length, length_asBytes]
    change ¬ (label.length = 0 ∨ 63 < label.length)
    omega
  · rw [length]
    apply (take_readsBack _).bind_nil
    apply ReadsBack.skip
    · apply ReadsBack.refuse
      rintro ⟨octet, member, large⟩
      exact absurd (small octet member) (UInt8.not_lt.mpr large)
    · rw [same]
      exact ReadsBack.pure label

lemma decodeLabel_readsOnly (what : String) :
  ReadsOnly rest (decodeLabel what) fun chunk label =>
    LabelEncodable label ∧ isAscii label = true ∧ chunk = labelWire label := by
  apply (u8_readsOnly.bind fun length => (ReadsOnly.refuse _ _).skip fun _ =>
    (take_readsOnly length.toNat).bind fun octets =>
      (ReadsOnly.refuse _ _).skip fun _ => ReadsOnly.pure (asLetters octets)).mono
  rintro chunk label ⟨_, _, length, rfl, rfl, _, accepted, octets, _, _, rfl,
    ⟨rfl, counted⟩, _, small, rfl, rfl⟩
  have below : ∀ octet ∈ octets, octet < 128 := fun octet member =>
    UInt8.not_le.mp fun large => small ⟨octet, member, large⟩
  obtain ⟨same, ascii, -⟩ := asBytes_asLetters below
  have letters : (asLetters octets).length = length.toNat := (length_map _).trans counted
  rw [← UInt8.toNat_inj] at accepted
  change ¬ (length.toNat = 0 ∨ 63 < length.toNat) at accepted
  refine ⟨⟨ne_nil_of_length_pos (by omega), ?_⟩, ascii, ?_⟩
  · change (asLetters octets).length ≤ 63
    omega
  · rw [labelWire, shortFramed, same, counted, UInt8.ofNat_toNat, append_nil]
    rfl

lemma decodeLabels_wire (encodable : NameEncodable maxTotal name) (what : String) :
  decodeLabels (labelsWire name) what = .ok name := by
  have reads : ReadsToEnd rest (many (decodeLabel what)) (labelsWire name) (labelsOf name) := by
    apply ReadsBack.each
    · intro label member
      exact decodeLabel_readsBack (encodable.labels label member)
        (isAscii_label encodable.ascii member) what
    · intro label member
      exact (labelWire_sized (encodable.labels label member)).nonempty
  obtain ⟨next, answer, -⟩ := reads (.new (labelsWire name)) rfl
  have labelled : (labelsOf name).isEmpty = false :=
    isEmpty_eq_false_iff.mpr (splitOn_ne_nil _ _)
  have joined : ['.'].intercalate (labelsOf name) = name.toList := intercalate_splitOn '.'
  rw [decodeLabels, bind_ok_iff]
  refine ⟨(labelsOf name, next), answer, ?_⟩
  rw [labelled, joined, String.ofList_toList]
  rfl

lemma plainName_wire (encodable : NameEncodable maxTotal name) :
  PlainName maxTotal (labelsWire name) := by
  refine ⟨encodable.total, ?_⟩
  rw [labelsWire,
    slices_flatMap fun label member => labelWire_sized (encodable.labels label member)]
  intro piece member
  obtain ⟨label, inside, rfl⟩ := mem_map.mp member
  change 0x2E ∉ asBytes label
  rw [← separator_mem (isAscii_label encodable.ascii inside)]
  exact fun separator => (mem_splitOn inside separator).2 rfl

lemma isAscii_intercalate {labels : List (List Char)}
  (ascii : ∀ label ∈ labels, isAscii label = true) :
  isAscii (['.'].intercalate labels) = true := by
  induction labels with
  | nil => rfl
  | cons label labels ih =>
    rw [forall_mem_cons] at ascii
    cases labels with
    | nil =>
      rw [intercalate_singleton]
      exact ascii.1
    | cons second others =>
      rw [intercalate_cons_cons, isAscii, all_append, all_append,
        Bool.and_eq_true, Bool.and_eq_true]
      exact ⟨⟨ascii.1, rfl⟩, ih ascii.2⟩

lemma of_decodeLabels (decodes : decodeLabels octets what = .ok name)
  (plain : PlainName maxTotal octets) :
  NameEncodable maxTotal name ∧ labelsWire name = octets := by
  obtain ⟨⟨labels, next⟩, answer, made⟩ := bind_ok_iff.mp decodes
  obtain ⟨labelled, made⟩ := refuse_ok_iff.mp made
  obtain rfl := ok_iff.mp made
  have reads : ReadsOnly rest (decodeLabel what) fun chunk label =>
      (LabelEncodable label ∧ isAscii label = true) ∧ chunk = labelWire label :=
    (decodeLabel_readsOnly what).mono fun _ _ related => and_assoc.mpr related
  have done : next.rest = [] := by
    apply ReadsOnly.many_exhausted reads _ answer
    rintro chunk label ⟨-, rfl⟩
    exact cons_ne_nil _ _
  obtain ⟨chunk, front, each, rfl⟩ := ReadsOnly.each reads _ labels next answer
  rw [rest_new, done, append_nil] at front
  obtain ⟨total, apart⟩ := plain
  rw [front, slices_flatMap fun label member => labelWire_sized (each label member).1] at apart
  have split : labelsOf (String.ofList (['.'].intercalate labels)) = labels := by
    rw [labelsOf, String.toList_ofList]
    apply splitOn_intercalate
    · intro label member separator
      rw [separator_mem (each label member).2] at separator
      exact apart _ (mem_map_of_mem member) separator
    · exact fun none => labelled (List.isEmpty_iff.mpr none)
  have wire : labelsWire (String.ofList (['.'].intercalate labels)) = octets := by
    rw [labelsWire, split, front]
  refine ⟨⟨?_, ?_, ?_, ?_⟩, wire⟩
  · intro empty
    rw [labelsOf, empty, splitOn_nil] at split
    have found : [] ∈ labels := split ▸ mem_cons_self
    exact (each [] found).1.1 rfl
  · rw [String.toList_ofList]
    exact isAscii_intercalate fun label member => (each label member).2
  · rw [split]
    exact fun label member => (each label member).1
  · rw [wire]
    exact total

section Fields

variable {Value : Type} {finish : String → Value} {what : String}

lemma name_readsBack {name : String} {maxTotal : ℕ} (encodable : NameEncodable maxTotal name)
  (within : maxTotal ≤ 255) :
  ReadsBack rest (do
      let octets ← shortFrame
      let name ← Reading.lift (decodeLabels octets what)
      return finish name)
    (shortFramed (labelsWire name)) (finish name) := by
  have fits : (labelsWire name).length < 2 ^ 8 :=
    Nat.lt_of_le_of_lt (encodable.total.trans within) (by decide)
  apply (shortFrame_readsBack fits).bind_nil
  exact (ReadsBack.lift (decodeLabels_wire encodable what)).last

lemma name_readsOnly :
  ReadsOnly rest (do
      let octets ← shortFrame
      let name ← Reading.lift (decodeLabels octets what)
      return finish name)
    fun chunk value => ∃ octets name, octets.length < 2 ^ 8 ∧ chunk = shortFramed octets ∧
      decodeLabels octets what = .ok name ∧ value = finish name := by
  apply (shortFrame_readsOnly.bind fun octets =>
    (ReadsOnly.lift (decodeLabels octets what)).last).mono
  rintro chunk value ⟨front, back, octets, rfl, ⟨fits, rfl⟩, name, ⟨rfl, decodes⟩, rfl⟩
  exact ⟨octets, name, fits, append_nil _, decodes, rfl⟩

end Fields

end NextGCore.Nas.UePolicy
