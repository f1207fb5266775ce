import NextGCore.Udm.AuthData
import NextGCore.Udm.Suci

/-!
# Hexadecimal text from the peer

`hex_to_bytes` and `hex_str_to_bytes` slice the text two bytes at a time.  A slice that leaves the
text, or that ends inside a character, panics; a pair that is no number is dropped by the first of
the two, so that a text with other characters in it can still come out at the length of a RAND or
of an AUTS.
-/

namespace NextGCore.Udm

open Sbi
open Crypt (Bytes Primitives EciesPrimitives)

variable (octets : Bytes) (first : UInt8) (hex : String) {suci : String}

/-- `str::is_char_boundary`, for an offset in the text or at its end. -/
def Boundary (offset : ℕ) : Prop :=
  ∀ octet, octets[offset]? = some octet → isContinuation octet = false

structure EvenlyCut (octets : Bytes) : Prop where
  even : octets.length % 2 = 0
  boundaries : ∀ pair, Boundary octets (2 * pair)

def PairRead (pair : ℕ) : Prop :=
  ∃ first second value, octets[2 * pair]? = some first ∧ octets[2 * pair + 1]? = some second ∧
    fromHexPair first second = some value

/-- The offsets at which a slice is made are boundaries: none is made after the first pair that is
no number. -/
def CutWhileRead : Prop :=
  ∀ pair, (∀ earlier, earlier + 1 < pair → PairRead octets earlier) → Boundary octets (2 * pair)

lemma boundary_zero (rest : Bytes) :
  Boundary (first :: rest) 0 ↔ isContinuation first = false := by
  simp [Boundary]

lemma boundary_head : Boundary octets 0 ↔ octets.head?.any isContinuation = false := by
  cases octets with
  | nil => simp [Boundary]
  | cons first rest => exact boundary_zero first rest

section

variable (second : UInt8) (rest : Bytes)

include second rest

lemma boundary_pair (pair : ℕ) :
  Boundary (first :: second :: rest) (2 * (pair + 1)) ↔ Boundary rest (2 * pair) := by
  have shifted : 2 * (pair + 1) = 2 * pair + 1 + 1 := by omega
  simp only [Boundary, shifted, List.getElem?_cons_succ]

lemma pairRead_zero :
  PairRead (first :: second :: rest) 0 ↔ (fromHexPair first second).isSome = true := by
  simp [PairRead, Option.isSome_iff_exists]

lemma pairRead_pair (pair : ℕ) :
  PairRead (first :: second :: rest) (pair + 1) ↔ PairRead rest pair := by
  have shifted : 2 * (pair + 1) = 2 * pair + 1 + 1 := by omega
  simp only [PairRead, shifted, List.getElem?_cons_succ]

lemma evenlyCut_pair :
  EvenlyCut (first :: second :: rest) ↔ isContinuation first = false ∧ EvenlyCut rest := by
  constructor
  · rintro ⟨even, boundaries⟩
    have evenRest : rest.length % 2 = 0 := by
      simp only [List.length_cons] at even
      omega
    have start := (boundary_zero first (second :: rest)).mp (boundaries 0)
    exact ⟨start, evenRest, fun pair => (boundary_pair _ _ _ pair).mp (boundaries (pair + 1))⟩
  · rintro ⟨start, even, boundaries⟩
    refine ⟨by simp only [List.length_cons]; omega, fun pair => ?_⟩
    cases pair with
    | zero => exact (boundary_zero _ _).mpr start
    | succ pair => exact (boundary_pair _ _ _ pair).mpr (boundaries pair)

lemma cutWhileRead_pair : CutWhileRead (first :: second :: rest) ↔
    isContinuation first = false ∧ Boundary rest 0 ∧
      ((fromHexPair first second).isSome = true → CutWhileRead rest) := by
  constructor
  · intro cut
    refine ⟨(boundary_zero _ _).mp (cut 0 (by omega)),
      (boundary_pair _ _ _ 0).mp (cut 1 (by omega)), fun isNumber pair read => ?_⟩
    refine (boundary_pair _ _ _ pair).mp (cut (pair + 1) fun earlier less => ?_)
    cases earlier with
    | zero => exact (pairRead_zero _ _ _).mpr isNumber
    | succ earlier => exact (pairRead_pair _ _ _ _).mpr (read earlier (by omega))
  · rintro ⟨start, next, later⟩ pair read
    match pair with
    | 0 => exact (boundary_zero _ _).mpr start
    | 1 => exact (boundary_pair _ _ _ 0).mpr next
    | pair + 2 =>
      have isNumber := (pairRead_zero _ _ _).mp (read 0 (by omega))
      refine (boundary_pair _ _ _ _).mpr (later isNumber (pair + 1) fun earlier less => ?_)
      exact (pairRead_pair _ _ _ _).mp (read (earlier + 1) (by omega))

end

lemma hexPairs_answers_iff : (∃ bytes, hexPairs octets = some bytes) ↔ EvenlyCut octets := by
  induction octets using hexPairs.induct with
  | case1 => exact ⟨fun _ => ⟨rfl, by simp [Boundary]⟩, fun _ => ⟨[], rfl⟩⟩
  | case2 octet =>
    refine ⟨?_, fun cut => absurd cut.even (by simp)⟩
    rintro ⟨_, read⟩
    cases read
  | case3 first second rest continuation =>
    rw [evenlyCut_pair]
    simp [hexPairs, continuation]
  | case4 first second rest start ih =>
    rw [evenlyCut_pair, ← ih]
    simp [hexPairs, start]

lemma strictHexPairs_answers_iff (even : octets.length % 2 = 0) :
  (∃ answer, strictHexPairs octets = some answer) ↔ CutWhileRead octets := by
  induction octets using strictHexPairs.induct with
  | case1 first second rest cut =>
    rw [cutWhileRead_pair, boundary_head]
    simp only [strictHexPairs, if_pos cut, reduceCtorEq, exists_false, false_iff]
    rintro ⟨start, next, -⟩
    rcases cut with continuation | continuation
    · exact absurd (start.symm.trans continuation) (by decide)
    · exact absurd (next.symm.trans continuation) (by decide)
  | case2 first second rest cut noNumber =>
    rw [cutWhileRead_pair, boundary_head]
    rw [not_or, Bool.not_eq_true, Bool.not_eq_true] at cut
    simp [strictHexPairs, cut.1, cut.2, noNumber]
  | case3 first second rest cut value isNumber ih =>
    have evenRest : rest.length % 2 = 0 := by
      simp only [List.length_cons] at even
      omega
    rw [cutWhileRead_pair, boundary_head, ← ih evenRest]
    rw [not_or, Bool.not_eq_true, Bool.not_eq_true] at cut
    simp [strictHexPairs, cut.1, cut.2, isNumber]
  | case4 octets short =>
    cases octets with
    | nil => simp [strictHexPairs, CutWhileRead, Boundary]
    | cons first rest =>
      cases rest with
      | nil => exact absurd even (by simp)
      | cons second rest => exact absurd rfl (short first second rest)

lemma hexToBytes_answers_iff : (∃ bytes, hexToBytes hex = some bytes) ↔ EvenlyCut (asBytes hex) :=
  hexPairs_answers_iff (asBytes hex)

def StrictlyCut : Prop :=
  (asBytes hex).length % 2 = 0 → CutWhileRead (asBytes hex)

lemma hexStrToBytes_answers_iff :
  (∃ answer, hexStrToBytes hex = some answer) ↔ StrictlyCut hex := by
  unfold hexStrToBytes StrictlyCut
  by_cases even : (asBytes hex).length % 2 = 0
  · simp only [even, ne_eq, not_true_eq_false, if_false, true_implies]
    exact strictHexPairs_answers_iff _ even
  · simp [even]

/-- The identity is a SUCI whose scheme output is decoded as hexadecimal text: its scheme has a
key, and it is not one whose digits are taken as they stand. -/
structure DecodesOutput (keys : SuciKeys) (suci : String) (parsed : ParsedSuci) : Prop where
  concealed : startsWith "suci-" suci = true
  admitted : nullSchemeRejected keys suci = false
  read : parseSuci suci = some parsed
  imsiType : parsed.supiType = 0
  undigested : ¬ (parsed.protectionScheme = protectionSchemeNull ∧
    parsed.schemeOutput.toList.all Char.isDigit = true)
  key : ∃ hnetKey, keys.hnetKeys.lookup parsed.keyId = some hnetKey ∧
    hnetKey.scheme = parsed.protectionScheme

lemma startsWith_imsi_of_suci (concealed : startsWith "suci-" suci = true) :
  startsWith "imsi-" suci = false := by
  obtain ⟨rest, text⟩ := List.isPrefixOf_iff_prefix.mp concealed
  unfold startsWith
  rw [← text]
  rfl

lemma deconcealEcies_answers_iff (crypt : Primitives) (ecies : EciesPrimitives)
  (keys : SuciKeys) (parsed : ParsedSuci) :
  (∃ answer, deconcealEcies crypt ecies keys parsed = some answer) ↔ (parsed.supiType = 0 →
      (∃ hnetKey, keys.hnetKeys.lookup parsed.keyId = some hnetKey ∧
        hnetKey.scheme = parsed.protectionScheme) →
      StrictlyCut parsed.schemeOutput) := by
  unfold deconcealEcies
  by_cases imsiType : parsed.supiType = 0
  · cases found : keys.hnetKeys.lookup parsed.keyId with
    | none => simp [imsiType]
    | some hnetKey =>
      by_cases serves : hnetKey.scheme = parsed.protectionScheme
      · rw [← hexStrToBytes_answers_iff]
        simp [imsiType, serves]
      · simp [imsiType, serves]
  · simp [imsiType]

lemma supiFromSuci_eq {parsed : ParsedSuci} (concealed : startsWith "suci-" suci = true)
  (read : parseSuci suci = some parsed) :
  supiFromSuci suci = if parsed.supiType = 0 ∧ parsed.protectionScheme = protectionSchemeNull ∧
        parsed.schemeOutput.toList.all Char.isDigit = true
    then some (imsi parsed.mcc parsed.mnc parsed.schemeOutput) else none := by
  unfold supiFromSuci
  rw [if_pos concealed, read]
  simp only [Option.bind_eq_bind, Option.bind_some]
  split_ifs <;> first | rfl | simp_all

lemma deconcealSuci_answers_iff (crypt : Primitives) (ecies : EciesPrimitives)
  (keys : SuciKeys) (suci : String) :
  (∃ answer, deconcealSuci crypt ecies keys suci = some answer) ↔
    ∀ parsed, DecodesOutput keys suci parsed → StrictlyCut parsed.schemeOutput := by
  by_cases concealed : startsWith "suci-" suci = true
  · have notImsi := startsWith_imsi_of_suci concealed
    cases read : parseSuci suci with
    | none =>
      have passed : nullSchemeRejected keys suci = false := by simp [nullSchemeRejected, read]
      have unresolved : supiFromSuci suci = none := by simp [supiFromSuci, concealed, read]
      have answers : deconcealSuci crypt ecies keys suci = some none := by
        simp [deconcealSuci, notImsi, concealed, passed, unresolved, read]
      exact ⟨fun _ parsed decodes => absurd (read.symm.trans decodes.read) (by simp),
        fun _ => ⟨none, answers⟩⟩
    | some parsed =>
      cases rejected : nullSchemeRejected keys suci with
      | true =>
        have answers : deconcealSuci crypt ecies keys suci = some none := by
          simp [deconcealSuci, notImsi, concealed, rejected]
        exact ⟨fun _ parsed decodes => absurd (rejected.symm.trans decodes.admitted) (by simp),
          fun _ => ⟨none, answers⟩⟩
      | false =>
        by_cases digested : parsed.supiType = 0 ∧ parsed.protectionScheme = protectionSchemeNull ∧
            parsed.schemeOutput.toList.all Char.isDigit = true
        · have resolved := supiFromSuci_eq concealed read
          rw [if_pos digested] at resolved
          refine ⟨fun _ other decodes => ?_,
            fun _ => ⟨some _, by simp only [deconcealSuci, notImsi, concealed, rejected,
              resolved, Bool.and_false, Bool.false_eq_true, if_false]; rfl⟩⟩
          cases Option.some.inj (read.symm.trans decodes.read)
          exact absurd digested.2 decodes.undigested
        · have unresolved := supiFromSuci_eq concealed read
          rw [if_neg digested] at unresolved
          have path : deconcealSuci crypt ecies keys suci =
              deconcealEcies crypt ecies keys parsed := by
            simp [deconcealSuci, notImsi, concealed, rejected, unresolved, read]
          rw [path, deconcealEcies_answers_iff]
          constructor
          · intro cut other decodes
            cases Option.some.inj (read.symm.trans decodes.read)
            exact cut decodes.imsiType decodes.key
          · intro cut imsiType key
            exact cut parsed ⟨concealed, rejected, read, imsiType,
              fun both => digested ⟨imsiType, both⟩, key⟩
  · have plain : startsWith "suci-" suci = false := by simpa using concealed
    refine ⟨fun _ parsed decodes => absurd decodes.concealed concealed, fun _ => ?_⟩
    unfold deconcealSuci
    cases startsWith "imsi-" suci with
    | true => exact ⟨_, rfl⟩
    | false =>
      simp only [plain, Bool.false_and, Bool.false_eq_true, if_false]
      cases supiFromSuci suci with
      | none | some supi => exact ⟨_, rfl⟩

structure EvenHexDigits (text : String) : Prop where
  even : (asBytes text).length % 2 = 0
  digits : ∀ octet ∈ asBytes text, (hexDigit octet).isSome = true

def numericPairs : Bytes → ℕ
  | first :: second :: rest => (fromHexPair first second).toList.length + numericPairs rest
  | _ => 0

def TakenFor (count : ℕ) (text : String) : Prop :=
  ∃ bytes, hexToBytes text = some bytes ∧ bytes.length = count

lemma length_hexPairs {octets bytes : Bytes} (read : hexPairs octets = some bytes) :
  bytes.length = numericPairs octets := by
  induction octets using hexPairs.induct generalizing bytes with
  | case1 =>
    cases read
    rfl
  | case2 octet => cases read
  | case3 first second rest continuation => simp [hexPairs, continuation] at read
  | case4 first second rest start ih =>
    simp only [hexPairs, start, Bool.false_eq_true, if_false, Option.map_eq_some_iff] at read
    obtain ⟨later, readRest, rfl⟩ := read
    rw [List.length_append, numericPairs, ih readRest]

lemma takenFor_iff (count : ℕ) (text : String) : TakenFor count text ↔
    EvenlyCut (asBytes text) ∧ numericPairs (asBytes text) = count := by
  rw [← hexToBytes_answers_iff]
  constructor
  · rintro ⟨bytes, read, length⟩
    exact ⟨⟨bytes, read⟩, (length_hexPairs read).symm.trans length⟩
  · rintro ⟨⟨bytes, read⟩, pairs⟩
    exact ⟨bytes, read, (length_hexPairs read).trans pairs⟩

/-- The text is hexadecimal, or its slices do not make up a RAND or an AUTS. -/
def NoneTaken (text : String) : Prop :=
  EvenHexDigits text ∨ ¬ EvenlyCut (asBytes text) ∨
    (numericPairs (asBytes text) ≠ 16 ∧ numericPairs (asBytes text) ≠ 14)

/-- The three readers return, what is written is read back, and no other text passes for a RAND or
an AUTS, exactly when the texts are cut between characters as far as they are sliced and no pair
that is dropped, or read with a sign in it, leaves one of the two lengths. -/
theorem hexText_iff (crypt : Primitives) (ecies : EciesPrimitives) (keys : SuciKeys)
  (hex strict suciOrSupi randOrAuts : String) :
  ((∃ bytes, hexToBytes hex = some bytes) ∧ (∃ answer, hexStrToBytes strict = some answer) ∧
      (∃ answer, deconcealSuci crypt ecies keys suciOrSupi = some answer) ∧
      (∀ bytes, hexToBytes (bytesToHex bytes) = some bytes) ∧
      (¬ EvenHexDigits randOrAuts → ¬ TakenFor 16 randOrAuts ∧ ¬ TakenFor 14 randOrAuts)) ↔
    EvenlyCut (asBytes hex) ∧ StrictlyCut strict ∧
      (∀ parsed, DecodesOutput keys suciOrSupi parsed → StrictlyCut parsed.schemeOutput) ∧
      NoneTaken randOrAuts := by
  rw [hexToBytes_answers_iff, hexStrToBytes_answers_iff, deconcealSuci_answers_iff]
  have back : ∀ bytes, hexToBytes (bytesToHex bytes) = some bytes := hexToBytes_bytesToHex
  have taken : (¬ EvenHexDigits randOrAuts →
      ¬ TakenFor 16 randOrAuts ∧ ¬ TakenFor 14 randOrAuts) ↔ NoneTaken randOrAuts := by
    rw [takenFor_iff, takenFor_iff, NoneTaken]
    tauto
  rw [taken]
  tauto

/-- An odd length, a character across two slices, and a text of other characters at the length of
a RAND. -/
theorem hexText_misread : (¬ ∀ hex, ∃ bytes, hexToBytes hex = some bytes) ∧
    (¬ ∀ strict, ∃ answer, hexStrToBytes strict = some answer) ∧
    ¬ ∀ text, ¬ EvenHexDigits text → ¬ TakenFor 16 text := by
  refine ⟨fun answers => ?_, fun answers => ?_, fun refused => ?_⟩
  · obtain ⟨bytes, read⟩ := answers "0"
    have panics : hexToBytes "0" = none := by decide
    exact absurd (panics.symm.trans read) (by simp)
  · obtain ⟨answer, read⟩ := answers "a€"
    have panics : hexStrToBytes "a€" = none := by decide
    exact absurd (panics.symm.trans read) (by simp)
  · have mixed : ¬ EvenHexDigits "zz000102030405060708090a0b0c0d0e0f" := by
      rintro ⟨-, digits⟩
      exact absurd (digits 122 (by decide)) (by decide)
    have taken : numericPairs (asBytes "zz000102030405060708090a0b0c0d0e0f") = 16 := by decide
    have answers : (hexToBytes "zz000102030405060708090a0b0c0d0e0f").isSome = true := by decide
    exact refused _ mixed ((takenFor_iff _ _).mpr
      ⟨(hexToBytes_answers_iff _).mp (Option.isSome_iff_exists.mp answers), taken⟩)

end NextGCore.Udm
