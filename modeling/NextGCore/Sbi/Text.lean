import Mathlib.Data.List.TakeWhile
import NextGCore.Crypt.Primitives

/-!
# Text in SBI messages

The textual forms that values take in JSON bodies and in URIs: hexadecimal
octets, Base64, decimal numbers and serving network names.  The hexadecimal
reader slices the text two bytes at a time, so it panics on an odd length and
inside a multi-byte character; `none` stands for that panic.
-/

namespace NextGCore.Sbi

open Nat String
open UInt8 (ofNat toNat_ofNat')
open Crypt (Bytes)

variable {count : ℕ} (text : String) (octet : UInt8) (lead : ℕ) {value : ℕ} {separator : Char}
  {before : List Char}

def asBytes : Bytes :=
  text.toList.flatMap utf8EncodeChar

def hexDigit : Option ℕ :=
  if 48 ≤ octet.toNat ∧ octet.toNat ≤ 57 then some (octet.toNat - 48)
  else if 97 ≤ octet.toNat ∧ octet.toNat ≤ 102 then some (octet.toNat - 87)
  else if 65 ≤ octet.toNat ∧ octet.toNat ≤ 70 then some (octet.toNat - 55)
  else none

/-- `u8::from_str_radix` on two octets; it takes a leading plus sign. -/
def fromHexPair (first second : UInt8) : Option UInt8 :=
  if first = 43 then (hexDigit second).map UInt8.ofNat
  else do
    let high ← hexDigit first
    let low ← hexDigit second
    return UInt8.ofNat (16 * high + low)

def isContinuation : Bool :=
  128 ≤ octet.toNat && octet.toNat < 192

def hexPairs : Bytes → Option Bytes
  | [] => some []
  | [_] => none
  | first :: second :: rest =>
    if isContinuation first then none
    -- A pair that is no number is skipped.
    else (hexPairs rest).map ((fromHexPair first second).toList ++ ·)

def hexToBytes (hex : String) : Option Bytes :=
  hexPairs (asBytes hex)

def hexOfOctet : List Char :=
  [digitChar (octet.toNat / 16), digitChar (octet.toNat % 16)]

def bytesToHex (bytes : Bytes) : String :=
  ofList (bytes.flatMap hexOfOctet)

lemma hexDigit_digitChar (small : value < 16) :
  ∃ octet, utf8EncodeChar (digitChar value) = [octet] ∧
    hexDigit octet = some value ∧ isContinuation octet = false ∧ octet ≠ 43 := by
  have cases16 : ∀ digit : Fin 16, utf8EncodeChar (digitChar digit) =
          [(utf8EncodeChar (digitChar digit)).headD 0] ∧
        hexDigit ((utf8EncodeChar (digitChar digit)).headD 0) = some digit.val ∧
        isContinuation ((utf8EncodeChar (digitChar digit)).headD 0) = false ∧
        (utf8EncodeChar (digitChar digit)).headD 0 ≠ 43 := by
    decide
  exact ⟨_, cases16 ⟨value, small⟩⟩

lemma hexOfOctet_pair :
  ∃ first second, (hexOfOctet octet).flatMap utf8EncodeChar = [first, second] ∧
    fromHexPair first second = some octet ∧ isContinuation first = false := by
  have bound := octet.toNat_lt
  obtain ⟨first, firstText, firstValue, firstStart, firstSign⟩ :=
    hexDigit_digitChar (show octet.toNat / 16 < 16 by omega)
  obtain ⟨second, secondText, secondValue, -⟩ :=
    hexDigit_digitChar (show octet.toNat % 16 < 16 by omega)
  have value : 16 * (octet.toNat / 16) + octet.toNat % 16 = octet.toNat := by omega
  refine ⟨first, second, by simp [hexOfOctet, firstText, secondText], ?_, firstStart⟩
  simp only [fromHexPair, if_neg firstSign, firstValue, secondValue, Option.pure_def,
    Option.bind_eq_bind, Option.bind_some, value, UInt8.ofNat_toNat]

lemma hexToBytes_bytesToHex (bytes : Bytes) :
  hexToBytes (bytesToHex bytes) = some bytes := by
  unfold hexToBytes bytesToHex asBytes
  rw [toList_ofList]
  induction bytes with
  | nil => rfl
  | cons octet rest ih =>
    obtain ⟨first, second, text, together, start⟩ := hexOfOctet_pair octet
    simp only [List.flatMap_cons, List.flatMap_append, text, List.cons_append, List.nil_append,
      hexPairs, start, ih, together]
    rfl

/-- `copy_from_slice(&bytes[..count])`, for octets that are there. -/
def firstOctets (count : ℕ) (bytes : Bytes) : Option (Vector UInt8 count) :=
  if enough : count ≤ bytes.length
  then some ⟨(bytes.take count).toArray, by simpa using enough⟩
  else none

lemma firstOctets_toList (octets : Vector UInt8 count) :
  firstOctets count octets.toList = some octets := by
  have enough : count ≤ octets.toList.length := octets.length_toList.ge
  unfold firstOctets
  rw [dif_pos enough]
  apply congrArg some
  apply Vector.toList_inj.mp
  simp

def exactOctets (count : ℕ) (bytes : Bytes) : Option (Vector UInt8 count) :=
  if exact : bytes.length = count then some ⟨bytes.toArray, by simpa using exact⟩ else none

lemma exactOctets_eq_some {bytes : Bytes} {octets : Vector UInt8 count}
  (read : exactOctets count bytes = some octets) : bytes = octets.toList := by
  unfold exactOctets at read
  split at read
  · cases read
    rfl
  · cases read

lemma exactOctets_toList (octets : Vector UInt8 count) :
  exactOctets count octets.toList = some octets := by
  unfold exactOctets
  rw [dif_pos octets.length_toList]
  apply congrArg some
  exact Vector.toList_inj.mp rfl

def parseU64 : Option ℕ :=
  let digits :=
    match text.toList with
    | '+' :: rest => rest
    | other => other
  if digits = [] then none
  else do
    let value ← digits.foldlM
      (fun value digit => if digit.isDigit then some (10 * value + (digit.toNat - 48)) else none) 0
    if value < 2 ^ 64 then some value else none

def isWhitespace (letter : Char) : Bool :=
  (9 ≤ letter.toNat && letter.toNat ≤ 13) || (0x2000 ≤ letter.toNat && letter.toNat ≤ 0x200A) ||
    letter.toNat ∈ [0x20, 0x85, 0xA0, 0x1680, 0x2028, 0x2029, 0x202F, 0x205F, 0x3000]

def splitWhitespace : List String :=
  ((text.toList.splitOnP isWhitespace).filter fun word => !word.isEmpty).map ofList

lemma splitWhitespace_append_space (first second : String) :
  splitWhitespace (first ++ " " ++ second) = splitWhitespace first ++ splitWhitespace second := by
  have letters : (first ++ " " ++ second).toList = first.toList ++ ' ' :: second.toList := by
    simp [toList_append]
  rw [splitWhitespace, letters, List.splitOnP_append_cons _ _ (by decide), List.filter_append,
    List.map_append]
  rfl

lemma splitWhitespace_of_solid {word : String} (nonempty : word ≠ "")
  (solid : ∀ letter ∈ word.toList, isWhitespace letter = false) :
  splitWhitespace word = [word] := by
  have letters : word.toList ≠ [] := fun empty => nonempty (toList_eq_nil_iff.mp empty)
  rw [splitWhitespace, List.splitOnP_eq_singleton solid]
  simp [letters]

/-- The octets of the character that an octet starts, 0 for one that starts none. -/
def utf8CharWidth : ℕ :=
  if lead < 0x80 then 1
  else if 0xC2 ≤ lead ∧ lead ≤ 0xDF then 2
  else if 0xE0 ≤ lead ∧ lead ≤ 0xEF then 3
  else if 0xF0 ≤ lead ∧ lead ≤ 0xF4 then 4
  else 0

def utf8Second (octet : ℕ) : Bool :=
  let low := if lead = 0xE0 then 0xA0 else if lead = 0xF0 then 0x90 else 0x80
  let high := if lead = 0xED then 0x9F else if lead = 0xF4 then 0x8F else 0xBF
  decide (low ≤ octet ∧ octet ≤ high)

def utf8Following (rest : Bytes) : ℕ :=
  match rest.take (utf8CharWidth lead - 1) with
  | [] => 0
  | second :: others =>
    if utf8Second lead second.toNat then
      1 + (others.takeWhile fun octet => decide (0x80 ≤ octet.toNat ∧ octet.toNat ≤ 0xBF)).length
    else 0

def decodeLossy : ℕ → Bytes → List Char
  | _, [] | 0, _ => []
  | fuel + 1, lead :: rest =>
    let width := utf8CharWidth lead.toNat
    let following := utf8Following lead.toNat rest
    let start := if width = 1 then lead.toNat else lead.toNat % 2 ^ (7 - width)
    let letter :=
      if following + 1 = width then
        Char.ofNat ((rest.take following).foldl
          (fun value octet => 64 * value + octet.toNat % 64) start)
      else Char.ofNat 0xFFFD
    letter :: decodeLossy fuel (rest.drop following)

def fromUtf8Lossy (octets : Bytes) : String := ofList (decodeLossy octets.length octets)

def stripPrefix (start text : List Char) : Option (List Char) :=
  if start.isPrefixOf text then some (text.drop start.length) else none

def splitOnce (separator : List Char) : List Char → Option (List Char × List Char)
  | [] => none
  | letter :: rest =>
    if separator.isPrefixOf (letter :: rest)
    then some ([], (letter :: rest).drop separator.length)
    else (splitOnce separator rest).map fun (before, after) => (letter :: before, after)

lemma parseU64_of_digits {text : String} (nonempty : text.toList ≠ [])
  (digits : ∀ digit ∈ text.toList, digit.isDigit = true)
  (small : ofDigitChars 10 text.toList 0 < 2 ^ 64) :
  parseU64 text = some (ofDigitChars 10 text.toList 0) := by
  have read : ∀ (letters : List Char) (start : ℕ), (∀ digit ∈ letters, digit.isDigit = true) →
      letters.foldlM (fun value digit =>
        if digit.isDigit then some (10 * value + (digit.toNat - 48)) else none) start =
          some (ofDigitChars 10 letters start) := by
    intro letters
    induction letters with
    | nil => exact fun start _ => congrArg some ofDigitChars_nil.symm
    | cons letter rest ih =>
      intro start isDigit
      rw [List.forall_mem_cons] at isDigit
      rw [List.foldlM_cons, if_pos isDigit.1, ofDigitChars_cons]
      exact ih _ isDigit.2
  have unsigned : (match text.toList with
      | '+' :: rest => rest
      | other => other) = text.toList := by
    split
    · rename_i rest plus
      exact absurd (digits '+' (plus ▸ List.mem_cons_self)) (by decide)
    · rfl
  unfold parseU64
  simp only [unsigned, if_neg nonempty, read text.toList 0 digits]
  exact if_pos small

lemma parseU64_toString (small : value < 2 ^ 64) : parseU64 (toString value) = some value := by
  have letters : (toString value).toList = toDigits 10 value := toList_repr
  have nonempty : (toString value).toList ≠ [] := letters ▸ toDigits_ne_nil
  have digits : ∀ digit ∈ (toString value).toList, digit.isDigit = true := fun digit isDigit =>
    isDigit_of_mem_toDigits (by decide) (by decide) (letters ▸ isDigit)
  have number : ofDigitChars 10 (toString value).toList 0 = value := by
    rw [letters, ofDigitChars_ten_toDigits]
  rw [parseU64_of_digits nonempty digits (by rw [number]; exact small), number]

lemma digit_of_mem_toString {number : ℕ} {letter : Char}
  (among : letter ∈ (toString number).toList) : 48 ≤ letter.toNat ∧ letter.toNat ≤ 57 := by
  have letters : (toString number).toList = toDigits 10 number := toList_repr
  rw [letters] at among
  exact Char.isDigit_iff_toNat.mp (isDigit_of_mem_toDigits (by decide) (by decide) among)

lemma splitWhitespace_toString (number : ℕ) :
  splitWhitespace (toString number) = [toString number] := by
  have letters : (toString number).toList = toDigits 10 number := toList_repr
  have nonempty : toString number ≠ "" := fun empty => by
    rw [empty] at letters
    exact toDigits_ne_nil letters.symm
  refine splitWhitespace_of_solid nonempty fun letter among => ?_
  have digit := digit_of_mem_toString among
  simp only [isWhitespace, Bool.or_eq_false_iff, Bool.and_eq_false_iff, decide_eq_false_iff_not,
    List.mem_cons, List.not_mem_nil, or_false]
  omega

lemma hyphen_notMem_toString (number : ℕ) : '-' ∉ (toString number).toList := by
  intro among
  have digit := digit_of_mem_toString among
  exact absurd digit.1 (by decide)

lemma splitOnce_of_notMem (absent : separator ∉ before) (after : List Char) :
  splitOnce [separator] (before ++ separator :: after) = some (before, after) := by
  induction before with
  | nil => simp [splitOnce]
  | cons letter rest ih =>
    rw [List.mem_cons, not_or] at absent
    have differs : [separator].isPrefixOf (letter :: (rest ++ separator :: after)) = false := by
      simp [List.isPrefixOf, absent.1]
    rw [List.cons_append, splitOnce, differs, ih absent.2]
    rfl

lemma notMem_of_mem_splitOn {letters piece : List Char}
  (isPiece : piece ∈ letters.splitOn separator) : separator ∉ piece := by
  induction letters generalizing piece with
  | nil =>
    rw [List.splitOn_nil, List.mem_singleton] at isPiece
    simp [isPiece]
  | cons letter rest ih =>
    rw [List.splitOn_cons_eq_if_modifyHead] at isPiece
    split at isPiece
    · rcases List.mem_cons.mp isPiece with rfl | later
      · simp
      · exact ih later
    · rename_i differs
      cases pieces : rest.splitOn separator with
      | nil => exact absurd pieces (List.splitOn_ne_nil separator rest)
      | cons first others =>
        rw [pieces, List.modifyHead_cons, List.mem_cons] at isPiece
        rcases isPiece with rfl | later
        · have absent : separator ∉ first :=
            ih (pieces ▸ List.mem_cons_self)
          have apart : separator ≠ letter := by
            rintro rfl
            simp at differs
          simp [absent, apart]
        · exact ih (pieces ▸ List.mem_cons_of_mem _ later)

lemma eq_of_splitOnce {separator text after : List Char}
  (split : splitOnce separator text = some (before, after)) :
  text = before ++ separator ++ after := by
  induction text generalizing before with
  | nil => cases split
  | cons letter rest ih =>
    unfold splitOnce at split
    split at split
    · rename_i starts
      obtain ⟨tail, whole⟩ := List.isPrefixOf_iff_prefix.mp starts
      obtain ⟨rfl, rfl⟩ := Prod.ext_iff.mp (Option.some.inj split)
      rw [← whole, List.drop_left, List.nil_append]
    · obtain ⟨parts, found, together⟩ := Option.map_eq_some_iff.mp split
      obtain ⟨rfl, rfl⟩ := Prod.ext_iff.mp together
      exact congrArg (letter :: ·) (ih found)

def startsWith (start text : String) : Bool :=
  start.toList.isPrefixOf text.toList

/-- The MCC and the MNC of `5G:mnc<MNC>.mcc<MCC>.3gppnetwork.org`, with an
optional `:NID` after it. -/
def parseSnnPlmn (snn : String) : Option (List Char × List Char) := do
  let rest ← stripPrefix "5G:mnc".toList snn.toList
  let (mnc, rest) ← splitOnce ".mcc".toList rest
  let (mcc, tail) ← splitOnce ".".toList rest
  let tailOk := tail == "3gppnetwork.org".toList || "3gppnetwork.org:".toList.isPrefixOf tail
  if mnc.length = 3 ∧ mcc.length = 3 ∧ mnc.all Char.isDigit ∧ mcc.all Char.isDigit ∧ tailOk
  then some (mcc, mnc)
  else none

/-- Both network functions check the name with the same code, which differs
from `parse_snn_plmn` in the result only. -/
def validateServingNetworkName (snn : String) : Bool :=
  (parseSnnPlmn snn).isSome

def base64Alphabet : List Char :=
  "ABCDEFGHIJKLMNOPQRSTUVWXYZabcdefghijklmnopqrstuvwxyz0123456789+/".toList

def base64Letter (value : UInt8) : Char :=
  base64Alphabet.getD value.toNat 'A'

def base64Letters : Bytes → List Char
  | [] => []
  | [first] =>
    [base64Letter (first >>> 2), base64Letter ((first &&& 0x03) <<< 4), '=', '=']
  | [first, second] =>
    [base64Letter (first >>> 2), base64Letter (((first &&& 0x03) <<< 4) ||| (second >>> 4)),
      base64Letter ((second &&& 0x0f) <<< 2), '=']
  | first :: second :: third :: rest =>
    [base64Letter (first >>> 2), base64Letter (((first &&& 0x03) <<< 4) ||| (second >>> 4)),
      base64Letter (((second &&& 0x0f) <<< 2) ||| (third >>> 6)),
      base64Letter (third &&& 0x3f)] ++ base64Letters rest

def base64Encode (input : Bytes) : String :=
  ofList (base64Letters input)

def base64Value : Option UInt8 :=
  if 65 ≤ octet ∧ octet ≤ 90 then some (octet - 65)
  else if 97 ≤ octet ∧ octet ≤ 122 then some (octet - 97 + 26)
  else if 48 ≤ octet ∧ octet ≤ 57 then some (octet - 48 + 52)
  else if octet = 43 then some 62
  else if octet = 47 then some 63
  else none

def base64Loop (padding : ℕ) : List UInt8 → Bytes → Option Bytes
  | _, [] => some []
  | buffer, octet :: rest =>
    if octet = 61 then
      match buffer with
      | [first, second, third] =>
        (base64Loop padding [] rest).map fun output =>
          ((first <<< 2) ||| (second >>> 4)) ::
            ((if padding < 2 then [(second <<< 4) ||| (third >>> 2)] else []) ++ output)
      | _ => base64Loop padding (buffer ++ [0]) rest
    else if octet = 13 ∨ octet = 10 ∨ octet = 32 ∨ octet = 9 then
      base64Loop padding buffer rest
    else
      match base64Value octet with
      | none => none
      | some value =>
        match buffer with
        | [first, second, third] =>
          (base64Loop padding [] rest).map fun output =>
            ((first <<< 2) ||| (second >>> 4)) ::
              ((second <<< 4) ||| (third >>> 2)) :: ((third <<< 6) ||| value) :: output
        | _ => base64Loop padding (buffer ++ [value]) rest

def base64Decode (input : String) : Option Bytes :=
  let input := asBytes input
  base64Loop (input.count 61) [] input

set_option maxRecDepth 4000 in
lemma octet_of_base64Letter {value : UInt8} (sextet : value &&& 63 = value) :
  ∃ octet, utf8EncodeChar (base64Letter value) = [octet] ∧ base64Value octet = some value ∧
    octet ∉ [61, 13, 10, 32, 9] := by
  have cases64 : ∀ digit : Fin 64,
      utf8EncodeChar (base64Letter (.ofNat digit)) =
        [(utf8EncodeChar (base64Letter (.ofNat digit))).headD 0] ∧
      base64Value ((utf8EncodeChar (base64Letter (.ofNat digit))).headD 0) = some (.ofNat digit) ∧
      (utf8EncodeChar (base64Letter (.ofNat digit))).headD 0 ∉ [61, 13, 10, 32, 9] := by
    decide
  have small : value.toNat < 64 := by
    rw [← sextet, UInt8.toNat_and]
    exact Nat.lt_succ_of_le Nat.and_le_right
  have split := cases64 ⟨value.toNat, small⟩
  rw [UInt8.ofNat_toNat] at split
  exact ⟨_, split⟩

/-- The sextets of three octets give the octets back. -/
lemma base64_sextets (first second third : UInt8) {one two three : UInt8}
  (isOne : first >>> 2 = one) (isTwo : ((first &&& 0x03) <<< 4) ||| (second >>> 4) = two)
  (isThree : ((second &&& 0x0f) <<< 2) ||| (third >>> 6) = three) :
  one &&& 63 = one ∧ two &&& 63 = two ∧ three &&& 63 = three ∧
  (third &&& 0x3f) &&& (63 : UInt8) = third &&& 0x3f ∧ one <<< 2 ||| two >>> 4 = first ∧
  two <<< 4 ||| three >>> 2 = second ∧ three <<< 6 ||| (third &&& 0x3f) = third := by
  subst isOne isTwo isThree
  refine ⟨?_, ?_, ?_, ?_, ?_, ?_, ?_⟩
  all_goals
    refine UInt8.toBitVec_inj.mp (BitVec.eq_of_getElem_eq fun place small => ?_)
    have places : place = 0 ∨ place = 1 ∨ place = 2 ∨ place = 3 ∨ place = 4 ∨ place = 5 ∨
      place = 6 ∨ place = 7 := by omega
    rcases places with rfl | rfl | rfl | rfl | rfl | rfl | rfl | rfl <;> simp

/-- Every octets are decoded from the Base64 that they are encoded to, whatever the padding. -/
theorem base64Decode_base64Encode (input : Bytes) :
  base64Decode (base64Encode input) = some input := by
  unfold base64Decode base64Encode asBytes
  rw [toList_ofList]
  dsimp only
  -- The letters of whole groups leave the number of padding letters as it is.
  generalize counted : ((base64Letters input).flatMap utf8EncodeChar).count 61 = padding
  have padded : utf8EncodeChar '=' = [61] := by decide
  induction input using base64Letters.induct generalizing padding with
  | case1 => rfl
  | case2 first =>
    subst counted
    obtain ⟨isOne, isTwo, -, -, whole, -⟩ := base64_sextets first 0 0 rfl rfl rfl
    obtain ⟨one, oneText, oneValue, onePlain⟩ := octet_of_base64Letter isOne
    obtain ⟨two, twoText, twoValue, twoPlain⟩ := octet_of_base64Letter isTwo
    simp_all [base64Letters, base64Loop]
  | case3 first second =>
    subst counted
    obtain ⟨isOne, isTwo, isThree, -, whole, whole', -⟩ := base64_sextets first second 0 rfl rfl rfl
    obtain ⟨one, oneText, oneValue, onePlain⟩ := octet_of_base64Letter isOne
    obtain ⟨two, twoText, twoValue, twoPlain⟩ := octet_of_base64Letter isTwo
    obtain ⟨three, threeText, threeValue, threePlain⟩ := octet_of_base64Letter isThree
    simp_all [base64Letters, base64Loop]
  | case4 first second third rest ih =>
    obtain ⟨isOne, isTwo, isThree, isFour, whole, whole', whole''⟩ :=
      base64_sextets first second third rfl rfl rfl
    obtain ⟨one, oneText, oneValue, onePlain⟩ := octet_of_base64Letter isOne
    obtain ⟨two, twoText, twoValue, twoPlain⟩ := octet_of_base64Letter isTwo
    obtain ⟨three, threeText, threeValue, threePlain⟩ := octet_of_base64Letter isThree
    obtain ⟨four, fourText, fourValue, fourPlain⟩ := octet_of_base64Letter isFour
    simp_all [base64Letters, base64Loop]

variable {lead fuel : ℕ} {front tail : Bytes}

structure Follows (lead : ℕ) (front : Bytes) : Prop where
  width : utf8CharWidth lead = front.length + 1
  second : ∀ second ∈ front.head?, utf8Second lead second.toNat = true
  others : ∀ octet ∈ front.tail, 0x80 ≤ octet.toNat ∧ octet.toNat ≤ 0xBF

lemma utf8Following_eq (follows : Follows lead front) :
  utf8Following lead (front ++ tail) = front.length := by
  have taken : (front ++ tail).take (utf8CharWidth lead - 1) = front := by
    rw [follows.width, Nat.add_sub_cancel, List.take_left]
  rw [utf8Following, taken]
  cases front with
  | nil => rfl
  | cons second others =>
    have good : utf8Second lead second.toNat = true := follows.second second rfl
    have whole : others.takeWhile (fun octet =>
        decide (0x80 ≤ octet.toNat ∧ octet.toNat ≤ 0xBF)) = others :=
      List.takeWhile_eq_self_iff.mpr fun octet inside =>
        decide_eq_true (follows.others octet inside)
    rw [List.length_cons, Nat.add_comm]
    simp only [good, if_true, whole]

lemma decodeLossy_cons {lead : UInt8} {start : ℕ} {letter : Char}
  (follows : Follows lead.toNat front)
  (starts : (if utf8CharWidth lead.toNat = 1 then lead.toNat
    else lead.toNat % 2 ^ (7 - utf8CharWidth lead.toNat)) = start)
  (value : front.foldl (fun value octet => 64 * value + octet.toNat % 64) start = letter.toNat) :
  decodeLossy (fuel + 1) (lead :: (front ++ tail)) = letter :: decodeLossy fuel tail := by
  rw [decodeLossy]
  simp only [utf8Following_eq follows, follows.width.symm, if_true, List.take_left,
    List.drop_left, starts, value, Char.ofNat_toNat]

lemma continuation {value : ℕ} : (ofNat (value % 64 + 0x80)).toNat = value % 64 + 0x80 := by
  rw [toNat_ofNat']
  omega

lemma utf8Second_eq {second : ℕ} (least : 0x80 ≤ second) (most : second ≤ 0xBF)
  (afterE0 : lead = 0xE0 → 0xA0 ≤ second) (afterF0 : lead = 0xF0 → 0x90 ≤ second)
  (afterED : lead = 0xED → second ≤ 0x9F) (afterF4 : lead = 0xF4 → second ≤ 0x8F) :
  utf8Second lead second = true := by
  unfold utf8Second
  apply decide_eq_true
  constructor
  · split_ifs <;> omega
  · split_ifs <;> omega

lemma decodeLossy_utf8EncodeChar (letter : Char) (fuel : ℕ) (tail : Bytes) :
  decodeLossy (fuel + 1) (utf8EncodeChar letter ++ tail) = letter :: decodeLossy fuel tail := by
  have valid : letter.toNat < 0xD800 ∨ 0xDFFF < letter.toNat ∧ letter.toNat < 0x110000 :=
    letter.valid
  unfold utf8EncodeChar
  rw [show letter.val.toNat = letter.toNat from rfl]
  generalize number : letter.toNat = value at valid
  dsimp only
  split_ifs with one two three
  · have lead : (ofNat value).toNat = value := by
      rw [toNat_ofNat']
      omega
    have width : utf8CharWidth value = 1 := by
      rw [utf8CharWidth, if_pos (by omega)]
    have follows : Follows (ofNat value).toNat [] :=
      ⟨by rw [lead, width]; rfl, by simp, by simp⟩
    exact decodeLossy_cons follows (if_pos (by rw [lead, width])) (by rw [number]; exact lead)
  · have lead : (ofNat (value / 64 % 0x20 + 0xc0)).toNat = value / 64 + 0xC0 := by
      rw [toNat_ofNat']
      omega
    have width : utf8CharWidth (value / 64 + 0xC0) = 2 := by
      rw [utf8CharWidth, if_neg (by omega), if_pos (by omega)]
    have follows : Follows (ofNat (value / 64 % 0x20 + 0xc0)).toNat
        [ofNat (value % 0x40 + 0x80)] := by
      rw [lead]
      refine ⟨width, ?_, by simp⟩
      intro second given
      cases given
      rw [continuation]
      apply utf8Second_eq <;> omega
    refine decodeLossy_cons follows (if_neg (by rw [lead, width]; decide)) ?_
    rw [number, lead, width]
    simp only [List.foldl_cons, List.foldl_nil, continuation]
    omega
  · have lead : (ofNat (value / 4096 % 0x10 + 0xe0)).toNat = value / 4096 + 0xE0 := by
      rw [toNat_ofNat']
      omega
    have width : utf8CharWidth (value / 4096 + 0xE0) = 3 := by
      rw [utf8CharWidth, if_neg (by omega), if_neg (by omega), if_pos (by omega)]
    have follows : Follows (ofNat (value / 4096 % 0x10 + 0xe0)).toNat
        [ofNat (value / 64 % 0x40 + 0x80), ofNat (value % 0x40 + 0x80)] := by
      rw [lead]
      refine ⟨width, ?_, ?_⟩
      · intro second given
        cases given
        rw [continuation]
        apply utf8Second_eq <;> omega
      · intro octet inside
        rw [List.tail_cons, List.mem_singleton] at inside
        rw [inside, continuation]
        omega
    refine decodeLossy_cons follows (if_neg (by rw [lead, width]; decide)) ?_
    rw [number, lead, width]
    simp only [List.foldl_cons, List.foldl_nil, continuation]
    omega
  · have lead : (ofNat (value / 262144 % 0x08 + 0xf0)).toNat = value / 262144 + 0xF0 := by
      rw [toNat_ofNat']
      omega
    have width : utf8CharWidth (value / 262144 + 0xF0) = 4 := by
      rw [utf8CharWidth, if_neg (by omega), if_neg (by omega), if_neg (by omega), if_pos (by omega)]
    have follows : Follows (ofNat (value / 262144 % 0x08 + 0xf0)).toNat
        [ofNat (value / 4096 % 0x40 + 0x80), ofNat (value / 64 % 0x40 + 0x80),
          ofNat (value % 0x40 + 0x80)] := by
      rw [lead]
      refine ⟨width, ?_, ?_⟩
      · intro second given
        cases given
        rw [continuation]
        apply utf8Second_eq <;> omega
      · intro octet inside
        rw [List.tail_cons, List.mem_pair] at inside
        rcases inside with rfl | rfl <;> rw [continuation] <;> omega
    refine decodeLossy_cons follows (if_neg (by rw [lead, width]; decide)) ?_
    rw [number, lead, width]
    simp only [List.foldl_cons, List.foldl_nil, continuation]
    omega

lemma length_le_length_asBytes (letters : List Char) :
  letters.length ≤ (letters.flatMap utf8EncodeChar).length := by
  induction letters with
  | nil => exact Nat.zero_le _
  | cons letter rest ih =>
    have positive : 0 < (utf8EncodeChar letter).length := by
      rw [length_utf8EncodeChar]
      exact letter.utf8Size_pos
    rw [List.flatMap_cons, List.length_append, List.length_cons]
    omega

lemma decodeLossy_flatMap {letters : List Char} (enough : letters.length ≤ fuel) :
  decodeLossy fuel (letters.flatMap utf8EncodeChar) = letters := by
  induction letters generalizing fuel with
  | nil => cases fuel <;> rfl
  | cons letter rest ih =>
    obtain ⟨fuel, rfl⟩ : ∃ fewer, fuel = fewer + 1 :=
      ⟨fuel - 1, by rw [List.length_cons] at enough; omega⟩
    rw [List.flatMap_cons, decodeLossy_utf8EncodeChar,
      ih (by rw [List.length_cons] at enough; omega)]

lemma fromUtf8Lossy_asBytes (text : String) : fromUtf8Lossy (asBytes text) = text := by
  rw [fromUtf8Lossy, asBytes, decodeLossy_flatMap (length_le_length_asBytes text.toList),
    ofList_toList]

end NextGCore.Sbi
