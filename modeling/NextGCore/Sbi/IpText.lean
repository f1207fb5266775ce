import NextGCore.Sbi.IpAddress

/-!
# How internet addresses are written

The texts that `Display` makes of numbers and addresses, and that the readers of the standard
library read them back.
-/

namespace NextGCore.Sbi

open Option Nat String
open List (forall_mem_cons length_cons mem_append append_nil foldl_cons foldl_nil cons_eq_cons)

variable (radix : ℕ) (addr : Vector UInt8 16)

def digitsValue (letters : List Char) : ℕ :=
  letters.foldl (fun value letter => radix * value + (digitValue radix letter).getD 0) 0

def NoLeadingZero (letters : List Char) : Prop :=
  ¬ (letters.head? = some '0' ∧ 1 < letters.length)

def EndsDigits (rest : List Char) : Prop :=
  ∀ letter ∈ rest.head?, digitValue radix letter = none

lemma digitsValue_concat (letters : List Char) (letter : Char) :
  digitsValue radix (letters ++ [letter]) =
    radix * digitsValue radix letters + (digitValue radix letter).getD 0 :=
  List.foldl_concat _ _ _ _

lemma digitValue_lt {radix digit : ℕ} {letter : Char}
  (isDigit : digitValue radix letter = some digit) : digit < radix := by
  rw [digitValue, filter_eq_some_iff] at isDigit
  exact of_decide_eq_true isDigit.2

lemma digitValue_digitChar {radix digit : ℕ} (small : digit < radix) (few : radix ≤ 16) :
  digitValue radix (digitChar digit) = some digit := by
  have value : ∀ digit < 16, digitValue 16 (digitChar digit) = some digit := by decide
  have sixteen := value digit (small.trans_le few)
  rw [digitValue, filter_eq_some_iff] at sixteen ⊢
  exact ⟨sixteen.1, decide_eq_true small⟩

lemma digitChar_digitValue {digit : ℕ} {letter : Char}
  (isDigit : digitValue 10 letter = some digit) : digitChar digit = letter := by
  have small := digitValue_lt isDigit
  rw [digitValue, filter_eq_some_iff] at isDigit
  have known := isDigit.1
  split_ifs at known with decimal lower upper
  · obtain ⟨least, most⟩ := Char.isDigit_iff_toNat.mp decimal
    change 48 ≤ letter.toNat at least
    apply Char.toNat_inj.mp
    rw [toNat_digitChar_of_lt_ten small]
    cases known
    omega
  · have least : 97 ≤ letter.toNat := lower.1
    cases known
    omega
  · have least : 65 ≤ letter.toNat := upper.1
    cases known
    omega

lemma isSome_digitValue_of_ten {letter : Char} (isDigit : (digitValue 10 letter).isSome) :
  (digitValue 16 letter).isSome := by
  obtain ⟨digit, value⟩ := isSome_iff_exists.mp isDigit
  have small := digitValue_lt value
  rw [digitValue, filter_eq_some_iff] at value
  have known : digitValue 16 letter = some digit := by
    rw [digitValue, filter_eq_some_iff]
    exact ⟨value.1, decide_eq_true (by omega)⟩
  rw [known]
  rfl

lemma digit_range {radix : ℕ} {letter : Char} (isDigit : (digitValue radix letter).isSome) :
  48 ≤ letter.toNat ∧ letter.toNat ≤ 57 ∨ 97 ≤ letter.toNat ∧ letter.toNat ≤ 102 ∨
    65 ≤ letter.toNat ∧ letter.toNat ≤ 70 := by
  obtain ⟨digit, value⟩ := isSome_iff_exists.mp isDigit
  rw [digitValue, filter_eq_some_iff] at value
  have known := value.1
  split_ifs at known with decimal lower upper
  · exact .inl (Char.isDigit_iff_toNat.mp decimal)
  · exact .inr (.inl lower)
  · exact .inr (.inr upper)

section ToDigits

variable {radix : ℕ} (large : 1 < radix) (few : radix ≤ 16)

include large few

lemma toDigits_spec (number : ℕ) :
  (∀ letter ∈ toDigits radix number, (digitValue radix letter).isSome) ∧
    digitsValue radix (toDigits radix number) = number := by
  induction number using Nat.strong_induction_on with
  | _ number ih =>
    by_cases small : number < radix
    · have last := digitValue_digitChar small few
      rw [toDigits_of_lt_base small, digitsValue, foldl_cons, foldl_nil, last]
      exact ⟨by simp [last], by simp⟩
    · have smaller := Nat.div_lt_self (zero_lt_of_lt (Nat.lt_of_lt_of_le large
        (Nat.not_lt.mp small))) large
      obtain ⟨areDigits, value⟩ := ih _ smaller
      have last := digitValue_digitChar (mod_lt number (zero_lt_of_lt large)) few
      rw [toDigits_of_base_le large (Nat.not_lt.mp small), digitsValue_concat, value, last]
      refine ⟨fun letter among => ?_, div_add_mod number radix⟩
      rcases mem_append.mp among with earlier | isLast
      · exact areDigits letter earlier
      · rw [List.mem_singleton.mp isLast, last]
        rfl

lemma noLeadingZero_toDigits (number : ℕ) : NoLeadingZero (toDigits radix number) := by
  induction number using Nat.strong_induction_on with
  | _ number ih =>
    by_cases small : number < radix
    · rw [toDigits_of_lt_base small]
      exact fun zero => absurd zero.2 (by simp)
    · have smaller := Nat.div_lt_self (zero_lt_of_lt (Nat.lt_of_lt_of_le large
        (Nat.not_lt.mp small))) large
      have positive := Nat.div_pos (Nat.not_lt.mp small) (zero_lt_of_lt large)
      have value := (toDigits_spec large few (number / radix)).2
      rw [toDigits_of_base_le large (Nat.not_lt.mp small)]
      rintro ⟨head, -⟩
      rw [List.head?_append_of_ne_nil _ toDigits_ne_nil] at head
      have one : (toDigits radix (number / radix)).length ≤ 1 :=
        Nat.not_lt.mp fun more => ih _ smaller ⟨head, more⟩
      obtain ⟨rest, digits⟩ := List.head?_eq_some_iff.mp head
      rw [digits, length_cons] at one
      have alone : rest = [] := List.eq_nil_of_length_eq_zero (by omega)
      rw [digits, alone] at value
      have zero : digitValue radix '0' = some 0 :=
        digitValue_digitChar (zero_lt_of_lt large) few
      rw [digitsValue, foldl_cons, foldl_nil, zero] at value
      exact absurd value (by simp; omega)

end ToDigits

lemma toDigits_append {letters : List Char}
  (areDigits : ∀ letter ∈ letters, (digitValue 10 letter).isSome) {start : ℕ} (pos : 0 < start) :
  toDigits 10 start ++ letters = toDigits 10 (letters.foldl
    (fun value letter => 10 * value + (digitValue 10 letter).getD 0) start) := by
  induction letters generalizing start with
  | nil => rw [append_nil, foldl_nil]
  | cons letter letters ih =>
    rw [forall_mem_cons] at areDigits
    obtain ⟨digit, isDigit⟩ := isSome_iff_exists.mp areDigits.1
    have further := toDigits_append_toDigits (by decide : 1 < 10) pos (digitValue_lt isDigit)
    rw [toDigits_of_lt_base (digitValue_lt isDigit), digitChar_digitValue isDigit] at further
    rw [foldl_cons, isDigit, getD_some, ← ih areDigits.2 (by omega),
      ← further, List.append_assoc, List.singleton_append]

lemma toDigits_digitsValue {letters : List Char} (nonempty : letters ≠ [])
  (areDigits : ∀ letter ∈ letters, (digitValue 10 letter).isSome)
  (noLeadingZero : NoLeadingZero letters) :
  toDigits 10 (digitsValue 10 letters) = letters := by
  cases letters with
  | nil => exact absurd rfl nonempty
  | cons letter letters =>
    rw [forall_mem_cons] at areDigits
    obtain ⟨digit, isDigit⟩ := isSome_iff_exists.mp areDigits.1
    have first : toDigits 10 digit = [letter] := by
      rw [toDigits_of_lt_base (digitValue_lt isDigit), digitChar_digitValue isDigit]
    rw [digitsValue, foldl_cons, isDigit, getD_some, Nat.mul_zero, Nat.zero_add]
    rcases Nat.eq_zero_or_pos digit with rfl | pos
    · cases letters with
      | nil => exact first
      | cons next letters =>
        have zero : letter = '0' := (List.singleton_inj.mp first).symm
        exact absurd ⟨congrArg some zero, by simp⟩ noLeadingZero
    · rw [← toDigits_append areDigits.2 pos, first, List.singleton_append]

section ReadNumber

variable {radix maxDigits bound number : ℕ} {allowZeroPrefix : Bool} {text rest : List Char}

lemma takeWhile_digits_append {digits : List Char} (ends : EndsDigits radix rest)
  (areDigits : ∀ letter ∈ digits, (digitValue radix letter).isSome) :
  (digits ++ rest).takeWhile (fun letter => (digitValue radix letter).isSome) = digits := by
  rw [List.takeWhile_append_of_pos areDigits]
  cases rest with
  | nil => rw [List.takeWhile_nil, append_nil]
  | cons letter rest =>
    have notDigit := ends letter rfl
    rw [List.takeWhile_cons, notDigit, isSome_none, if_neg Bool.false_ne_true, append_nil]

lemma readNumber_toDigits (large : 1 < radix) (few : radix ≤ 16) (pos : 0 < maxDigits)
  (short : number < radix ^ maxDigits) (small : number < bound) (ends : EndsDigits radix rest) :
  readNumber radix maxDigits bound allowZeroPrefix (toDigits radix number ++ rest) =
    some (number, rest) := by
  obtain ⟨areDigits, value⟩ := toDigits_spec large few number
  have length := (length_toDigits_le_iff large pos).mpr short
  have noZero := noLeadingZero_toDigits large few number
  rw [readNumber]
  simp only [takeWhile_digits_append ends areDigits]
  rw [if_neg (not_or.mpr ⟨toDigits_ne_nil, Nat.not_lt.mpr length⟩),
    if_neg fun zeroPrefix => noZero zeroPrefix.2]
  rw [digitsValue] at value
  rw [value, if_pos small, List.drop_left]

lemma eq_of_readNumber (answer : readNumber 10 maxDigits bound false text = some (number, rest)) :
  number < bound ∧ text = toDigits 10 number ++ rest := by
  rw [readNumber] at answer
  split at answer
  case isTrue => cases answer
  case isFalse lengths =>
    split at answer
    case isTrue => cases answer
    case isFalse noZero =>
      split at answer
      case isFalse => cases answer
      case isTrue small =>
        cases answer
        refine ⟨small, ?_⟩
        have areDigits : ∀ letter ∈ text.takeWhile fun letter => (digitValue 10 letter).isSome,
            (digitValue 10 letter).isSome := fun letter among =>
          @List.mem_takeWhile_imp _ (fun letter => (digitValue 10 letter).isSome) _ _ among
        have digits := toDigits_digitsValue (not_or.mp lengths).1 areDigits
          fun zero => noZero ⟨rfl, zero⟩
        rw [digitsValue] at digits
        rw [digits]
        exact (List.prefix_iff_eq_append.mp (List.takeWhile_prefix _)).symm

end ReadNumber

/-- Decimal numbers with full stops between them; the first has one before it as well, unless it
begins the text. -/
def dotted : Bool → List ℕ → List Char
  | _, [] => []
  | first, octet :: octets =>
    (if first then [] else ['.']) ++ (toDigits 10 octet ++ dotted false octets)

def ipv4Octets (addr : UInt32) : List ℕ :=
  [addr.toNat / 2 ^ 24, addr.toNat / 2 ^ 16 % 256, addr.toNat / 2 ^ 8 % 256, addr.toNat % 256]

def showIpv4 (addr : UInt32) : String := ofList (dotted true (ipv4Octets addr))

lemma afterSeparator_eq_some {separator : Char} {first : Bool} {text start : List Char} :
  afterSeparator separator first text = some start ↔
    text = (if first then [] else [separator]) ++ start := by
  cases first with
  | true => simp [afterSeparator]
  | false =>
    cases text with
    | nil => simp [afterSeparator]
    | cons letter rest =>
      rw [afterSeparator]
      simp only [Bool.false_eq_true, if_false]
      split
      case isTrue same => simp [same]
      case isFalse other => simp [other]

lemma endsDigits_dotted {octets : List ℕ} {rest : List Char} (ends : EndsDigits 10 rest) :
  EndsDigits 10 (dotted false octets ++ rest) := by
  cases octets with
  | nil => exact ends
  | cons octet octets =>
    intro letter isHead
    cases isHead
    decide

lemma readIpv4Octets_dotted {octets : List ℕ} (small : ∀ octet ∈ octets, octet < 256)
  (first : Bool) {rest : List Char} (ends : EndsDigits 10 rest) :
  readIpv4Octets octets.length first (dotted first octets ++ rest) = some (octets, rest) := by
  induction octets generalizing first with
  | nil => rfl
  | cons octet octets ih =>
    rw [forall_mem_cons] at small
    have start : afterSeparator '.' first (dotted first (octet :: octets) ++ rest) =
        some (toDigits 10 octet ++ (dotted false octets ++ rest)) :=
      afterSeparator_eq_some.mpr (by rw [dotted, List.append_assoc, List.append_assoc])
    have number : readNumber 10 3 256 false
        (toDigits 10 octet ++ (dotted false octets ++ rest)) =
          some (octet, dotted false octets ++ rest) :=
      readNumber_toDigits (by decide) (by decide) (by decide) (by omega) small.1
        (endsDigits_dotted ends)
    simp only [length_cons, readIpv4Octets, start, number, ih small.2 false,
      bind_eq_bind, bind_some]
    rfl

lemma eq_of_readIpv4Octets {left : ℕ} {first : Bool} {text rest : List Char} {octets : List ℕ}
  (answer : readIpv4Octets left first text = some (octets, rest)) :
  octets.length = left ∧ (∀ octet ∈ octets, octet < 256) ∧
    text = dotted first octets ++ rest := by
  induction left generalizing first text octets with
  | zero =>
    cases answer
    exact ⟨rfl, nofun, rfl⟩
  | succ left ih =>
    rw [readIpv4Octets] at answer
    simp only [bind_eq_bind, bind_eq_some_iff] at answer
    obtain ⟨start, began, octet, number, others, further, same⟩ := answer
    cases same
    obtain ⟨small, digits⟩ := eq_of_readNumber number
    obtain ⟨length, smalls, more⟩ := ih further
    refine ⟨congrArg Nat.succ length, forall_mem_cons.mpr ⟨small, smalls⟩, ?_⟩
    rw [afterSeparator_eq_some.mp began, digits, more, dotted, List.append_assoc, List.append_assoc]

def ipv4OfOctets (octets : List ℕ) : UInt32 :=
  UInt32.ofNat (octets.foldl (fun value octet => 256 * value + octet) 0)

lemma ipv4OfOctets_ipv4Octets (addr : UInt32) : ipv4OfOctets (ipv4Octets addr) = addr := by
  have small := addr.toNat_lt
  have value : (ipv4Octets addr).foldl (fun value octet => 256 * value + octet) 0 = addr.toNat := by
    simp only [ipv4Octets, foldl_cons, foldl_nil]
    omega
  rw [ipv4OfOctets, value, UInt32.ofNat_toNat]

lemma ipv4Octets_lt (addr : UInt32) : ∀ octet ∈ ipv4Octets addr, octet < 256 := by
  have small := addr.toNat_lt
  simp only [ipv4Octets, forall_mem_cons, List.not_mem_nil, false_imp_iff, implies_true,
    and_true]
  omega

lemma ipv4Octets_ipv4OfOctets {octets : List ℕ} (length : octets.length = 4)
  (small : ∀ octet ∈ octets, octet < 256) : ipv4Octets (ipv4OfOctets octets) = octets := by
  obtain ⟨first, second, third, fourth, rfl⟩ := List.length_eq_four.mp length
  simp only [forall_mem_cons, List.not_mem_nil, false_imp_iff, implies_true, and_true] at small
  have value : (ipv4OfOctets [first, second, third, fourth]).toNat =
      256 * (256 * (256 * first + second) + third) + fourth := by
    rw [ipv4OfOctets, UInt32.toNat_ofNat_of_lt']
    · simp
    · simp only [foldl_cons, foldl_nil, UInt32.size]
      omega
  rw [ipv4Octets, value]
  refine cons_eq_cons.mpr ⟨?_, cons_eq_cons.mpr ⟨?_, cons_eq_cons.mpr ⟨?_,
    cons_eq_cons.mpr ⟨?_, rfl⟩⟩⟩⟩ <;> omega

lemma eq_of_parseIpv4 {text : String} {addr : UInt32} (parsed : parseIpv4 text = some addr) :
  text = showIpv4 addr := by
  rw [parseIpv4] at parsed
  split at parsed
  case isTrue => cases parsed
  case isFalse =>
    split at parsed
    case h_2 => cases parsed
    case h_1 octets read =>
      cases parsed
      obtain ⟨length, small, letters⟩ := eq_of_readIpv4Octets read
      rw [append_nil] at letters
      change text = showIpv4 (ipv4OfOctets octets)
      rw [showIpv4, ipv4Octets_ipv4OfOctets length small, ← letters, ofList_toList]

lemma parseIpv4_injective {text other : String} {addr : UInt32}
  (parsed : parseIpv4 text = some addr) (otherParsed : parseIpv4 other = some addr) :
  text = other :=
  (eq_of_parseIpv4 parsed).trans (eq_of_parseIpv4 otherParsed).symm

lemma utf8ByteSize_ofList {letters : List Char}
  (ascii : ∀ letter ∈ letters, letter.utf8Size = 1) :
  (ofList letters).utf8ByteSize = letters.length := by
  induction letters with
  | nil => rfl
  | cons letter letters ih =>
    rw [forall_mem_cons] at ascii
    rw [ofList_cons, utf8ByteSize_append, utf8ByteSize_singleton, ascii.1,
      ih ascii.2, length_cons, Nat.add_comm]

lemma utf8Size_of_lt {letter : Char} (small : letter.toNat < 128) : letter.utf8Size = 1 :=
  Char.utf8Size_eq_one_iff.mpr (Nat.lt_succ_iff.mp small)

lemma mem_dotted {first : Bool} {octets : List ℕ} {letter : Char}
  (among : letter ∈ dotted first octets) : letter = '.' ∨ (digitValue 10 letter).isSome := by
  induction octets generalizing first with
  | nil => cases among
  | cons octet octets ih =>
    rw [dotted, mem_append, mem_append] at among
    rcases among with separator | digit | later
    · cases first with
      | true => cases separator
      | false => exact .inl (List.mem_singleton.mp separator)
    · exact .inr ((toDigits_spec (by decide) (by decide) octet).1 letter digit)
    · exact ih later

lemma length_dotted {octet : ℕ} {octets : List ℕ}
  (small : ∀ other ∈ octet :: octets, other < 256) :
  (dotted true (octet :: octets)).length ≤ 4 * octets.length + 3 := by
  induction octets generalizing octet with
  | nil =>
    have digits := (@length_toDigits_le_iff 10 octet 3 (by decide) (by decide)).mpr
      (by have bound := small octet List.mem_cons_self; omega)
    simpa [dotted] using digits
  | cons next octets ih =>
    rw [forall_mem_cons] at small
    have digits := (@length_toDigits_le_iff 10 octet 3 (by decide) (by decide)).mpr
      (by have bound := small.1; omega)
    have others := ih small.2
    simp only [dotted, List.length_append, length_cons, List.length_nil,
      Bool.false_eq_true, if_false, if_true] at others ⊢
    omega

lemma parseIpv4_showIpv4 (addr : UInt32) : parseIpv4 (showIpv4 addr) = some addr := by
  have small := ipv4Octets_lt addr
  have ascii : ∀ letter ∈ dotted true (ipv4Octets addr), letter.utf8Size = 1 := by
    intro letter among
    rcases mem_dotted among with rfl | isDigit
    · decide
    · exact utf8Size_of_lt (by have range := digit_range isDigit; omega)
  have short : (dotted true (ipv4Octets addr)).length ≤ 15 := length_dotted small
  have read : readIpv4 (dotted true (ipv4Octets addr)) = some (ipv4Octets addr, []) := by
    have back := readIpv4Octets_dotted small true (nofun : EndsDigits 10 [])
    rwa [append_nil] at back
  rw [parseIpv4, showIpv4, utf8ByteSize_ofList ascii, if_neg (Nat.not_lt.mpr short),
    toList_ofList, read]
  exact congrArg some (ipv4OfOctets_ipv4Octets addr)

def octetPairs : List UInt8 → List ℕ
  | high :: low :: rest => (256 * high.toNat + low.toNat) :: octetPairs rest
  | _ => []

def segments : List ℕ := octetPairs addr.toList

/-- The longest run of zeros and where it starts, the first of several, and the run that goes on
at the end. -/
def zeroRuns : List ℕ → ℕ → (ℕ × ℕ) × (ℕ × ℕ) → (ℕ × ℕ) × (ℕ × ℕ)
  | [], _, spans => spans
  | segment :: rest, place, (longest, current) =>
    if segment = 0 then
      let current := (if current.2 = 0 then place else current.1, current.2 + 1)
      zeroRuns rest (place + 1) (if longest.2 < current.2 then current else longest, current)
    else zeroRuns rest (place + 1) (longest, (0, 0))

def colons : Bool → List ℕ → List Char
  | _, [] => []
  | first, segment :: rest =>
    (if first then [] else [':']) ++ (toDigits 16 segment ++ colons false rest)

def showIpv6 : String :=
  let groups := segments addr
  if groups.take 6 = [0, 0, 0, 0, 0, 0xFFFF] then
    ofList ("::ffff:".toList ++ dotted true ((addr.toList.drop 12).map UInt8.toNat))
  else
    let zeroes := (zeroRuns groups 0 ((0, 0), (0, 0))).1
    if 1 < zeroes.2 then
      ofList (colons true (groups.take zeroes.1) ++ "::".toList ++
        colons true (groups.drop (zeroes.1 + zeroes.2)))
    else ofList (colons true groups)

def StopsGroups (rest : List Char) : Prop := rest = [] ∨ ∃ more, rest = ':' :: ':' :: more

def StartsColon (text : List Char) : Prop := text = [] ∨ ∃ more, text = ':' :: more

lemma StopsGroups.startsColon {rest : List Char} (stops : StopsGroups rest) :
  StartsColon rest := by
  rcases stops with rfl | ⟨more, rfl⟩
  · exact .inl rfl
  · exact .inr ⟨_, rfl⟩

lemma StartsColon.endsDigits {text : List Char} (starts : StartsColon text) :
  EndsDigits 16 text := by
  rcases starts with rfl | ⟨more, rfl⟩
  · exact nofun
  · intro letter isHead
    cases isHead
    decide

lemma startsColon_colons {segments : List ℕ} {rest : List Char} (starts : StartsColon rest) :
  StartsColon (colons false segments ++ rest) := by
  cases segments with
  | nil => exact starts
  | cons segment segments => exact .inr ⟨_, rfl⟩

lemma startsColon_of_afterSeparator {first : Bool} {rest start : List Char}
  (stops : StopsGroups rest) (began : afterSeparator ':' first rest = some start) :
  StartsColon start := by
  rcases stops with rfl | ⟨more, rfl⟩
  · cases first with
    | true => cases began; exact .inl rfl
    | false => cases began
  · cases first with
    | true | false => cases began; exact .inr ⟨_, rfl⟩

lemma readIpv4_eq_none {digits more : List Char}
  (areDigits : ∀ letter ∈ digits, (digitValue 16 letter).isSome) (starts : StartsColon more) :
  readIpv4 (digits ++ more) = none := by
  rw [eq_none_iff_forall_ne_some]
  rintro ⟨octets, rest⟩ read
  obtain ⟨length, -, text⟩ := eq_of_readIpv4Octets read
  match octets with
  | first :: second :: others =>
    have stops : EndsDigits 16 ('.' :: (toDigits 10 second ++ dotted false others ++ rest)) :=
      fun letter isHead => by cases isHead; decide
    have firstDigits : ∀ letter ∈ toDigits 10 first, (digitValue 16 letter).isSome :=
      fun letter among => isSome_digitValue_of_ten
        ((toDigits_spec (by decide) (by decide) first).1 letter among)
    have whole : dotted true (first :: second :: others) ++ rest = toDigits 10 first ++
        '.' :: (toDigits 10 second ++ dotted false others ++ rest) := by
      simp [dotted]
    rw [whole] at text
    have same := congrArg (List.takeWhile fun letter => (digitValue 16 letter).isSome) text
    rw [takeWhile_digits_append starts.endsDigits areDigits,
      takeWhile_digits_append stops firstDigits] at same
    rw [same] at text
    rcases starts with rfl | ⟨_, rfl⟩
    · cases List.append_cancel_left text
    · cases List.append_cancel_left text

lemma readNumber_eq_none {text : List Char} (starts : StartsColon text) :
  readNumber 16 4 65536 true text = none := by
  have noDigits := takeWhile_digits_append starts.endsDigits (@List.forall_mem_nil _ _)
  rw [List.nil_append] at noDigits
  rw [readNumber]
  simp only [noDigits]
  rw [if_pos (.inl trivial)]

lemma readIpv6Groups_colons {segments : List ℕ} (small : ∀ segment ∈ segments, segment < 65536)
  (first : Bool) {rest : List Char} (stops : StopsGroups rest) {left : ℕ}
  (enough : segments.length ≤ left) :
  readIpv6Groups left first (colons first segments ++ rest) = (segments, false, rest) := by
  induction segments generalizing first left with
  | nil =>
    cases left with
    | zero => rfl
    | succ left =>
      have noIpv4 : (afterSeparator ':' first rest).bind readIpv4 = none :=
        bind_eq_none_iff.mpr fun start began =>
          readIpv4_eq_none (@List.forall_mem_nil _ _) (startsColon_of_afterSeparator stops began)
      have noGroup : (afterSeparator ':' first rest).bind (readNumber 16 4 65536 true) = none :=
        bind_eq_none_iff.mpr fun start began =>
          readNumber_eq_none (startsColon_of_afterSeparator stops began)
      rw [colons, List.nil_append, readIpv6Groups, noIpv4, ite_self, noGroup]
  | cons segment segments ih =>
    rw [forall_mem_cons] at small
    obtain ⟨left, rfl⟩ : ∃ fewer, left = fewer + 1 :=
      ⟨left - 1, by rw [length_cons] at enough; omega⟩
    have start : afterSeparator ':' first (colons first (segment :: segments) ++ rest) =
        some (toDigits 16 segment ++ (colons false segments ++ rest)) :=
      afterSeparator_eq_some.mpr (by rw [colons, List.append_assoc, List.append_assoc])
    have starts := @startsColon_colons segments _ stops.startsColon
    have noIpv4 : readIpv4 (toDigits 16 segment ++ (colons false segments ++ rest)) = none :=
      readIpv4_eq_none (toDigits_spec (by decide) le_rfl segment).1 starts
    have group : readNumber 16 4 65536 true
        (toDigits 16 segment ++ (colons false segments ++ rest)) =
          some (segment, colons false segments ++ rest) :=
      readNumber_toDigits (by decide) le_rfl (by decide) (by omega) small.1 starts.endsDigits
    rw [readIpv6Groups, start, bind_some, noIpv4, ite_self, bind_some, group]
    dsimp only
    rw [ih small.2 false (by rw [length_cons] at enough; omega)]

def ZeroRun (groups : List ℕ) (span : ℕ × ℕ) : Prop :=
  ∀ place, span.1 ≤ place → place < span.1 + span.2 → groups[place]? = some 0

lemma zeroRun_zero (groups : List ℕ) (start : ℕ) : ZeroRun groups (start, 0) :=
  fun _ least below => absurd below (Nat.not_lt.mpr least)

lemma zeroRun_zeroRuns {groups : List ℕ} (rest : List ℕ) (place : ℕ)
  (spans : (ℕ × ℕ) × (ℕ × ℕ)) (left : groups.drop place = rest)
  (longest : ZeroRun groups spans.1) (current : ZeroRun groups spans.2)
  (ends : spans.2.2 = 0 ∨ spans.2.1 + spans.2.2 = place) :
  ZeroRun groups (zeroRuns rest place spans).1 := by
  induction rest generalizing place spans with
  | nil => exact longest
  | cons segment rest ih =>
    obtain ⟨⟨start, len⟩, ⟨begin', run⟩⟩ := spans
    have here : groups[place]? = some segment := by
      rw [← List.head?_drop, left]
      rfl
    have next : groups.drop (place + 1) = rest := by
      rw [← List.drop_drop, left]
      rfl
    rw [zeroRuns]
    split
    case isTrue isZero =>
      have longer : ZeroRun groups ((if run = 0 then place else begin'), run + 1) := by
        intro other least below
        dsimp only at least below ends
        rcases Nat.lt_or_ge other place with before | after
        · by_cases none' : run = 0
          · rw [if_pos none'] at least
            omega
          · rw [if_neg none'] at least
            exact current other least (by dsimp only; omega)
        · have same : other = place := by
            split_ifs at below <;> omega
          rw [same, here, isZero]
      refine ih _ _ next ?_ longer (.inr ?_)
      · dsimp only
        split
        · exact longer
        · exact longest
      · dsimp only at ends ⊢
        split <;> omega
    case isFalse =>
      exact ih _ _ next longest (zeroRun_zero groups 0) (.inl rfl)

lemma eq_of_zeroRun {groups : List ℕ} {span : ℕ × ℕ} (zeros : ZeroRun groups span)
  (pos : 0 < span.2) : span.1 + span.2 ≤ groups.length ∧
    groups = groups.take span.1 ++ List.replicate span.2 0 ++ groups.drop (span.1 + span.2) := by
  obtain ⟨start, len⟩ := span
  have last := zeros (start + len - 1) (by dsimp only; omega) (by dsimp only; omega)
  have inside : start + len ≤ groups.length := by
    have bound := (List.getElem?_eq_some_iff.mp last).1
    omega
  refine ⟨inside, ?_⟩
  have middle : (groups.drop start).take len = List.replicate len 0 := by
    refine List.ext_getElem? fun place => ?_
    rw [List.getElem?_take, List.getElem?_drop, List.getElem?_replicate]
    split
    case isTrue below => exact zeros (start + place) (Nat.le_add_right _ _) (by dsimp only; omega)
    case isFalse => rfl
  rw [← middle, List.append_assoc, ← List.drop_drop, List.take_append_drop, List.take_append_drop]

lemma length_octetPairs {octets : List UInt8} {count : ℕ} (even : octets.length = 2 * count) :
  (octetPairs octets).length = count := by
  induction count generalizing octets with
  | zero =>
    rw [List.eq_nil_of_length_eq_zero even]
    rfl
  | succ count ih =>
    match octets with
    | high :: low :: rest =>
      have fewer : rest.length = 2 * count := by
        simp only [length_cons] at even
        omega
      rw [octetPairs, length_cons, ih fewer]

lemma octetPairs_lt (octets : List UInt8) : ∀ number ∈ octetPairs octets, number < 65536 := by
  fun_induction octetPairs octets with
  | case1 high low rest ih =>
    have highLt := high.toNat_lt
    have lowLt := low.toNat_lt
    exact forall_mem_cons.mpr ⟨by omega, ih⟩
  | case2 => exact nofun

lemma flatMap_octetPairs {octets : List UInt8} {count : ℕ} (even : octets.length = 2 * count) :
  (octetPairs octets).flatMap
      (fun group => [UInt8.ofNat (group / 256), UInt8.ofNat (group % 256)]) = octets := by
  induction count generalizing octets with
  | zero =>
    rw [List.eq_nil_of_length_eq_zero even]
    rfl
  | succ count ih =>
    match octets with
    | high :: low :: rest =>
      have fewer : rest.length = 2 * count := by
        simp only [length_cons] at even
        omega
      have lowLt := low.toNat_lt
      have front : (256 * high.toNat + low.toNat) / 256 = high.toNat := by omega
      have back : (256 * high.toNat + low.toNat) % 256 = low.toNat := by omega
      rw [octetPairs, List.flatMap_cons, ih fewer, front, back,
        UInt8.ofNat_toNat, UInt8.ofNat_toNat]
      rfl

lemma parseIpv6_of_segments {text : String} {addr : Vector UInt8 16}
  (read : readIpv6 text.toList = some (segments addr, [])) : parseIpv6 text = some addr := by
  have octets := flatMap_octetPairs (show addr.toList.length = 2 * 8 from addr.length_toList)
  rw [parseIpv6, read]
  dsimp only
  rw [segments, octets, exactOctets_toList]

lemma readIpv6_colons {groups : List ℕ} (small : ∀ group ∈ groups, group < 65536)
  (length : groups.length = 8) : readIpv6 (colons true groups) = some (groups, []) := by
  have read := readIpv6Groups_colons small true (.inl rfl) length.le
  rw [append_nil] at read
  rw [readIpv6, read]
  exact if_pos length

lemma readIpv6_zeros {front back : List ℕ} (frontSmall : ∀ group ∈ front, group < 65536)
  (backSmall : ∀ group ∈ back, group < 65536) (missing : front.length + back.length < 8) :
  readIpv6 (colons true front ++ "::".toList ++ colons true back) =
    some (front ++ List.replicate (8 - front.length - back.length) 0 ++ back, []) := by
  have head : readIpv6Groups 8 true (colons true front ++ ':' :: ':' :: colons true back) =
      (front, false, ':' :: ':' :: colons true back) :=
    readIpv6Groups_colons frontSmall true (.inr ⟨_, rfl⟩) (by omega)
  have tail : readIpv6Groups (7 - front.length) true (colons true back) = (back, false, []) := by
    have read := readIpv6Groups_colons backSmall true (.inl rfl)
      (show back.length ≤ 7 - front.length by omega)
    rwa [append_nil] at read
  rw [List.append_assoc]
  change readIpv6 (colons true front ++ ':' :: ':' :: colons true back) = _
  rw [readIpv6, head]
  dsimp only
  rw [if_neg (by omega), if_neg Bool.false_ne_true]
  simp only [tail]

lemma readIpv6_mapped {octets : List UInt8} (length : octets.length = 4) :
  readIpv6 ("::ffff:".toList ++ dotted true (octets.map UInt8.toNat)) =
    some ([0, 0, 0, 0, 0, 0xFFFF] ++ octetPairs octets, []) := by
  have small : ∀ octet ∈ octets.map UInt8.toNat, octet < 256 := by
    intro octet among
    obtain ⟨own, -, rfl⟩ := List.mem_map.mp among
    exact own.toNat_lt
  match octets with
  | [first, second, third, fourth] =>
    generalize written : dotted true ([first, second, third, fourth].map UInt8.toNat) = text
    have address : readIpv4 text = some ([first, second, third, fourth].map UInt8.toNat, []) := by
      have back := readIpv4Octets_dotted small true (nofun : EndsDigits 10 [])
      rwa [append_nil, written] at back
    have group : readNumber 16 4 65536 true ("ffff".toList ++ ':' :: text) =
        some (0xFFFF, ':' :: text) :=
      @readNumber_toDigits 16 4 65536 0xFFFF true (':' :: text) (by decide) le_rfl (by decide)
        (by decide) (by decide) (StartsColon.endsDigits (.inr ⟨text, rfl⟩))
    have noIpv4 : readIpv4 ("ffff".toList ++ ':' :: text) = none :=
      readIpv4_eq_none (List.all_eq_true.mp rfl) (.inr ⟨text, rfl⟩)
    have last : readIpv6Groups 6 false (':' :: text) =
        ([256 * first.toNat + second.toNat, 256 * third.toNat + fourth.toNat], true, []) := by
      have start : afterSeparator ':' false (':' :: text) = some text := rfl
      rw [readIpv6Groups, start, bind_some, address]
      rfl
    have tail : readIpv6Groups 7 true ("ffff".toList ++ ':' :: text) =
        ([0xFFFF, 256 * first.toNat + second.toNat, 256 * third.toNat + fourth.toNat], true,
          []) := by
      have start : afterSeparator ':' true ("ffff".toList ++ ':' :: text) =
          some ("ffff".toList ++ ':' :: text) := rfl
      rw [readIpv6Groups, start, bind_some, noIpv4, ite_self, bind_some, group]
      dsimp only
      rw [last]
    have head : readIpv6Groups 8 true (':' :: ':' :: ("ffff".toList ++ ':' :: text)) =
        ([], false, ':' :: ':' :: ("ffff".toList ++ ':' :: text)) :=
      @readIpv6Groups_colons [] (List.forall_mem_nil _) true
        (':' :: ':' :: ("ffff".toList ++ ':' :: text)) (.inr ⟨_, rfl⟩) 8 (Nat.zero_le _)
    change readIpv6 (':' :: ':' :: ("ffff".toList ++ ':' :: text)) = _
    rw [readIpv6, head]
    dsimp only
    rw [if_neg (by decide), if_neg Bool.false_ne_true]
    simp only [List.length_nil, Nat.sub_zero, tail]
    rfl

lemma octetPairs_drop (octets : List UInt8) (count : ℕ) :
  octetPairs (octets.drop (2 * count)) = (octetPairs octets).drop count := by
  induction count generalizing octets with
  | zero => rfl
  | succ count ih =>
    match octets with
    | high :: low :: rest => exact ih rest
    | [last] => rw [List.drop_eq_nil_of_le (by simp; omega)]; rfl
    | [] => rfl

lemma parseIpv6_showIpv6 : parseIpv6 (showIpv6 addr) = some addr := by
  have length : (segments addr).length = 8 := length_octetPairs addr.length_toList
  have small : ∀ group ∈ segments addr, group < 65536 := octetPairs_lt addr.toList
  refine parseIpv6_of_segments ?_
  rw [showIpv6]
  dsimp only
  split
  case isTrue mapped =>
    have last : (addr.toList.drop 12).length = 4 := by rw [List.length_drop, addr.length_toList]
    rw [toList_ofList, readIpv6_mapped last, octetPairs_drop addr.toList 6, ← mapped]
    exact congrArg (fun groups => some (groups, [])) (List.take_append_drop 6 (segments addr))
  case isFalse =>
    have zeros : ZeroRun (segments addr) (zeroRuns (segments addr) 0 ((0, 0), (0, 0))).1 :=
      zeroRun_zeroRuns (segments addr) 0 ((0, 0), (0, 0)) rfl (zeroRun_zero _ _)
        (zeroRun_zero _ _) (.inl rfl)
    generalize (zeroRuns (segments addr) 0 ((0, 0), (0, 0))).1 = span at zeros ⊢
    split
    case isTrue several =>
      obtain ⟨inside, whole⟩ := eq_of_zeroRun zeros (zero_lt_of_lt several)
      have front : ((segments addr).take span.1).length = span.1 := by
        rw [List.length_take]
        omega
      have back : ((segments addr).drop (span.1 + span.2)).length = 8 - (span.1 + span.2) := by
        rw [List.length_drop, length]
      rw [length] at inside
      rw [toList_ofList, readIpv6_zeros
        (fun group among => small group (List.mem_of_mem_take among))
        (fun group among => small group (List.mem_of_mem_drop among)) (by omega), front, back,
        show 8 - span.1 - (8 - (span.1 + span.2)) = span.2 by omega, ← whole]
    case isFalse =>
      rw [toList_ofList, readIpv6_colons small length]

example : showIpv6 #v[0x20, 0x01, 0x0D, 0xB8, 0, 0, 0, 0, 0, 0, 0, 0, 0, 0, 0, 1] =
  "2001:db8::1" := by
  decide

def IsAddressLetter (letter : Char) : Prop :=
  letter = '.' ∨ letter = ':' ∨ (digitValue 16 letter).isSome

lemma IsAddressLetter.range {letter : Char} (isLetter : IsAddressLetter letter) :
  letter.toNat = 46 ∨ 48 ≤ letter.toNat ∧ letter.toNat ≤ 58 ∨
    97 ≤ letter.toNat ∧ letter.toNat ≤ 102 ∨ 65 ≤ letter.toNat ∧ letter.toNat ≤ 70 := by
  rcases isLetter with rfl | rfl | isDigit
  · decide
  · decide
  · have digits := digit_range isDigit
    omega

lemma isAddressLetter_of_mem_dotted {first : Bool} {octets : List ℕ} {letter : Char}
  (among : letter ∈ dotted first octets) : IsAddressLetter letter :=
  (mem_dotted among).imp_right fun isDigit => .inr (isSome_digitValue_of_ten isDigit)

lemma isAddressLetter_of_mem_colons {first : Bool} {groups : List ℕ} {letter : Char}
  (among : letter ∈ colons first groups) : IsAddressLetter letter := by
  induction groups generalizing first with
  | nil => cases among
  | cons group groups ih =>
    rw [colons, mem_append, mem_append] at among
    rcases among with separator | digit | later
    · cases first with
      | true => cases separator
      | false => exact .inr (.inl (List.mem_singleton.mp separator))
    · exact .inr (.inr ((toDigits_spec (by decide) (by decide) group).1 letter digit))
    · exact ih later

lemma isAddressLetter_of_mem_showIpv4 {addr : UInt32} {letter : Char}
  (among : letter ∈ (showIpv4 addr).toList) : IsAddressLetter letter := by
  rw [showIpv4, toList_ofList] at among
  exact isAddressLetter_of_mem_dotted among

lemma isAddressLetter_of_mem_showIpv6 {addr : Vector UInt8 16} {letter : Char}
  (among : letter ∈ (showIpv6 addr).toList) : IsAddressLetter letter := by
  rw [showIpv6] at among
  dsimp only at among
  split at among
  case isTrue =>
    rw [toList_ofList, mem_append] at among
    rcases among with start | later
    · have letters : "::ffff:".toList.all fun known => known = ':' ∨
        (digitValue 16 known).isSome := by
        decide
      exact .inr (of_decide_eq_true (List.all_eq_true.mp letters letter start))
    · exact isAddressLetter_of_mem_dotted later
  case isFalse =>
    split at among
    case isTrue =>
      rw [toList_ofList, mem_append, mem_append] at among
      rcases among with (front | colon) | back
      · exact isAddressLetter_of_mem_colons front
      · have letters : ∀ known ∈ "::".toList, known = ':' := by simp
        exact .inr (.inl (letters letter colon))
      · exact isAddressLetter_of_mem_colons back
    case isFalse =>
      rw [toList_ofList] at among
      exact isAddressLetter_of_mem_colons among

lemma colon_mem_showIpv6 : ':' ∈ (showIpv6 addr).toList := by
  have length : (segments addr).length = 8 := length_octetPairs addr.length_toList
  rw [showIpv6]
  dsimp only
  split
  case isTrue =>
    rw [toList_ofList]
    exact List.mem_append_left _ (by decide)
  case isFalse =>
    split
    case isTrue =>
      rw [toList_ofList]
      exact List.mem_append_left _ (List.mem_append_right _ (by decide))
    case isFalse =>
      rw [toList_ofList]
      generalize segments addr = groups at length
      match groups, length with
      | first :: second :: rest, _ => simp [colons]

lemma parseIpv4_showIpv6 : parseIpv4 (showIpv6 addr) = none := by
  by_contra parses
  obtain ⟨ipv4, parsed⟩ := ne_none_iff_exists'.mp parses
  have colon := colon_mem_showIpv6 addr
  rw [eq_of_parseIpv4 parsed, showIpv4, toList_ofList] at colon
  rcases mem_dotted colon with stop | isDigit
  · cases stop
  · have noDigit : digitValue 10 ':' = none := by decide
    rw [noDigit] at isDigit
    cases isDigit

end NextGCore.Sbi
