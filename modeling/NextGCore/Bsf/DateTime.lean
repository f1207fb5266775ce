import Mathlib.Data.Nat.Digits.Defs
import NextGCore.Bsf.Context
import NextGCore.Library.Calendar

/-!
# The date-times of RFC 3339

What a string denotes is said apart from how `rfc3339_to_epoch` reads it: a date of the calendar, a
time of day with a fraction and an offset, in the places of the text.  The numbers in these places
may have a sign, which a date-time has not; both are read the same way.
-/

namespace NextGCore.Bsf

open Crypt (Bytes)
open Library Sbi List Option Function Int

variable {width start : ℕ} {back : Bytes} {string : String}

structure DateTime where
  date : Date
  hour : ℕ
  minute : ℕ
  second : ℕ
  fraction : ℚ
  offset : ℤ
  hour_le : hour ≤ 23
  minute_le : minute ≤ 59
  second_le : second ≤ 60
  fraction_nonneg : 0 ≤ fraction
  fraction_lt : fraction < 1

def DateTime.unixTime (dateTime : DateTime) : ℚ :=
  86400 * dateTime.date.unixDay + 3600 * dateTime.hour + 60 * dateTime.minute + dateTime.second +
    dateTime.fraction - dateTime.offset

structure Digits where
  octets : Bytes
  nonempty : octets ≠ []
  areDigits : ∀ octet ∈ octets, isAsciiDigit octet

variable (digits : Digits)

def digitOf (octet : UInt8) : ℕ := octet.toNat - 48

def Digits.value : ℕ := Nat.ofDigits 10 (digits.octets.map digitOf).reverse

inductive Sign where
  | plus
  | minus

def Sign.octet : Sign → UInt8
  | plus => 43
  | minus => 45

def Sign.apply : Sign → ℤ → ℤ
  | plus, value => value
  | minus, value => -value

structure Numeral (width : ℕ) where
  sign : Option Sign
  digits : Digits
  length_eq : (sign.map Sign.octet).toList.length + digits.octets.length = width

namespace Numeral

variable {width : ℕ} (numeral : Numeral width)

def octets : Bytes := (numeral.sign.map Sign.octet).toList ++ numeral.digits.octets

def value : ℤ := numeral.sign.elim id Sign.apply numeral.digits.value

lemma length_octets : numeral.octets.length = width := by
  rw [octets, length_append, numeral.length_eq]

end Numeral

inductive Zone where
  | utc (letter : UInt8) (isZ : letter = 90 ∨ letter = 122)
  | offset (sign : Sign) (hours minutes : Numeral 2)

namespace Zone

def octets : Zone → Bytes
  | utc letter _ => [letter]
  | offset sign hours minutes => sign.octet :: (hours.octets ++ 58 :: minutes.octets)

def seconds : Zone → ℤ
  | utc .. => 0
  | offset sign hours minutes => sign.apply (hours.value * 3600 + minutes.value * 60)

def InRange : Zone → Prop
  | utc .. => True
  | offset _ hours minutes => hours.value ≤ 23 ∧ minutes.value ≤ 59

def Plain : Zone → Prop
  | utc .. => True
  | offset _ hours minutes => hours.sign = none ∧ minutes.sign = none

end Zone

variable {zone : Zone}

structure DateTimeText where
  year : Numeral 4
  month : Numeral 2
  day : Numeral 2
  separator : UInt8
  hour : Numeral 2
  minute : Numeral 2
  second : Numeral 2
  fraction : Option Digits
  zone : Zone
  isT : separator = 84 ∨ separator = 116

namespace DateTimeText

variable (text : DateTimeText)

def fractionOctets : Option Digits → Bytes
  | none => []
  | some digits => 46 :: digits.octets

def octets : Bytes :=
  text.year.octets ++ 45 :: (text.month.octets ++ 45 :: (text.day.octets ++ text.separator ::
    (text.hour.octets ++ 58 :: (text.minute.octets ++ 58 :: (text.second.octets ++
      (fractionOctets text.fraction ++ text.zone.octets))))))

/-- The numbers are in the ranges that are checked, whatever their signs and the month. -/
def InRange : Prop :=
  (1 ≤ text.month.value ∧ text.month.value ≤ 12) ∧ (1 ≤ text.day.value ∧ text.day.value ≤ 31) ∧
    text.hour.value ≤ 23 ∧ text.minute.value ≤ 59 ∧ text.second.value ≤ 60 ∧ text.zone.InRange

def Plain : Prop :=
  text.year.sign = none ∧ text.month.sign = none ∧ text.day.sign = none ∧ text.hour.sign = none ∧
    text.minute.sign = none ∧ text.second.sign = none ∧ text.zone.Plain

def DayExists : Prop :=
  text.day.value ≤ monthDays text.year.value.toNat text.month.value.toNat

def fractionValue : Option Digits → ℚ
  | none => 0
  | some digits => digits.value / 10 ^ digits.octets.length

def Reads (dateTime : DateTime) : Prop :=
  text.year.value = dateTime.date.year ∧ text.month.value = dateTime.date.month ∧
    text.day.value = dateTime.date.day ∧ text.hour.value = dateTime.hour ∧
    text.minute.value = dateTime.minute ∧ text.second.value = dateTime.second ∧
    fractionValue text.fraction = dateTime.fraction ∧ text.zone.InRange ∧
    text.zone.seconds = dateTime.offset

end DateTimeText

def Denotes (string : String) (dateTime : DateTime) : Prop :=
  ∃ text : DateTimeText, text.octets = asBytes string ∧ text.Plain ∧ text.Reads dateTime

lemma isAsciiDigit_iff {octet : UInt8} :
  isAsciiDigit octet ↔ 48 ≤ octet.toNat ∧ octet.toNat ≤ 57 := by
  rw [isAsciiDigit, Bool.and_eq_true, decide_eq_true_eq, decide_eq_true_eq]

lemma not_isAsciiDigit_sign (sign : Sign) : ¬ isAsciiDigit sign.octet := by
  cases sign <;> decide

def pushDigit (value : ℕ) (octet : UInt8) : Option ℕ :=
  if 48 ≤ octet.toNat ∧ octet.toNat ≤ 57 then some (10 * value + (octet.toNat - 48)) else none

lemma foldlM_pushDigit (octets : Bytes) (start value : ℕ) :
  octets.foldlM pushDigit start = some value ↔ (∀ octet ∈ octets, isAsciiDigit octet) ∧
    value = Nat.ofDigits 10 (octets.map digitOf).reverse + 10 ^ octets.length * start := by
  induction octets generalizing start with
  | nil =>
    have none : Nat.ofDigits 10 (([] : Bytes).map digitOf).reverse + 10 ^ 0 * start = start := by
      simp
    rw [length_nil, none]
    exact ⟨fun same => ⟨nofun, (Option.some.inj same).symm⟩, fun both => congrArg some both.2.symm⟩
  | cons octet octets ih =>
    rw [foldlM_cons, pushDigit, forall_mem_cons, isAsciiDigit_iff]
    split
    case isTrue isDigit =>
      rw [bind_eq_bind, bind_some, ih, map_cons,
        reverse_cons, Nat.ofDigits_append, Nat.ofDigits_singleton, length_reverse,
        length_map, length_cons, digitOf]
      refine and_congr ⟨fun others => ⟨isDigit, others⟩, And.right⟩ (Eq.congr_right ?_)
      ring
    case isFalse isNone => exact ⟨nofun, fun both => absurd both.1.1 isNone⟩

def readDigits (octets : Bytes) : Option ℕ :=
  if octets = [] then none else octets.foldlM pushDigit 0

lemma readDigits_eq_some {octets : Bytes} {value : ℕ} : readDigits octets = some value ↔
    ∃ digits : Digits, digits.octets = octets ∧ digits.value = value := by
  rw [readDigits]
  split
  case isTrue isEmpty =>
    refine ⟨nofun, fun ⟨digits, same, _⟩ => absurd (same.trans isEmpty) digits.nonempty⟩
  case isFalse nonempty =>
    rw [foldlM_pushDigit, Nat.mul_zero, Nat.add_zero]
    constructor
    · rintro ⟨areDigits, rfl⟩
      exact ⟨⟨octets, nonempty, areDigits⟩, rfl, rfl⟩
    · rintro ⟨digits, rfl, rfl⟩
      exact ⟨digits.areDigits, rfl⟩

lemma map_cast (number : Option ℕ) (apply : ℤ → ℤ) :
  (number >>= fun value => pure (value : ℤ)).map apply =
    number.map fun value : ℕ => apply value := by
  cases number <;> rfl

lemma parseI64_sign (sign : Sign) (octets : Bytes) : parseI64 (sign.octet :: octets) =
    (readDigits octets).map fun value : ℕ => sign.apply value := by
  rw [← map_cast]
  cases sign <;> rfl

lemma parseI64_of_ne {octets : Bytes} (unsigned : ∀ sign : Sign, octets.head? ≠ some sign.octet) :
  parseI64 octets = (readDigits octets).map fun value : ℕ => (value : ℤ) := by
  refine Eq.trans ?_ (map_cast (readDigits octets) id)
  rw [parseI64]
  · rfl
  · rintro rest rfl
    exact unsigned .plus rfl
  · rintro rest rfl
    exact unsigned .minus rfl

lemma Digits.head_ne (sign : Sign) : digits.octets.head? ≠ some sign.octet :=
  fun head => not_isAsciiDigit_sign sign (digits.areDigits _ (List.mem_of_mem_head? head))

lemma parseI64_eq_some {octets : Bytes} {value : ℤ} (size : octets.length = width) :
  parseI64 octets = some value ↔
    ∃ numeral : Numeral width, numeral.octets = octets ∧ numeral.value = value := by
  constructor
  · intro answer
    by_cases signed : ∃ sign : Sign, octets.head? = some sign.octet
    · obtain ⟨sign, head⟩ := signed
      obtain ⟨rest, rfl⟩ := List.head?_eq_some_iff.mp head
      rw [parseI64_sign, map_eq_some_iff] at answer
      obtain ⟨number, digitsRead, rfl⟩ := answer
      obtain ⟨digits, rfl, rfl⟩ := readDigits_eq_some.mp digitsRead
      exact ⟨⟨some sign, digits, (Nat.add_comm _ _).trans size⟩, rfl, rfl⟩
    · rw [parseI64_of_ne (not_exists.mp signed), map_eq_some_iff] at answer
      obtain ⟨number, digitsRead, rfl⟩ := answer
      obtain ⟨digits, rfl, rfl⟩ := readDigits_eq_some.mp digitsRead
      exact ⟨⟨none, digits, (Nat.zero_add _).trans size⟩, rfl, rfl⟩
  · rintro ⟨⟨sign, digits, _⟩, rfl, rfl⟩
    have digitsRead := readDigits_eq_some.mpr ⟨digits, rfl, rfl⟩
    cases sign with
    | none =>
      change parseI64 digits.octets = some (digits.value : ℤ)
      rw [parseI64_of_ne digits.head_ne, digitsRead, map_some]
    | some sign =>
      change parseI64 (sign.octet :: digits.octets) = some (sign.apply digits.value)
      rw [parseI64_sign, digitsRead, map_some]

lemma drop_of_append {octets front : Bytes} {size : ℕ}
  (starts : octets.drop start = front ++ back) (length : front.length = size) :
  octets.drop (start + size) = back := by
  rw [← drop_drop, starts, drop_left' length]

lemma drop_eq_cons_iff {octets : Bytes} {octet : UInt8} :
  octets[start]? = some octet ↔ octets.drop start = octet :: octets.drop (start + 1) := by
  rw [← List.head?_drop, List.head?_eq_some_iff]
  constructor
  · rintro ⟨back, starts⟩
    have rest : octets.drop (start + 1) = back :=
      drop_of_append (starts.trans (@List.singleton_append _ octet back).symm) rfl
    rw [starts, rest]
  · intro starts
    exact ⟨_, starts⟩

lemma numberAt_eq_some {octets : Bytes} {value : ℤ} (pos : 0 < width) :
  numberAt octets start (start + width) = some value ↔
    ∃ numeral : Numeral width, numeral.value = value ∧
      octets.drop start = numeral.octets ++ octets.drop (start + width) := by
  have slice : (octets.take (start + width)).drop start = (octets.drop start).take width := by
    rw [drop_take, Nat.add_sub_cancel_left]
  have split' : (octets.drop start).take width ++ octets.drop (start + width) =
      octets.drop start := by
    rw [← drop_drop, take_append_drop]
  rw [numberAt, slice]
  constructor
  · intro answer
    split at answer
    case isFalse => cases answer
    case isTrue inside =>
      have size : ((octets.drop start).take width).length = width := by
        rw [length_take, length_drop]
        omega
      obtain ⟨numeral, same, rfl⟩ := (parseI64_eq_some size).mp answer
      exact ⟨numeral, rfl, by rw [same, split']⟩
  · rintro ⟨numeral, rfl, starts⟩
    have lengths := congrArg List.length starts
    rw [length_append, length_drop, length_drop, numeral.length_octets] at lengths
    have field : (octets.drop start).take width = numeral.octets := by
      rw [starts, take_left' numeral.length_octets]
    rw [if_pos (by omega), field]
    exact (parseI64_eq_some numeral.length_octets).mpr ⟨numeral, rfl, rfl⟩

lemma Zone.octets_eq_cons (zone : Zone) :
  ∃ octet rest, zone.octets = octet :: rest ∧ ¬ isAsciiDigit octet ∧ octet ≠ 46 := by
  cases zone with
  | utc letter isZ =>
    refine ⟨letter, [], rfl, ?_⟩
    rcases isZ with rfl | rfl <;> decide
  | offset sign hours minutes =>
    refine ⟨sign.octet, _, rfl, not_isAsciiDigit_sign sign, ?_⟩
    cases sign <;> decide

lemma takeWhile_digits (zone : Zone) :
  (digits.octets ++ zone.octets).takeWhile isAsciiDigit = digits.octets := by
  obtain ⟨octet, rest, starts, notDigit, -⟩ := zone.octets_eq_cons
  rw [takeWhile_append_of_pos digits.areDigits, starts, takeWhile_cons, if_neg notDigit, append_nil]

section

variable {octets : Bytes}

lemma fractionEnd_of_drop {fraction : Option Digits}
  (starts : octets.drop 19 = DateTimeText.fractionOctets fraction ++ zone.octets) :
  ∃ start, fractionEnd octets = some start ∧ octets.drop start = zone.octets := by
  obtain ⟨octet, rest, zoneStarts, -, notPoint⟩ := zone.octets_eq_cons
  cases fraction with
  | none =>
    refine ⟨19, ?_, starts⟩
    have noPoint : octets[19]? ≠ some 46 := by
      rw [← List.head?_drop, starts, zoneStarts]
      exact fun same => notPoint (Option.some.inj same)
    rw [fractionEnd, if_neg noPoint]
  | some digits =>
    have point : octets[19]? = some 46 := by
      rw [← List.head?_drop, starts]
      rfl
    have after : octets.drop 20 = digits.octets ++ zone.octets :=
      drop_of_append
        (starts.trans (@List.singleton_append _ 46 (digits.octets ++ zone.octets)).symm) rfl
    refine ⟨20 + digits.octets.length, ?_, drop_of_append after rfl⟩
    rw [fractionEnd, if_pos point, after, takeWhile_digits]
    exact if_neg digits.nonempty

lemma drop_of_fractionEnd (ends : fractionEnd octets = some start) :
  ∃ fraction : Option Digits,
    octets.drop 19 = DateTimeText.fractionOctets fraction ++ octets.drop start := by
  rw [fractionEnd] at ends
  split at ends
  case isFalse =>
    cases ends
    exact ⟨none, rfl⟩
  case isTrue point =>
    dsimp only at ends
    split at ends
    case isTrue => cases ends
    case isFalse nonempty =>
      cases ends
      refine ⟨some ⟨_, nonempty, fun octet among => mem_takeWhile_imp among⟩, ?_⟩
      have rest := prefix_iff_eq_append.mp
        (@List.takeWhile_prefix _ (octets.drop 20) isAsciiDigit)
      rw [drop_drop] at rest
      rw [drop_eq_cons_iff.mp point]
      exact congrArg (List.cons 46) rest.symm

lemma drop_of_cons {octet : UInt8} (starts : octets.drop start = octet :: back) :
  octets[start]? = some octet ∧ octets.drop (start + 1) = back := by
  have after : octets.drop (start + 1) = back :=
    drop_of_append (starts.trans (@List.singleton_append _ octet back).symm) rfl
  exact ⟨drop_eq_cons_iff.mpr (by rw [starts, after]), after⟩

lemma numberAt_of_drop {numeral : Numeral width} (pos : 0 < width)
  (starts : octets.drop start = numeral.octets ++ back) :
  numberAt octets start (start + width) = some numeral.value ∧
    octets.drop (start + width) = back := by
  have after := drop_of_append starts numeral.length_octets
  exact ⟨(numberAt_eq_some pos).mpr ⟨numeral, rfl, by rw [starts, after]⟩, after⟩

lemma offsetSeconds_of_drop (starts : octets.drop start = zone.octets) (inRange : zone.InRange) :
  offsetSeconds octets start = some zone.seconds := by
  have length := congrArg List.length starts
  rw [length_drop] at length
  cases zone with
  | utc letter isZ =>
    obtain ⟨there, -⟩ := drop_of_cons starts
    change octets.length - start = 1 at length
    rw [offsetSeconds, there]
    change (if letter = 90 ∨ letter = 122 then _ else _) = _
    rw [if_pos isZ, if_pos (by omega)]
    rfl
  | offset sign hours minutes =>
    obtain ⟨there, afterSign⟩ := drop_of_cons starts
    obtain ⟨readHours, afterHours⟩ := numberAt_of_drop (by decide) afterSign
    obtain ⟨colon, afterColon⟩ := drop_of_cons afterHours
    obtain ⟨readMinutes, -⟩ := numberAt_of_drop (by decide)
      (afterColon.trans (append_nil _).symm)
    have ends : start + 6 = octets.length := by
      rw [Zone.octets, length_cons, length_append, length_cons,
        hours.length_octets, minutes.length_octets] at length
      omega
    have small : ¬ (23 < hours.value ∨ 59 < minutes.value) := by
      rw [Zone.InRange] at inRange
      omega
    rw [offsetSeconds, there]
    change (if sign.octet = 90 ∨ sign.octet = 122 then _ else _) = _
    rw [if_neg (by cases sign <;> decide), if_pos (by cases sign <;> decide),
      if_pos ⟨ends, colon⟩, readHours]
    change (numberAt octets (start + 4) (start + 6)).bind _ = _
    rw [readMinutes]
    change (if 23 < hours.value ∨ 59 < minutes.value then none else _) = _
    rw [if_neg small]
    cases sign <;> rfl

lemma drop_of_offsetSeconds {seconds : ℤ} (answer : offsetSeconds octets start = some seconds) :
  ∃ zone : Zone, octets.drop start = zone.octets ∧ zone.InRange ∧ zone.seconds = seconds := by
  rw [offsetSeconds, bind_eq_bind, bind_eq_some_iff] at answer
  obtain ⟨octet, there, answer⟩ := answer
  rw [drop_eq_cons_iff.mp there]
  split at answer
  case isTrue isZ =>
    split at answer
    case isFalse => cases answer
    case isTrue last =>
      cases answer
      refine ⟨.utc octet isZ, ?_, trivial, rfl⟩
      rw [drop_eq_nil_of_le last.ge, Zone.octets]
  case isFalse =>
    split at answer
    case isFalse => cases answer
    case isTrue isSign =>
      split at answer
      case isFalse => cases answer
      case isTrue shape =>
        obtain ⟨last, colon⟩ := shape
        rw [bind_eq_bind, bind_eq_some_iff] at answer
        obtain ⟨hours, readHours, answer⟩ := answer
        rw [bind_eq_some_iff] at answer
        obtain ⟨minutes, readMinutes, answer⟩ := answer
        obtain ⟨hours, rfl, hoursThere⟩ := (numberAt_eq_some Nat.two_pos).mp readHours
        obtain ⟨minutes, rfl, minutesThere⟩ := (numberAt_eq_some Nat.two_pos).mp readMinutes
        split at answer
        case isTrue => cases answer
        case isFalse small =>
          have inRange : hours.value ≤ 23 ∧ minutes.value ≤ 59 := by omega
          have text : octets.drop (start + 1) = hours.octets ++ 58 :: minutes.octets := by
            rw [hoursThere, drop_eq_cons_iff.mp colon, minutesThere,
              drop_eq_nil_of_le last.ge, append_nil]
          rcases isSign with rfl | rfl
          · refine ⟨.offset .plus hours minutes, ?_, inRange, Option.some.inj answer⟩
            rw [text]
            rfl
          · refine ⟨.offset .minus hours minutes, ?_, inRange, Option.some.inj answer⟩
            rw [text]
            rfl

end

namespace DateTimeText

def epoch (text : DateTimeText) : ℤ :=
  daysFromCivil text.year.value text.month.value text.day.value * 86400 +
    text.hour.value * 3600 + text.minute.value * 60 + text.second.value - text.zone.seconds

end DateTimeText

lemma rfc3339ToEpoch_of_octets {text : DateTimeText} (same : text.octets = asBytes string)
  (inRange : text.InRange) : rfc3339ToEpoch string = some text.epoch := by
  obtain ⟨octet, rest, zoneStarts, -, -⟩ := text.zone.octets_eq_cons
  have begins : (asBytes string).drop 0 = text.octets := same.symm
  obtain ⟨year, begins⟩ := numberAt_of_drop (Nat.succ_pos 3) begins
  obtain ⟨yearHyphen, begins⟩ := drop_of_cons begins
  obtain ⟨month, begins⟩ := numberAt_of_drop Nat.two_pos begins
  obtain ⟨monthHyphen, begins⟩ := drop_of_cons begins
  obtain ⟨day, begins⟩ := numberAt_of_drop Nat.two_pos begins
  obtain ⟨separator, begins⟩ := drop_of_cons begins
  obtain ⟨hour, begins⟩ := numberAt_of_drop Nat.two_pos begins
  obtain ⟨hourColon, begins⟩ := drop_of_cons begins
  obtain ⟨minute, begins⟩ := numberAt_of_drop Nat.two_pos begins
  obtain ⟨minuteColon, begins⟩ := drop_of_cons begins
  obtain ⟨second, begins⟩ := numberAt_of_drop Nat.two_pos begins
  have long : ¬ (asBytes string).length < 20 := by
    have lengths := congrArg List.length begins
    rw [length_drop, length_append, zoneStarts, length_cons] at lengths
    omega
  obtain ⟨start, fraction, zoneThere⟩ := fractionEnd_of_drop begins
  have zone := offsetSeconds_of_drop zoneThere inRange.2.2.2.2.2
  simp only [Nat.zero_add] at year yearHyphen month monthHyphen day
  simp only [Nat.zero_add] at separator hour hourColon minute minuteColon second
  have accepted : ¬ ((asBytes string)[4]? ≠ some 45 ∨ (asBytes string)[7]? ≠ some 45 ∨
      ((asBytes string)[10]? ≠ some 84 ∧ (asBytes string)[10]? ≠ some 116) ∨
      (asBytes string)[13]? ≠ some 58 ∨ (asBytes string)[16]? ≠ some 58 ∨
      ¬ (1 ≤ text.month.value ∧ text.month.value ≤ 12) ∨
      ¬ (1 ≤ text.day.value ∧ text.day.value ≤ 31) ∨ 23 < text.hour.value ∨
      59 < text.minute.value ∨ 60 < text.second.value) := by
    obtain ⟨monthRange, dayRange, hourRange, minuteRange, secondRange, -⟩ := inRange
    rw [yearHyphen, monthHyphen, separator, hourColon, minuteColon]
    simp only [Option.some.injEq, ne_eq, not_true_eq_false, false_or]
    rintro (neither | numbers)
    · exact text.isT.elim neither.1 neither.2
    · omega
  simp only [rfc3339ToEpoch, year, month, day, hour, minute, second, fraction, zone, if_neg long,
    if_neg accepted, bind_eq_bind, bind_some]
  rfl

lemma octets_of_rfc3339ToEpoch {epoch : ℤ} (answer : rfc3339ToEpoch string = some epoch) :
  ∃ text : DateTimeText, text.octets = asBytes string ∧ text.InRange ∧ text.epoch = epoch := by
  rw [rfc3339ToEpoch] at answer
  split at answer
  case isTrue => cases answer
  case isFalse =>
    simp only [bind_eq_bind, bind_eq_some_iff] at answer
    obtain ⟨year, yearRead, month, monthRead, day, dayRead, hour, hourRead, minute, minuteRead,
      second, secondRead, answer⟩ := answer
    split at answer
    case isTrue => cases answer
    case isFalse accepted =>
      simp only [bind_eq_some_iff] at answer
      obtain ⟨start, fractionRead, seconds, zoneRead, answer⟩ := answer
      simp only [ne_eq, not_or, not_not, not_and_or, Int.not_lt] at accepted
      obtain ⟨yearHyphen, monthHyphen, isSeparator, hourColon, minuteColon, monthRange, dayRange,
        hourRange, minuteRange, secondRange⟩ := accepted
      obtain ⟨separator, separatorThere, isT⟩ : ∃ separator,
          (asBytes string)[10]? = some separator ∧ (separator = 84 ∨ separator = 116) :=
        isSeparator.elim (fun isT => ⟨84, isT, .inl rfl⟩) fun isT => ⟨116, isT, .inr rfl⟩
      obtain ⟨year, rfl, yearThere⟩ := (numberAt_eq_some (Nat.succ_pos 3)).mp yearRead
      obtain ⟨month, rfl, monthThere⟩ := (numberAt_eq_some Nat.two_pos).mp monthRead
      obtain ⟨day, rfl, dayThere⟩ := (numberAt_eq_some Nat.two_pos).mp dayRead
      obtain ⟨hour, rfl, hourThere⟩ := (numberAt_eq_some Nat.two_pos).mp hourRead
      obtain ⟨minute, rfl, minuteThere⟩ := (numberAt_eq_some Nat.two_pos).mp minuteRead
      obtain ⟨second, rfl, secondThere⟩ := (numberAt_eq_some Nat.two_pos).mp secondRead
      obtain ⟨fraction, fractionThere⟩ := drop_of_fractionEnd fractionRead
      obtain ⟨zone, zoneThere, zoneRange, rfl⟩ := drop_of_offsetSeconds zoneRead
      refine ⟨⟨year, month, day, separator, hour, minute, second, fraction, zone, isT⟩, ?_,
        ⟨monthRange, dayRange, hourRange, minuteRange, secondRange, zoneRange⟩,
        Option.some.inj answer⟩
      symm
      calc asBytes string = (asBytes string).drop 0 := rfl
        _ = _ := by
          rw [yearThere, drop_eq_cons_iff.mp yearHyphen, monthThere,
            drop_eq_cons_iff.mp monthHyphen, dayThere, drop_eq_cons_iff.mp separatorThere,
            hourThere, drop_eq_cons_iff.mp hourColon, minuteThere,
            drop_eq_cons_iff.mp minuteColon, secondThere, fractionThere, zoneThere]
          rfl

lemma Digits.octets_injective : Injective Digits.octets := by
  rintro ⟨octets, _, _⟩ ⟨_, _, _⟩ rfl
  rfl

lemma Sign.octet_injective : Injective Sign.octet := by
  intro first second same
  cases first <;> cases second <;> first | rfl | cases same

lemma Numeral.octets_injective : Injective (Numeral.octets : Numeral width → Bytes) := by
  rintro ⟨firstSign, first, _⟩ ⟨secondSign, second, _⟩ same
  cases firstSign with
  | none =>
    cases secondSign with
    | none =>
      cases Digits.octets_injective same
      rfl
    | some sign =>
      exact absurd (congrArg List.head? same) (first.head_ne sign)
  | some firstSign =>
    cases secondSign with
    | none => exact absurd (congrArg List.head? same).symm (second.head_ne firstSign)
    | some secondSign =>
      obtain ⟨sameSign, sameDigits⟩ := List.cons.inj same
      cases Sign.octet_injective sameSign
      cases Digits.octets_injective sameDigits
      rfl

lemma Numeral.append_inj {first second : Numeral width} {after others : Bytes}
  (same : first.octets ++ after = second.octets ++ others) : first = second ∧ after = others := by
  obtain ⟨sameOctets, sameRest⟩ :=
    List.append_inj same (first.length_octets.trans second.length_octets.symm)
  exact ⟨Numeral.octets_injective sameOctets, sameRest⟩

lemma Zone.octets_injective : Injective Zone.octets := by
  intro first second same
  cases first with
  | utc letter isZ =>
    cases second with
    | utc => cases same; rfl
    | offset sign => exact absurd (congrArg List.length same) (by simp [Zone.octets])
  | offset firstSign hours minutes =>
    cases second with
    | utc => exact absurd (congrArg List.length same) (by simp [Zone.octets])
    | offset secondSign =>
      obtain ⟨sameSign, sameNumbers⟩ := List.cons.inj same
      cases Sign.octet_injective sameSign
      obtain ⟨rfl, sameMinutes⟩ := Numeral.append_inj sameNumbers
      cases Numeral.octets_injective (List.cons.inj sameMinutes).2
      rfl

lemma fraction_append_inj {first second : Option Digits} {other : Zone}
  (same : DateTimeText.fractionOctets first ++ zone.octets =
    DateTimeText.fractionOctets second ++ other.octets) : first = second ∧ zone = other := by
  obtain ⟨octet, rest, zoneStarts, -, notPoint⟩ := zone.octets_eq_cons
  obtain ⟨otherOctet, otherRest, otherStarts, -, otherNotPoint⟩ := other.octets_eq_cons
  cases first with
  | none =>
    cases second with
    | none => exact ⟨rfl, Zone.octets_injective same⟩
    | some digits =>
      rw [zoneStarts] at same
      exact absurd (List.cons.inj same).1 notPoint
  | some digits =>
    cases second with
    | none =>
      rw [otherStarts] at same
      exact absurd (List.cons.inj same).1.symm otherNotPoint
    | some others =>
      have sameAfter : digits.octets ++ zone.octets = others.octets ++ other.octets :=
        (List.cons.inj same).2
      have sameDigits := congrArg (takeWhile isAsciiDigit) sameAfter
      rw [takeWhile_digits, takeWhile_digits] at sameDigits
      cases Digits.octets_injective sameDigits
      exact ⟨rfl, Zone.octets_injective (append_cancel_left sameAfter)⟩

lemma DateTimeText.octets_injective : Injective DateTimeText.octets := by
  rintro ⟨year, month, day, separator, hour, minute, second, fraction, zone, _⟩ other same
  obtain ⟨rfl, same⟩ := Numeral.append_inj same
  obtain ⟨rfl, same⟩ := Numeral.append_inj (List.cons.inj same).2
  obtain ⟨rfl, same⟩ := Numeral.append_inj (List.cons.inj same).2
  obtain ⟨rfl, same⟩ := List.cons.inj same
  obtain ⟨rfl, same⟩ := Numeral.append_inj same
  obtain ⟨rfl, same⟩ := Numeral.append_inj (List.cons.inj same).2
  obtain ⟨rfl, same⟩ := Numeral.append_inj (List.cons.inj same).2
  obtain ⟨rfl, rfl⟩ := fraction_append_inj same
  rfl

lemma era_eq (year : ℤ) : (if 0 ≤ year then year else year - 399).tdiv 400 = year / 400 := by
  split
  · exact tdiv_eq_ediv_of_nonneg ‹_›
  · rw [← neg_neg (year - 399), Int.neg_tdiv, tdiv_eq_ediv_of_nonneg (by omega)]
    omega

lemma daysFromCivil_eq_daysThrough {year month day shifted place : ℤ}
  (year_eq : (if month ≤ 2 then year - 1 else year) = shifted)
  (place_eq : (month + 9).tmod 12 = place) (nonneg : 0 ≤ place) :
  daysFromCivil year month day =
    daysThrough shifted + (153 * place + 2) / 5 + day - 1 - 719468 := by
  have yearOfEra : 0 ≤ shifted - shifted / 400 * 400 := by omega
  have months : 0 ≤ 153 * place + 2 := by omega
  rw [daysFromCivil, year_eq, era_eq, place_eq, tdiv_eq_ediv_of_nonneg months,
    tdiv_eq_ediv_of_nonneg yearOfEra, tdiv_eq_ediv_of_nonneg yearOfEra, daysThrough]
  omega

lemma daysFromCivil_eq (date : Date) :
  daysFromCivil date.year date.month date.day = date.unixDay := by
  have first := date.month_pos
  have last := date.month_le
  by_cases before : date.month ≤ 2
  · rw [Date.unixDay_of_le before, marchDays,
      daysFromCivil_eq_daysThrough (if_pos (by omega)) (tmod_eq_of_lt (by omega) (by omega))
        (by omega)]
    push_cast
    rfl
  · have place : ((date.month : ℤ) + 9).tmod 12 = (date.month - 3 : ℕ) := by
      rw [tmod_eq_emod_of_nonneg (by omega)]
      omega
    rw [Date.unixDay_of_lt (by omega), marchDays,
      daysFromCivil_eq_daysThrough (if_neg (by omega)) place (by omega)]
    push_cast
    rfl

namespace DateTimeText

variable {text : DateTimeText} {dateTime : DateTime}

lemma Reads.inRange (reads : text.Reads dateTime) : text.InRange := by
  obtain ⟨year, month, day, hour, minute, second, -, zone, -⟩ := reads
  have monthPos := dateTime.date.month_pos
  have monthLe := dateTime.date.month_le
  have dayPos := dateTime.date.day_pos
  have dayLe := dateTime.date.day_le.trans (monthDays_le _ _)
  have hourLe := dateTime.hour_le
  have minuteLe := dateTime.minute_le
  have secondLe := dateTime.second_le
  exact ⟨by omega, by omega, by omega, by omega, by omega, zone⟩

lemma Reads.dayExists (reads : text.Reads dateTime) : text.DayExists := by
  obtain ⟨year, month, day, -⟩ := reads
  rw [DayExists, year, month, day, toNat_natCast, toNat_natCast]
  exact_mod_cast dateTime.date.day_le

lemma Reads.epoch_eq (reads : text.Reads dateTime) : text.epoch = ⌊dateTime.unixTime⌋ := by
  obtain ⟨year, month, day, hour, minute, second, -, -, offset⟩ := reads
  symm
  rw [floor_eq_iff, epoch, year, month, day, hour, minute, second, offset, daysFromCivil_eq,
    DateTime.unixTime]
  have nonneg := dateTime.fraction_nonneg
  have less := dateTime.fraction_lt
  push_cast
  constructor <;> linarith

lemma fractionValue_nonneg (fraction : Option Digits) : 0 ≤ fractionValue fraction := by
  cases fraction with
  | none => exact le_rfl
  | some digits =>
    rw [fractionValue]
    positivity

lemma fractionValue_lt (fraction : Option Digits) : fractionValue fraction < 1 := by
  cases fraction with
  | none => exact one_pos
  | some digits =>
    have small : ∀ digit ∈ (digits.octets.map digitOf).reverse, digit < 10 := by
      intro digit among
      obtain ⟨octet, within, rfl⟩ := List.mem_map.mp (mem_reverse.mp among)
      have isDigit := isAsciiDigit_iff.mp (digits.areDigits octet within)
      rw [digitOf]
      omega
    have below := Nat.ofDigits_lt_base_pow_length (by decide : 1 < 10) small
    rw [length_reverse, length_map] at below
    rw [fractionValue, div_lt_one (by positivity)]
    exact_mod_cast below

lemma exists_reads (plain : text.Plain) (inRange : text.InRange) (dayExists : text.DayExists) :
  ∃ dateTime, text.Reads dateTime := by
  have nonneg : ∀ {width : ℕ} (numeral : Numeral width), numeral.sign = none →
      ((numeral.value.toNat : ℕ) : ℤ) = numeral.value := by
    intro width numeral unsigned
    rw [Numeral.value, unsigned]
    exact toNat_of_nonneg (natCast_nonneg _)
  obtain ⟨year, month, day, hour, minute, second, -⟩ := plain
  obtain ⟨monthRange, dayRange, hourRange, minuteRange, secondRange, zoneRange⟩ := inRange
  have dayLe : text.day.value.toNat ≤ monthDays text.year.value.toNat text.month.value.toNat := by
    rw [DayExists] at dayExists
    omega
  refine ⟨⟨⟨text.year.value.toNat, text.month.value.toNat, text.day.value.toNat, by omega, by omega,
      by omega, dayLe⟩, text.hour.value.toNat, text.minute.value.toNat, text.second.value.toNat,
    fractionValue text.fraction, text.zone.seconds, by omega, by omega, by omega,
    fractionValue_nonneg _, fractionValue_lt _⟩, ?_⟩
  exact ⟨(nonneg _ year).symm, (nonneg _ month).symm, (nonneg _ day).symm, (nonneg _ hour).symm,
    (nonneg _ minute).symm, (nonneg _ second).symm, rfl, zoneRange, rfl⟩

end DateTimeText

/-- The program gives a number for the string just when it is a date-time, and the right one. -/
def Exact (string : String) : Prop :=
  ∀ epoch, rfc3339ToEpoch string = some epoch ↔
    ∃ dateTime, Denotes string dateTime ∧ epoch = ⌊dateTime.unixTime⌋

/-- If the string has the parts of a date-time with numbers in the ranges that are checked, then no
number has a sign and the month has the day. -/
def Strict (string : String) : Prop :=
  ∀ text : DateTimeText, text.octets = asBytes string → text.InRange → text.Plain ∧ text.DayExists

lemma Denotes.rfc3339ToEpoch_eq {dateTime : DateTime} (denotes : Denotes string dateTime) :
  rfc3339ToEpoch string = some ⌊dateTime.unixTime⌋ := by
  obtain ⟨text, same, -, reads⟩ := denotes
  rw [rfc3339ToEpoch_of_octets same reads.inRange, reads.epoch_eq]

lemma Exact.strict (exact' : Exact string) : Strict string := by
  intro text same inRange
  obtain ⟨dateTime, ⟨other, otherSame, plain, reads⟩, -⟩ :=
    (exact' _).mp (rfc3339ToEpoch_of_octets same inRange)
  cases DateTimeText.octets_injective (same.trans otherSame.symm)
  exact ⟨plain, reads.dayExists⟩

lemma Strict.exact (strict : Strict string) : Exact string := by
  intro epoch
  constructor
  · intro answer
    obtain ⟨text, same, inRange, rfl⟩ := octets_of_rfc3339ToEpoch answer
    obtain ⟨plain, dayExists⟩ := strict text same inRange
    obtain ⟨dateTime, reads⟩ := DateTimeText.exists_reads plain inRange dayExists
    exact ⟨dateTime, ⟨text, same, plain, reads⟩, reads.epoch_eq⟩
  · rintro ⟨dateTime, denotes, rfl⟩
    exact denotes.rfc3339ToEpoch_eq

/-- The program is exact for the strings that are strict and for no others, and its numbers are in
the order of the instants. -/
theorem rfc3339ToEpoch_exact_iff (first : String) : (Exact first ↔ Strict first) ∧
    ∀ {second : String} {earlier later : DateTime}, Denotes first earlier →
      Denotes second later →
        (earlier.unixTime = later.unixTime → rfc3339ToEpoch first = rfc3339ToEpoch second) ∧
        (earlier.unixTime < later.unixTime → ∀ epoch next,
          rfc3339ToEpoch first = some epoch → rfc3339ToEpoch second = some next →
            epoch ≤ next) := by
  refine ⟨⟨Exact.strict, Strict.exact⟩, ?_⟩
  intro second earlier later firstDenotes secondDenotes
  rw [firstDenotes.rfc3339ToEpoch_eq, secondDenotes.rfc3339ToEpoch_eq]
  constructor
  · intro same
    rw [same]
  · rintro before epoch next ⟨⟩ ⟨⟩
    exact floor_mono before.le

/-- The thirtieth of February 2026, which the program takes for the second of March. -/
def thirtiethOfFebruary : DateTimeText where
  year := ⟨none, ⟨[50, 48, 50, 54], by decide, List.all_eq_true.mp rfl⟩, rfl⟩
  month := ⟨none, ⟨[48, 50], by decide, List.all_eq_true.mp rfl⟩, rfl⟩
  day := ⟨none, ⟨[51, 48], by decide, List.all_eq_true.mp rfl⟩, rfl⟩
  separator := 84
  hour := ⟨none, ⟨[48, 48], by decide, List.all_eq_true.mp rfl⟩, rfl⟩
  minute := ⟨none, ⟨[48, 48], by decide, List.all_eq_true.mp rfl⟩, rfl⟩
  second := ⟨none, ⟨[48, 48], by decide, List.all_eq_true.mp rfl⟩, rfl⟩
  fraction := none
  zone := .utc 90 (.inl rfl)
  isT := .inl rfl

theorem not_exact : ¬ ∀ string, Exact string := by
  intro exact'
  have same : thirtiethOfFebruary.octets = asBytes "2026-02-30T00:00:00Z" := by decide
  have inRange : thirtiethOfFebruary.InRange := by
    refine ⟨by decide, by decide, by decide, by decide, by decide, trivial⟩
  have dayExists := ((exact' _).strict _ same inRange).2
  revert dayExists
  rw [DateTimeText.DayExists]
  decide

end NextGCore.Bsf
