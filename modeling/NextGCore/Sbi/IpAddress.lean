import NextGCore.Sbi.Text

/-!
# Internet addresses and date-times as text

The readers of the standard library for IPv4 and IPv6 addresses and for signed and
unsigned numbers.
-/

namespace NextGCore.Sbi

open Crypt (Bytes)

variable (text : String)

def parseU8 : Option UInt8 := do
  let value ← parseU64 text
  if value < 256 then some (UInt8.ofNat value) else none

def parseU16 : Option UInt16 := do
  let value ← parseU64 text
  if value < 65536 then some (UInt16.ofNat value) else none

lemma parseU8_toString {number : ℕ} (small : number < 256) :
  parseU8 (toString number) = some (UInt8.ofNat number) := by
  rw [parseU8, parseU64_toString (by omega)]
  exact if_pos small

lemma parseU16_toString (port : UInt16) : parseU16 (toString port.toNat) = some port := by
  have small : port.toNat < 65536 := port.toNat_lt
  rw [parseU16, parseU64_toString (by omega)]
  refine (if_pos small).trans ?_
  rw [UInt16.ofNat_toNat]

def digitValue (radix : ℕ) (letter : Char) : Option ℕ :=
  let value :=
    if letter.isDigit then some (letter.toNat - 48)
    else if 'a' ≤ letter ∧ letter ≤ 'f' then some (letter.toNat - 87)
    else if 'A' ≤ letter ∧ letter ≤ 'F' then some (letter.toNat - 55)
    else none
  value.filter (· < radix)

def readNumber (radix maxDigits bound : ℕ) (allowZeroPrefix : Bool) (text : List Char) :
  Option (ℕ × List Char) :=
  let digits := text.takeWhile fun letter => (digitValue radix letter).isSome
  let value := digits.foldl (fun value letter => radix * value + (digitValue radix letter).getD 0) 0
  if digits = [] ∨ maxDigits < digits.length then none
  else if allowZeroPrefix = false ∧ digits.head? = some '0' ∧ 1 < digits.length then none
  else if value < bound then some (value, text.drop digits.length)
  else none

def afterSeparator (separator : Char) (first : Bool) (text : List Char) : Option (List Char) :=
  if first then some text
  else
    match text with
    | letter :: rest => if letter = separator then some rest else none
    | [] => none

def readIpv4Octets : ℕ → Bool → List Char → Option (List ℕ × List Char)
  | 0, _, text => some ([], text)
  | left + 1, first, text => do
    let start ← afterSeparator '.' first text
    let octet ← readNumber 10 3 256 false start
    let octets ← readIpv4Octets left false octet.2
    return (octet.1 :: octets.1, octets.2)

def readIpv4 (text : List Char) : Option (List ℕ × List Char) :=
  readIpv4Octets 4 true text

/-- `str::parse::<Ipv4Addr>`, as the number that `u32::from` makes of it. -/
def parseIpv4 : Option UInt32 :=
  if 15 < text.utf8ByteSize then none
  else
    match readIpv4 text.toList with
    | some (octets, []) =>
      some (UInt32.ofNat (octets.foldl (fun value octet => 256 * value + octet) 0))
    | _ => none

/-- The groups up to the first that is none, and whether an IPv4 address ends them. -/
def readIpv6Groups : ℕ → Bool → List Char → List ℕ × Bool × List Char
  | 0, _, text => ([], false, text)
  | left + 1, first, text =>
    let embedded :=
      if left = 0 then none else (afterSeparator ':' first text).bind readIpv4
    match embedded with
    | some address =>
      let octets := address.1
      ([256 * octets.getD 0 0 + octets.getD 1 0, 256 * octets.getD 2 0 + octets.getD 3 0],
        true, address.2)
    | none =>
      match (afterSeparator ':' first text).bind (readNumber 16 4 65536 true) with
      | none => ([], false, text)
      | some group =>
        let groups := readIpv6Groups left false group.2
        (group.1 :: groups.1, groups.2)

def readIpv6 (text : List Char) : Option (List ℕ × List Char) :=
  let head := readIpv6Groups 8 true text
  if head.1.length = 8 then some (head.1, head.2.2)
  else if head.2.1 then none
  else
    match head.2.2 with
    | ':' :: ':' :: rest =>
      let tail := readIpv6Groups (7 - head.1.length) true rest
      let zeros := List.replicate (8 - head.1.length - tail.1.length) 0
      some (head.1 ++ zeros ++ tail.1, tail.2.2)
    | _ => none

def parseIpv6 : Option (Vector UInt8 16) :=
  match readIpv6 text.toList with
  | some (groups, []) =>
    exactOctets 16
      (groups.flatMap fun group => [UInt8.ofNat (group / 256), UInt8.ofNat (group % 256)])
  | _ => none

def parseI64 (octets : Bytes) : Option ℤ :=
  let digits : Bytes → Option ℕ := fun octets =>
    if octets = [] then none
    else octets.foldlM
      (fun value octet =>
        if 48 ≤ octet.toNat ∧ octet.toNat ≤ 57 then some (10 * value + (octet.toNat - 48))
        else none) 0
  match octets with
  | 43 :: rest => (digits rest).map fun value => (value : ℤ)
  | 45 :: rest => (digits rest).map fun value => -(value : ℤ)
  | other => (digits other).map fun value => (value : ℤ)

example : parseIpv4 "10.45.0.2" = some 0x0A2D0002 := by decide

example : parseIpv6 "2001:db8::1" = some
  #v[0x20, 0x01, 0x0D, 0xB8, 0, 0, 0, 0, 0, 0, 0, 0, 0, 0, 0, 1] := by
  decide

example : parseIpv6 "::ffff:10.0.0.1" = some
  #v[0, 0, 0, 0, 0, 0, 0, 0, 0, 0, 0xFF, 0xFF, 10, 0, 0, 1] := by
  decide

end NextGCore.Sbi
