import NextGCore.Sbi.IpText
import NextGCore.Upf.DataPlane

/-!
# Rules of the IP firewall

The rules that flow descriptions compile to, with whole addresses and masks, and the flow
descriptions that are written of them on a little-endian host.  The compiler takes what stands
between the first `from` and the first `to`, in whatever order they come; with `to` first the
range of tokens is inverted, and the compiler panics.
-/

namespace NextGCore.Ipfw

open Sbi (parseU8 parseU16 parseIpv4 parseIpv6 splitWhitespace)
open Upf (PortRange)

variable (tokens : List String) (text addrStr portStr : String)

/-- The entry at a place that is there. -/
def entry {Entry : Type} [Inhabited Entry] {size : ℕ} (entries : Vector Entry size) (place : ℕ) :
  Entry :=
  if within : place < size then entries[place] else default

inductive IpfwError where
  | invalidSyntax (msg : String)
  | missingKeyword (kw : String)
  | invalidAddress (addr : String)
  | invalidPort (port : String)
  | invalidProtocol (proto : String)
  deriving DecidableEq

structure IpAddrMask where
  addr : Vector UInt32 4
  mask : Vector UInt32 4
  deriving DecidableEq

namespace IpAddrMask

def none : IpAddrMask := ⟨#v[0, 0, 0, 0], #v[0, 0, 0, 0]⟩

def maskOf (prefixLen : UInt8) : UInt32 :=
  if 32 ≤ prefixLen then 0xFFFFFFFF
  else if prefixLen = 0 then 0
  else ~~~((1 <<< (32 - prefixLen.toUInt32)) - 1)

def fromIpv4 (addr : UInt32) (prefixLen : UInt8) : IpAddrMask :=
  ⟨#v[addr, 0, 0, 0], #v[maskOf prefixLen, 0, 0, 0]⟩

/-- One turn of the loop over the words of a mask: the word, and the bits that remain. -/
def maskTurn (remaining : ℕ) : UInt32 × ℕ :=
  if 32 ≤ remaining then (0xFFFFFFFF, remaining - 32)
  else if 0 < remaining then (~~~((1 <<< UInt32.ofNat (32 - remaining)) - 1), 0)
  else (0, remaining)

def ipv6Mask (prefixLen : UInt8) : Vector UInt32 4 :=
  let first := maskTurn prefixLen.toNat
  let second := maskTurn first.2
  let third := maskTurn second.2
  let fourth := maskTurn third.2
  #v[first.1, second.1, third.1, fourth.1]

/-- The word whose octets stand from a place on. -/
def wordFrom (addr : Vector UInt8 16) (place : ℕ) : UInt32 :=
  Upf.beU32 (entry addr place) (entry addr (place + 1)) (entry addr (place + 2))
    (entry addr (place + 3))

def fromIpv6 (addr : Vector UInt8 16) (prefixLen : UInt8) : IpAddrMask where
  addr := #v[wordFrom addr 0, wordFrom addr 4, wordFrom addr 8, wordFrom addr 12]
  mask := ipv6Mask prefixLen

end IpAddrMask

structure Side where
  ipv4 : Bool
  ipv6 : Bool
  ip : IpAddrMask
  port : PortRange
  deriving DecidableEq

def Side.none : Side := ⟨false, false, .none, .none⟩

structure IpfwRule where
  proto : UInt8
  src : Side
  dst : Side
  deriving DecidableEq

def IpfwRule.new : IpfwRule := ⟨0, .none, .none⟩

/-- The names are compared in lower case.  No letter but an ASCII one is an ASCII letter of a
name in lower case. -/
def parseProtocol (proto : String) : Except IpfwError UInt8 :=
  let name := String.ofList (proto.toList.map Char.toLower)
  if name = "ip" then .ok 0
  else if name = "icmp" then .ok 1
  else if name = "tcp" then .ok 6
  else if name = "udp" then .ok 17
  else if name = "icmpv6" ∨ name = "ipv6-icmp" then .ok 58
  else
    match parseU8 proto with
    | some number => .ok number
    | none => .error (.invalidProtocol proto)

def splitAtLetter (letter : Char) (text : String) : Option (String × String) :=
  if letter ∈ text.toList then
    some (String.ofList (text.toList.takeWhile (· != letter)),
      String.ofList ((text.toList.dropWhile (· != letter)).tail))
  else none

def splitPrefix : Except IpfwError (String × Option UInt8) :=
  match splitAtLetter '/' addrStr with
  | none => .ok (addrStr, none)
  | some parts =>
    match parseU8 parts.2 with
    | some prefixLen => .ok (parts.1, some prefixLen)
    | none => .error (.invalidAddress addrStr)

def parsePortNumber (part : String) : Except IpfwError UInt16 :=
  match parseU16 part with
  | some port => .ok port
  | none => .error (.invalidPort portStr)

def parsePortRange : Except IpfwError PortRange :=
  match splitAtLetter '-' portStr with
  | some parts => do
    let low ← parsePortNumber portStr parts.1
    let high ← parsePortNumber portStr parts.2
    .ok ⟨low, high⟩
  | none => do
    let port ← parsePortNumber portStr portStr
    .ok (.single port)

def parseAddress (side : Side) : Except IpfwError Side := do
  let parts ← splitPrefix addrStr
  match parseIpv4 parts.1 with
  | some ipv4 => .ok { side with ipv4 := true, ip := .fromIpv4 ipv4 (parts.2.getD 32) }
  | none =>
    match parseIpv6 parts.1 with
    | some ipv6 => .ok { side with ipv6 := true, ip := .fromIpv6 ipv6 (parts.2.getD 128) }
    | none => .error (.invalidAddress addrStr)

def parsePort (side : Side) : Except IpfwError Side := do
  let port ← parsePortRange portStr
  .ok { side with port }

def parseHost (side : Side) : Except IpfwError Side :=
  if addrStr = "any" ∨ addrStr = "assigned" then .ok side else parseAddress addrStr side

def parseAddressPort (side : Side) : Except IpfwError Side :=
  match tokens with
  | [] => .error (.invalidSyntax "Missing address")
  | addrStr :: rest => do
    let side ← parseHost addrStr side
    match rest with
    | [] => .ok side
    | portStr :: _ => parsePort portStr side

/-- `compile_rule`, after the protocol: `none` is the panic of the slice. -/
def compileEnds (rule : IpfwRule) : Option (Except IpfwError IpfwRule) :=
  match tokens.idxOf? "from", tokens.idxOf? "to" with
  | none, _ => some (.error (.missingKeyword "from"))
  | some _, none => some (.error (.missingKeyword "to"))
  | some fromIdx, some toIdx =>
    if toIdx < fromIdx + 1 then none
    else some (do
      let src ← parseAddressPort ((tokens.take toIdx).drop (fromIdx + 1)) rule.src
      let dst ← parseAddressPort (tokens.drop (toIdx + 1)) rule.dst
      .ok { rule with src, dst })

def compileRule (flowDescription : String) : Option (Except IpfwError IpfwRule) :=
  let tokens := splitWhitespace flowDescription
  if tokens = [] then some (.error (.invalidSyntax "Empty flow description"))
  else if tokens.head? ≠ some "permit" then some (.error (.missingKeyword "permit"))
  else if tokens[1]? ≠ some "out" then some (.error (.missingKeyword "out"))
  else
    match tokens[2]? with
    | none => some (.error (.invalidSyntax "Missing protocol"))
    | some protoStr =>
      match parseProtocol protoStr with
      | .error error => some (.error error)
      | .ok proto => compileEnds tokens { IpfwRule.new with proto }

def fromBe (word : UInt32) : UInt32 :=
  let middle : UInt32 := 0xFF00
  word <<< 24 ||| (word &&& middle) <<< 8 ||| word >>> 8 &&& middle ||| word >>> 24

def leadingOnes (word : UInt32) : ℕ := (~~~word).toBitVec.clz.toNat

/-- The loop over the words of a mask: whole words, and the leading ones of the first other. -/
def countWords : List UInt32 → ℕ
  | [] => 0
  | word :: rest =>
    if fromBe word = 0xFFFFFFFF then 32 + countWords rest
    else if fromBe word = 0 then 0
    else leadingOnes (fromBe word)

def countPrefixBits (mask : Vector UInt32 4) (maxBits : ℕ) : ℕ :=
  min (countWords (mask.toList.take ((maxBits + 31) / 32))) maxBits

def wordOctets (words : Vector UInt32 4) : Vector UInt8 16 :=
  #v[(entry words 0 >>> 24).toUInt8, (entry words 0 >>> 16).toUInt8, (entry words 0 >>> 8).toUInt8,
    (entry words 0).toUInt8, (entry words 1 >>> 24).toUInt8, (entry words 1 >>> 16).toUInt8,
    (entry words 1 >>> 8).toUInt8, (entry words 1).toUInt8, (entry words 2 >>> 24).toUInt8,
    (entry words 2 >>> 16).toUInt8, (entry words 2 >>> 8).toUInt8, (entry words 2).toUInt8,
    (entry words 3 >>> 24).toUInt8, (entry words 3 >>> 16).toUInt8, (entry words 3 >>> 8).toUInt8,
    (entry words 3).toUInt8]

def unspecified (isSrc : Bool) : String := if isSrc then "any" else "assigned"

def encodePrefix (isSrc : Bool) (bits maxBits : ℕ) : String :=
  if bits = 0 then unspecified isSrc
  else if bits = maxBits then text
  else text ++ "/" ++ toString bits

def encodeAddress (side : Side) (isSrc : Bool) : String :=
  if side.ipv4 then
    encodePrefix (Sbi.showIpv4 (entry side.ip.addr 0)) isSrc (countPrefixBits side.ip.mask 32) 32
  else if side.ipv6 then
    encodePrefix (Sbi.showIpv6 (wordOctets side.ip.addr)) isSrc
      (countPrefixBits side.ip.mask 128) 128
  else unspecified isSrc

def encodePort (port : PortRange) : String :=
  if port.isEmpty then ""
  else if port.low = port.high then " " ++ toString port.low.toNat
  else " " ++ toString port.low.toNat ++ "-" ++ toString port.high.toNat

def encodeAddressPort (side : Side) (isSrc : Bool) : String :=
  encodeAddress side isSrc ++ encodePort side.port

def encodeFlowDescription (rule : IpfwRule) : String :=
  let proto := if rule.proto = 0 then "ip" else toString rule.proto.toNat
  " ".intercalate ["permit out", proto, "from", encodeAddressPort rule.src true, "to",
    encodeAddressPort rule.dst false]

end NextGCore.Ipfw
