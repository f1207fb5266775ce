import NextGCore.Upf.SdfFiltering

/-!
# Flow descriptions written of rules

What is compiled of the flow description that is written of a rule.  The masks are in the byte
order of the host, and the writer takes them for network order: only masks whose words are all
ones or all zeros survive.
-/

namespace NextGCore.Ipfw

open UInt8 String
open IpAddrMask (ipv6Mask fromIpv4 fromIpv6)
open Sbi (digit_of_mem_toString hyphen_notMem_toString isWhitespace parseIpv4 parseU16_toString
  parseU8_toString showIpv4 showIpv6 splitWhitespace splitWhitespace_append_space
  splitWhitespace_of_solid)
open Upf (AddressRange Endpoint FlowDescription PortRange)

variable (addr : UInt32) (port : PortRange) (proto : UInt8) (endpoint : Endpoint)
  (description : FlowDescription)

/-- The text is of digits, of letters of addresses and of what stands between their numbers. -/
structure Numeric (text : String) : Prop where
  nonempty : text ≠ ""
  letters : ∀ letter ∈ text.toList, 45 ≤ letter.toNat ∧ letter.toNat ≤ 102

namespace Numeric

lemma append {first second : String} (start : Numeric first) (rest : Numeric second) :
  Numeric (first ++ second) where
  nonempty empty := start.nonempty (append_eq_empty_iff.mp empty).1
  letters letter among := by
    rw [toList_append, List.mem_append] at among
    exact among.elim (start.letters letter) (rest.letters letter)

lemma splitWhitespace_eq {text : String} (numeric : Numeric text) :
  splitWhitespace text = [text] := by
  refine splitWhitespace_of_solid numeric.nonempty fun letter among => ?_
  have range := numeric.letters letter among
  simp only [isWhitespace, Bool.or_eq_false_iff, Bool.and_eq_false_iff, decide_eq_false_iff_not,
    List.mem_cons, List.not_mem_nil, or_false]
  omega

lemma ne_named {text : String} (numeric : Numeric text) :
  ¬ (text = "any" ∨ text = "assigned") := by
  rintro (rfl | rfl)
  · have last := numeric.letters 'y' (by decide)
    exact absurd last.2 (by decide)
  · have second := numeric.letters 's' (by decide)
    exact absurd second.2 (by decide)

end Numeric

lemma numeric_toString (number : ℕ) : Numeric (toString number) where
  nonempty empty := by
    have letters : (toString number).toList = Nat.toDigits 10 number := Nat.toList_repr
    rw [empty] at letters
    exact Nat.toDigits_ne_nil letters.symm
  letters letter among := by
    have digit := digit_of_mem_toString among
    omega

lemma numeric_showIpv4 : Numeric (showIpv4 addr) where
  nonempty empty := by
    have parsed := Sbi.parseIpv4_showIpv4 addr
    have unread : parseIpv4 "" = none := by decide
    rw [empty, unread] at parsed
    cases parsed
  letters letter among := by
    have range := (Sbi.isAddressLetter_of_mem_showIpv4 among).range
    omega

lemma numeric_showIpv6 (addr : Vector UInt8 16) : Numeric (showIpv6 addr) where
  nonempty empty := by
    have colon := Sbi.colon_mem_showIpv6 addr
    rw [empty] at colon
    cases colon
  letters letter among := by
    have range := (Sbi.isAddressLetter_of_mem_showIpv6 among).range
    omega

lemma splitAtLetter_of_notMem {letter : Char} {text : String} (absent : letter ∉ text.toList) :
  splitAtLetter letter text = none :=
  if_neg absent

lemma splitAtLetter_append {letter : Char} {before : String} (absent : letter ∉ before.toList)
  (after : String) :
  splitAtLetter letter (before ++ singleton letter ++ after) = some (before, after) := by
  have letters : (before ++ singleton letter ++ after).toList =
      before.toList ++ letter :: after.toList := by
    simp [toList_append]
  have others : ∀ other ∈ before.toList, (other != letter) = true := by
    intro other among
    exact bne_iff_ne.mpr fun same => absent (same ▸ among)
  rw [splitAtLetter, letters, if_pos (List.mem_append_right _ List.mem_cons_self),
    List.takeWhile_append_of_pos others, List.dropWhile_append_of_pos others]
  simp

lemma splitPrefix_plain {text : String} (absent : '/' ∉ text.toList) :
  splitPrefix text = .ok (text, none) := by
  rw [splitPrefix, splitAtLetter_of_notMem absent]

lemma splitPrefix_slash {text : String} (absent : '/' ∉ text.toList) {bits : ℕ}
  (small : bits < 256) :
  splitPrefix (text ++ "/" ++ toString bits) = .ok (text, some (UInt8.ofNat bits)) := by
  have split := splitAtLetter_append absent (toString bits)
  rw [splitPrefix, show "/" = singleton '/' from rfl, split]
  dsimp only
  rw [parseU8_toString small]

def portTokens : List String :=
  if port.isEmpty then []
  else if port.low = port.high then [toString port.low.toNat]
  else [toString port.low.toNat ++ "-" ++ toString port.high.toNat]

lemma numeric_portTokens {port : PortRange} {token : String} (among : token ∈ portTokens port) :
  Numeric token := by
  have hyphen : Numeric "-" := ⟨by decide, by simp⟩
  unfold portTokens at among
  split_ifs at among
  · cases among
  · rw [List.mem_singleton.mp among]
    exact numeric_toString _
  · rw [List.mem_singleton.mp among]
    exact ((numeric_toString _).append hyphen).append (numeric_toString _)

lemma splitWhitespace_encodePort (text : String) (port : PortRange) :
  splitWhitespace (text ++ encodePort port) = splitWhitespace text ++ portTokens port := by
  have numeric := @numeric_portTokens port
  unfold encodePort portTokens at *
  split_ifs at numeric ⊢
  · rw [append_empty, List.append_nil]
  · rw [← append_assoc, splitWhitespace_append_space,
      (numeric (List.mem_singleton_self _)).splitWhitespace_eq]
  · rw [← (numeric (List.mem_singleton_self _)).splitWhitespace_eq, ← splitWhitespace_append_space]
    simp only [append_assoc]

def rereadPorts : Option PortRange := if port.isEmpty then none else some port

lemma getD_rereadPorts : (rereadPorts port).getD .none = port := by
  unfold rereadPorts PortRange.isEmpty
  split
  case isTrue empty =>
    rw [Bool.and_eq_true, beq_iff_eq, beq_iff_eq] at empty
    obtain ⟨low, high⟩ := port
    obtain ⟨rfl, rfl⟩ := empty
    rfl
  case isFalse => rfl

lemma parsePortRange_portTokens {port : PortRange} {token : String}
  (among : token ∈ portTokens port) : parsePortRange token = .ok port := by
  obtain ⟨low, high⟩ := port
  unfold portTokens at among
  split_ifs at among with empty single
  · cases among
  · rw [List.mem_singleton.mp among, parsePortRange,
      splitAtLetter_of_notMem (hyphen_notMem_toString _)]
    dsimp only at single ⊢
    rw [parsePortNumber, parseU16_toString, ← single]
    rfl
  · rw [List.mem_singleton.mp among, parsePortRange, show "-" = singleton '-' from rfl,
      splitAtLetter_append (hyphen_notMem_toString _)]
    simp only [parsePortNumber, parseU16_toString]
    rfl

def protoText : String := if proto = 0 then "ip" else toString proto.toNat

lemma parseProtocol_toString : parseProtocol (toString proto.toNat) = .ok proto := by
  have numeric := numeric_toString proto.toNat
  have lower : (toString proto.toNat).toList.map Char.toLower = (toString proto.toNat).toList := by
    refine (List.map_congr_left fun letter among => ?_).trans (List.map_id _)
    have small : ¬ letter.val ≥ 'A'.val := fun upper =>
      absurd (UInt32.le_iff_toNat_le.mp upper)
        (Nat.not_le.mpr (Nat.lt_of_le_of_lt (digit_of_mem_toString among).2 (by decide)))
    exact dif_neg fun upper => small upper.1
  have ne {name : String} (other : name.toList.any (102 < ·.toNat)) :
      toString proto.toNat ≠ name := by
    rintro rfl
    obtain ⟨letter, among, large⟩ := List.any_eq_true.mp other
    exact absurd (numeric.letters letter among).2 (Nat.not_le.mpr (of_decide_eq_true large))
  have ne₂ : ¬ (toString proto.toNat = "icmpv6" ∨ toString proto.toNat = "ipv6-icmp") :=
    not_or.mpr ⟨ne (by decide), ne (by decide)⟩
  rw [parseProtocol, lower, ofList_toList, if_neg (ne (by decide)),
    if_neg (ne (by decide)), if_neg (ne (by decide)), if_neg (ne (by decide)), if_neg ne₂,
    parseU8_toString proto.toNat_lt, UInt8.ofNat_toNat]

lemma parseProtocol_protoText : parseProtocol (protoText proto) = .ok proto := by
  unfold protoText
  split
  case isTrue any =>
    rw [any]
    decide
  case isFalse => exact parseProtocol_toString proto

lemma splitWhitespace_protoText : splitWhitespace (protoText proto) = [protoText proto] := by
  unfold protoText
  split
  · decide
  · exact (numeric_toString _).splitWhitespace_eq

lemma slash_notMem_showIpv4 : '/' ∉ (showIpv4 addr).toList := by
  intro among
  have range := (Sbi.isAddressLetter_of_mem_showIpv4 among).range
  revert range
  decide

lemma slash_notMem_showIpv6 (addr : Vector UInt8 16) : '/' ∉ (showIpv6 addr).toList := by
  intro among
  have range := (Sbi.isAddressLetter_of_mem_showIpv6 among).range
  revert range
  decide

lemma countPrefixBits_le (mask : Vector UInt32 4) (maxBits : ℕ) :
  countPrefixBits mask maxBits ≤ maxBits :=
  Nat.min_le_right _ _

lemma read_of_splitPrefix_v4 {token : String} {addr : UInt32} {prefixLen : Option UInt8}
  (numeric : Numeric token) (split : splitPrefix token = .ok (showIpv4 addr, prefixLen)) :
  AddressRange.read token = some (.v4 addr (prefixLen.getD 32)) := by
  rw [AddressRange.read, if_neg numeric.ne_named, split]
  dsimp only
  rw [Sbi.parseIpv4_showIpv4]

lemma read_of_splitPrefix_v6 {token : String} {addr : Vector UInt8 16}
  {prefixLen : Option UInt8} (numeric : Numeric token)
  (split : splitPrefix token = .ok (showIpv6 addr, prefixLen)) :
  AddressRange.read token = some (.v6 addr (prefixLen.getD 128)) := by
  rw [AddressRange.read, if_neg numeric.ne_named, split]
  dsimp only
  rw [Sbi.parseIpv4_showIpv6, Sbi.parseIpv6_showIpv6]
  rfl

lemma read_encodePrefix {text : String} {range : UInt8 → AddressRange} {bits maxBits : ℕ}
  (numeric : Numeric text) (absent : '/' ∉ text.toList)
  (read : ∀ token prefixLen, Numeric token → splitPrefix token = .ok (text, prefixLen) →
    AddressRange.read token = some (range (prefixLen.getD (UInt8.ofNat maxBits))))
  (small : maxBits < 256) (few : bits ≤ maxBits) (isSrc : Bool) :
  splitWhitespace (encodePrefix text isSrc bits maxBits) =
      [encodePrefix text isSrc bits maxBits] ∧
    AddressRange.read (encodePrefix text isSrc bits maxBits) =
      some (if bits = 0 then .any else range (UInt8.ofNat bits)) := by
  have slash : Numeric "/" := ⟨by decide, by simp⟩
  unfold encodePrefix
  split_ifs with empty whole
  · cases isSrc
    · exact ⟨by decide, by decide⟩
    · exact ⟨by decide, by decide⟩
  · rw [read text none numeric (splitPrefix_plain absent), whole]
    exact ⟨numeric.splitWhitespace_eq, rfl⟩
  · have token := (numeric.append slash).append (numeric_toString bits)
    rw [read _ _ token (splitPrefix_slash absent (by omega))]
    exact ⟨token.splitWhitespace_eq, rfl⟩

lemma fromIpv6_wordOctets (addr : Vector UInt32 4) (prefixLen : UInt8) :
  (fromIpv6 (wordOctets addr) prefixLen).addr = addr := by
  refine Vector.ext fun place below => ?_
  match place, below with
  | 0, _ => exact Upf.beU32_octets addr[0]
  | 1, _ => exact Upf.beU32_octets addr[1]
  | 2, _ => exact Upf.beU32_octets addr[2]
  | 3, _ => exact Upf.beU32_octets addr[3]

def rereadRange : AddressRange → AddressRange
  | .any => .any
  | .v4 address prefixLen =>
    let bits := countPrefixBits (IpAddrMask.fromIpv4 address prefixLen).mask 32
    if bits = 0 then .any else .v4 address (UInt8.ofNat bits)
  | .v6 address prefixLen =>
    let bits := countPrefixBits (IpAddrMask.fromIpv6 address prefixLen).mask 128
    if bits = 0 then .any
    else .v6 (wordOctets (IpAddrMask.fromIpv6 address prefixLen).addr) (UInt8.ofNat bits)

lemma read_encodeAddress (isSrc : Bool) :
  splitWhitespace (encodeAddress (sideOf endpoint) isSrc) =
      [encodeAddress (sideOf endpoint) isSrc] ∧
    AddressRange.read (encodeAddress (sideOf endpoint) isSrc) =
      some (rereadRange endpoint.range) := by
  obtain ⟨range, ports⟩ := endpoint
  cases range with
  | any =>
    cases isSrc
    · exact ⟨show splitWhitespace "assigned" = ["assigned"] by decide, rfl⟩
    · exact ⟨show splitWhitespace "any" = ["any"] by decide, rfl⟩
  | v4 addr prefixLen =>
    exact read_encodePrefix (numeric_showIpv4 addr) (slash_notMem_showIpv4 addr)
      (fun _ _ numeric split => read_of_splitPrefix_v4 numeric split) (by decide)
      (countPrefixBits_le _ _) isSrc
  | v6 addr prefixLen =>
    exact read_encodePrefix (numeric_showIpv6 _) (slash_notMem_showIpv6 _)
      (fun _ _ numeric split => read_of_splitPrefix_v6 numeric split) (by decide)
      (countPrefixBits_le _ _) isSrc

def rereadEndpoint : Endpoint :=
  ⟨rereadRange endpoint.range, rereadPorts (endpoint.ports.getD .none)⟩

def reread : FlowDescription :=
  ⟨description.proto, rereadEndpoint description.source, rereadEndpoint description.destination⟩

def endTokens (isSrc : Bool) : List String :=
  encodeAddress (sideOf endpoint) isSrc :: portTokens (sideOf endpoint).port

lemma port_sideOf : (sideOf endpoint).port = endpoint.ports.getD .none := by
  obtain ⟨range, ports⟩ := endpoint
  cases range <;> rfl

lemma splitWhitespace_encodeAddressPort (isSrc : Bool) :
  splitWhitespace (encodeAddressPort (sideOf endpoint) isSrc) = endTokens endpoint isSrc := by
  rw [encodeAddressPort, splitWhitespace_encodePort, (read_encodeAddress endpoint isSrc).1]
  rfl

lemma splitWhitespace_encodeFlowDescription :
  splitWhitespace (encodeFlowDescription (ruleOf description)) =
    "permit" :: "out" :: protoText description.proto :: "from" ::
      endTokens description.source true ++ "to" :: endTokens description.destination false := by
  have joined : encodeFlowDescription (ruleOf description) =
      "permit out" ++ " " ++ protoText description.proto ++ " " ++ "from" ++ " " ++
        encodeAddressPort (sideOf description.source) true ++ " " ++ "to" ++ " " ++
        encodeAddressPort (sideOf description.destination) false := rfl
  have permitOut : splitWhitespace "permit out" = ["permit", "out"] := by decide
  have fromWord : splitWhitespace "from" = ["from"] := by decide
  have toWord : splitWhitespace "to" = ["to"] := by decide
  rw [joined]
  iterate 5 rw [splitWhitespace_append_space]
  rw [permitOut, fromWord, toWord, splitWhitespace_protoText, splitWhitespace_encodeAddressPort,
    splitWhitespace_encodeAddressPort]
  simp

lemma read_endTokens (isSrc : Bool) :
  Endpoint.read (endTokens endpoint isSrc) = some (rereadEndpoint endpoint) := by
  have range := (read_encodeAddress endpoint isSrc).2
  have read := @parsePortRange_portTokens (sideOf endpoint).port
  rw [port_sideOf] at read
  rw [endTokens, Endpoint.read, range, rereadEndpoint, port_sideOf]
  unfold portTokens rereadPorts at *
  split_ifs at read ⊢
  · rfl
  · simp only [Option.bind_eq_bind, Option.bind_some, read (List.mem_singleton_self _)]
    rfl
  · simp only [Option.bind_eq_bind, Option.bind_some, read (List.mem_singleton_self _)]
    rfl

lemma fits_rereadRange (range : AddressRange) : (rereadRange range).Fits := by
  cases range with
  | any => trivial
  | v4 addr prefixLen =>
    have few := countPrefixBits_le (fromIpv4 addr prefixLen).mask 32
    simp only [rereadRange]
    split_ifs
    · trivial
    · rw [AddressRange.Fits, le_iff_toNat_le,
        toNat_ofNat_of_lt' (Nat.lt_of_le_of_lt few (by decide))]
      exact few
  | v6 addr prefixLen =>
    have few := countPrefixBits_le (fromIpv6 addr prefixLen).mask 128
    simp only [rereadRange]
    split_ifs
    · trivial
    · rw [AddressRange.Fits, le_iff_toNat_le,
        toNat_ofNat_of_lt' (Nat.lt_of_le_of_lt few (by decide))]
      exact few

lemma length_endTokens (isSrc : Bool) : (endTokens endpoint isSrc).length ≤ 2 := by
  unfold endTokens portTokens
  split_ifs <;> simp

lemma compileRule_encodeFlowDescription :
  compileRule (encodeFlowDescription (ruleOf description)) =
    some (.ok (ruleOf (reread description))) := by
  refine compileRule_eq_ok_iff.mpr ⟨reread description, ?_, rfl⟩
  exact FlowDescription.read_of_wellFormed ⟨_, _, _,
    splitWhitespace_encodeFlowDescription description, length_endTokens _ _, length_endTokens _ _,
    parseProtocol_protoText description.proto, read_endTokens _ _, read_endTokens _ _,
    fits_rereadRange _, fits_rereadRange _⟩

def IpAddrMask.masked (addrMask : IpAddrMask) : IpAddrMask :=
  ⟨addrMask.addr.zipWith (· &&& ·) addrMask.mask, addrMask.mask⟩

def Side.normal (side : Side) : Side :=
  if side.ip.mask = IpAddrMask.none.mask then { Side.none with port := side.port }
  else { side with ip := side.ip.masked }

def IpfwRule.normal (rule : IpfwRule) : IpfwRule := ⟨rule.proto, rule.src.normal, rule.dst.normal⟩

/-- Its flow description compiles to an equal rule: protocol, families, addresses under their
masks, masks and ports. -/
def IpfwRule.Reproduced (rule : IpfwRule) : Prop :=
  ∃ again, compileRule (encodeFlowDescription rule) = some (.ok again) ∧ again.normal = rule.normal

def WholeWords (mask : Vector UInt32 4) : Prop :=
  ∀ word ∈ mask.toList, word = 0 ∨ word = 0xFFFFFFFF

instance (mask : Vector UInt32 4) : Decidable (WholeWords mask) :=
  List.decidableBAll _ mask.toList

lemma mask_normal (side : Side) : side.normal.ip.mask = side.ip.mask := by
  unfold Side.normal
  split
  case isTrue empty => exact empty.symm
  case isFalse => rfl

lemma normal_eq_iff {ipv4 ipv6 : Bool} {addr mask other : Vector UInt32 4} {port : PortRange}
  {bits : ℕ} (empty : bits = 0 → other = IpAddrMask.none.mask) :
  (if bits = 0 then { Side.none with port } else Side.mk ipv4 ipv6 ⟨addr, other⟩ port).normal =
      (Side.mk ipv4 ipv6 ⟨addr, mask⟩ port).normal ↔
    other = mask := by
  constructor
  · intro same
    have masks := congrArg (fun side => side.ip.mask) same
    simp only [mask_normal] at masks
    by_cases zero : bits = 0
    · rw [if_pos zero] at masks
      exact (empty zero).trans masks
    · rw [if_neg zero] at masks
      exact masks
  · rintro rfl
    by_cases zero : bits = 0
    · rw [if_pos zero, empty zero]
      rfl
    · rw [if_neg zero]

lemma fromIpv4_countPrefixBits_iff (prefixLen : UInt8) : (fromIpv4 addr (UInt8.ofNat
      (countPrefixBits (fromIpv4 addr prefixLen).mask 32))).mask =
    (fromIpv4 addr prefixLen).mask ↔
    WholeWords (fromIpv4 addr prefixLen).mask := by
  have all : ∀ number : Fin 256, (fromIpv4 0 (UInt8.ofNat
          (countPrefixBits (fromIpv4 0 (ofFin number)).mask 32))).mask =
        (fromIpv4 0 (ofFin number)).mask ↔
        WholeWords (fromIpv4 0 (ofFin number)).mask := by
    decide +kernel
  exact all prefixLen.toFin

lemma ipv6Mask_countPrefixBits_iff (prefixLen : UInt8) :
  ipv6Mask (UInt8.ofNat (countPrefixBits (ipv6Mask prefixLen) 128)) =
    ipv6Mask prefixLen ↔ WholeWords (ipv6Mask prefixLen) := by
  have all : ∀ number : Fin 256, ipv6Mask (UInt8.ofNat
          (countPrefixBits (ipv6Mask (ofFin number)) 128)) =
        ipv6Mask (ofFin number) ↔
        WholeWords (ipv6Mask (ofFin number)) := by
    decide +kernel
  exact all prefixLen.toFin

lemma normal_rereadEndpoint_iff :
  (sideOf (rereadEndpoint endpoint)).normal = (sideOf endpoint).normal ↔
    WholeWords (sideOf endpoint).ip.mask := by
  obtain ⟨range, ports⟩ := endpoint
  cases range with
  | any =>
    have same : sideOf (rereadEndpoint ⟨.any, ports⟩) = sideOf ⟨.any, ports⟩ := by
      simp only [sideOf, rereadEndpoint, rereadRange, getD_rereadPorts]
    have zeros : WholeWords IpAddrMask.none.mask := by decide
    exact iff_of_true (congrArg Side.normal same) zeros
  | v4 addr prefixLen =>
    let bits := countPrefixBits (fromIpv4 addr prefixLen).mask 32
    have back : sideOf (rereadEndpoint ⟨.v4 addr prefixLen, ports⟩) =
        if bits = 0 then { Side.none with port := ports.getD .none }
        else ⟨true, false, .fromIpv4 addr (UInt8.ofNat bits), ports.getD .none⟩ := by
      simp only [rereadEndpoint, rereadRange, sideOf, getD_rereadPorts]
      split_ifs <;> rfl
    rw [back]
    exact (normal_eq_iff fun zero => by rw [zero]; rfl).trans
      (fromIpv4_countPrefixBits_iff addr prefixLen)
  | v6 addr prefixLen =>
    let bits := countPrefixBits (fromIpv6 addr prefixLen).mask 128
    have words := fromIpv6_wordOctets (fromIpv6 addr prefixLen).addr (UInt8.ofNat bits)
    have back : sideOf (rereadEndpoint ⟨.v6 addr prefixLen, ports⟩) =
        if bits = 0 then { Side.none with port := ports.getD .none }
        else ⟨false, true, ⟨(fromIpv6 addr prefixLen).addr,
          ipv6Mask (UInt8.ofNat bits)⟩, ports.getD .none⟩ := by
      simp only [rereadEndpoint, rereadRange, sideOf, getD_rereadPorts]
      split_ifs
      · rfl
      · exact congrArg (fun addr => Side.mk false true
          ⟨addr, ipv6Mask (UInt8.ofNat bits)⟩ (ports.getD .none)) words
    rw [back]
    exact (normal_eq_iff fun zero => by rw [zero]; rfl).trans
      (ipv6Mask_countPrefixBits_iff prefixLen)

/-- Of a compiled rule the flow description compiles to an equal one exactly when both masks are
of whole words: the prefix of an IPv4 address is none or the address, and that of an IPv6 address
ends with a word. -/
theorem reproduced_iff_wholeWords {flowDescription : String} {rule : IpfwRule}
  (compiled : compileRule flowDescription = some (.ok rule)) :
  rule.Reproduced ↔ WholeWords rule.src.ip.mask ∧ WholeWords rule.dst.ip.mask := by
  obtain ⟨description, -, rfl⟩ := compileRule_eq_ok_iff.mp compiled
  have again := compileRule_encodeFlowDescription description
  calc (ruleOf description).Reproduced ↔
      (ruleOf (reread description)).normal = (ruleOf description).normal := by
        constructor
        · rintro ⟨rule, compiles, same⟩
          rw [again, Option.some.injEq, Except.ok.injEq] at compiles
          rwa [compiles]
        · exact fun same => ⟨_, again, same⟩
    _ ↔ _ := by
        have proto : (ruleOf (reread description)).proto = (ruleOf description).proto := rfl
        rw [IpfwRule.normal, IpfwRule.normal, IpfwRule.mk.injEq, and_iff_right proto]
        exact and_congr (normal_rereadEndpoint_iff description.source)
          (normal_rereadEndpoint_iff description.destination)

/-- Two whole addresses and a port. -/
theorem reproduced_addresses : (⟨17, ⟨true, false, .fromIpv4 0x0A000001 32, .none⟩,
    ⟨true, false, .fromIpv4 0xC0A80101 32, .single 80⟩⟩ : IpfwRule).Reproduced := by
  have compiled : compileRule "permit out 17 from 10.0.0.1 to 192.168.1.1 80" = some (.ok
      ⟨17, ⟨true, false, .fromIpv4 0x0A000001 32, .none⟩,
        ⟨true, false, .fromIpv4 0xC0A80101 32, .single 80⟩⟩) := by
    decide
  exact (reproduced_iff_wholeWords compiled).mpr (by decide)

/-- A network of 24 bits comes back as no address at all. -/
theorem not_reproduced : ¬ ∀ (flowDescription : String) (rule : IpfwRule),
    compileRule flowDescription = some (.ok rule) → rule.Reproduced := by
  intro always
  have compiled : compileRule "permit out ip from 10.0.0.0/24 to any" =
      some (.ok ⟨0, ⟨true, false, .fromIpv4 0x0A000000 24, .none⟩, .none⟩) := by
    decide
  obtain ⟨again, compiles, same⟩ := always _ _ compiled
  have written : encodeFlowDescription ⟨0, ⟨true, false, .fromIpv4 0x0A000000 24, .none⟩, .none⟩ =
        "permit out ip from any to assigned" := by
    decide
  have unaddressed : compileRule "permit out ip from any to assigned" = some (.ok .new) := by
    decide
  rw [written, unaddressed, Option.some.injEq, Except.ok.injEq] at compiles
  rw [← compiles] at same
  exact absurd same (by decide)

end NextGCore.Ipfw
