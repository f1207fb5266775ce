import NextGCore.Bsf.Context
import NextGCore.Library.Members

/-!
# Bindings across a restart

`sess_to_doc` writes a binding member by member, and `doc_to_sess` reads the members it
knows.  Neither knows the framed routes, the end points of the PCF for SM policy control
and the feature bits.
-/

namespace NextGCore.Bsf

open Library Sbi List Option Char Int NumberedTable Members

variable {sess : BsfSess} {letter : Char}

inductive Bson where
  | string (text : String)
  | int32 (value : ℤ)
  | int64 (value : ℤ)
  | array (items : List Bson)
  | document (members : List (String × Bson))

abbrev Document := List (String × Bson)

namespace Document

def getStr (doc : Document) (name : String) : Option String :=
  match Members.get doc name with
  | some (.string text) => some text
  | _ => none

def getI32 (doc : Document) (name : String) : Option ℤ :=
  match Members.get doc name with
  | some (.int32 value) => some value
  | _ => none

def getI64 (doc : Document) (name : String) : Option ℤ :=
  match Members.get doc name with
  | some (.int64 value) => some value
  | _ => none

def getArray (doc : Document) (name : String) : Option (List Bson) :=
  match Members.get doc name with
  | some (.array items) => some items
  | _ => none

end Document

def Bson.asDocument : Bson → Option Document
  | .document members => some members
  | _ => none

def endpointFields (endpoint : PcfIpEndpoint) : List (String × Option Bson) :=
  [("ipv4Address", endpoint.addr.map .string), ("ipv6Address", endpoint.addr6.map .string),
    ("port", if endpoint.isPort then some (.int32 endpoint.port.toNat) else none)]

def endpointToDoc (endpoint : PcfIpEndpoint) : Document :=
  ofFields (endpointFields endpoint)

/-- The members in the order in which `sess_to_doc` inserts them. -/
def sessFields (sess : BsfSess) : List (String × Option Bson) :=
  [("binding_id", some (.string sess.bindingId)), ("id", some (.int64 (bmod sess.id (2 ^ 64)))),
    ("supi", sess.supi.map .string),
    ("gpsi", sess.gpsi.map .string),
    ("ipv4Addr", sess.ipv4addrString.map .string),
    ("ipv6Prefix", sess.ipv6prefixString.map .string),
    ("macAddr48", sess.macAddr48.map .string),
    ("ipDomain", sess.ipDomain.map .string),
    ("expiry", sess.expiry.map .string),
    ("dnn", sess.dnn.map .string),
    ("sst", some (.int32 sess.sNssai.sst.toNat)),
    ("sd", sess.sNssai.sd.map fun sd => .int64 sd.toNat),
    ("pcf_sm_fqdn", sess.pcfSmFqdn.map .string),
    ("pcf_fqdn", sess.pcfFqdn.map .string),
    ("pcf_id", sess.pcfId.map .string),
    ("pcf_set_id", sess.pcfSetId.map .string),
    ("bind_level", sess.bindLevel.map .string),
    ("recovery_time", sess.recoveryTime.map .string),
    ("pcf_diam_host", sess.pcfDiamHost.map .string),
    ("pcf_diam_realm", sess.pcfDiamRealm.map .string),
    ("pcfIpEndPoints",
      if sess.pcfIp = [] then none
      else some (.array (sess.pcfIp.map fun endpoint => .document (endpointToDoc endpoint))))]

def sessToDoc (sess : BsfSess) : Document := ofFields (sessFields sess)

def docToEndpoint (doc : Document) : PcfIpEndpoint where
  addr := doc.getStr "ipv4Address"
  addr6 := doc.getStr "ipv6Address"
  isPort := (doc.getI32 "port").isSome
  port := UInt16.ofNat (((doc.getI32 "port").getD 0 % 2 ^ 16).toNat)

def setRead (set : BsfSess → String → Option BsfSess) (sess : BsfSess) (read : Option String) :
  BsfSess :=
  match read with
  | none => sess
  | some text => (set sess text).getD sess

def docToSess (doc : Document) : BsfSess :=
  let id := ((doc.getI64 "id").getD 0 % 2 ^ 64).toNat
  let sess : BsfSess :=
    { BsfSess.new id with
      bindingId := (doc.getStr "binding_id").getD (toString id)
      supi := doc.getStr "supi"
      gpsi := doc.getStr "gpsi"
      ipDomain := doc.getStr "ipDomain"
      dnn := doc.getStr "dnn"
      sNssai :=
        { sst := ((doc.getI32 "sst").map fun sst => UInt8.ofNat (sst % 2 ^ 8).toNat).getD 0
          sd := (doc.getI64 "sd").map fun sd => UInt32.ofNat (sd % 2 ^ 32).toNat }
      pcfSmFqdn := doc.getStr "pcf_sm_fqdn"
      pcfFqdn := doc.getStr "pcf_fqdn"
      pcfId := doc.getStr "pcf_id"
      pcfSetId := doc.getStr "pcf_set_id"
      bindLevel := doc.getStr "bind_level"
      recoveryTime := doc.getStr "recovery_time"
      pcfDiamHost := doc.getStr "pcf_diam_host"
      pcfDiamRealm := doc.getStr "pcf_diam_realm"
      pcfIp :=
        ((doc.getArray "pcfIpEndPoints").map fun endpoints =>
          (endpoints.filterMap Bson.asDocument).map docToEndpoint).getD [] }
  let sess := setRead BsfSess.setIpv4addr sess (doc.getStr "ipv4Addr")
  let sess := setRead BsfSess.setIpv6Prefix sess (doc.getStr "ipv6Prefix")
  let sess := setRead BsfSess.setMacAddr48 sess (doc.getStr "macAddr48")
  setRead BsfSess.setExpiry sess (doc.getStr "expiry")

def restart (maxSess : ℕ) (docs : List Document) : BsfContext :=
  (docs.map docToSess).foldl BsfContext.installLoadedBinding (.init maxSess)

/-- An end point without a port has no port number, as `parse_pcf_ip_endpoints` builds it. -/
def PcfIpEndpoint.Plain (endpoint : PcfIpEndpoint) : Prop :=
  endpoint.isPort = false → endpoint.port = 0

/-- Records that differ in the members alone that are stored as they come. -/
def SameParsed (left right : BsfSess) : Prop :=
  left.id = right.id ∧ left.bindingId = right.bindingId ∧
    left.ipv4addrString = right.ipv4addrString ∧ left.ipv4addr = right.ipv4addr ∧
    left.ipv6prefixString = right.ipv6prefixString ∧ left.ipv6Prefix = right.ipv6Prefix ∧
    left.macAddr48 = right.macAddr48 ∧ left.expiry = right.expiry ∧
    left.expiryEpoch = right.expiryEpoch

inductive BsfSess.Built : BsfSess → Prop
  | new {id : ℕ} : id < 2 ^ 64 → Built (.new id)
  | setIpv4addr {sess next : BsfSess} {text : String} :
      Built sess → sess.setIpv4addr text = some next → Built next
  | setIpv6Prefix {sess next : BsfSess} {text : String} :
      Built sess → sess.setIpv6Prefix text = some next → Built next
  | setMacAddr48 {sess next : BsfSess} {text : String} :
      Built sess → sess.setMacAddr48 text = some next → Built next
  | setExpiry {sess next : BsfSess} {text : String} :
      Built sess → sess.setExpiry text = some next → Built next
  | clearIpv4 {sess : BsfSess} :
      Built sess → Built { sess with ipv4addr := none, ipv4addrString := none, ipDomain := none }
  | clearIpv6 {sess : BsfSess} :
      Built sess → Built { sess with ipv6Prefix := none, ipv6prefixString := none }
  | clearMac {sess : BsfSess} : Built sess → Built { sess with macAddr48 := none }
  | clearExpiry {sess : BsfSess} :
      Built sess → Built { sess with expiry := none, expiryEpoch := none }
  | members {sess next : BsfSess} :
      Built sess → SameParsed next sess → (∀ endpoint ∈ next.pcfIp, endpoint.Plain) → Built next

structure BsfSess.WellFormed (sess : BsfSess) : Prop where
  id : sess.id < 2 ^ 64
  ipv4 : sess.ipv4addrString.map parseIpv4 = sess.ipv4addr.map some
  ipv6 : sess.ipv6prefixString.map Ipv6Prefix.fromString = sess.ipv6Prefix.map some
  mac : sess.macAddr48.map normalizeMac = sess.macAddr48.map some
  expiry : sess.expiry.map rfc3339ToEpoch = sess.expiryEpoch.map some
  endpoints : ∀ endpoint ∈ sess.pcfIp, endpoint.Plain

lemma toNat_lt_of_digit (isHex : (digitValue 16 letter).isSome = true) : letter.toNat < 128 := by
  have bound : ∀ high : Char, high.toNat < 128 → letter ≤ high → letter.toNat < 128 :=
    fun high small below => Nat.lt_of_le_of_lt (UInt32.le_iff_toNat_le.mp below) small
  unfold digitValue at isHex
  by_cases digit : letter.isDigit = true
  · simp only [isDigit, Bool.and_eq_true, decide_eq_true_eq] at digit
    exact bound '9' (by decide) digit.2
  · simp only [digit] at isHex
    split at isHex
    case isTrue absurdity => contradiction
    case isFalse =>
      split at isHex
      case isTrue lower => exact bound 'f' (by decide) lower.2
      case isFalse =>
        split at isHex
        case isTrue upper => exact bound 'F' (by decide) upper.2
        case isFalse => cases isHex

lemma digitValue_toLower (isHex : (digitValue 16 letter).isSome = true) :
  (digitValue 16 letter.toLower).isSome = true ∧ letter.toLower.toLower = letter.toLower ∧
    letter.toLower ≠ '-' := by
  have ascii : ∀ value : Fin 128, (digitValue 16 (Char.ofNat value)).isSome = true →
      (digitValue 16 (Char.ofNat value).toLower).isSome = true ∧
        (Char.ofNat value).toLower.toLower = (Char.ofNat value).toLower ∧
        (Char.ofNat value).toLower ≠ '-' := by
    decide
  have found := ascii ⟨letter.toNat, toNat_lt_of_digit isHex⟩
  rw [Char.ofNat_toNat] at found
  exact found isHex

lemma isHexPair_toLower {part : List Char} (isPair : isHexPair part = true) :
  isHexPair (part.map toLower) = true ∧ (part.map toLower).map toLower = part.map toLower ∧
    '-' ∉ part.map toLower := by
  simp only [isHexPair, Bool.and_eq_true, decide_eq_true_eq, List.all_eq_true] at isPair
  obtain ⟨pair, hex⟩ := isPair
  refine ⟨?_, ?_, ?_⟩
  · simp only [isHexPair, length_map, pair, List.all_map, Bool.and_eq_true,
      decide_eq_true_eq, List.all_eq_true, true_and]
    exact fun letter membership => (digitValue_toLower (hex letter membership)).1
  · rw [List.map_map]
    exact map_congr_left fun letter membership =>
      (digitValue_toLower (hex letter membership)).2.1
  · intro membership
    obtain ⟨letter, isLetter, same⟩ := List.mem_map.mp membership
    exact (digitValue_toLower (hex letter isLetter)).2.2 same

lemma macParts_intercalate {first second : List Char} {rest : List (List Char)}
  (plain : ∀ part ∈ first :: second :: rest, '-' ∉ part) :
  macParts (['-'].intercalate (first :: second :: rest)) = first :: second :: rest := by
  have hyphen : '-' ∈ ['-'].intercalate (first :: second :: rest) := by
    simp [intercalate_cons_cons]
  rw [macParts, if_pos hyphen]
  exact splitOn_intercalate '-' plain (cons_ne_nil _ _)

lemma normalizeMac_normalized {text mac : String} (normalized : normalizeMac text = some mac) :
  normalizeMac mac = some mac := by
  unfold normalizeMac at normalized
  generalize macParts text.toList = parts at normalized
  simp only at normalized
  split at normalized
  case isFalse => cases normalized
  case isTrue valid =>
    obtain ⟨six, pairs⟩ := valid
    obtain rfl := Option.some.inj normalized
    have lower : ∀ part ∈ parts.map (map toLower), isHexPair part = true ∧
        part.map toLower = part ∧ '-' ∉ part := by
      intro part membership
      obtain ⟨original, isPart, rfl⟩ := List.mem_map.mp membership
      exact isHexPair_toLower (List.all_eq_true.mp pairs original isPart)
    have sixLower : (parts.map (map toLower)).length = 6 := by rwa [length_map]
    generalize parts.map (map toLower) = lowered at lower sixLower
    have again : macParts (['-'].intercalate lowered) = lowered := by
      match lowered, sixLower with
      | first :: second :: rest, _ =>
        exact macParts_intercalate fun part membership => (lower part membership).2.2
    have allPairs : lowered.all isHexPair = true :=
      List.all_eq_true.mpr fun part membership => (lower part membership).1
    have sameParts : lowered.map (map toLower) = lowered := by
      rw [map_congr_left fun part membership => (lower part membership).2.1, List.map_id']
    simp only [normalizeMac, String.toList_ofList, again, sixLower, allPairs, and_self, if_true,
      sameParts]

lemma BsfSess.Built.wellFormed (built : sess.Built) : sess.WellFormed := by
  induction built with
  | new small => exact ⟨small, rfl, rfl, rfl, rfl, by simp [BsfSess.new]⟩
  | setIpv4addr _ set ih =>
    obtain ⟨addr, parsed, rfl⟩ := map_eq_some_iff.mp set
    exact { ih with ipv4 := by simp [parsed] }
  | setIpv6Prefix _ set ih =>
    obtain ⟨ipv6Prefix, parsed, rfl⟩ := map_eq_some_iff.mp set
    exact { ih with ipv6 := by simp [parsed] }
  | setMacAddr48 _ set ih =>
    obtain ⟨mac, normalized, rfl⟩ := map_eq_some_iff.mp set
    exact { ih with mac := by simp [normalizeMac_normalized normalized] }
  | setExpiry _ set ih =>
    obtain ⟨epoch, parsed, rfl⟩ := map_eq_some_iff.mp set
    exact { ih with expiry := by simp [parsed] }
  | clearIpv4 _ ih => exact { ih with ipv4 := rfl }
  | clearIpv6 _ ih => exact { ih with ipv6 := rfl }
  | clearMac _ ih => exact { ih with mac := rfl }
  | clearExpiry _ ih => exact { ih with expiry := rfl }
  | members _ same plain ih =>
    obtain ⟨id, -, ipv4Text, ipv4, ipv6Text, ipv6, mac, expiry, epoch⟩ := same
    exact {
      id := id ▸ ih.id
      ipv4 := by rw [ipv4Text, ipv4]; exact ih.ipv4
      ipv6 := by rw [ipv6Text, ipv6]; exact ih.ipv6
      mac := by rw [mac]; exact ih.mac
      expiry := by rw [expiry, epoch]; exact ih.expiry
      endpoints := plain }

section Fields

variable {fields : List (String × Option Bson)} (distinct : (fields.map Prod.fst).Nodup)
  {name : String} {value : Option ℤ}

include distinct

lemma getStr_ofFields {text : Option String} (isField : (name, text.map .string) ∈ fields) :
  Document.getStr (ofFields fields) name = text := by
  rw [Document.getStr, get_ofFields distinct isField]
  cases text <;> rfl

lemma getI32_ofFields (isField : (name, value.map .int32) ∈ fields) :
  Document.getI32 (ofFields fields) name = value := by
  rw [Document.getI32, get_ofFields distinct isField]
  cases value <;> rfl

lemma getI64_ofFields (isField : (name, value.map .int64) ∈ fields) :
  Document.getI64 (ofFields fields) name = value := by
  rw [Document.getI64, get_ofFields distinct isField]
  cases value <;> rfl

lemma getArray_ofFields {items : Option (List Bson)}
  (isField : (name, items.map .array) ∈ fields) :
  Document.getArray (ofFields fields) name = items := by
  rw [Document.getArray, get_ofFields distinct isField]
  cases items <;> rfl

end Fields

lemma endpointFields_nodup (endpoint : PcfIpEndpoint) :
  ((endpointFields endpoint).map Prod.fst).Nodup := by
  change ["ipv4Address", "ipv6Address", "port"].Nodup
  decide

lemma docToEndpoint_endpointToDoc {endpoint : PcfIpEndpoint} (plain : endpoint.Plain) :
  docToEndpoint (endpointToDoc endpoint) = endpoint := by
  have distinct := endpointFields_nodup endpoint
  have addr : (endpointToDoc endpoint).getStr "ipv4Address" = endpoint.addr :=
    getStr_ofFields distinct (by simp [endpointFields])
  have addr6 : (endpointToDoc endpoint).getStr "ipv6Address" = endpoint.addr6 :=
    getStr_ofFields distinct (by simp [endpointFields])
  have isPort : (endpointToDoc endpoint).getI32 "port" =
      if endpoint.isPort then some (endpoint.port.toNat : ℤ) else none :=
    getI32_ofFields distinct (by simp [endpointFields, apply_ite])
  simp only [docToEndpoint, addr, addr6, isPort]
  obtain ⟨addr, addr6, _ | _, port⟩ := endpoint
  · obtain rfl : port = 0 := plain rfl
    rfl
  · have small : (port.toNat : ℤ) % 2 ^ 16 = port.toNat :=
      emod_eq_of_lt (natCast_nonneg _) (by exact_mod_cast port.toNat_lt)
    simp only [if_true, isSome_some, getD_some, small, toNat_natCast, UInt16.ofNat_toNat]

def BsfSess.persisted (sess : BsfSess) : BsfSess :=
  { sess with
    ipv4FrameRouteList := []
    ipv6FrameRouteList := []
    pcfSmIp := []
    managementFeatures := nbsfManagementBindingUpdate }

section Setters

variable {base : BsfSess} {read : Option String}

lemma of_parsed {Value : Type} {parse : String → Option Value} {parsed : Option Value}
  (agree : read.map parse = parsed.map some) :
  (read = none ∧ parsed = none) ∨
    ∃ text value, read = some text ∧ parsed = some value ∧ parse text = some value := by
  cases read <;> cases parsed <;> simp_all

lemma setRead_ipv4addr {addr : Option UInt32} (agree : read.map parseIpv4 = addr.map some)
  (noAddr : base.ipv4addr = none) (noText : base.ipv4addrString = none) :
  setRead BsfSess.setIpv4addr base read =
    { base with ipv4addr := addr, ipv4addrString := read } := by
  rcases of_parsed agree with ⟨rfl, rfl⟩ | ⟨text, addr, rfl, rfl, parsed⟩
  · cases base
    cases noAddr
    cases noText
    rfl
  · simp [setRead, BsfSess.setIpv4addr, parsed]

lemma setRead_ipv6Prefix {ipv6Prefix : Option Ipv6Prefix}
  (agree : read.map Ipv6Prefix.fromString = ipv6Prefix.map some)
  (noPrefix : base.ipv6Prefix = none) (noText : base.ipv6prefixString = none) :
  setRead BsfSess.setIpv6Prefix base read =
    { base with ipv6Prefix := ipv6Prefix, ipv6prefixString := read } := by
  rcases of_parsed agree with ⟨rfl, rfl⟩ | ⟨text, ipv6Prefix, rfl, rfl, parsed⟩
  · cases base
    cases noPrefix
    cases noText
    rfl
  · simp [setRead, BsfSess.setIpv6Prefix, parsed]

lemma setRead_macAddr48 (agree : read.map normalizeMac = read.map some)
  (noMac : base.macAddr48 = none) :
  setRead BsfSess.setMacAddr48 base read = { base with macAddr48 := read } := by
  rcases of_parsed agree with ⟨rfl, -⟩ | ⟨text, mac, isText, isMac, parsed⟩
  · cases base
    cases noMac
    rfl
  · simp [setRead, BsfSess.setMacAddr48, isText, parsed, ← isMac]

lemma setRead_expiry {epoch : Option ℤ} (agree : read.map rfc3339ToEpoch = epoch.map some)
  (noEpoch : base.expiryEpoch = none) (noText : base.expiry = none) :
  setRead BsfSess.setExpiry base read = { base with expiry := read, expiryEpoch := epoch } := by
  rcases of_parsed agree with ⟨rfl, rfl⟩ | ⟨text, epoch, rfl, rfl, parsed⟩
  · cases base
    cases noEpoch
    cases noText
    rfl
  · simp [setRead, BsfSess.setExpiry, parsed]

end Setters

lemma sessFields_nodup (sess : BsfSess) : ((sessFields sess).map Prod.fst).Nodup := by
  change ["binding_id", "id", "supi", "gpsi", "ipv4Addr", "ipv6Prefix", "macAddr48", "ipDomain",
    "expiry", "dnn", "sst", "sd", "pcf_sm_fqdn", "pcf_fqdn", "pcf_id", "pcf_set_id",
    "bind_level", "recovery_time", "pcf_diam_host", "pcf_diam_realm", "pcfIpEndPoints"].Nodup
  decide

section Members

variable {sess : BsfSess}

lemma getI64_id (small : sess.id < 2 ^ 64) :
  (((sessToDoc sess).getI64 "id").getD 0 % 2 ^ 64).toNat = sess.id := by
  have field : (sessToDoc sess).getI64 "id" = some (bmod sess.id (2 ^ 64)) :=
    getI64_ofFields (sessFields_nodup sess) (by simp [sessFields])
  rw [field, getD_some]
  have modulus : bmod sess.id (2 ^ 64) % ((2 ^ 64 : ℕ) : ℤ) = sess.id := by
    rw [bmod_emod]
    exact emod_eq_of_lt (natCast_nonneg _) (by exact_mod_cast small)
  exact congrArg Int.toNat modulus

lemma getI32_sst :
  (((sessToDoc sess).getI32 "sst").map fun sst => UInt8.ofNat (sst % 2 ^ 8).toNat).getD 0 =
    sess.sNssai.sst := by
  have field : (sessToDoc sess).getI32 "sst" = some (sess.sNssai.sst.toNat : ℤ) :=
    getI32_ofFields (sessFields_nodup sess) (by simp [sessFields])
  have small : (sess.sNssai.sst.toNat : ℤ) % 2 ^ 8 = sess.sNssai.sst.toNat :=
    emod_eq_of_lt (natCast_nonneg _) (by exact_mod_cast sess.sNssai.sst.toNat_lt)
  simp only [field, map_some, getD_some, small, toNat_natCast, UInt8.ofNat_toNat]

lemma getI64_sd :
  (((sessToDoc sess).getI64 "sd").map fun sd => UInt32.ofNat (sd % 2 ^ 32).toNat) =
    sess.sNssai.sd := by
  have field : (sessToDoc sess).getI64 "sd" = sess.sNssai.sd.map fun sd => (sd.toNat : ℤ) :=
    getI64_ofFields (sessFields_nodup sess) (by simp [sessFields, Function.comp_def])
  have small : ∀ sd : UInt32, (sd.toNat : ℤ) % 2 ^ 32 = sd.toNat := fun sd =>
    emod_eq_of_lt (natCast_nonneg _) (by exact_mod_cast sd.toNat_lt)
  simp only [field, Option.map_map, Function.comp_def, small, toNat_natCast,
    UInt32.ofNat_toNat, Option.map_id']

lemma getArray_pcfIp (plain : ∀ endpoint ∈ sess.pcfIp, endpoint.Plain) :
  (((sessToDoc sess).getArray "pcfIpEndPoints").map fun endpoints =>
    (endpoints.filterMap Bson.asDocument).map docToEndpoint).getD [] = sess.pcfIp := by
  have field : (sessToDoc sess).getArray "pcfIpEndPoints" = if sess.pcfIp = [] then none
      else some (sess.pcfIp.map fun endpoint => .document (endpointToDoc endpoint)) :=
    getArray_ofFields (sessFields_nodup sess) (by simp [sessFields, apply_ite])
  rw [field]
  split
  case isTrue nil => simp [nil]
  case isFalse =>
    rw [map_some, getD_some, filterMap_map]
    have documents : sess.pcfIp.filterMap
        (Bson.asDocument ∘ fun endpoint => .document (endpointToDoc endpoint)) =
          sess.pcfIp.map endpointToDoc :=
      congrFun filterMap_eq_map sess.pcfIp
    rw [documents, List.map_map]
    calc sess.pcfIp.map (docToEndpoint ∘ endpointToDoc)
        = sess.pcfIp.map id := map_congr_left fun endpoint membership =>
          docToEndpoint_endpointToDoc (plain endpoint membership)
      _ = sess.pcfIp := List.map_id _

lemma getStr_texts (sess : BsfSess) :
  ∀ field ∈ [("binding_id", some sess.bindingId), ("supi", sess.supi), ("gpsi", sess.gpsi),
    ("ipv4Addr", sess.ipv4addrString), ("ipv6Prefix", sess.ipv6prefixString),
    ("macAddr48", sess.macAddr48), ("ipDomain", sess.ipDomain), ("expiry", sess.expiry),
    ("dnn", sess.dnn), ("pcf_sm_fqdn", sess.pcfSmFqdn), ("pcf_fqdn", sess.pcfFqdn),
    ("pcf_id", sess.pcfId), ("pcf_set_id", sess.pcfSetId), ("bind_level", sess.bindLevel),
    ("recovery_time", sess.recoveryTime), ("pcf_diam_host", sess.pcfDiamHost),
    ("pcf_diam_realm", sess.pcfDiamRealm)],
    (sessToDoc sess).getStr field.1 = field.2 := by
  have written : ∀ field : String × Option String,
      (field.1, field.2.map .string) ∈ sessFields sess →
        (sessToDoc sess).getStr field.1 = field.2 :=
    fun field isField => getStr_ofFields (sessFields_nodup sess) isField
  intro field membership
  refine written field ?_
  simp only [mem_cons, not_mem_nil, or_false] at membership
  rcases membership with rfl | rfl | rfl | rfl | rfl | rfl | rfl | rfl | rfl | rfl | rfl | rfl |
    rfl | rfl | rfl | rfl | rfl <;> simp [sessFields]

end Members

lemma docToSess_sessToDoc (wellFormed : sess.WellFormed) :
  docToSess (sessToDoc sess) = sess.persisted := by
  have texts := getStr_texts sess
  simp only [forall_mem_cons] at texts
  obtain ⟨bindingId, supi, gpsi, ipv4, ipv6, mac, ipDomain, expiry, dnn, smFqdn, fqdn, pcfId,
    setId, level, recovery, host, realm, -⟩ := texts
  simp only [docToSess, bindingId, supi, gpsi, ipv4, ipv6, mac, ipDomain, expiry, dnn, smFqdn,
    fqdn, pcfId, setId, level, recovery, host, realm, getI64_id wellFormed.id, getI32_sst,
    getI64_sd, getArray_pcfIp wellFormed.endpoints, getD_some]
  rw [setRead_ipv4addr wellFormed.ipv4 rfl rfl, setRead_ipv6Prefix wellFormed.ipv6 rfl rfl,
    setRead_macAddr48 wellFormed.mac rfl, setRead_expiry wellFormed.expiry rfl rfl]
  rfl

lemma lawfulOrderMax_uint8 : Std.LawfulOrderMax UInt8 := by
  refine .of_max_le_iff (fun first second bound => ?_) fun first second => ?_
  · simp only [max, UInt8.le_iff_toNat_le]
    split <;> omega
  · simp only [max]
    split
    · exact .inr rfl
    · exact .inl rfl

lemma max?_eq_some_iff {lengths : List UInt8} {longest : UInt8} :
  lengths.max? = some longest ↔ longest ∈ lengths ∧ ∀ length ∈ lengths, length ≤ longest := by
  have lawful := lawfulOrderMax_uint8
  exact List.max?_eq_some_iff

lemma max?_perm {left right : List UInt8} (same : left.Perm right) :
  left.max? = right.max? := by
  refine Option.ext fun longest => ?_
  rw [max?_eq_some_iff, max?_eq_some_iff]
  simp [same.mem_iff]

namespace BsfContext

variable {context : BsfContext}

lemma sessFindMatching_perm {next : BsfContext}
  (same : next.sessList.records.Perm context.sessList.records) (filter : BindingFilter)
  (now : ℤ) : (next.sessFindMatching filter now).Perm (context.sessFindMatching filter now) := by
  have found := same.filter fun sess => !sess.isExpired now && sess.matchesFilter filter
  simp only [sessFindMatching]
  cases filter.ipv6Prefix.bind parseQueryIpv6 with
  | none => exact found
  | some addr =>
    have longest := max?_perm (found.filterMap fun sess => sess.ipv6BestMatchLen addr)
    simp only [found.length_eq, longest]
    split
    · split
      · exact found
      · exact found.filter _
    · exact found

lemma sessList_foldl_install (context : BsfContext) (added : List BsfSess) :
  (added.foldl installLoadedBinding context).sessList = added.foldl install context.sessList := by
  induction added generalizing context with
  | nil => rfl
  | cons sess rest ih => exact ih _

lemma records_restart {docs : List Document} (maxSess : ℕ)
  (built : ∀ sess ∈ context.sessList.records, sess.Built)
  (stored : docs.Perm (context.sessList.records.map sessToDoc)) :
  (restart maxSess docs).sessList.records.Perm
    (context.sessList.records.map BsfSess.persisted) := by
  have read : (docs.map docToSess).Perm (context.sessList.records.map BsfSess.persisted) := by
    refine (stored.map docToSess).trans (.of_eq ?_)
    rw [List.map_map]
    exact map_congr_left fun sess membership =>
      docToSess_sessToDoc (built sess membership).wellFormed
  have distinct : ((docs.map docToSess).map BsfSess.id).Nodup := by
    rw [(read.map BsfSess.id).nodup_iff, List.map_map]
    exact context.sessList.nodup_records
  have unused : ∀ sess ∈ docs.map docToSess,
      (empty 1 : NumberedTable BsfSess BsfSess.id).lookup sess.id = none :=
    fun sess _ => lookup_empty 1 sess.id
  have installed := records_foldl_install distinct unused
  rw [restart, sessList_foldl_install]
  refine installed.trans ?_
  change (docs.map docToSess ++ []).Perm _
  rw [append_nil]
  exact read

end BsfContext

/-- A binding without framed routes and end points for SM policy control, whose consumer
negotiated the features that a binding starts with. -/
structure BsfSess.Persistable (sess : BsfSess) : Prop where
  ipv4Routes : sess.ipv4FrameRouteList = []
  ipv6Routes : sess.ipv6FrameRouteList = []
  pcfSmIp : sess.pcfSmIp = []
  features : sess.managementFeatures = nbsfManagementBindingUpdate

lemma BsfSess.persisted_eq_self : sess.persisted = sess ↔ sess.Persistable := by
  constructor
  · intro same
    rw [← same]
    exact ⟨rfl, rfl, rfl, rfl⟩
  · rintro ⟨ipv4Routes, ipv6Routes, pcfSmIp, features⟩
    cases sess
    cases ipv4Routes
    cases ipv6Routes
    cases pcfSmIp
    cases features
    rfl

/-- The documents of the bindings bring them back, and discovery answers from them as it
did before. -/
def BsfContext.SurvivesRestart (context : BsfContext) (maxSess : ℕ)
  (docs : List Document) : Prop :=
  (∀ sess ∈ context.sessList.records, docToSess (sessToDoc sess) = sess) ∧
    ∀ filter now, ((restart maxSess docs).sessFindMatching filter now).Perm
      (context.sessFindMatching filter now)

/-- Bindings survive a restart exactly if their documents leave nothing out. -/
theorem survivesRestart_iff {context : BsfContext} {docs : List Document} (maxSess : ℕ)
  (built : ∀ sess ∈ context.sessList.records, sess.Built)
  (stored : docs.Perm (context.sessList.records.map sessToDoc)) :
  context.SurvivesRestart maxSess docs ↔ ∀ sess ∈ context.sessList.records, sess.Persistable := by
  have roundTrip : ∀ sess ∈ context.sessList.records,
      docToSess (sessToDoc sess) = sess.persisted := fun sess membership =>
    docToSess_sessToDoc (built sess membership).wellFormed
  constructor
  · rintro ⟨same, -⟩ sess membership
    exact BsfSess.persisted_eq_self.mp
      ((roundTrip sess membership).symm.trans (same sess membership))
  · intro persistable
    have kept : ∀ sess ∈ context.sessList.records, sess.persisted = sess :=
      fun sess membership => BsfSess.persisted_eq_self.mpr (persistable sess membership)
    refine ⟨fun sess membership => (roundTrip sess membership).trans (kept sess membership), ?_⟩
    have records := BsfContext.records_restart maxSess built stored
    rw [map_congr_left kept, List.map_id'] at records
    exact BsfContext.sessFindMatching_perm records

def routed (routes : List String) : BsfSess :=
  { BsfSess.new 1 with
    ipv4addr := some 0x0A2D0002
    ipv4addrString := some "10.45.0.2"
    ipv4FrameRouteList := routes }

lemma routed_built (routes : List String) : (routed routes).Built := by
  have addressed : (BsfSess.new 1).setIpv4addr "10.45.0.2" = some (routed []) := by
    decide
  refine .members (.setIpv4addr (.new (by decide)) addressed) ?_ ?_
  · exact ⟨rfl, rfl, rfl, rfl, rfl, rfl, rfl, rfl, rfl⟩
  · intro endpoint membership
    cases membership

/-- The context after the addition of the binding and the update with its routes. -/
def routedContext (routes : List String) : BsfContext :=
  (((BsfContext.init 10).sessAddBinding (some "10.45.0.2") none none).1.sessUpdate
    (routed routes)).1

theorem survivesRestart_unrouted : (routedContext []).SurvivesRestart 10
      ((routedContext []).sessList.records.map sessToDoc) ↔
    ∀ sess ∈ (routedContext []).sessList.records, sess.Persistable :=
  survivesRestart_iff 10
    (by
      have records : (routedContext []).sessList.records = [routed []] := by decide
      rw [records, forall_mem_singleton]
      exact routed_built [])
    (.refl _)

def behindRouter : BindingFilter :=
  ⟨some "192.168.7.9", none, none, none, none, none, none, none⟩

/-- A binding that is found behind its framed route is not found after a restart. -/
theorem routed_forgotten : (routed ["192.168.7.0/24"]).Built ∧
    (routedContext ["192.168.7.0/24"]).sessList.records = [routed ["192.168.7.0/24"]] ∧
    (routedContext ["192.168.7.0/24"]).sessFindMatching behindRouter 0 =
      [routed ["192.168.7.0/24"]] ∧
    (restart 10 [sessToDoc (routed ["192.168.7.0/24"])]).sessFindMatching behindRouter 0 = [] :=
  ⟨routed_built _, by decide, by decide, by decide⟩

end NextGCore.Bsf
