import NextGCore.Library.NamedTable
import NextGCore.Sbi.IpAddress

/-!
# Bindings and the context of the BSF
-/

namespace NextGCore.Bsf

open Crypt (Bytes)
open Sbi

structure SNssai where
  sst : UInt8
  sd : Option UInt32
  deriving DecidableEq

structure PcfIpEndpoint where
  addr : Option String
  addr6 : Option String
  isPort : Bool
  port : UInt16
  deriving DecidableEq

structure Ipv6Prefix where
  len : UInt8
  addr6 : Vector UInt8 16
  deriving DecidableEq

namespace Ipv6Prefix

def fromString (prefixStr : String) : Option Ipv6Prefix :=
  match prefixStr.toList.splitOn '/' with
  | [addr, len] => do
    let addr ← parseIpv6 (String.ofList addr)
    let len ← parseU8 (String.ofList len)
    return ⟨len, addr⟩
  | _ => none

def hashKey (ipv6Prefix : Ipv6Prefix) : Bytes :=
  ipv6Prefix.len :: ipv6Prefix.addr6.toList.take (min (ipv6Prefix.len.toNat / 8 + 1) 16)

def contains (ipv6Prefix : Ipv6Prefix) (addr : Vector UInt8 16) : Bool :=
  let len := ipv6Prefix.len.toNat
  let own := ipv6Prefix.addr6.toList
  let octets := addr.toList
  let mask : UInt8 := 0xFF <<< UInt8.ofNat (8 - len % 8)
  len ≤ 128 && own.take (len / 8) == octets.take (len / 8) &&
    (len % 8 = 0 ∨ own.getD (len / 8) 0 &&& mask = octets.getD (len / 8) 0 &&& mask)

end Ipv6Prefix

/-- `s.get(from..to)?.parse::<i64>().ok()?`: an octet beside a cut character is no digit. -/
def numberAt (octets : Bytes) (start stop : ℕ) : Option ℤ :=
  if stop ≤ octets.length then parseI64 ((octets.take stop).drop start) else none

def isAsciiDigit (octet : UInt8) : Bool := 48 ≤ octet.toNat && octet.toNat ≤ 57

def fractionEnd (octets : Bytes) : Option ℕ :=
  if octets[19]? = some 46 then
    let digits := (octets.drop 20).takeWhile isAsciiDigit
    if digits = [] then none else some (20 + digits.length)
  else some 19

def offsetSeconds (octets : Bytes) (start : ℕ) : Option ℤ := do
  let sign ← octets[start]?
  if sign = 90 ∨ sign = 122 then
    if start + 1 = octets.length then some 0 else none
  else if sign = 43 ∨ sign = 45 then
    if start + 6 = octets.length ∧ octets[start + 3]? = some 58 then
      let hours ← numberAt octets (start + 1) (start + 3)
      let minutes ← numberAt octets (start + 4) (start + 6)
      if 23 < hours ∨ 59 < minutes then none
      else
        let total := hours * 3600 + minutes * 60
        if sign = 43 then some total else some (-total)
    else none
  else none

def daysFromCivil (year month day : ℤ) : ℤ :=
  let y := if month ≤ 2 then year - 1 else year
  let era := (if 0 ≤ y then y else y - 399).tdiv 400
  let yoe := y - era * 400
  let mp := (month + 9).tmod 12
  let doy := (153 * mp + 2).tdiv 5 + day - 1
  let doe := yoe * 365 + yoe.tdiv 4 - yoe.tdiv 100 + doy
  era * 146097 + doe - 719468

def rfc3339ToEpoch (text : String) : Option ℤ := do
  let octets := asBytes text
  if octets.length < 20 then none
  else
    let year ← numberAt octets 0 4
    let month ← numberAt octets 5 7
    let day ← numberAt octets 8 10
    let hour ← numberAt octets 11 13
    let min ← numberAt octets 14 16
    let sec ← numberAt octets 17 19
    if octets[4]? ≠ some 45 ∨ octets[7]? ≠ some 45 ∨
        (octets[10]? ≠ some 84 ∧ octets[10]? ≠ some 116) ∨
        octets[13]? ≠ some 58 ∨ octets[16]? ≠ some 58 ∨
        ¬ (1 ≤ month ∧ month ≤ 12) ∨ ¬ (1 ≤ day ∧ day ≤ 31) ∨ 23 < hour ∨ 59 < min ∨ 60 < sec then
      none
    else
      let start ← fractionEnd octets
      let offsetSecs ← offsetSeconds octets start
      return daysFromCivil year month day * 86400 + hour * 3600 + min * 60 + sec - offsetSecs

def isHexPair (part : List Char) : Bool :=
  part.length = 2 && part.all fun letter => (digitValue 16 letter).isSome

def macParts (letters : List Char) : List (List Char) :=
  if '-' ∈ letters then letters.splitOn '-' else letters.splitOn ':'

def normalizeMac (text : String) : Option String :=
  let parts := macParts text.toList
  if parts.length = 6 ∧ parts.all isHexPair then
    some (String.ofList (['-'].intercalate (parts.map fun part => part.map Char.toLower)))
  else none

def eqIgnoreAsciiCase (left right : String) : Bool :=
  left.toList.map Char.toLower = right.toList.map Char.toLower

structure BsfSess where
  id : ℕ
  bindingId : String
  supi : Option String
  gpsi : Option String
  ipv4addrString : Option String
  ipv6prefixString : Option String
  macAddr48 : Option String
  ipDomain : Option String
  expiry : Option String
  expiryEpoch : Option ℤ
  ipv4FrameRouteList : List String
  ipv6FrameRouteList : List String
  ipv4addr : Option UInt32
  ipv6Prefix : Option Ipv6Prefix
  sNssai : SNssai
  dnn : Option String
  pcfFqdn : Option String
  pcfIp : List PcfIpEndpoint
  pcfSmFqdn : Option String
  pcfSmIp : List PcfIpEndpoint
  pcfId : Option String
  pcfSetId : Option String
  bindLevel : Option String
  recoveryTime : Option String
  pcfDiamHost : Option String
  pcfDiamRealm : Option String
  managementFeatures : UInt64
  deriving DecidableEq

def nbsfManagementBindingUpdate : UInt64 := 1

namespace BsfSess

def new (id : ℕ) : BsfSess where
  id := id
  bindingId := toString id
  supi := none
  gpsi := none
  ipv4addrString := none
  ipv6prefixString := none
  macAddr48 := none
  ipDomain := none
  expiry := none
  expiryEpoch := none
  ipv4FrameRouteList := []
  ipv6FrameRouteList := []
  ipv4addr := none
  ipv6Prefix := none
  sNssai := ⟨0, none⟩
  dnn := none
  pcfFqdn := none
  pcfIp := []
  pcfSmFqdn := none
  pcfSmIp := []
  pcfId := none
  pcfSetId := none
  bindLevel := none
  recoveryTime := none
  pcfDiamHost := none
  pcfDiamRealm := none
  managementFeatures := nbsfManagementBindingUpdate

def setIpv4addr (sess : BsfSess) (ipv4addrString : String) : Option BsfSess :=
  (parseIpv4 ipv4addrString).map fun addr =>
    { sess with ipv4addr := some addr, ipv4addrString := some ipv4addrString }

def setIpv6Prefix (sess : BsfSess) (ipv6prefixString : String) : Option BsfSess :=
  (Ipv6Prefix.fromString ipv6prefixString).map fun ipv6Prefix =>
    { sess with ipv6Prefix := some ipv6Prefix, ipv6prefixString := some ipv6prefixString }

def setMacAddr48 (sess : BsfSess) (mac : String) : Option BsfSess :=
  (normalizeMac mac).map fun mac => { sess with macAddr48 := some mac }

def setExpiry (sess : BsfSess) (expiry : String) : Option BsfSess :=
  (rfc3339ToEpoch expiry).map fun epoch =>
    { sess with expiry := some expiry, expiryEpoch := some epoch }

def isExpired (sess : BsfSess) (now : ℤ) : Bool :=
  sess.expiryEpoch.any (· ≤ now)

def ipv6Key (sess : BsfSess) : Option Bytes := sess.ipv6Prefix.map Ipv6Prefix.hashKey

end BsfSess

structure BindingFilter where
  ipv4addr : Option String
  ipv6Prefix : Option String
  macAddr48 : Option String
  supi : Option String
  gpsi : Option String
  dnn : Option String
  ipDomain : Option String
  snssai : Option SNssai

def parseQueryIpv6 (query : String) : Option (Vector UInt8 16) :=
  parseIpv6 (String.ofList (query.toList.takeWhile (· ≠ '/')))

def ipv4InCidr (addr : UInt32) (cidr : String) : Bool :=
  match splitOnce ['/'] cidr.toList with
  | none => parseIpv4 cidr = some addr
  | some (net, len) =>
    match parseIpv4 (String.ofList net), parseU8 (String.ofList len) with
    | some net, some len =>
      let mask : UInt32 := if len = 0 then 0 else 0xFFFFFFFF <<< (32 - len.toUInt32)
      len ≤ 32 && addr &&& mask = net &&& mask
    | _, _ => false

def ipv6InCidr (addr : Vector UInt8 16) (cidr : String) : Bool :=
  (Ipv6Prefix.fromString cidr).any fun ipv6Prefix => ipv6Prefix.contains addr

namespace BsfSess

def ipv4InFrameRoutes (sess : BsfSess) (addr : UInt32) : Bool :=
  sess.ipv4FrameRouteList.any (ipv4InCidr addr)

def ipv6InFrameRoutes (sess : BsfSess) (addr : Vector UInt8 16) : Bool :=
  sess.ipv6FrameRouteList.any (ipv6InCidr addr)

def ipv6BestMatchLen (sess : BsfSess) (addr : Vector UInt8 16) : Option UInt8 :=
  let routes := sess.ipv6Prefix.toList ++ sess.ipv6FrameRouteList.filterMap Ipv6Prefix.fromString
  ((routes.filter fun route => route.contains addr).map Ipv6Prefix.len).foldl
    (fun best len => some (best.elim len (max len))) none

def matchesIpv4 (sess : BsfSess) (query : String) : Bool :=
  match parseIpv4 query with
  | some addr => sess.ipv4addrString = some query || sess.ipv4InFrameRoutes addr
  | none => sess.ipv4addrString = some query

def matchesIpv6 (sess : BsfSess) (query : String) : Bool :=
  match parseQueryIpv6 query with
  | some addr =>
    (sess.ipv6Prefix.any fun ipv6Prefix => ipv6Prefix.contains addr) ||
      sess.ipv6InFrameRoutes addr
  | none => sess.ipv6prefixString = some query

def matchesFilter (sess : BsfSess) (filter : BindingFilter) : Bool :=
  filter.ipv4addr.all sess.matchesIpv4 && filter.ipv6Prefix.all sess.matchesIpv6 &&
    (filter.macAddr48.all fun mac => normalizeMac mac = sess.macAddr48) &&
    (filter.supi.all fun supi => sess.supi = some supi) &&
    (filter.gpsi.all fun gpsi => sess.gpsi = some gpsi) &&
    (filter.dnn.all fun dnn => sess.dnn.any (eqIgnoreAsciiCase · dnn)) &&
    (filter.ipDomain.all fun ipDomain => sess.ipDomain = some ipDomain) &&
    (filter.snssai.all fun snssai => sess.sNssai = snssai)

end BsfSess

open Library Sbi

structure BsfContext where
  ipv4addrHash : AList (fun _ : UInt32 => ℕ)
  ipv6prefixHash : AList (fun _ : Bytes => ℕ)
  macHash : AList (fun _ : String => ℕ)
  sessList : NumberedTable BsfSess BsfSess.id
  maxNumOfSess : ℕ

namespace BsfContext

def init (maxSess : ℕ) : BsfContext := ⟨∅, ∅, ∅, .empty 1, maxSess⟩

variable (context : BsfContext)

def sessFind (index : ℕ) : Option BsfSess := context.sessList.lookup index

def findBy {Key : Type} (readKey : String → Option Key) (hash : Key → Option ℕ)
  (text : String) : Option BsfSess :=
  (readKey text).bind (search context.sessFind hash)

def sessFindByIpv4addr (ipv4addrString : String) : Option BsfSess :=
  context.findBy parseIpv4 context.ipv4addrHash.lookup ipv4addrString

def readIpv6Key (ipv6prefixString : String) : Option Bytes :=
  (Ipv6Prefix.fromString ipv6prefixString).map Ipv6Prefix.hashKey

def sessFindByIpv6Prefix (ipv6prefixString : String) : Option BsfSess :=
  context.findBy readIpv6Key context.ipv6prefixHash.lookup ipv6prefixString

def sessFindByMac (mac : String) : Option BsfSess :=
  context.findBy normalizeMac context.macHash.lookup mac

/-- The bindings that match and have not expired; of those that match an IPv6 query the
ones that match the longest prefix. -/
def sessFindMatching (filter : BindingFilter) (now : ℤ) : List BsfSess :=
  let found := context.sessList.records.filter fun sess =>
    !sess.isExpired now && sess.matchesFilter filter
  match filter.ipv6Prefix.bind parseQueryIpv6 with
  | none => found
  | some addr =>
    if 1 < found.length then
      match (found.filterMap fun sess => sess.ipv6BestMatchLen addr).max? with
      | none => found
      | some longest => found.filter fun sess => sess.ipv6BestMatchLen addr = some longest
    else found

def setGiven (set : BsfSess → String → Option BsfSess) (sess : BsfSess) :
    Option String → Option BsfSess
  | none => some sess
  | some text => set sess text

def sessAddBinding (ipv4addrString ipv6prefixString macAddr48 : Option String) :
  BsfContext × Option BsfSess :=
  if ipv4addrString = none ∧ ipv6prefixString = none ∧ macAddr48 = none then (context, none)
  else if context.maxNumOfSess ≤ context.sessList.size then (context, none)
  else
    let id := context.sessList.next
    let context := { context with sessList := context.sessList.skip }
    match setGiven BsfSess.setIpv4addr (.new id) ipv4addrString with
    | none => (context, none)
    | some sess =>
      let context :=
        { context with ipv4addrHash := name context.ipv4addrHash id sess.ipv4addr }
      match setGiven BsfSess.setIpv6Prefix sess ipv6prefixString with
      | none => (context, none)
      | some sess =>
        let context :=
          { context with ipv6prefixHash := name context.ipv6prefixHash id sess.ipv6Key }
        match setGiven BsfSess.setMacAddr48 sess macAddr48 with
        | none => (context, none)
        | some sess =>
          ({ context with
              macHash := name context.macHash id sess.macAddr48
              sessList := context.sessList.install sess },
            some sess)

def sessRemove (id : ℕ) : BsfContext × Option BsfSess :=
  match context.sessFind id with
  | none => (context, none)
  | some sess =>
    ({ context with
        sessList := context.sessList.erase id
        ipv4addrHash := unname context.ipv4addrHash sess.ipv4addr
        ipv6prefixHash := unname context.ipv6prefixHash sess.ipv6Key
        macHash := unname context.macHash sess.macAddr48 },
      some sess)

def expired (now : ℤ) : List ℕ :=
  (context.sessList.records.filter fun sess => sess.isExpired now).map BsfSess.id

def removeEach (ids : List ℕ) : BsfContext :=
  ids.foldl (fun context id => (context.sessRemove id).1) context

def sweepExpired (now : ℤ) : BsfContext × List String :=
  (context.removeEach (context.expired now),
    (context.sessList.records.filter fun sess => sess.isExpired now).map BsfSess.bindingId)

def installLoadedBinding (sess : BsfSess) : BsfContext :=
  { context with
    ipv4addrHash := name context.ipv4addrHash sess.id sess.ipv4addr
    ipv6prefixHash := name context.ipv6prefixHash sess.id sess.ipv6Key
    macHash := name context.macHash sess.id sess.macAddr48
    sessList := context.sessList.install sess }

def sessUpdate (sess : BsfSess) : BsfContext × Bool :=
  ({ context with sessList := context.sessList.update sess }, (context.sessFind sess.id).isSome)

def setUeIpv4 (sess : BsfSess) : Option String → BsfContext × BsfSess × Bool
  | some text =>
    match sess.setIpv4addr text with
    | none => (context, sess, false)
    | some next =>
      ({ context with
          ipv4addrHash := name (unname context.ipv4addrHash sess.ipv4addr) sess.id
            next.ipv4addr },
        next, true)
  | none =>
    ({ context with ipv4addrHash := unname context.ipv4addrHash sess.ipv4addr },
      { sess with ipv4addr := none, ipv4addrString := none, ipDomain := none }, true)

def setUeIpv6 (sess : BsfSess) : Option String → BsfContext × BsfSess × Bool
  | some text =>
    match sess.setIpv6Prefix text with
    | none => (context, sess, false)
    | some next =>
      ({ context with
          ipv6prefixHash := name (unname context.ipv6prefixHash sess.ipv6Key) sess.id
            next.ipv6Key },
        next, true)
  | none =>
    ({ context with ipv6prefixHash := unname context.ipv6prefixHash sess.ipv6Key },
      { sess with ipv6Prefix := none, ipv6prefixString := none }, true)

def setUeMac (sess : BsfSess) : Option String → BsfContext × BsfSess × Bool
  | some text =>
    match sess.setMacAddr48 text with
    | none => (context, sess, false)
    | some next =>
      ({ context with
          macHash := name (unname context.macHash sess.macAddr48) sess.id next.macAddr48 },
        next, true)
  | none =>
    ({ context with macHash := unname context.macHash sess.macAddr48 },
      { sess with macAddr48 := none }, true)

end BsfContext

inductive BsfOperation where
  | sessAddBinding (ipv4addrString ipv6prefixString macAddr48 : Option String)
  | sessRemove (id : ℕ)
  | sweepExpired (now : ℤ)
  | installLoadedBinding (sess : BsfSess)
  | setUeIpv4 (sess : BsfSess) (value : Option String)
  | setUeIpv6 (sess : BsfSess) (value : Option String)
  | setUeMac (sess : BsfSess) (value : Option String)
  | sessUpdate (sess : BsfSess)

namespace BsfContext

def operate (context : BsfContext) : BsfOperation → BsfContext
  | .sessAddBinding ipv4addrString ipv6prefixString macAddr48 =>
    (context.sessAddBinding ipv4addrString ipv6prefixString macAddr48).1
  | .sessRemove id => (context.sessRemove id).1
  | .sweepExpired now => (context.sweepExpired now).1
  | .installLoadedBinding sess => context.installLoadedBinding sess
  | .setUeIpv4 sess value => (context.setUeIpv4 sess value).1
  | .setUeIpv6 sess value => (context.setUeIpv6 sess value).1
  | .setUeMac sess value => (context.setUeMac sess value).1
  | .sessUpdate sess => (context.sessUpdate sess).1

end BsfContext

end NextGCore.Bsf
