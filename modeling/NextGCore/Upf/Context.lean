import Mathlib.Data.List.AList
import NextGCore.Library.PrefixTrie

/-!
# The context of the UPF

The sessions of `context.rs`, the hash maps that find them by their SEIDs and by the addresses of
their UEs, and the tries of their framed routes.
-/

namespace NextGCore.Upf

open Library

variable (word : UInt32)

/-- `[u32; 4]`: an IPv6 address, or an IPv4 address in the first word. -/
structure IpWords where
  first : UInt32
  second : UInt32 := 0
  third : UInt32 := 0
  fourth : UInt32 := 0
  deriving DecidableEq

def wordBits : List Bool :=
  (List.range 32).map fun index => word >>> UInt32.ofNat (31 - index) &&& 1 != 0

lemma length_wordBits : (wordBits word).length = 32 := by
  rw [wordBits, List.length_map, List.length_range]

def leadingOnes : ℕ := ((wordBits word).takeWhile id).length

namespace IpWords

def bits (addr : IpWords) : List Bool :=
  wordBits addr.first ++ wordBits addr.second ++ wordBits addr.third ++ wordBits addr.fourth

def network (addr : IpWords) : UInt32 × UInt32 := (addr.first, addr.second)

def leadingOnes (mask : IpWords) : ℕ :=
  Upf.leadingOnes mask.first + Upf.leadingOnes mask.second + Upf.leadingOnes mask.third +
    Upf.leadingOnes mask.fourth

end IpWords

structure IpSubnet where
  sub : IpWords
  mask : IpWords
  deriving DecidableEq

def IpSubnet.prefixLen (subnet : IpSubnet) (isIpv6 : Bool) : ℕ :=
  if isIpv6 then subnet.mask.leadingOnes else leadingOnes subnet.mask.first

abbrev RouteTrie := PrefixTrie UInt64

namespace RouteTrie

def totalBits (isIpv6 : Bool) : ℕ := if isIpv6 then 128 else 32

def path (addr : IpWords) (prefixLen : ℕ) (isIpv6 : Bool) : List Bool :=
  addr.bits.take (min prefixLen (totalBits isIpv6))

def insert (trie : RouteTrie) (addr : IpWords) (prefixLen : ℕ) (sessId : UInt64)
  (isIpv6 : Bool) : RouteTrie :=
  PrefixTrie.insert trie (path addr prefixLen isIpv6) sessId

def remove (trie : RouteTrie) (addr : IpWords) (prefixLen : ℕ) (isIpv6 : Bool) : RouteTrie :=
  PrefixTrie.remove trie (path addr prefixLen isIpv6)

def find (trie : RouteTrie) (addr : IpWords) (isIpv6 : Bool) : Option UInt64 :=
  PrefixTrie.find trie (path addr (totalBits isIpv6) isIpv6)

end RouteTrie

structure FSeid where
  seid : UInt64
  ipv4 : Option UInt32
  ipv6 : Option IpWords
  deriving DecidableEq

/-- The parts of a session that are looked up by; `ipv4` and `ipv6` are the addresses of the
UE. -/
structure UpfSess where
  id : UInt64
  upfN4Seid : UInt64
  smfN4FSeid : FSeid
  ipv4 : Option IpWords := none
  ipv6 : Option IpWords := none
  ipv4FramedRoutes : Option (List IpSubnet) := none
  ipv6FramedRoutes : Option (List IpSubnet) := none
  deriving DecidableEq

def NEXTGCORE_MAX_NUM_OF_FRAMED_ROUTES_IN_PDI : ℕ := 8

def pushRoute (routes : Option (List IpSubnet)) (subnet : IpSubnet) : Option (List IpSubnet) :=
  let routes := routes.getD []
  if routes.length < NEXTGCORE_MAX_NUM_OF_FRAMED_ROUTES_IN_PDI then some (routes ++ [subnet])
  else some routes

namespace UpfSess

variable (sess : UpfSess)

def setIpv4 (addr : UInt32) : UpfSess := { sess with ipv4 := some ⟨addr, 0, 0, 0⟩ }

def setIpv6 (addr : IpWords) : UpfSess := { sess with ipv6 := some addr }

def addIpv4FramedRoute (subnet : IpSubnet) : UpfSess :=
  { sess with ipv4FramedRoutes := pushRoute sess.ipv4FramedRoutes subnet }

def addIpv6FramedRoute (subnet : IpSubnet) : UpfSess :=
  { sess with ipv6FramedRoutes := pushRoute sess.ipv6FramedRoutes subnet }

end UpfSess

structure UpfContext where
  upfN4SeidHash : AList fun _ : UInt64 => UInt64
  smfN4SeidHash : AList fun _ : UInt64 => UInt64
  smfN4FSeidHash : AList fun _ : FSeid => UInt64
  ipv4Hash : AList fun _ : UInt32 => UInt64
  ipv6Hash : AList fun _ : UInt32 × UInt32 => UInt64
  ipv4FramedRoutes : RouteTrie
  ipv6FramedRoutes : RouteTrie
  sessList : AList fun _ : UInt64 => UpfSess
  nextSessId : UInt64
  n4SeidGenerator : UInt64
  maxNumOfSess : ℕ

def eraseKey {Key : Type} [DecidableEq Key] (hash : AList fun _ : Key => UInt64)
  (key : Option Key) : AList fun _ : Key => UInt64 :=
  key.elim hash hash.erase

def insertKey {Key : Type} [DecidableEq Key] (hash : AList fun _ : Key => UInt64)
  (key : Option Key) (id : UInt64) : AList fun _ : Key => UInt64 :=
  key.elim hash fun key => hash.insert key id

namespace UpfContext

def init (maxSess : ℕ) : UpfContext where
  upfN4SeidHash := ∅
  smfN4SeidHash := ∅
  smfN4FSeidHash := ∅
  ipv4Hash := ∅
  ipv6Hash := ∅
  ipv4FramedRoutes := .empty
  ipv6FramedRoutes := .empty
  sessList := ∅
  nextSessId := 1
  n4SeidGenerator := 1
  maxNumOfSess := maxSess

variable (context : UpfContext)

def full : Bool :=
  decide (context.maxNumOfSess ≤ context.sessList.entries.length) &&
    decide (0 < context.maxNumOfSess)

def sessAdd (fSeid : FSeid) : UpfContext × Option UpfSess :=
  if context.full then (context, none)
  else
    let sess : UpfSess :=
      { id := context.nextSessId, upfN4Seid := context.n4SeidGenerator, smfN4FSeid := fSeid }
    ({ context with
        nextSessId := context.nextSessId + 1
        n4SeidGenerator := context.n4SeidGenerator + 1
        smfN4FSeidHash := context.smfN4FSeidHash.insert fSeid sess.id
        smfN4SeidHash := context.smfN4SeidHash.insert fSeid.seid sess.id
        upfN4SeidHash := context.upfN4SeidHash.insert sess.upfN4Seid sess.id
        sessList := context.sessList.insert sess.id sess },
      some sess)

def removeRoutes (trie : RouteTrie) (routes : Option (List IpSubnet)) (isIpv6 : Bool) :
  RouteTrie :=
  (routes.getD []).foldl
    (fun trie route => RouteTrie.remove trie route.sub (route.prefixLen isIpv6) isIpv6) trie

def sessRemove (id : UInt64) : UpfContext × Option UpfSess :=
  match context.sessList.lookup id with
  | none => (context, none)
  | some sess =>
    ({ context with
        sessList := context.sessList.erase id
        smfN4FSeidHash := context.smfN4FSeidHash.erase sess.smfN4FSeid
        smfN4SeidHash := context.smfN4SeidHash.erase sess.smfN4FSeid.seid
        upfN4SeidHash := context.upfN4SeidHash.erase sess.upfN4Seid
        ipv4Hash := eraseKey context.ipv4Hash (sess.ipv4.map IpWords.first)
        ipv6Hash := eraseKey context.ipv6Hash (sess.ipv6.map IpWords.network)
        ipv4FramedRoutes :=
          removeRoutes context.ipv4FramedRoutes sess.ipv4FramedRoutes false
        ipv6FramedRoutes :=
          removeRoutes context.ipv6FramedRoutes sess.ipv6FramedRoutes true },
      some sess)

def sessFindById (id : UInt64) : Option UpfSess := context.sessList.lookup id

def sessFindBySmfN4Seid (seid : UInt64) : Option UpfSess :=
  (context.smfN4SeidHash.lookup seid).bind context.sessFindById

def sessFindBySmfN4FSeid (fSeid : FSeid) : Option UpfSess :=
  (context.smfN4FSeidHash.lookup fSeid).bind context.sessFindById

def sessFindByUpfN4Seid (seid : UInt64) : Option UpfSess :=
  (context.upfN4SeidHash.lookup seid).bind context.sessFindById

def sessFindByIpv4 (addr : UInt32) : Option UpfSess :=
  ((context.ipv4Hash.lookup addr).bind context.sessFindById).or
    ((RouteTrie.find context.ipv4FramedRoutes ⟨addr, 0, 0, 0⟩ false).bind context.sessFindById)

def sessFindByIpv6 (addr : IpWords) : Option UpfSess :=
  ((context.ipv6Hash.lookup addr.network).bind context.sessFindById).or
    ((RouteTrie.find context.ipv6FramedRoutes addr true).bind context.sessFindById)

def sessSetUeIp (sessId : UInt64) (ipv4 : Option UInt32) (ipv6 : Option IpWords) :
  UpfContext × Bool :=
  match context.sessList.lookup sessId with
  | none => (context, false)
  | some sess =>
    let sess := ipv4.elim sess sess.setIpv4
    let sess := ipv6.elim sess sess.setIpv6
    ({ context with
        sessList := context.sessList.insert sessId sess
        ipv4Hash := insertKey context.ipv4Hash ipv4 sessId
        ipv6Hash := insertKey context.ipv6Hash (ipv6.map IpWords.network) sessId },
      true)

def sessAddFramedRoute (sessId : UInt64) (subnet : IpSubnet) (isIpv6 : Bool) :
  UpfContext × Bool :=
  match context.sessList.lookup sessId with
  | none => (context, false)
  | some sess =>
    if isIpv6 then
      ({ context with
          ipv6FramedRoutes := RouteTrie.insert context.ipv6FramedRoutes subnet.sub
            (subnet.prefixLen true) sessId true
          sessList := context.sessList.insert sessId (sess.addIpv6FramedRoute subnet) },
        true)
    else
      ({ context with
          ipv4FramedRoutes := RouteTrie.insert context.ipv4FramedRoutes subnet.sub
            (subnet.prefixLen false) sessId false
          sessList := context.sessList.insert sessId (sess.addIpv4FramedRoute subnet) },
        true)

def sessUpdate (sess : UpfSess) : UpfContext × Bool :=
  match context.sessList.lookup sess.id with
  | none => (context, false)
  | some _ => ({ context with sessList := context.sessList.insert sess.id sess }, true)

end UpfContext

inductive ContextOp where
  | sessAdd (fSeid : FSeid)
  | sessSetUeIp (sessId : UInt64) (ipv4 : Option UInt32) (ipv6 : Option IpWords)
  | sessAddFramedRoute (sessId : UInt64) (subnet : IpSubnet) (isIpv6 : Bool)
  | sessUpdate (sess : UpfSess)
  | sessRemove (id : UInt64)

def ContextOp.apply (context : UpfContext) : ContextOp → UpfContext
  | .sessAdd fSeid => (context.sessAdd fSeid).1
  | .sessSetUeIp sessId ipv4 ipv6 => (context.sessSetUeIp sessId ipv4 ipv6).1
  | .sessAddFramedRoute sessId subnet isIpv6 =>
    (context.sessAddFramedRoute sessId subnet isIpv6).1
  | .sessUpdate sess => (context.sessUpdate sess).1
  | .sessRemove id => (context.sessRemove id).1

end NextGCore.Upf
