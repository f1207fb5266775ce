import NextGCore.Library.Machine
import NextGCore.Upf.Context

/-!
# The trie of framed routes

The trie goes from bit to bit of an address that lies in four words.  Under its calls it is the map
of the prefixes that were inserted and not removed since, and a search answers with the longest of
them that covers the address.
-/

namespace NextGCore.Upf

open Library List RouteTrie

namespace IpWords

variable (addr : IpWords)

def word : ℕ → UInt32
  | 0 => addr.first
  | 1 => addr.second
  | 2 => addr.third
  | _ => addr.fourth

def bitAt (bitIdx : ℕ) : Bool :=
  addr.word (bitIdx / 32) >>> UInt32.ofNat (31 - bitIdx % 32) &&& 1 != 0

lemma bits_eq : addr.bits = (range 128).map addr.bitAt := by
  rfl

lemma length_bits : addr.bits.length = 128 := by
  rw [bits_eq, length_map, length_range]

end IpWords

namespace RouteTrie

variable (addr : IpWords)

def insertLoop (sessId : UInt64) : ℕ → ℕ → RouteTrie → RouteTrie
  | 0, _, node => .node (some sessId) (node.child false) (node.child true)
  | count + 1, bitIdx, node =>
    if addr.bitAt bitIdx = false then
      .node node.value (insertLoop sessId count (bitIdx + 1) (node.child false)) (node.child true)
    else
      .node node.value (node.child false) (insertLoop sessId count (bitIdx + 1) (node.child true))

def removeLoop : ℕ → ℕ → RouteTrie → RouteTrie × Bool
  | _, _, .empty => (.empty, false)
  | 0, _, .node sessId left right => (.node none left right, sessId.isSome)
  | count + 1, bitIdx, .node sessId left right =>
    if addr.bitAt bitIdx = false then
      let removed := removeLoop count (bitIdx + 1) left
      (.node sessId removed.1 right, removed.2)
    else
      let removed := removeLoop count (bitIdx + 1) right
      (.node sessId left removed.1, removed.2)

def findLoop : ℕ → ℕ → RouteTrie → Option UInt64 → Option UInt64
  | 0, _, _, lastMatch => lastMatch
  | count + 1, bitIdx, node, lastMatch =>
    match node.child (addr.bitAt bitIdx) with
    | .empty => lastMatch
    | .node sessId left right =>
      findLoop count (bitIdx + 1) (.node sessId left right) (sessId.or lastMatch)

def insertBits (trie : RouteTrie) (prefixLen : ℕ) (sessId : UInt64) (isIpv6 : Bool) : RouteTrie :=
  insertLoop addr sessId (min prefixLen (totalBits isIpv6)) 0 trie

def removeBits (trie : RouteTrie) (prefixLen : ℕ) (isIpv6 : Bool) : RouteTrie × Bool :=
  removeLoop addr (min prefixLen (totalBits isIpv6)) 0 trie

def findBits (trie : RouteTrie) (isIpv6 : Bool) : Option UInt64 :=
  findLoop addr (totalBits isIpv6) 0 trie trie.value

def bitsFrom (bitIdx count : ℕ) : List Bool := (range' bitIdx count).map addr.bitAt

lemma bitsFrom_succ (bitIdx count : ℕ) :
  bitsFrom addr bitIdx (count + 1) = addr.bitAt bitIdx :: bitsFrom addr (bitIdx + 1) count := by
  rw [bitsFrom, range'_succ, map_cons, bitsFrom]

lemma path_eq (prefixLen : ℕ) (isIpv6 : Bool) :
  path addr prefixLen isIpv6 = bitsFrom addr 0 (min prefixLen (totalBits isIpv6)) := by
  have few : totalBits isIpv6 ≤ 128 := by cases isIpv6 <;> decide
  rw [path, IpWords.bits_eq, ← map_take, take_range, bitsFrom, range_eq_range']
  congr 2
  omega

lemma insertLoop_eq (sessId : UInt64) (count bitIdx : ℕ) (node : RouteTrie) :
  insertLoop addr sessId count bitIdx node =
    PrefixTrie.insert node (bitsFrom addr bitIdx count) sessId := by
  induction count generalizing bitIdx node with
  | zero => rfl
  | succ count ih =>
    rw [bitsFrom_succ, insertLoop, ih, ih]
    cases addr.bitAt bitIdx <;> rfl

lemma removeLoop_eq (count bitIdx : ℕ) (node : RouteTrie) : removeLoop addr count bitIdx node =
    (PrefixTrie.remove node (bitsFrom addr bitIdx count),
      (node.lookup (bitsFrom addr bitIdx count)).isSome) := by
  induction count generalizing bitIdx node with
  | zero => cases node <;> rfl
  | succ count ih =>
    rw [bitsFrom_succ]
    cases node with
    | empty =>
      rw [removeLoop, PrefixTrie.lookup_empty]
      rfl
    | node sessId left right =>
      rw [removeLoop]
      simp only [ih]
      cases addr.bitAt bitIdx <;> rfl

lemma findLoop_eq (count bitIdx : ℕ) (node : RouteTrie) (lastMatch : Option UInt64) :
  findLoop addr count bitIdx node lastMatch =
    PrefixTrie.findFrom lastMatch node (bitsFrom addr bitIdx count) := by
  induction count generalizing bitIdx node lastMatch with
  | zero => rfl
  | succ count ih =>
    rw [bitsFrom_succ, findLoop, PrefixTrie.findFrom]
    cases node.child (addr.bitAt bitIdx) with
    | empty => rfl
    | node sessId left right => exact ih _ _ _

variable {addr} (trie : RouteTrie) (prefixLen : ℕ) (isIpv6 : Bool)

lemma insertBits_eq (sessId : UInt64) :
  insertBits addr trie prefixLen sessId isIpv6 = insert trie addr prefixLen sessId isIpv6 := by
  rw [insertBits, insertLoop_eq, insert, path_eq]

lemma removeBits_eq : removeBits addr trie prefixLen isIpv6 = (remove trie addr prefixLen isIpv6,
      (trie.lookup (path addr prefixLen isIpv6)).isSome) := by
  rw [removeBits, removeLoop_eq, remove, path_eq]

lemma findBits_eq : findBits addr trie isIpv6 = find trie addr isIpv6 := by
  rw [findBits, findLoop_eq, find, PrefixTrie.find, path_eq, Nat.min_self]

end RouteTrie

/-- A prefix of an address of either family, with no bit set after it. -/
structure RoutePrefix where
  isIpv6 : Bool
  addr : IpWords
  prefixLen : ℕ
  fits : prefixLen ≤ RouteTrie.totalBits isIpv6
  canonical : ∀ bit ∈ addr.bits.drop prefixLen, bit = false

namespace RoutePrefix

def bits (route : RoutePrefix) : List Bool := route.addr.bits.take route.prefixLen

def Covers (route : RoutePrefix) (addr : IpWords) (isIpv6 : Bool) : Prop :=
  route.bits <+: RouteTrie.path addr (RouteTrie.totalBits isIpv6) isIpv6

def Same (first second : RoutePrefix) : Prop := first.bits = second.bits

instance (first second : RoutePrefix) : Decidable (Same first second) :=
  inferInstanceAs (Decidable (_ = _))

lemma bits_eq_path (route : RoutePrefix) :
  path route.addr route.prefixLen route.isIpv6 = route.bits := by
  rw [path, Nat.min_eq_left route.fits, bits]

lemma length_bits (route : RoutePrefix) : route.bits.length = route.prefixLen := by
  have few : totalBits route.isIpv6 ≤ 128 := by cases route.isIpv6 <;> decide
  have fits := route.fits
  rw [bits, length_take, IpWords.length_bits]
  omega

end RoutePrefix

inductive RouteCall where
  | insert (route : RoutePrefix) (sessId : UInt64)
  | remove (route : RoutePrefix)

variable (calls : List RouteCall)

def routeCalls : Machine RouteTrie RouteCall (Option Bool) where
  step
    | trie, .insert route sessId =>
      (RouteTrie.insertBits route.addr trie route.prefixLen sessId route.isIpv6, none)
    | trie, .remove route =>
      let removed := RouteTrie.removeBits route.addr trie route.prefixLen route.isIpv6
      (removed.1, some removed.2)

def RouteCall.tells (route : RoutePrefix) (session : Option UInt64) : RouteCall → Option UInt64
  | .insert other sessId => if route.Same other then some sessId else session
  | .remove other => if route.Same other then none else session

def live (route : RoutePrefix) : Option UInt64 :=
  calls.foldl (RouteCall.tells route) none

lemma lookup_step (trie : RouteTrie) (call : RouteCall) (route : RoutePrefix) :
  (routeCalls.step trie call).1.lookup route.bits =
    call.tells route (trie.lookup route.bits) := by
  cases call with
  | insert other sessId =>
    change (insertBits ..).lookup _ = _
    rw [insertBits_eq, RouteTrie.insert, other.bits_eq_path, PrefixTrie.lookup_insert]
    rfl
  | remove other =>
    change (removeBits ..).1.lookup _ = _
    rw [removeBits_eq, remove, other.bits_eq_path, PrefixTrie.lookup_remove]
    rfl

lemma lookup_run (route : RoutePrefix) :
  (routeCalls.run .empty calls).lookup route.bits = live calls route := by
  have fromAny : ∀ trie : RouteTrie, (routeCalls.run trie calls).lookup route.bits =
      calls.foldl (RouteCall.tells route) (trie.lookup route.bits) := by
    induction calls with
    | nil => exact fun _ => rfl
    | cons call rest ih =>
      intro trie
      rw [Machine.run_cons, ih, lookup_step, foldl_cons]
  rw [fromAny, PrefixTrie.lookup_empty, live]

def Canonical (trie : RouteTrie) : Prop :=
  ∀ path, trie.lookup path ≠ none → ∃ route : RoutePrefix, route.bits = path

lemma canonical_step {trie : RouteTrie} (canonical : Canonical trie) (call : RouteCall) :
  Canonical (routeCalls.step trie call).1 := by
  intro path present
  cases call with
  | insert other sessId =>
    change (insertBits ..).lookup _ ≠ none at present
    rw [insertBits_eq, RouteTrie.insert, other.bits_eq_path, PrefixTrie.lookup_insert] at present
    by_cases same : path = other.bits
    · exact ⟨other, same.symm⟩
    · rw [if_neg same] at present
      exact canonical path present
  | remove other =>
    change (removeBits ..).1.lookup _ ≠ none at present
    rw [removeBits_eq, remove, PrefixTrie.lookup_remove] at present
    split at present
    · exact absurd rfl present
    · exact canonical path present

lemma canonical_run : Canonical (routeCalls.run .empty calls) := by
  have fromAny : ∀ trie : RouteTrie, Canonical trie → Canonical (routeCalls.run trie calls) := by
    induction calls with
    | nil => exact fun _ canonical => canonical
    | cons call rest ih =>
      exact fun trie canonical => ih _ (canonical_step canonical call)
  exact fromAny .empty fun path present => absurd (PrefixTrie.lookup_empty path) present

structure Best (calls : List RouteCall) (addr : IpWords) (isIpv6 : Bool) (route : RoutePrefix) :
  Prop where
  covers : route.Covers addr isIpv6
  isLive : live calls route ≠ none
  longest : ∀ other : RoutePrefix, other.Covers addr isIpv6 → live calls other ≠ none →
    other.prefixLen ≤ route.prefixLen

lemma findBits_run (addr : IpWords) (isIpv6 : Bool) :
  findBits addr (routeCalls.run .empty calls) isIpv6 =
    longestPrefix (routeCalls.run .empty calls).lookup
      (path addr (totalBits isIpv6) isIpv6) := by
  rw [findBits_eq, find, PrefixTrie.find_eq]

lemma findBits_eq_some_iff (addr : IpWords) (isIpv6 : Bool) (sessId : UInt64) :
  findBits addr (routeCalls.run .empty calls) isIpv6 = some sessId ↔
    ∃ route, Best calls addr isIpv6 route ∧ live calls route = some sessId := by
  rw [findBits_run, longestPrefix_eq_some_iff]
  constructor
  · rintro ⟨path, ⟨isPrefix, longest⟩, found⟩
    obtain ⟨route, rfl⟩ := canonical_run calls path (by simp [found])
    have present : live calls route = some sessId := by rw [← lookup_run, found]
    refine ⟨route, ⟨isPrefix, by simp [present], fun other covers isLive => ?_⟩, present⟩
    rw [← other.length_bits, ← route.length_bits]
    exact longest _ covers (by rwa [lookup_run])
  · rintro ⟨route, best, present⟩
    refine ⟨route.bits, ⟨best.covers, fun path isPrefix stored => ?_⟩, by rw [lookup_run, present]⟩
    obtain ⟨other, rfl⟩ := canonical_run calls path stored
    rw [other.length_bits, route.length_bits]
    exact best.longest other isPrefix (by rwa [← lookup_run])

lemma findBits_eq_none_iff (addr : IpWords) (isIpv6 : Bool) :
  findBits addr (routeCalls.run .empty calls) isIpv6 = none ↔
    ∀ route : RoutePrefix, route.Covers addr isIpv6 → live calls route = none := by
  rw [findBits_run, longestPrefix_eq_none_iff]
  constructor
  · intro nothing route covers
    rw [← lookup_run]
    exact nothing _ covers
  · intro nothing path isPrefix
    by_contra stored
    obtain ⟨route, rfl⟩ := canonical_run calls path stored
    exact stored (by rw [lookup_run, nothing route isPrefix])

lemma live_remove (removed route : RoutePrefix) : live (calls ++ [.remove removed]) route =
    if route.Same removed then none else live calls route := by
  rw [live, foldl_append]
  rfl

lemma Best.of_same {calls : List RouteCall} {addr : IpWords} {isIpv6 : Bool}
  {route other : RoutePrefix} (best : Best calls addr isIpv6 route) (same : route.Same other) :
  Best calls addr isIpv6 other := by
  have sameLive : live calls other = live calls route := by
    rw [← lookup_run, ← lookup_run, same]
  have sameLength : other.prefixLen = route.prefixLen := by
    rw [← other.length_bits, ← route.length_bits, same]
  refine ⟨?_, by rw [sameLive]; exact best.isLive, ?_⟩
  · have covers := best.covers
    unfold RoutePrefix.Covers at covers ⊢
    rwa [← same]
  · rw [sameLength]
    exact best.longest

lemma findBits_remove {calls : List RouteCall} {addr : IpWords} {isIpv6 : Bool}
  {removed : RoutePrefix} (other : ¬ Best calls addr isIpv6 removed) :
  findBits addr (routeCalls.run .empty (calls ++ [.remove removed])) isIpv6 =
    findBits addr (routeCalls.run .empty calls) isIpv6 := by
  have kept : ∀ route, live (calls ++ [.remove removed]) route ≠ none →
      live calls route ≠ none := by
    intro route present
    rw [live_remove] at present
    split at present
    · exact absurd rfl present
    · exact present
  cases answer : findBits addr (routeCalls.run .empty calls) isIpv6 with
  | none =>
    rw [findBits_eq_none_iff] at answer ⊢
    intro route covers
    by_contra present
    exact kept route present (answer route covers)
  | some sessId =>
    rw [findBits_eq_some_iff] at answer ⊢
    obtain ⟨route, best, present⟩ := answer
    have apart : ¬ route.Same removed := fun same => other (best.of_same same)
    have still : live (calls ++ [.remove removed]) route = some sessId := by
      rw [live_remove, if_neg apart, present]
    refine ⟨route, ⟨best.covers, by simp [still], fun longer covers isLive => ?_⟩, still⟩
    exact best.longest longer covers (kept longer isLive)

lemma removed_iff (route : RoutePrefix) :
  (routeCalls.step (routeCalls.run .empty calls) (.remove route)).2 = some true ↔
    live calls route ≠ none := by
  change some (removeBits ..).2 = _ ↔ _
  rw [removeBits_eq, route.bits_eq_path, lookup_run, Option.some.injEq, Option.isSome_iff_ne_none]

/-- After any calls a search answers with the session last inserted, and not removed, under the
longest prefix that covers the address; a removal says whether its prefix was there, and changes no
answer but those of the addresses whose longest prefix it was. -/
theorem routeTrie_longest_match (calls : List RouteCall) : (∀ addr isIpv6 sessId,
      RouteTrie.findBits addr (routeCalls.run .empty calls) isIpv6 = some sessId ↔
        ∃ route, Best calls addr isIpv6 route ∧ live calls route = some sessId) ∧
    (∀ addr isIpv6, RouteTrie.findBits addr (routeCalls.run .empty calls) isIpv6 = none ↔
        ∀ route : RoutePrefix, route.Covers addr isIpv6 → live calls route = none) ∧
    ∀ route : RoutePrefix,
      ((routeCalls.step (routeCalls.run .empty calls) (.remove route)).2 = some true ↔
        live calls route ≠ none) ∧
      ∀ addr isIpv6, ¬ Best calls addr isIpv6 route → RouteTrie.findBits addr
            (routeCalls.step (routeCalls.run .empty calls) (.remove route)).1 isIpv6 =
          RouteTrie.findBits addr (routeCalls.run .empty calls) isIpv6 := by
  refine ⟨findBits_eq_some_iff calls, findBits_eq_none_iff calls, fun route =>
    ⟨removed_iff calls route, fun addr isIpv6 other => ?_⟩⟩
  have after : routeCalls.run .empty (calls ++ [.remove route]) =
      (routeCalls.step (routeCalls.run .empty calls) (.remove route)).1 := by
    rw [Machine.run_append]
    rfl
  rw [← after]
  exact findBits_remove other

end NextGCore.Upf
