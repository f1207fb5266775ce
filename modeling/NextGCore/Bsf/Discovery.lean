import NextGCore.Bsf.Persistence
import NextGCore.Library.LeadingBits
import NextGCore.Sbi.IpText

/-!
# Discovery of bindings

What a discovery asks for is said apart from how `sess_find_matching` looks for it: bindings that
have not expired and satisfy every member of the filter, and of these, for an IPv6 address, the
ones under the longest prefix.
-/

namespace NextGCore.Bsf

open Library Sbi Option

variable {addr : Vector UInt8 16} {sess : BsfSess} {ipv6Prefix : Ipv6Prefix}

/-- The network that a CIDR names and its prefix length; a bare address is a network alone. -/
def readIpv4Network (cidr : String) : Option (UInt32 × UInt8) :=
  match splitOnce ['/'] cidr.toList with
  | none => (parseIpv4 cidr).map fun net => (net, 32)
  | some (net, len) => do
    let net ← parseIpv4 (String.ofList net)
    let len ← parseU8 (String.ofList len)
    if len ≤ 32 then some (net, len) else none

def InIpv4Cidr (addr : UInt32) (cidr : String) : Prop :=
  ∃ net len, readIpv4Network cidr = some (net, len) ∧ SameLeading 32 len.toNat addr.toNat net.toNat

def Ipv6Prefix.Covers (ipv6Prefix : Ipv6Prefix) (addr : Vector UInt8 16) : Prop :=
  ipv6Prefix.len ≤ 128 ∧ SameLeading 128 ipv6Prefix.len.toNat
    (beValue ipv6Prefix.addr6.toList) (beValue addr.toList)

lemma ipv4InCidr_iff {addr : UInt32} {cidr : String} :
  ipv4InCidr addr cidr = true ↔ InIpv4Cidr addr cidr := by
  rw [ipv4InCidr, InIpv4Cidr, readIpv4Network]
  cases splitOnce ['/'] cidr.toList with
  | none =>
    simp only [decide_eq_true_eq]
    constructor
    · intro parsed
      rw [parsed]
      exact ⟨addr, 32, rfl, SameLeading.refl _ _ _⟩
    · rintro ⟨net, len, named, same⟩
      obtain ⟨net, parsed, named⟩ := map_eq_some_iff.mp named
      cases named
      rw [parsed, UInt32.toNat_inj.mp
        ((SameLeading.all_iff le_rfl addr.toNat_lt net.toNat_lt).mp same)]
  | some parts =>
    obtain ⟨net, len⟩ := parts
    dsimp only
    cases parseIpv4 (String.ofList net) with
    | none => exact ⟨nofun, fun ⟨_, _, named, _⟩ => nomatch named⟩
    | some net =>
      cases parseU8 (String.ofList len) with
      | none => exact ⟨nofun, fun ⟨_, _, named, _⟩ => nomatch named⟩
      | some len =>
        simp only [bind_eq_bind, bind_some, Bool.and_eq_true, decide_eq_true_eq]
        by_cases few : len ≤ 32
        · rw [if_pos few, and_iff_right few]
          change addr &&& wordMask len = net &&& wordMask len ↔ _
          rw [and_mask_eq_iff_word few]
          simp
        · simp [few]

lemma contains_iff : ipv6Prefix.contains addr = true ↔ ipv6Prefix.Covers addr := by
  have lengths : ipv6Prefix.addr6.toList.length = addr.toList.length := by
    rw [Vector.length_toList, Vector.length_toList]
  have size : 8 * ipv6Prefix.addr6.toList.length = 128 := by
    rw [Vector.length_toList]
  rw [Ipv6Prefix.contains, Ipv6Prefix.Covers]
  simp only [Bool.and_eq_true, decide_eq_true_eq, beq_iff_eq, and_assoc]
  rw [UInt8.le_iff_toNat_le]
  refine and_congr_right fun few => ?_
  have compared := take_and_mask_iff lengths (few.trans_eq size.symm)
  rw [size] at compared
  exact compared

namespace BsfSess

variable (sess : BsfSess)

def ipv6Prefixes : List Ipv6Prefix :=
  sess.ipv6Prefix.toList ++ sess.ipv6FrameRouteList.filterMap Ipv6Prefix.fromString

def Live (now : ℤ) : Prop := ∀ epoch ∈ sess.expiryEpoch, now < epoch

/-- Every member of the filter asks for something that the binding has. -/
structure Satisfies (filter : BindingFilter) : Prop where
  ipv4 : ∀ query ∈ filter.ipv4addr, ∃ addr, parseIpv4 query = some addr ∧
    (sess.ipv4addr = some addr ∨ ∃ cidr ∈ sess.ipv4FrameRouteList, InIpv4Cidr addr cidr)
  ipv6 : ∀ query ∈ filter.ipv6Prefix, ∃ addr, parseQueryIpv6 query = some addr ∧
    ∃ ipv6Prefix ∈ sess.ipv6Prefixes, ipv6Prefix.Covers addr
  mac : ∀ query ∈ filter.macAddr48, ∃ mac, normalizeMac query = some mac ∧ sess.macAddr48 = some mac
  supi : ∀ query ∈ filter.supi, sess.supi = some query
  gpsi : ∀ query ∈ filter.gpsi, sess.gpsi = some query
  dnn : ∀ query ∈ filter.dnn, ∃ dnn, sess.dnn = some dnn ∧ eqIgnoreAsciiCase dnn query
  ipDomain : ∀ query ∈ filter.ipDomain, sess.ipDomain = some query
  snssai : ∀ query ∈ filter.snssai, sess.sNssai = query

end BsfSess

def BindingFilter.withoutMac (filter : BindingFilter) : BindingFilter :=
  { filter with macAddr48 := none }

namespace BsfContext

variable (context : BsfContext) (filter : BindingFilter) (now : ℤ)

structure Candidate (sess : BsfSess) : Prop where
  stored : sess ∈ context.sessList.records
  live : sess.Live now
  satisfies : sess.Satisfies filter

/-- A candidate, and no other candidate has a longer prefix that covers the address. -/
structure Discovered (sess : BsfSess) : Prop extends Candidate context filter now sess where
  longest : ∀ addr, filter.ipv6Prefix.bind parseQueryIpv6 = some addr →
    ∀ other, Candidate context filter now other → ∀ shorter ∈ other.ipv6Prefixes,
      shorter.Covers addr → ∃ own ∈ sess.ipv6Prefixes, own.Covers addr ∧ shorter.len ≤ own.len

/-- The answer is the discovered bindings, each once. -/
def DiscoversExactly : Prop :=
  (∀ sess, sess ∈ context.sessFindMatching filter now ↔ Discovered context filter now sess) ∧
    (context.sessFindMatching filter now).Nodup

/-- The filter has a MAC address that is none, and a binding without a MAC address is as the other
members ask. -/
def TakesNoneForMac : Prop :=
  ∃ query sess, filter.macAddr48 = some query ∧ normalizeMac query = none ∧
    sess.macAddr48 = none ∧ Candidate context filter.withoutMac now sess

end BsfContext

lemma parseQueryIpv6_of_fromString {query : String}
  (named : Ipv6Prefix.fromString query = some ipv6Prefix) :
  parseQueryIpv6 query = some ipv6Prefix.addr6 := by
  rw [Ipv6Prefix.fromString] at named
  split at named
  case h_2 => cases named
  case h_1 addr len parts =>
    rw [bind_eq_bind, bind_eq_some_iff] at named
    obtain ⟨octets, parsed, named⟩ := named
    obtain ⟨bits, -, same⟩ := bind_eq_some_iff.mp named
    cases same
    have whole : addr ++ '/' :: len = query.toList := by
      rw [← @List.intercalate_splitOn _ query.toList _ _ '/', parts]
      simp [List.intercalate]
    have absent : '/' ∉ addr := notMem_of_mem_splitOn (parts ▸ List.mem_cons_self)
    have before : query.toList.takeWhile (· ≠ '/') = addr := by
      rw [← whole, List.takeWhile_append_of_pos, List.takeWhile_cons_of_neg (by decide),
        List.append_nil]
      intro letter among
      exact decide_eq_true fun same => absent (same ▸ among)
    rw [parseQueryIpv6, before, parsed]

section Matching

variable {sess : BsfSess} (wellFormed : sess.WellFormed) {query : String}

lemma isExpired_eq_false {now : ℤ} : (!sess.isExpired now) = true ↔ sess.Live now := by
  rw [BsfSess.isExpired, BsfSess.Live]
  cases sess.expiryEpoch <;> simp

include wellFormed

lemma ipv4addrString_eq_iff {addr : UInt32} (parsed : parseIpv4 query = some addr) :
  sess.ipv4addrString = some query ↔ sess.ipv4addr = some addr := by
  have agree := wellFormed.ipv4
  constructor
  · intro same
    rw [same, map_some, parsed] at agree
    obtain ⟨own, isOwn, same⟩ := map_eq_some_iff.mp agree.symm
    rw [isOwn, same]
  · intro same
    rw [same, map_some] at agree
    obtain ⟨text, isText, ownParsed⟩ := map_eq_some_iff.mp agree
    rw [isText, parseIpv4_injective ownParsed parsed]

lemma matchesIpv4_iff : sess.matchesIpv4 query = true ↔ ∃ addr, parseIpv4 query = some addr ∧
    (sess.ipv4addr = some addr ∨ ∃ cidr ∈ sess.ipv4FrameRouteList, InIpv4Cidr addr cidr) := by
  rw [BsfSess.matchesIpv4]
  cases parsed : parseIpv4 query with
  | none =>
    simp only [decide_eq_true_eq, reduceCtorEq, false_and, exists_false, iff_false]
    intro same
    have agree := wellFormed.ipv4
    rw [same, map_some, parsed] at agree
    obtain ⟨own, -, absurd'⟩ := map_eq_some_iff.mp agree.symm
    cases absurd'
  | some addr =>
    simp only [Bool.or_eq_true, decide_eq_true_eq, Option.some.injEq, exists_eq_left',
      ipv4addrString_eq_iff wellFormed parsed, BsfSess.ipv4InFrameRoutes, List.any_eq_true,
      ipv4InCidr_iff]

lemma matchesIpv6_iff : sess.matchesIpv6 query = true ↔ ∃ addr, parseQueryIpv6 query = some addr ∧
    ∃ ipv6Prefix ∈ sess.ipv6Prefixes, ipv6Prefix.Covers addr := by
  rw [BsfSess.matchesIpv6]
  cases parsed : parseQueryIpv6 query with
  | none =>
    simp only [decide_eq_true_eq, reduceCtorEq, false_and, exists_false, iff_false]
    intro same
    have agree := wellFormed.ipv6
    rw [same, map_some] at agree
    obtain ⟨own, -, named⟩ := map_eq_some_iff.mp agree.symm
    rw [parseQueryIpv6_of_fromString named.symm] at parsed
    cases parsed
  | some addr =>
    have routed : sess.ipv6InFrameRoutes addr = true ↔
        ∃ ipv6Prefix ∈ sess.ipv6FrameRouteList.filterMap Ipv6Prefix.fromString,
          ipv6Prefix.Covers addr := by
      simp only [BsfSess.ipv6InFrameRoutes, List.any_eq_true, ipv6InCidr, any_eq_true,
        List.mem_filterMap, contains_iff]
      exact ⟨fun ⟨cidr, among, own, named, covers⟩ => ⟨own, ⟨cidr, among, named⟩, covers⟩,
        fun ⟨own, ⟨cidr, among, named⟩, covers⟩ => ⟨cidr, among, own, named, covers⟩⟩
    simp only [Bool.or_eq_true, routed, any_eq_true, contains_iff, Option.some.injEq,
      exists_eq_left', BsfSess.ipv6Prefixes, List.mem_append, mem_toList, or_and_right,
      exists_or]

lemma matchesFilter_iff {filter : BindingFilter} :
  sess.matchesFilter filter = true ↔ sess.Satisfies filter.withoutMac ∧
    ∀ query ∈ filter.macAddr48, normalizeMac query = sess.macAddr48 := by
  simp only [BsfSess.matchesFilter, Bool.and_eq_true, all_eq_true, decide_eq_true_eq,
    matchesIpv4_iff wellFormed, matchesIpv6_iff wellFormed, any_eq_true]
  constructor
  · rintro ⟨⟨⟨⟨⟨⟨⟨ipv4, ipv6⟩, mac⟩, supi⟩, gpsi⟩, dnn⟩, ipDomain⟩, snssai⟩
    exact ⟨⟨ipv4, ipv6, nofun, supi, gpsi, dnn, ipDomain, snssai⟩, mac⟩
  · rintro ⟨⟨ipv4, ipv6, -, supi, gpsi, dnn, ipDomain, snssai⟩, mac⟩
    exact ⟨⟨⟨⟨⟨⟨⟨ipv4, ipv6⟩, mac⟩, supi⟩, gpsi⟩, dnn⟩, ipDomain⟩, snssai⟩

end Matching

lemma max_comm_uint8 (first second : UInt8) : max first second = max second first := by
  rw [← UInt8.toNat_inj]
  simp only [max, UInt8.le_iff_toNat_le]
  split_ifs <;> omega

lemma foldl_best (lens : List UInt8) :
  lens.foldl (fun best len => some (best.elim len (max len))) none = lens.max? := by
  have onto : ∀ (lens : List UInt8) (start : UInt8),
      lens.foldl (fun best len => some (best.elim len (max len))) (some start) =
        some (lens.foldl max start) := by
    intro lens
    induction lens with
    | nil => exact fun _ => rfl
    | cons len lens ih =>
      intro start
      rw [List.foldl_cons, List.foldl_cons, elim_some, max_comm_uint8, ih]
  cases lens with
  | nil => rfl
  | cons len lens => exact onto lens len

lemma ipv6BestMatchLen_eq_some {len : UInt8} : sess.ipv6BestMatchLen addr = some len ↔
    (∃ own ∈ sess.ipv6Prefixes, own.Covers addr ∧ own.len = len) ∧
      ∀ own ∈ sess.ipv6Prefixes, own.Covers addr → own.len ≤ len := by
  rw [BsfSess.ipv6BestMatchLen, foldl_best, max?_eq_some_iff]
  simp only [List.mem_map, List.mem_filter, contains_iff, forall_exists_index, and_imp, and_assoc]
  exact and_congr Iff.rfl ⟨fun bound own among covers => bound _ own among covers rfl,
    fun bound _ own among covers same => same ▸ bound own among covers⟩

lemma isSome_ipv6BestMatchLen :
  (sess.ipv6BestMatchLen addr).isSome ↔ ∃ own ∈ sess.ipv6Prefixes, own.Covers addr := by
  rw [BsfSess.ipv6BestMatchLen, foldl_best, List.isSome_max?_iff, ne_eq, List.map_eq_nil_iff,
    List.filter_eq_nil_iff]
  simp only [contains_iff, not_forall, not_not]
  exact ⟨fun ⟨own, among, covers⟩ => ⟨own, among, covers⟩,
    fun ⟨own, among, covers⟩ => ⟨own, among, covers⟩⟩

lemma ipv6BestMatchLen_le_iff {other : BsfSess} :
  (∀ len ∈ other.ipv6BestMatchLen addr, ∃ own ∈ sess.ipv6BestMatchLen addr, len ≤ own) ↔
    ∀ shorter ∈ other.ipv6Prefixes, shorter.Covers addr →
      ∃ own ∈ sess.ipv6Prefixes, own.Covers addr ∧ shorter.len ≤ own.len := by
  constructor
  · intro most shorter among covers
    obtain ⟨len, isLen⟩ :=
      isSome_iff_exists.mp (isSome_ipv6BestMatchLen.mpr ⟨shorter, among, covers⟩)
    have atMost := (ipv6BestMatchLen_eq_some.mp isLen).2 shorter among covers
    obtain ⟨longest, isLongest, longer⟩ := most len isLen
    obtain ⟨⟨own, isOwn, ownCovers, rfl⟩, -⟩ := ipv6BestMatchLen_eq_some.mp isLongest
    exact ⟨own, isOwn, ownCovers, UInt8.le_trans atMost longer⟩
  · intro most len isLen
    obtain ⟨⟨shorter, among, covers, rfl⟩, -⟩ := ipv6BestMatchLen_eq_some.mp isLen
    obtain ⟨own, isOwn, ownCovers, longer⟩ := most shorter among covers
    obtain ⟨longest, isLongest⟩ :=
      isSome_iff_exists.mp (isSome_ipv6BestMatchLen.mpr ⟨own, isOwn, ownCovers⟩)
    have atMost := (ipv6BestMatchLen_eq_some.mp isLongest).2 own isOwn ownCovers
    exact ⟨longest, isLongest, UInt8.le_trans longer atMost⟩

lemma mem_keepBest {Record : Type} {score : Record → Option UInt8} {found : List Record}
  (scored : ∀ record ∈ found, (score record).isSome) {record : Record} :
  record ∈ (if 1 < found.length then
      match (found.filterMap score).max? with
      | none => found
      | some longest => found.filter fun record => score record = some longest
    else found) ↔
    record ∈ found ∧ ∀ other ∈ found, ∀ len ∈ score other, ∃ own ∈ score record, len ≤ own := by
  split
  case isTrue several =>
    split
    case h_1 nothing =>
      have unscored := List.filterMap_eq_nil_iff.mp (List.max?_eq_none_iff.mp nothing)
      refine ⟨fun among => ⟨among, fun other isOther len isLen => ?_⟩, And.left⟩
      rw [mem_def, unscored other isOther] at isLen
      cases isLen
    case h_2 longest isLongest =>
      obtain ⟨reached, bound⟩ := max?_eq_some_iff.mp isLongest
      obtain ⟨best, isBest, bestScore⟩ := List.mem_filterMap.mp reached
      rw [List.mem_filter, decide_eq_true_eq]
      refine and_congr_right fun among => ⟨fun same other isOther len isLen => ?_, fun most => ?_⟩
      · exact ⟨longest, same, bound len (List.mem_filterMap.mpr ⟨other, isOther, isLen⟩)⟩
      · obtain ⟨own, isOwn, longer⟩ := most best isBest longest bestScore
        have shorter := bound own (List.mem_filterMap.mpr ⟨record, among, isOwn⟩)
        rw [isOwn, UInt8.le_antisymm shorter longer]
  case isFalse few =>
    refine ⟨fun among => ⟨among, fun other isOther len isLen => ?_⟩, And.left⟩
    match found with
    | [only] =>
      rw [List.mem_singleton] at among isOther
      rw [among, ← isOther]
      exact ⟨len, isLen, UInt8.le_refl len⟩
    | first :: second :: rest => exact absurd (by simp) few

lemma satisfies_iff {filter : BindingFilter} :
  sess.Satisfies filter ↔ sess.Satisfies filter.withoutMac ∧
    ∀ query ∈ filter.macAddr48, ∃ mac, normalizeMac query = some mac ∧
      sess.macAddr48 = some mac := by
  constructor
  · rintro ⟨ipv4, ipv6, mac, supi, gpsi, dnn, ipDomain, snssai⟩
    exact ⟨⟨ipv4, ipv6, nofun, supi, gpsi, dnn, ipDomain, snssai⟩, mac⟩
  · rintro ⟨⟨ipv4, ipv6, -, supi, gpsi, dnn, ipDomain, snssai⟩, mac⟩
    exact ⟨ipv4, ipv6, mac, supi, gpsi, dnn, ipDomain, snssai⟩

namespace BsfContext

variable (context : BsfContext) (filter : BindingFilter) (now : ℤ)

def found : List BsfSess :=
  context.sessList.records.filter fun sess => !sess.isExpired now && sess.matchesFilter filter

section Built

variable {context filter now} (built : ∀ sess ∈ context.sessList.records, sess.Built)
  {sess : BsfSess}

lemma sublist_records :
  (context.sessFindMatching filter now).Sublist context.sessList.records := by
  have all := List.filter_sublist (l := context.sessList.records)
    (p := fun sess => !sess.isExpired now && sess.matchesFilter filter)
  rw [sessFindMatching]
  split
  · exact all
  · split
    · split
      · exact all
      · exact List.filter_sublist.trans all
    · exact all

include built

lemma mem_found_iff :
  sess ∈ context.found filter now ↔ context.Candidate filter.withoutMac now sess ∧
    ∀ query ∈ filter.macAddr48, normalizeMac query = sess.macAddr48 := by
  rw [found, List.mem_filter, Bool.and_eq_true, isExpired_eq_false]
  constructor
  · rintro ⟨stored, live, isMatch⟩
    obtain ⟨satisfies, mac⟩ := (matchesFilter_iff (built sess stored).wellFormed).mp isMatch
    exact ⟨⟨stored, live, satisfies⟩, mac⟩
  · rintro ⟨⟨stored, live, satisfies⟩, mac⟩
    exact ⟨stored, live, (matchesFilter_iff (built sess stored).wellFormed).mpr ⟨satisfies, mac⟩⟩

lemma mem_sessFindMatching_iff :
  sess ∈ context.sessFindMatching filter now ↔ sess ∈ context.found filter now ∧
    ∀ addr, filter.ipv6Prefix.bind parseQueryIpv6 = some addr →
      ∀ other ∈ context.found filter now, ∀ len ∈ other.ipv6BestMatchLen addr,
        ∃ own ∈ sess.ipv6BestMatchLen addr, len ≤ own := by
  rw [sessFindMatching]
  cases asked : filter.ipv6Prefix.bind parseQueryIpv6 with
  | none => exact (and_iff_left fun _ same => by cases same).symm
  | some addr =>
    have scored : ∀ sess ∈ context.found filter now, (sess.ipv6BestMatchLen addr).isSome := by
      intro sess isFound
      obtain ⟨query, isQuery, parsed⟩ := bind_eq_some_iff.mp asked
      obtain ⟨own, ownParsed, prefixes⟩ :=
        ((mem_found_iff built).mp isFound).1.satisfies.ipv6 query isQuery
      rw [parsed] at ownParsed
      cases ownParsed
      exact isSome_ipv6BestMatchLen.mpr prefixes
    refine (mem_keepBest scored).trans (and_congr_right fun _ => ?_)
    simp only [Option.some.injEq, forall_eq']

lemma mem_found_iff_candidate (strict : ¬ context.TakesNoneForMac filter now) :
  sess ∈ context.found filter now ↔ context.Candidate filter now sess := by
  rw [mem_found_iff built]
  constructor
  · rintro ⟨candidate, mac⟩
    refine ⟨candidate.stored, candidate.live, satisfies_iff.mpr ⟨candidate.satisfies, ?_⟩⟩
    intro query isQuery
    have same := mac query isQuery
    cases normal : normalizeMac query with
    | none => exact absurd ⟨query, sess, isQuery, normal, normal ▸ same.symm, candidate⟩ strict
    | some address => exact ⟨address, rfl, normal ▸ same.symm⟩
  · rintro ⟨stored, live, satisfies⟩
    obtain ⟨others, mac⟩ := satisfies_iff.mp satisfies
    refine ⟨⟨stored, live, others⟩, fun query isQuery => ?_⟩
    obtain ⟨address, normal, own⟩ := mac query isQuery
    rw [normal, own]

lemma discovers_of_strict (strict : ¬ context.TakesNoneForMac filter now) :
  context.DiscoversExactly filter now := by
  refine ⟨fun sess => ?_, (List.Nodup.of_map _ context.sessList.nodup_records).sublist
    sublist_records⟩
  rw [mem_sessFindMatching_iff built, mem_found_iff_candidate built strict]
  constructor
  · rintro ⟨candidate, most⟩
    exact ⟨candidate, fun addr asked other isOther => ipv6BestMatchLen_le_iff.mp
      (most addr asked other ((mem_found_iff_candidate built strict).mpr isOther))⟩
  · rintro ⟨candidate, longest⟩
    exact ⟨candidate, fun addr asked other isOther => ipv6BestMatchLen_le_iff.mpr
      (longest addr asked other ((mem_found_iff_candidate built strict).mp isOther))⟩

omit built in
lemma exists_mem_sessFindMatching (isFound : sess ∈ context.found filter now) :
  ∃ answered, answered ∈ context.sessFindMatching filter now := by
  rw [sessFindMatching]
  split
  · exact ⟨sess, isFound⟩
  · split
    · split
      case h_1 => exact ⟨sess, isFound⟩
      case h_2 longest isLongest =>
        obtain ⟨best, isBest, score⟩ :=
          List.mem_filterMap.mp (max?_eq_some_iff.mp isLongest).1
        exact ⟨best, List.mem_filter.mpr ⟨isBest, decide_eq_true score⟩⟩
    · exact ⟨sess, isFound⟩

lemma not_discovers_of_takesNoneForMac (taken : context.TakesNoneForMac filter now) :
  ¬ context.DiscoversExactly filter now := by
  rintro ⟨exactly, -⟩
  obtain ⟨query, sess, isQuery, malformed, noMac, candidate⟩ := taken
  have isFound : sess ∈ context.found filter now := by
    refine (mem_found_iff built).mpr ⟨candidate, fun other isOther => ?_⟩
    rw [mem_def, isQuery] at isOther
    cases isOther
    rw [malformed, noMac]
  obtain ⟨answered, isAnswered⟩ := exists_mem_sessFindMatching isFound
  obtain ⟨mac, normal, -⟩ := ((exactly answered).mp isAnswered).satisfies.mac query isQuery
  rw [malformed] at normal
  cases normal

end Built

/-- Discovery is exact unless a MAC address that is none is asked for, and it finds a binding
without one. -/
theorem discoversExactly_iff (built : ∀ sess ∈ context.sessList.records, sess.Built) :
  context.DiscoversExactly filter now ↔ ¬ context.TakesNoneForMac filter now :=
  ⟨fun exactly taken => not_discovers_of_takesNoneForMac built taken exactly,
    discovers_of_strict built⟩

end BsfContext

def addressedSess : BsfSess :=
  { BsfSess.new 1 with ipv4addr := some 0x0A2D0002, ipv4addrString := some "10.45.0.2" }

def addressedContext : BsfContext :=
  ((BsfContext.init 10).sessAddBinding (some "10.45.0.2") none none).1

lemma records_addressedContext : addressedContext.sessList.records = [addressedSess] := by
  decide

lemma built_addressedContext :
  ∀ sess ∈ addressedContext.sessList.records, sess.Built := by
  rw [records_addressedContext, List.forall_mem_singleton]
  have set : (BsfSess.new 1).setIpv4addr "10.45.0.2" = some addressedSess := by decide
  exact .setIpv4addr (.new (by decide)) set

def asksFor (ipv6Prefix macAddr48 : Option String) : BindingFilter :=
  ⟨none, ipv6Prefix, macAddr48, none, none, none, none, none⟩

def prefixedContext : BsfContext :=
  (((BsfContext.init 10).sessAddBinding none (some "2001:db8::/32") none).1.sessAddBinding
    none (some "2001:db8:1::/48") none).1

lemma built_prefixedContext :
  ∀ sess ∈ prefixedContext.sessList.records, sess.Built := by
  have records : prefixedContext.sessList.records.map some =
      [(BsfSess.new 2).setIpv6Prefix "2001:db8:1::/48",
        (BsfSess.new 1).setIpv6Prefix "2001:db8::/32"] := by
    decide
  intro sess isStored
  have isSet := List.mem_map_of_mem (f := some) isStored
  rw [records] at isSet
  rcases List.mem_cons.mp isSet with set | isSet
  · exact .setIpv6Prefix (.new (by decide)) set.symm
  · exact .setIpv6Prefix (.new (by decide)) (List.mem_singleton.mp isSet).symm

/-- Both prefixes cover the address. -/
theorem discoversExactly_prefixed :
  prefixedContext.DiscoversExactly (asksFor (some "2001:db8:1::5") none) 0 := by
  refine (BsfContext.discoversExactly_iff _ _ _ built_prefixedContext).mpr ?_
  rintro ⟨_, _, asked, -⟩
  cases asked

/-- A discovery by something that is no MAC address finds the binding for 10.45.0.2. -/
theorem not_discoversExactly : ¬ ∀ (context : BsfContext) (filter : BindingFilter) (now : ℤ),
    (∀ sess ∈ context.sessList.records, sess.Built) → context.DiscoversExactly filter now := by
  intro exactly
  refine BsfContext.not_discovers_of_takesNoneForMac built_addressedContext ?_
    (exactly addressedContext (asksFor none (some "nope")) 0 built_addressedContext)
  refine ⟨"nope", addressedSess, rfl, by decide, rfl, ?_, nofun, ?_⟩
  · rw [records_addressedContext]
    exact List.mem_singleton_self addressedSess
  · exact ⟨nofun, nofun, nofun, nofun, nofun, nofun, nofun, nofun⟩

end NextGCore.Bsf
