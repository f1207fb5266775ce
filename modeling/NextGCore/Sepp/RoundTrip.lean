import NextGCore.Sepp.PrinsBody

/-!
# From one SEPP to the other

A message that one SEPP protects is returned by the other as it was sent, if its body is kept
by its leaves.  An empty object beside other members of a body has no leaf, and is lost.
-/

namespace NextGCore.Sepp

open Crypt (Bytes)
open Library Sbi List ReplayWindow Prins

variable (block : DataToIntegrityProtectBlock)

section Returns

variable (prins : Prins) (sender receiver : PrinsContext)

def ReturnsRequest (messageId method url : String) (headers : List (String × String))
  (body : Option Bytes) (counters : SendCounters) (windows : ReplayWindows) : Prop :=
  ∃ msg returned,
    (prins.protectMessage sender messageId method url headers body counters).1 = .ok msg ∧
      (prins.unprotectMessage receiver msg windows).1 = .ok returned ∧
      returned.method = method ∧ returned.url = url ∧ returned.headers = headers ∧
      SameBody prins body returned.body

def ReturnsResponse (messageId : String) (statusCode : UInt16)
  (headers : List (String × String)) (body : Option Bytes) (counters : SendCounters)
  (windows : ReplayWindows) : Prop :=
  ∃ msg returned,
    (prins.protectResponseMessage sender messageId statusCode headers body counters).1 = .ok msg ∧
      (prins.unprotectResponseMessage receiver msg windows).1 = .ok returned ∧
      returned.statusCode = statusCode ∧ returned.headers = headers ∧
      SameBody prins body returned.body

/-- What `serde_json` reads has distinct names, and it reads back the document that arrives. -/
structure ReadsBody (encryptPaths : List String) (body : Option Bytes) : Prop where
  distinct : ∀ octets json, body = some octets → prins.json.read octets = .ok json →
    json.DistinctNames
  readsBack : ∀ octets json, body = some octets → prins.json.read octets = .ok json →
    prins.json.ReadsBack (delivered encryptPaths json)

end Returns

section Delivery

variable {prins : Prins} {sender receiver : PrinsContext} {direction : N32fDirection}
  {headers : List (String × String)} {messageId : String} {counters : SendCounters}
  {windows : ReplayWindows} {body : Option Bytes} {block : DataToIntegrityProtectBlock}

lemma rebuildHeaders_plain (distinct : (Members.keys headers).Nodup) (messageId : String)
  (dataToEncrypt : List Json) :
  prins.rebuildHeaders messageId dataToEncrypt (plainHeaders headers) = .ok headers := by
  have folded : ∀ built : List (String × String),
      (plainHeaders headers).foldlM (fun rebuilt header => do
          let value ← prins.headerValue messageId dataToEncrypt header
          return Members.insert rebuilt header.header value) built =
        (.ok (headers.foldl (fun built header => Members.insert built header.1 header.2) built) :
          Except N32fUnprotectError (List (String × String))) := by
    clear distinct
    induction headers with
    | nil => exact fun built => rfl
    | cons header rest ih => exact fun built => ih _
  exact (folded []).trans (congrArg _ (Members.collect_of_nodup distinct))

lemma checkPlmn_metaDataTo (mirrored : Mirrored prins sender receiver)
  (isMeta : block.metaData = metaDataTo sender messageId) :
  checkPlmn receiver block = .ok () := by
  unfold checkPlmn
  rw [isMeta]
  cases first : sender.localPlmnIds.head? with
  | none => simp [metaDataTo, first]
  | some plmn =>
    simp only [metaDataTo, first, Option.map_some, refuse_eq_ok_iff, not_and]
    intro bindsNetworks unbound
    have bound := matchesAny_fromPlmn (mirrored.bound plmn first bindsNetworks)
    rw [bound] at unbound
    cases unbound

lemma applyOperations_nil (messageId : String) (json : Option Json) :
  applyOperations messageId [] json = .ok json := by
  cases json <;> rfl

lemma InStep.next {window : ReplayWindow}
  (isHigh : window.high = some (counters (seqKey sender.kid sender.role direction)))
  (inStep : InStep sender receiver direction counters windows)
  (left : counters (seqKey sender.kid sender.role direction) + 1 ≠ 0xFFFFFFFF) :
  InStep sender receiver direction
    (nextSendSeq counters (seqKey sender.kid sender.role direction)).2
    (Function.update windows (peerSeqKey receiver direction) window) where
  left := by simpa [nextSendSeq] using left
  ahead := by
    have notLast := inStep.left
    simp only [nextSendSeq, Function.update_self, isHigh, Option.mem_some_iff, forall_eq']
    generalize counters (seqKey sender.kid sender.role direction) = seq at notLast
    have bound := seq.toNat_lt
    have notMax : seq.toNat ≠ 4294967295 := fun isMax => notLast (UInt32.toNat_inj.mp isMax)
    rw [UInt32.lt_iff_toNat_lt, UInt32.toNat_add]
    simp only [UInt32.toNat_one]
    omega

lemma unprotectCommon_protectBlock (inverts : prins.Inverts)
  (mirrored : Mirrored prins sender receiver) {encryptPaths : List String}
  (isMeta : block.metaData = metaDataTo sender messageId)
  (areHeaders : block.headers = plainHeaders headers)
  (isPayload : block.payload = (payloadOf prins encryptPaths body).elements)
  (documents : Documents prins sender block (payloadOf prins encryptPaths body).dataToEncrypt)
  (inStep : InStep sender receiver direction counters windows)
  (distinct : (Members.keys headers).Nodup) (reads : ReadsBody prins encryptPaths body)
  (counted : encryptPaths.length ≤ 2 ^ 64) :
  ∃ msg, (prins.protectBlock sender direction block
      (payloadOf prins encryptPaths body).dataToEncrypt counters).1 = .ok msg ∧
    (prins.unprotectCommon receiver direction msg windows).1 =
      .ok ⟨block, headers, prins.returnedBody encryptPaths body⟩ ∧
    (counters (seqKey sender.kid sender.role direction) + 1 ≠ 0xFFFFFFFF →
      InStep sender receiver direction (prins.protectBlock sender direction block
          (payloadOf prins encryptPaths body).dataToEncrypt counters).2
        (prins.unprotectCommon receiver direction msg windows).2) := by
  have addressed : block.metaData.n32fContextId = sender.peerContextId := by
    rw [isMeta]
    rfl
  obtain ⟨msg, isSealed, authenticated⟩ := authenticate_of_sealed inverts mirrored documents
    addressed (counters (seqKey sender.kid sender.role direction))
  obtain ⟨next, committed, isHigh⟩ := checkAndCommit_of_above inStep.ahead
  refine ⟨msg, ?_, ?_, ?_⟩
  · rw [protectBlock, nextSendSeq, refuse, if_neg inStep.left]
    exact isSealed
  · have rebuilt := payloadOf_rebuilds inverts reads.distinct counted block.metaData.messageId
    have plain : prins.rebuildHeaders block.metaData.messageId _ (plainHeaders headers) =
        .ok headers :=
      rebuildHeaders_plain distinct _ (payloadOf prins encryptPaths body).dataToEncrypt
    have reassembled : prins.reassemble receiver block []
        (payloadOf prins encryptPaths body).dataToEncrypt =
          .ok (headers, prins.returnedBody encryptPaths body) := by
      simp only [reassemble, bind_eq_ok_iff, pure_eq_ok_iff]
      exact ⟨(), checkPlmn_metaDataTo mirrored isMeta, _, isPayload ▸ rebuilt, _,
        applyOperations_nil _ _, headers, areHeaders ▸ plain, rfl⟩
    rw [unprotectCommon, authenticated]
    simp only [checkRecvSeq, committed, Except.map, reassembled]
  · intro left
    rw [unprotectCommon, authenticated]
    simp only [checkRecvSeq, committed, Except.map]
    exact inStep.next isHigh left

lemma length_encryptPaths_le {bound : ℕ}
  (counted : ∀ profile ∈ sender.profiles, profile.encryptIes.length ≤ bound) (url : String) :
  (Prins.encryptPaths sender url).length ≤ bound := by
  unfold Prins.encryptPaths
  cases found : sender.findProfile (extractServiceName url) with
  | none => simp
  | some profile =>
    have entries := counted profile (List.mem_of_find?_eq_some found)
    rw [Option.map_some, Option.getD_some, DataTypeProfile.bodyPaths, length_map]
    exact (length_filter_le _ _).trans entries

lemma returnsRequest_iff (inverts : prins.Inverts) (mirrored : Mirrored prins sender receiver)
  {method url : String} (target : startsWith "/" url = true)
  (distinct : (Members.keys headers).Nodup)
  (counted : ∀ profile ∈ sender.profiles, profile.encryptIes.length ≤ 2 ^ 64)
  (inStep : InStep sender receiver .request counters windows)
  (reads : ReadsBody prins (Prins.encryptPaths sender url) body)
  (documents : Documents prins sender (requestBlock sender messageId method url headers
      (payloadOf prins (Prins.encryptPaths sender url) body).elements)
    (payloadOf prins (Prins.encryptPaths sender url) body).dataToEncrypt) :
  ReturnsRequest prins sender receiver messageId method url headers body counters windows ↔
    KeepsBody prins (Prins.encryptPaths sender url) body := by
  obtain ⟨msg, isProtected, isUnprotected, -⟩ := unprotectCommon_protectBlock inverts mirrored
    rfl rfl rfl documents inStep distinct reads (length_encryptPaths_le counted url)
  have returned : (prins.unprotectMessage receiver msg windows).1 = .ok ⟨method, url, headers,
        prins.returnedBody (Prins.encryptPaths sender url) body, messageId⟩ := by
    have line := joinRequestLine_buildRequestLine method target
    simp only [unprotectMessage, isUnprotected, bind_eq_ok_iff, given_eq_ok_iff, pure_eq_ok_iff]
    exact ⟨_, rfl, _, rfl, by rw [line]; rfl⟩
  rw [← sameBody_iff reads.readsBack]
  constructor
  · rintro ⟨sent, request, isSent, isRequest, -, -, -, same⟩
    obtain rfl := Except.ok.inj (isProtected.symm.trans isSent)
    obtain rfl := Except.ok.inj (returned.symm.trans isRequest)
    exact same
  · exact fun same => ⟨msg, _, isProtected, returned, rfl, rfl, rfl, same⟩

lemma returnsResponse_iff (inverts : prins.Inverts) (mirrored : Mirrored prins sender receiver)
  {statusCode : UInt16} (distinct : (Members.keys headers).Nodup)
  (inStep : InStep sender receiver .response counters windows) (reads : ReadsBody prins [] body)
  (documents : Documents prins sender (responseBlock sender messageId statusCode headers
      (payloadOf prins [] body).elements) (payloadOf prins [] body).dataToEncrypt) :
  ReturnsResponse prins sender receiver messageId statusCode headers body counters windows ↔
    KeepsBody prins [] body := by
  obtain ⟨msg, isProtected, isUnprotected, -⟩ := unprotectCommon_protectBlock inverts mirrored
    rfl rfl rfl documents inStep distinct reads (Nat.zero_le _)
  have returned : (prins.unprotectResponseMessage receiver msg windows).1 =
      .ok ⟨statusCode, headers, prins.returnedBody [] body, messageId⟩ := by
    simp only [unprotectResponseMessage, isUnprotected, bind_eq_ok_iff, given_eq_ok_iff,
      pure_eq_ok_iff]
    exact ⟨_, rfl, _, rfl, _, statusCodeOf_toString statusCode, rfl⟩
  rw [← sameBody_iff reads.readsBack]
  constructor
  · rintro ⟨sent, response, isSent, isResponse, -, -, same⟩
    obtain rfl := Except.ok.inj (isProtected.symm.trans isSent)
    obtain rfl := Except.ok.inj (returned.symm.trans isResponse)
    exact same
  · exact fun same => ⟨msg, _, isProtected, returned, rfl, rfl, same⟩

/-- Between the SEPPs of one N32-f context, a request is returned with its method, target,
headers and body, and a response with its status, headers and body, exactly if the body is
kept. -/
theorem returns_iff_keepsBody (inverts : prins.Inverts)
  (mirrored : Mirrored prins sender receiver) {messageId : String}
  {headers : List (String × String)} (distinct : (Members.keys headers).Nodup)
  {body : Option Bytes} {counters : SendCounters} {windows : ReplayWindows} :
  (∀ method url, startsWith "/" url = true →
    (∀ profile ∈ sender.profiles, profile.encryptIes.length ≤ 2 ^ 64) →
    InStep sender receiver .request counters windows →
    ReadsBody prins (Prins.encryptPaths sender url) body →
    Documents prins sender (requestBlock sender messageId method url headers
        (payloadOf prins (Prins.encryptPaths sender url) body).elements)
      (payloadOf prins (Prins.encryptPaths sender url) body).dataToEncrypt →
    (ReturnsRequest prins sender receiver messageId method url headers body counters windows ↔
      KeepsBody prins (Prins.encryptPaths sender url) body)) ∧
  (∀ statusCode, InStep sender receiver .response counters windows → ReadsBody prins [] body →
    Documents prins sender (responseBlock sender messageId statusCode headers
        (payloadOf prins [] body).elements) (payloadOf prins [] body).dataToEncrypt →
    (ReturnsResponse prins sender receiver messageId statusCode headers body counters windows ↔
      KeepsBody prins [] body)) :=
  ⟨fun _ _ target counted inStep reads documents =>
      returnsRequest_iff inverts mirrored target distinct counted inStep reads documents,
    fun _ inStep reads documents =>
      returnsResponse_iff inverts mirrored distinct inStep reads documents⟩

end Delivery

/-- Crates that write octets as letters, seal nothing and read the documents of one message. -/
def letterCrates (dataToEncrypt : List Json) (sent arrived : Json) : Prins where
  b64urlEncode octets := String.ofList (octets.map fun octet => Char.ofNat octet.toNat)
  b64urlDecode text := .ok (text.toList.map fun letter => UInt8.ofNat letter.toNat)
  jweHeaders := ⟨fun _ => [], fun _ => .ok ⟨"dir", "A256GCM", some "kid"⟩⟩
  jwsHeaders := ⟨fun _ => [], fun _ => .ok ⟨"ES256", some "sepp.home"⟩⟩
  gcmEncrypt _ _ _ _ plaintext := .ok (plaintext, replicate 16 0)
  gcmDecrypt _ _ _ _ ciphertext _ := some ciphertext
  es256Sign _ _ := []
  es256Verify _ _ _ := true
  verifyingKey signingKey := signingKey
  json := ⟨fun _ => [2], fun octets => .ok (if octets = [1] then sent else arrived)⟩
  blocks := ⟨fun _ => [], fun _ => .ok block⟩
  cipherBlocks := ⟨fun _ => [], fun _ => .ok ⟨dataToEncrypt⟩⟩
  modifications := ⟨fun payload => payload.tag.toList.map fun letter => UInt8.ofNat letter.toNat,
    fun octets => .ok ⟨"sepp.home", [],
      String.ofList (octets.map fun octet => Char.ofNat octet.toNat)⟩⟩
  display _ := ""

lemma letters_of_octets (octets : Bytes) :
  (octets.map fun octet => Char.ofNat octet.toNat).map (fun letter => UInt8.ofNat letter.toNat) =
    octets := by
  have back : ∀ octet : UInt8, UInt8.ofNat (Char.ofNat octet.toNat).toNat = octet := by
    intro octet
    have bound := octet.toNat_lt
    have valid : octet.toNat.isValidChar := .inl (by omega)
    have letter : (Char.ofNat octet.toNat).toNat = octet.toNat := by
      rw [Char.ofNat, dif_pos valid]
      rfl
    rw [letter, UInt8.ofNat_toNat]
  rw [map_map]
  exact (map_congr_left fun octet _ => back octet).trans (map_id octets)

lemma letterCrates_inverts (dataToEncrypt : List Json) (sent arrived : Json) :
  (letterCrates block dataToEncrypt sent arrived).Inverts where
  base64url octets := by
    simp only [letterCrates, String.toList_ofList, letters_of_octets]
  aead _ _ _ _ plaintext _ _ := ⟨(plaintext, replicate 16 0), rfl, rfl, rfl⟩
  es256 _ _ := rfl

lemma readsBack_modifications (dataToEncrypt : List Json) (sent arrived : Json) (tag : Bytes) :
  (letterCrates block dataToEncrypt sent arrived).modifications.ReadsBack
    ⟨"sepp.home", [], (letterCrates block dataToEncrypt sent arrived).b64urlEncode tag⟩ := by
  simp only [Codec.ReadsBack, letterCrates, String.toList_ofList, letters_of_octets]

def homeSepp : PrinsContext where
  localContextId := "home-context"
  peerContextId := "visited-context"
  keyMaterial :=
    let keys : KeyPair := (.replicate 32 7, .replicate 8 1)
    ⟨keys, keys, keys, keys⟩
  role := .initiator
  kid := "kid"
  localFqdn := "sepp.home"
  localSigningKey := some [7]
  peerVerifyingKeys := []
  profiles := [⟨"sdm", "nudm-sdm", [⟨"BODY", "/supi"⟩]⟩]
  modificationPolicy := ⟨[]⟩
  jweEnc := .a256Gcm
  localPlmnIds := [⟨1, 1, 2⟩]
  peerPlmnIds := [⟨999, 70, 2⟩]

def visitedSepp : PrinsContext where
  localContextId := "visited-context"
  peerContextId := "home-context"
  keyMaterial := homeSepp.keyMaterial
  role := .responder
  kid := "kid"
  localFqdn := "sepp.visited"
  localSigningKey := none
  peerVerifyingKeys := [("sepp.home", [7])]
  profiles := []
  modificationPolicy := ⟨[]⟩
  jweEnc := .a256Gcm
  localPlmnIds := [⟨999, 70, 2⟩]
  peerPlmnIds := [⟨1, 1, 2⟩]

lemma mirrored_home_visited (dataToEncrypt : List Json) (sent arrived : Json) :
  Mirrored (letterCrates block dataToEncrypt sent arrived) homeSepp visitedSepp where
  keyMaterial := rfl
  role := rfl
  contextId := rfl
  signed := ⟨[7], rfl, rfl⟩
  bound plmn isFirst _ := by
    obtain rfl : (⟨1, 1, 2⟩ : PlmnId) = plmn := Option.some.inj isFirst
    exact mem_singleton.mpr rfl

lemma inStep_home_visited (direction : N32fDirection) :
  InStep homeSepp visitedSepp direction (fun _ => 0) (fun _ => new) where
  left := by decide
  ahead high isHigh := by cases isHigh

def subscription : Json :=
  .object [("supi", .string "imsi-1"), ("nssai", .object [("sst", .number "1")])]

def subscriptionBlock : DataToIntegrityProtectBlock :=
  requestBlock homeSepp "message-1" "POST" "/nudm-sdm/v1?plmn=1" [("accept", "json")]
    [⟨"/supi", .body, .object [("encBlockIndex", .number "0")]⟩, ⟨"/nssai/sst", .body, .number "1"⟩]

def subscriptionCrates : Prins :=
  letterCrates subscriptionBlock [.string "imsi-1"] subscription subscription

lemma readsBody_subscription :
  ReadsBody subscriptionCrates (Prins.encryptPaths homeSepp "/nudm-sdm/v1?plmn=1")
    (some [1]) where
  distinct octets json isBody read := by
    cases isBody
    cases read
    refine .object (by decide) (forall_mem_cons.mpr ⟨.leaf (by simp), ?_⟩)
    refine forall_mem_singleton.mpr (.object (by decide) ?_)
    exact forall_mem_singleton.mpr (.leaf (by simp))
  readsBack octets json isBody read := by
    cases isBody
    cases read
    rfl

/-- A subscription is returned by the visited network. -/
theorem subscription_returned :
  ReturnsRequest subscriptionCrates homeSepp visitedSepp "message-1" "POST"
    "/nudm-sdm/v1?plmn=1" [("accept", "json")] (some [1]) (fun _ => 0)
    (fun _ => new) := by
  have keeps : KeepsBody subscriptionCrates (Prins.encryptPaths homeSepp "/nudm-sdm/v1?plmn=1")
      (some [1]) := by
    intro octets json isBody read
    cases isBody
    cases read
    have opened : subscription.opened (stopAt ["/supi"] "") =
        [[("supi", .string "imsi-1"), ("nssai", .object [("sst", .number "1")])],
          [("sst", .number "1")]] := rfl
    left
    intro members isOpened
    change members ∈ subscription.opened (stopAt ["/supi"] "") at isOpened
    rw [opened] at isOpened
    rintro rfl
    simp at isOpened
  refine ((returns_iff_keepsBody (letterCrates_inverts _ _ _ _) (mirrored_home_visited _ _ _ _)
    (by decide)).1 "POST" "/nudm-sdm/v1?plmn=1" rfl (by decide) (inStep_home_visited .request)
    readsBody_subscription ?_).mpr keeps
  exact ⟨rfl, rfl, rfl, rfl, readsBack_modifications _ _ _ _⟩

def emptyNssai : Json := .object [("supi", .string "imsi-1"), ("nssai", .object [])]

def emptyNssaiCrates : Prins :=
  letterCrates (requestBlock homeSepp "message-1" "POST" "/nudm-sdm/v1" []
      [⟨"/supi", .body, .object [("encBlockIndex", .number "0")]⟩])
    [.string "imsi-1"] emptyNssai (.object [("supi", .string "imsi-1")])

lemma readsBody_emptyNssai :
  ReadsBody emptyNssaiCrates (Prins.encryptPaths homeSepp "/nudm-sdm/v1") (some [1]) where
  distinct octets json isBody read := by
    cases isBody
    cases read
    refine .object (by decide) (forall_mem_cons.mpr ⟨.leaf (by simp), ?_⟩)
    exact forall_mem_singleton.mpr (.object (by decide) (by simp))
  readsBack octets json isBody read := by
    cases isBody
    cases read
    rfl

/-- Between mirrored SEPPs whose crates take back what they made, the empty object is lost. -/
theorem emptyObject_lost :
  emptyNssaiCrates.Inverts ∧ Mirrored emptyNssaiCrates homeSepp visitedSepp ∧
    InStep homeSepp visitedSepp .request (fun _ => 0) (fun _ => new) ∧
    ReadsBody emptyNssaiCrates (Prins.encryptPaths homeSepp "/nudm-sdm/v1") (some [1]) ∧
    ¬ ReturnsRequest emptyNssaiCrates homeSepp visitedSepp "message-1" "POST" "/nudm-sdm/v1"
      [] (some [1]) (fun _ => 0) (fun _ => new) := by
  have inverts : emptyNssaiCrates.Inverts := letterCrates_inverts _ _ _ _
  have mirrored : Mirrored emptyNssaiCrates homeSepp visitedSepp := mirrored_home_visited _ _ _ _
  refine ⟨inverts, mirrored, inStep_home_visited .request, readsBody_emptyNssai, fun returned => ?_⟩
  have keeps := (returnsRequest_iff inverts mirrored rfl (by decide) (by decide)
    (inStep_home_visited .request) readsBody_emptyNssai
    ⟨rfl, rfl, rfl, rfl, readsBack_modifications _ _ _ _⟩).mp returned
  rcases keeps [1] emptyNssai rfl rfl with full | noLeaves
  · have opened : emptyNssai.opened (stopAt ["/supi"] "") =
        [[("supi", .string "imsi-1"), ("nssai", .object [])], []] := rfl
    change ∀ members ∈ emptyNssai.opened (stopAt ["/supi"] ""), members ≠ [] at full
    rw [opened] at full
    exact full [] (by simp) rfl
  · have leaves : emptyNssai.leaves (stopAt ["/supi"] "") =
        [⟨["supi"], true, .string "imsi-1"⟩] := rfl
    change emptyNssai.leaves (stopAt ["/supi"] "") = [] at noLeaves
    rw [leaves] at noLeaves
    cases noLeaves

end NextGCore.Sepp
