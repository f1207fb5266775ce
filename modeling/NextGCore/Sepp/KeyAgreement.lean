import NextGCore.Library.Registry
import NextGCore.Sepp.Negotiation

/-!
# Agreement on N32-f records

Two SEPPs exchange their N32-f parameters, started by either side, in any order and with losses.
The two records of one exchange mirror each other; the node of the peer has room for one record,
which a SEPP overwrites as initiator and as responder.
-/

namespace NextGCore.Sepp

open Library Function Attempt

inductive Side where
  | a
  | b
  deriving DecidableEq

namespace Side

def other : Side → Side
  | a => b
  | b => a

lemma eq_or_eq_other (first second : Side) : first = second ∨ first = second.other := by
  cases first <;> cases second <;> simp [other]

lemma other_ne (side : Side) : side.other ≠ side := by
  cases side <;> decide

end Side

inductive Stage where
  | requested
  | answered (rsp : SecParamExchRspData)
  | refused
  | completed (rsp : SecParamExchRspData)
  | lost

def Stage.inFlight : Stage → Bool
  | requested => true
  | answered _ => true
  | refused => true
  | completed _ => false
  | lost => false

def Stage.isCompleted : Stage → Bool
  | completed _ => true
  | _ => false

structure Exchange where
  initiator : Side
  secret : Master
  sent : SecParamExchReqData
  copy : SeppNode
  stage : Stage

def Exchange.at (exchange : Exchange) (stage : Stage) : Exchange :=
  { exchange with stage := stage }

structure Link where
  handling : Side → Handling
  exchanges : List Exchange
  held : Side → Option ℕ

namespace Link

variable (link : Link) (side : Side)

def install (after : Handling) : Link :=
  { link with handling := update link.handling side after }

def settle (n : ℕ) (exchange : Exchange) : Link :=
  { link with exchanges := link.exchanges.set n exchange }

def hold (n : ℕ) : Link :=
  { link with held := update link.held side (some n) }

def ready (peer : String) (secret : Master) : Handling :=
  { link.handling side with
    context := setN32cTlsExporterSecret (link.handling side).context peer secret }

end Link

inductive LinkAction where
  | start (initiator : Side) (random : UInt64) (generated : SigningKey)
    (localApiRoot : Option String) (secret : Master)
  | deliverRequest (n : ℕ) (random : UInt64) (generated : SigningKey)
  | deliverAnswer (n : ℕ)
  | lose (n : ℕ)

namespace N32cCrates

variable (crates : N32cCrates) {now after : Handling} (link : Link) {peer : String}
  {exchange : Exchange} {rsp : SecParamExchRspData}

def start (initiator : Side) (random : UInt64) (generated : SigningKey)
  (localApiRoot : Option String) (secret : Master) : Link :=
  match crates.paramsRequest random generated localApiRoot (link.handling initiator) with
  | (.error _, after) => link.install initiator after
  | (.ok sent, after) =>
    { link.install initiator after with
      exchanges := link.exchanges ++
        [⟨initiator, secret, sent, (link.handling initiator).node, .requested⟩] }

def deliverRequest (n : ℕ) (exchange : Exchange) (random : UInt64) (generated : SigningKey) :
  Link :=
  let responder := exchange.initiator.other
  match crates.handleExchangeParamsRequest random generated exchange.sent
      (link.ready responder exchange.sent.sender exchange.secret) with
  | (.error _, after) => (link.install responder after).settle n (exchange.at .refused)
  | (.ok rsp, after) =>
    ((link.install responder after).settle n (exchange.at (.answered rsp))).hold responder n

def deliverAnswer (n : ℕ) (exchange : Exchange) (rsp : SecParamExchRspData) : Link :=
  let initiator := exchange.initiator
  let before := link.ready initiator rsp.sender exchange.secret
  match crates.handleExchangeParamsResponse exchange.sent rsp
      { before with node := exchange.copy } with
  | (.error _, after) =>
    (link.install initiator { after with node := before.node }).settle n (exchange.at .lost)
  | (.ok _, after) =>
    ((link.install initiator after).settle n (exchange.at (.completed rsp))).hold initiator n

def deliverRefusal (n : ℕ) (exchange : Exchange) : Link :=
  (link.install exchange.initiator
    { link.handling exchange.initiator with node := exchange.copy }).settle n (exchange.at .lost)

def linkStep : LinkAction → Link
  | .start initiator random generated localApiRoot secret =>
    crates.start link initiator random generated localApiRoot secret
  | .deliverRequest n random generated =>
    match link.exchanges[n]? with
    | some exchange =>
      match exchange.stage with
      | .requested => crates.deliverRequest link n exchange random generated
      | _ => link
    | none => link
  | .deliverAnswer n =>
    match link.exchanges[n]? with
    | some exchange =>
      match exchange.stage with
      | .answered rsp => crates.deliverAnswer link n exchange rsp
      | .refused => deliverRefusal link n exchange
      | _ => link
    | none => link
  | .lose n =>
    match link.exchanges[n]? with
    | some exchange => if exchange.stage.inFlight then link.settle n (exchange.at .lost) else link
    | none => link

def linkMachine : Machine Link LinkAction Unit where
  step link action := (crates.linkStep link action, ())

def record (exchange : Exchange) (rsp : SecParamExchRspData) (role : N32fRole) :
  N32fSecurityInfo :=
  let contextId := canonicalN32fContextId exchange.sent.n32fContextId rsp.n32fContextId
  { localContextId :=
      if role = .initiator then exchange.sent.n32fContextId else rsp.n32fContextId
    peerContextId :=
      if role = .initiator then rsp.n32fContextId else exchange.sent.n32fContextId
    keyMaterial := crates.deriveN32fKeyMaterial exchange.secret contextId
    role := role
    kid := contextId
    jweCipherSuite := rsp.selectedJweCipherSuite
    jwsCipherSuite := rsp.selectedJwsCipherSuite
    encProfiles := adoptedProfiles rsp.selProtectionPolicyInfo }

variable {crates}

lemma resolveExporterSecret_of_deposited {initiator responder : String} {secret master : Master}
  (deposited : now.context.exporterSecrets peer = some secret)
  (resolved : crates.resolveExporterSecret peer initiator responder now = (.ok master, after)) :
  master = secret ∧ after.node = now.node := by
  unfold resolveExporterSecret at resolved
  rw [deposited] at resolved
  cases resolved
  exact ⟨rfl, rfl⟩

lemma exporterSecrets_of_registered {list : Option (List IpxProviderSecInfo)} {done : PUnit}
  (registered : crates.registerPeerIpxSecInfo peer list now = (.ok done, after)) :
  after.context.exporterSecrets = now.context.exporterSecrets := by
  have kept := crates.keeps_registerPeerIpxSecInfo peer list now
  rw [registered] at kept
  exact exporterSecrets_eq_of_withoutKeys_eq kept

lemma n32fSecurity_learnApiRoot (node : SeppNode) (apiRoot : Option String) :
  (node.learnApiRoot apiRoot).n32fSecurity = node.n32fSecurity := by
  cases apiRoot <;> rfl

lemma handleExchangeParamsRequest_installs {random : UInt64} {generated : SigningKey}
  (deposited : now.context.exporterSecrets exchange.sent.sender = some exchange.secret)
  (handled : crates.handleExchangeParamsRequest random generated exchange.sent now =
    (.ok rsp, after)) :
  after.node.n32fSecurity = some (crates.record exchange rsp .responder) := by
  simp [handleExchangeParamsRequest, localIdentity, localIpxProviderSecInfo] at handled
  obtain ⟨-, -, jwe, -, jws, -, localFqdn, -, _, between, registered, master, _, resolved, rfl,
    rfl⟩ := handled
  rw [← exporterSecrets_of_registered registered] at deposited
  obtain ⟨rfl, -⟩ := resolveExporterSecret_of_deposited deposited resolved
  exact n32fSecurity_learnApiRoot _ _

lemma handleExchangeParamsResponse_installs {done : Unit}
  (deposited : now.context.exporterSecrets rsp.sender = some exchange.secret)
  (handled : crates.handleExchangeParamsResponse exchange.sent rsp now = (.ok done, after)) :
  after.node.n32fSecurity = some (crates.record exchange rsp .initiator) := by
  simp [handleExchangeParamsResponse] at handled
  obtain ⟨-, -, -, _, between, registered, master, _, resolved, rfl⟩ := handled
  rw [← exporterSecrets_of_registered registered] at deposited
  obtain ⟨rfl, -⟩ := resolveExporterSecret_of_deposited deposited resolved
  rfl

structure Mirrors (first second : N32fSecurityInfo) : Prop where
  contexts : first.localContextId = second.peerContextId
  peerContexts : first.peerContextId = second.localContextId
  roles : first.role = second.role.opposite
  kid : first.kid = second.kid
  keyMaterial : first.keyMaterial = second.keyMaterial
  jweCipherSuite : first.jweCipherSuite = second.jweCipherSuite
  jwsCipherSuite : first.jwsCipherSuite = second.jwsCipherSuite
  encProfiles : first.encProfiles = second.encProfiles

lemma mirrors_record (exchange : Exchange) (rsp : SecParamExchRspData) (role : N32fRole) :
  Mirrors (crates.record exchange rsp role) (crates.record exchange rsp role.opposite) := by
  cases role <;> exact ⟨rfl, rfl, rfl, rfl, rfl, rfl, rfl, rfl⟩

end N32cCrates

namespace Link

variable {link : Link} {n : ℕ} {exchange : Exchange}

def Completed (link : Link) (n : ℕ) : Prop :=
  ∃ exchange rsp, link.exchanges[n]? = some exchange ∧ exchange.stage = .completed rsp

lemma completed_iff : link.Completed n ↔
    (link.exchanges[n]?.any fun exchange => exchange.stage.isCompleted) = true := by
  constructor
  · rintro ⟨exchange, rsp, there, completed⟩
    simp [there, completed, Stage.isCompleted]
  · intro completed
    cases there : link.exchanges[n]? with
    | none => simp [there] at completed
    | some exchange =>
      rw [there, Option.any_some] at completed
      cases isStage : exchange.stage with
      | completed rsp => exact ⟨exchange, rsp, there, isStage⟩
      | _ =>
        rw [isStage] at completed
        cases completed

instance decidableCompleted (link : Link) (n : ℕ) : Decidable (link.Completed n) :=
  decidable_of_iff _ completed_iff.symm

def Quiet (link : Link) : Prop :=
  ∀ exchange ∈ link.exchanges, exchange.stage.inFlight = false

/-- The two records mirror each other when they are those of completed exchanges. -/
def Agreed (link : Link) : Prop :=
  link.Quiet → ∀ m n, link.held .a = some m → link.held .b = some n →
    link.Completed m → link.Completed n →
    ∃ first second, (link.handling .a).node.n32fSecurity = some first ∧
      (link.handling .b).node.n32fSecurity = some second ∧ N32cCrates.Mirrors first second

structure Fresh (link : Link) : Prop where
  exchanges : link.exchanges = []
  held : ∀ side, link.held side = none

/-- An answer arrives while the responder holds no record of another completed exchange, and a
refusal while the initiator still has the record of its copy. -/
def NotOvertaken (link : Link) : LinkAction → Prop
  | .deliverAnswer n => ∀ exchange, link.exchanges[n]? = some exchange →
      (∀ rsp, exchange.stage = .answered rsp →
        ∀ m, link.held exchange.initiator.other = some m → link.Completed m → m = n) ∧
      (exchange.stage = .refused →
        exchange.copy.n32fSecurity = (link.handling exchange.initiator).node.n32fSecurity)
  | _ => True

lemma getElem?_set_of_some (there : link.exchanges[n]? = some exchange) (changed : Exchange)
  (m : ℕ) :
  (link.exchanges.set n changed)[m]? = if m = n then some changed else link.exchanges[m]? := by
  obtain ⟨inside, -⟩ := List.getElem?_eq_some_iff.mp there
  rw [List.getElem?_set]
  by_cases same : n = m
  · simp [same, same ▸ inside]
  · simp [same, Ne.symm same]

lemma completed_of_settled {after : Link} {stage : Stage}
  (there : link.exchanges[n]? = some exchange)
  (settled : after.exchanges = link.exchanges.set n (exchange.at stage)) {m : ℕ}
  (completed : after.Completed m) :
  (m = n ∧ ∃ rsp, stage = .completed rsp) ∨ link.Completed m := by
  obtain ⟨other, rsp, isThere, isCompleted⟩ := completed
  rw [settled, getElem?_set_of_some there] at isThere
  split at isThere
  · rename_i same
    cases isThere
    exact .inl ⟨same, rsp, isCompleted⟩
  · exact .inr ⟨other, rsp, isThere, isCompleted⟩

end Link

def Exchange.roleOf (exchange : Exchange) (side : Side) : N32fRole :=
  if side = exchange.initiator then .initiator else .responder

def Stage.Answers (stage : Stage) (rsp : SecParamExchRspData) : Prop :=
  stage = .answered rsp ∨ stage = .completed rsp

namespace N32cCrates

variable (crates : N32cCrates) {link : Link} {n : ℕ} {exchange : Exchange} {side : Side}
  {after : Link} {stage : Stage} {rsp : SecParamExchRspData}

def Recorded (link : Link) (side : Side) (n : ℕ) : Prop :=
  ∃ exchange, link.exchanges[n]? = some exchange ∧ exchange.stage ≠ .requested ∧
    ∀ rsp, exchange.stage.Answers rsp → (link.handling side).node.n32fSecurity =
        some (crates.record exchange rsp (exchange.roleOf side))

structure Sound (link : Link) : Prop where
  agree : SharedSlots.Agree link.held link.Completed
  recorded : ∀ side n, link.held side = some n → crates.Recorded link side n

variable {crates}

section

variable (sound : crates.Sound link) (there : link.exchanges[n]? = some exchange)

include sound there

lemma Sound.not_held (requested : exchange.stage = .requested) (side : Side) :
  link.held side ≠ some n := by
  intro holds
  obtain ⟨other, isThere, notRequested, -⟩ := sound.recorded side n holds
  obtain rfl := Option.some.inj (there.symm.trans isThere)
  exact notRequested requested

lemma Sound.fail (fails : stage = .refused ∨ stage = .lost)
  (settled : after.exchanges = link.exchanges.set n (exchange.at stage))
  (held : after.held = link.held)
  (kept : ∀ side, (after.handling side).node.n32fSecurity = (link.handling
    side).node.n32fSecurity) :
  crates.Sound after := by
  constructor
  · rw [held]
    refine sound.agree.mono fun m completed => ?_
    rcases Link.completed_of_settled there settled completed with ⟨-, rsp, isCompleted⟩ | before
    · rcases fails with rfl | rfl <;> cases isCompleted
    · exact before
  · intro side m holds
    rw [held] at holds
    obtain ⟨other, isThere, notRequested, recorded⟩ := sound.recorded side m holds
    by_cases same : m = n
    · refine ⟨exchange.at stage, ?_, ?_, ?_⟩
      · rw [settled, Link.getElem?_set_of_some there, if_pos same]
      · rcases fails with rfl | rfl <;> exact Stage.noConfusion
      · rintro rsp (answers | answers) <;> rcases fails with rfl | rfl <;> cases answers
    · refine ⟨other, ?_, notRequested, fun rsp answers => ?_⟩
      · rw [settled, Link.getElem?_set_of_some there, if_neg same, isThere]
      · rw [kept side]
        exact recorded rsp answers

lemma Sound.recorded_take (answers : stage.Answers rsp)
  (before : exchange.stage = .requested ∨ exchange.stage = .answered rsp)
  (settled : after.exchanges = link.exchanges.set n (exchange.at stage))
  (held : after.held = update link.held side (some n))
  (installed : (after.handling side).node.n32fSecurity = some
    (crates.record exchange rsp (exchange.roleOf side)))
  (others : ∀ other ≠ side, after.handling other = link.handling other) (third : Side) (m : ℕ)
  (holds : after.held third = some m) : crates.Recorded after third m := by
  have isOnly {reply : SecParamExchRspData} (other : stage.Answers reply) : reply = rsp := by
    rcases answers with rfl | rfl <;> rcases other with same | same <;> cases same <;> rfl
  have notRequested : stage ≠ .requested := by
    rcases answers with rfl | rfl <;> exact Stage.noConfusion
  rw [held] at holds
  by_cases same : third = side
  · subst same
    rw [update_self] at holds
    cases holds
    refine ⟨exchange.at stage, ?_, notRequested, fun reply answered => ?_⟩
    · rw [settled, Link.getElem?_set_of_some there, if_pos rfl]
    · rw [installed, isOnly answered]
      rfl
  · rw [update_of_ne same] at holds
    by_cases isN : m = n
    · subst isN
      rcases before with requested | answered
      · exact absurd holds (sound.not_held there requested third)
      · obtain ⟨own, isThere, -, recorded⟩ := sound.recorded third m holds
        obtain rfl := Option.some.inj (there.symm.trans isThere)
        refine ⟨exchange.at stage, ?_, notRequested, fun reply replied => ?_⟩
        · rw [settled, Link.getElem?_set_of_some there, if_pos rfl]
        · rw [others third same, isOnly replied]
          exact recorded rsp (.inl answered)
    · obtain ⟨own, isThere, ownNotRequested, recorded⟩ := sound.recorded third m holds
      refine ⟨own, ?_, ownNotRequested, fun reply replied => ?_⟩
      · rw [settled, Link.getElem?_set_of_some there, if_neg isN, isThere]
      · rw [others third same]
        exact recorded reply replied

end

lemma deposited_ready (link : Link) (side : Side) (peer : String) (secret : Master) :
  (link.ready side peer secret).context.exporterSecrets peer = some secret :=
  update_self _ _ _

lemma handling_install (link : Link) (side : Side) (after : Handling) :
  (link.install side after).handling side = after :=
  update_self _ _ _

lemma handling_install_of_ne (link : Link) {third : Side} (other : third ≠ side)
  (after : Handling) : (link.install side after).handling third = link.handling third :=
  update_of_ne other _ _

lemma n32fSecurity_install {after : Handling}
  (kept : after.node.n32fSecurity = (link.handling side).node.n32fSecurity) (third : Side) :
  ((link.install side after).handling third).node.n32fSecurity =
    (link.handling third).node.n32fSecurity := by
  by_cases same : third = side
  · subst same
    rw [handling_install, kept]
  · rw [handling_install_of_ne link same]

lemma keeps_paramsRequest (random : UInt64) (generated : SigningKey)
  (localApiRoot : Option String) :
  Keeps Handling.node (crates.paramsRequest random generated localApiRoot) := by
  refine Keeps.bind (Keeps.inspect _) fun _ => ?_
  refine Keeps.bind ?_ fun _ => Keeps.pure _
  exact Keeps.bind (Keeps.modify fun _ => rfl) fun _ => Keeps.inspect _

section

variable (sound : crates.Sound link)

include sound

lemma Sound.start (initiator : Side) (random : UInt64) (generated : SigningKey)
  (localApiRoot : Option String) (secret : Master) :
  crates.Sound (crates.start link initiator random generated localApiRoot secret) := by
  have kept := crates.keeps_paramsRequest random generated localApiRoot (link.handling initiator)
  unfold N32cCrates.start
  split
  · rename_i problem after failed
    rw [failed] at kept
    have same := n32fSecurity_install (congrArg SeppNode.n32fSecurity kept)
    refine ⟨sound.agree, fun side n holds => ?_⟩
    obtain ⟨exchange, isThere, notRequested, recorded⟩ := sound.recorded side n holds
    exact ⟨exchange, isThere, notRequested, fun rsp answers =>
      (same side).trans (recorded rsp answers)⟩
  · rename_i sent after succeeded
    rw [succeeded] at kept
    have same := n32fSecurity_install (congrArg SeppNode.n32fSecurity kept)
    constructor
    · refine sound.agree.mono fun n => ?_
      rintro ⟨exchange, rsp, isThere, isCompleted⟩
      rw [List.getElem?_append] at isThere
      split at isThere
      · exact ⟨exchange, rsp, isThere, isCompleted⟩
      · rw [List.getElem?_singleton] at isThere
        split at isThere
        · cases isThere
          cases isCompleted
        · cases isThere
    · intro side n holds
      obtain ⟨exchange, isThere, notRequested, recorded⟩ := sound.recorded side n holds
      obtain ⟨inside, -⟩ := List.getElem?_eq_some_iff.mp isThere
      refine ⟨exchange, ?_, notRequested, fun rsp answers =>
        (same side).trans (recorded rsp answers)⟩
      exact (List.getElem?_append_left inside).trans isThere

lemma Sound.deliverRequest (there : link.exchanges[n]? = some exchange)
  (requested : exchange.stage = .requested) (random : UInt64) (generated : SigningKey) :
  crates.Sound (crates.deliverRequest link n exchange random generated) := by
  have deposited :=
    deposited_ready link exchange.initiator.other exchange.sent.sender exchange.secret
  unfold N32cCrates.deliverRequest
  dsimp only
  split
  · rename_i problem after failed
    have kept := crates.failSafe_handleExchangeParamsRequest random generated exchange.sent _
      problem (congrArg Prod.fst failed)
    rw [failed] at kept
    exact sound.fail there (.inl rfl) rfl rfl
      (n32fSecurity_install (congrArg SeppNode.n32fSecurity kept))
  · rename_i rsp after handled
    constructor
    · refine (sound.agree.join ?_).mono fun m completed => ?_
      · rintro ⟨other, rsp, isThere, completed⟩
        obtain rfl := Option.some.inj (there.symm.trans isThere)
        rw [requested] at completed
        cases completed
      · rcases Link.completed_of_settled there rfl completed with ⟨-, _, answered⟩ | before
        · cases answered
        · exact before
    · refine sound.recorded_take there (.inl rfl) (.inl requested) rfl rfl ?_ ?_
      · have role : exchange.roleOf exchange.initiator.other = .responder :=
          if_neg exchange.initiator.other_ne
        have installed := handleExchangeParamsRequest_installs deposited handled
        rw [role, ← installed]
        exact congrArg (fun now : Handling => now.node.n32fSecurity)
          (handling_install link exchange.initiator.other after)
      · exact fun other isOther => handling_install_of_ne link isOther after

lemma Sound.deliverAnswer (there : link.exchanges[n]? = some exchange)
  (answered : exchange.stage = .answered rsp)
  (alone : ∀ m, link.held exchange.initiator.other = some m → link.Completed m → m = n) :
  crates.Sound (crates.deliverAnswer link n exchange rsp) := by
  have deposited : ({ link.ready exchange.initiator rsp.sender exchange.secret with
      node := exchange.copy } : Handling).context.exporterSecrets rsp.sender =
        some exchange.secret :=
    deposited_ready link exchange.initiator rsp.sender exchange.secret
  unfold N32cCrates.deliverAnswer
  dsimp only
  split
  · exact sound.fail there (.inr rfl) rfl rfl (n32fSecurity_install rfl)
  · rename_i done after handled
    constructor
    · have others : ∀ other ≠ exchange.initiator, ∀ m, link.held other = some m →
          link.Completed m → m = n := by
        intro other isOther m holds completed
        rcases Side.eq_or_eq_other other exchange.initiator with rfl | rfl
        · exact absurd rfl isOther
        · exact alone m holds completed
      refine SharedSlots.Agree.finish others fun m completed => ?_
      rcases Link.completed_of_settled there rfl completed with ⟨isN, -⟩ | before
      · exact .inl isN
      · exact .inr before
    · refine sound.recorded_take there (.inr rfl) (.inr answered) rfl rfl ?_ ?_
      · have role : exchange.roleOf exchange.initiator = .initiator := if_pos rfl
        have installed := handleExchangeParamsResponse_installs deposited handled
        rw [role, ← installed]
        exact congrArg (fun now : Handling => now.node.n32fSecurity)
          (handling_install link exchange.initiator after)
      · exact fun other isOther => handling_install_of_ne link isOther after

lemma Sound.linkStep (action : LinkAction) (notOvertaken : link.NotOvertaken action) :
  crates.Sound (crates.linkStep link action) := by
  cases action with
  | start initiator random generated localApiRoot secret =>
    exact sound.start initiator random generated localApiRoot secret
  | deliverRequest n random generated =>
    unfold N32cCrates.linkStep
    dsimp only
    split
    · rename_i exchange there
      split
      · rename_i requested
        exact sound.deliverRequest there requested random generated
      · exact sound
    · exact sound
  | deliverAnswer n =>
    unfold N32cCrates.linkStep
    dsimp only
    split
    · rename_i exchange there
      obtain ⟨alone, unchanged⟩ := notOvertaken exchange there
      split
      · rename_i rsp answered
        exact sound.deliverAnswer there answered (alone rsp answered)
      · rename_i refused
        exact sound.fail there (.inr rfl) rfl rfl (n32fSecurity_install (unchanged refused))
      · exact sound
    · exact sound
  | lose n =>
    unfold N32cCrates.linkStep
    dsimp only
    split
    · rename_i exchange there
      split
      · exact sound.fail there (.inr rfl) rfl rfl fun _ => rfl
      · exact sound
    · exact sound

lemma Sound.agreed : link.Agreed := by
  intro _ m n holdsA holdsB completedA completedB
  obtain rfl := sound.agree holdsA holdsB completedA completedB
  obtain ⟨exchange, there, -, recordedA⟩ := sound.recorded .a m holdsA
  obtain ⟨other, isThere, -, recordedB⟩ := sound.recorded .b m holdsB
  obtain rfl := Option.some.inj (there.symm.trans isThere)
  obtain ⟨own, rsp, isOwn, completed⟩ := completedA
  obtain rfl := Option.some.inj (there.symm.trans isOwn)
  refine ⟨_, _, recordedA rsp (.inr completed), recordedB rsp (.inr completed), ?_⟩
  have opposite : exchange.roleOf .b = (exchange.roleOf .a).opposite := by
    unfold Exchange.roleOf
    cases exchange.initiator <;> rfl
  rw [opposite]
  exact mirrors_record exchange rsp _

end

end N32cCrates

/-- Two SEPPs whose exchanges are not overtaken hold mirrored records when they are at rest. -/
theorem agreed_of_notOvertaken (crates : N32cCrates) {link : Link} (fresh : link.Fresh)
  {actions : List LinkAction}
  (notOvertaken : crates.linkMachine.Along Link.NotOvertaken link actions) :
  (crates.linkMachine.run link actions).Agreed := by
  have start : crates.Sound link := by
    refine ⟨SharedSlots.agree_of_empty fresh.held, fun side n holds => ?_⟩
    rw [fresh.held side] at holds
    cases holds
  exact (Machine.invariant_run crates.linkMachine
    (fun _ action sound condition => sound.linkStep action condition) start notOvertaken).agreed

def seppOf (side : Side) : Handling where
  context :=
    { sender := some (if side = .a then "sepp.a" else "sepp.b")
      securityCapability := ⟨false, true⟩
      targetApirootSupported := true
      servingPlmnIds := []
      exporterSecrets := fun _ => none
      allowInsecureNoTls := false
      localSigningKey := none
      verifyingKeys := [] }
  node :=
    { receiver := if side = .a then "sepp.b" else "sepp.a"
      negotiatedSecurityScheme := .prins
      targetApirootSupported := true
      plmnIds := []
      targetPlmnId := none
      supportedFeatures := 0
      peerApiRoot := none
      n32fSecurity := none }

def freshLink : Link where
  handling := seppOf
  exchanges := []
  held := fun _ => none

def plainCrates : N32cCrates where
  hkdfExpand master info length :=
    Vector.replicate length (UInt8.ofNat ((master.toList ++ info).foldl (· + ·.toNat) 0))
  sha512 _ := Vector.replicate 64 0
  publicKeyPem _ := none
  parsePublicKeyPem _ := .error .tampered
  parsePublicKeyFromCert _ := .error .tampered

def sharedSecret : Master := Vector.replicate 64 0x5a

def oneExchange : List LinkAction :=
  [.start .a 1 [] none sharedSecret, .deliverRequest 0 2 [], .deliverAnswer 0]

def answeredLink : Link :=
  plainCrates.linkMachine.run freshLink [.start .a 1 [] none sharedSecret, .deliverRequest 0 2 []]

theorem oneExchange_agreed : (plainCrates.linkMachine.run freshLink oneExchange).Agreed := by
  have exchanges : ∀ exchange ∈ answeredLink.exchanges,
      exchange.initiator = .a ∧ exchange.copy.n32fSecurity.isNone := by
    decide
  have holdsB : answeredLink.held .b = some 0 := by decide
  have emptyA : (answeredLink.handling .a).node.n32fSecurity.isNone := by decide
  refine agreed_of_notOvertaken plainCrates ⟨rfl, fun _ => rfl⟩
    ⟨trivial, trivial, fun exchange there => ?_, trivial⟩
  obtain ⟨byA, copied⟩ := exchanges exchange (List.mem_of_getElem? there)
  rw [byA]
  refine ⟨fun _ _ m holds _ => ?_, fun _ => ?_⟩
  · exact Option.some.inj (holds.symm.trans holdsB)
  · exact (Option.isNone_iff_eq_none.mp copied).trans (Option.isNone_iff_eq_none.mp emptyA).symm

def crossing : List LinkAction :=
  [.start .a 1 [] none sharedSecret, .start .b 2 [] none sharedSecret,
    .deliverRequest 0 3 [], .deliverRequest 1 4 [], .deliverAnswer 0, .deliverAnswer 1]

def crossedLink : Link :=
  plainCrates.linkMachine.run freshLink crossing

/-- Both exchanges are answered before either answer arrives, and both SEPPs end as initiators. -/
theorem crossing_disagrees : crossedLink.Quiet ∧
    crossedLink.held .a = some 0 ∧ crossedLink.held .b = some 1 ∧
    ((crossedLink.handling .a).node.n32fSecurity.map fun info => info.role) =
      some .initiator ∧
    ((crossedLink.handling .b).node.n32fSecurity.map fun info => info.role) =
      some .initiator ∧
    ¬ crossedLink.Agreed := by
  have quiet : crossedLink.Quiet := by
    unfold Link.Quiet
    decide
  have holdsA : crossedLink.held .a = some 0 := by decide
  have holdsB : crossedLink.held .b = some 1 := by decide
  have roleA : ((crossedLink.handling .a).node.n32fSecurity.map fun info => info.role) =
      some .initiator := by decide
  have roleB : ((crossedLink.handling .b).node.n32fSecurity.map fun info => info.role) =
      some .initiator := by decide
  have completed : crossedLink.Completed 0 ∧ crossedLink.Completed 1 := by decide
  refine ⟨quiet, holdsA, holdsB, roleA, roleB, fun agreed => ?_⟩
  obtain ⟨first, second, isFirst, isSecond, mirrors⟩ :=
    agreed quiet 0 1 holdsA holdsB completed.1 completed.2
  rw [isFirst, Option.map_some] at roleA
  rw [isSecond, Option.map_some] at roleB
  have opposite := mirrors.roles
  rw [Option.some.inj roleA, Option.some.inj roleB] at opposite
  cases opposite

end NextGCore.Sepp
