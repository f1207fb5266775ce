import NextGCore.Ipfw.Rule

/-!
# What rules are compiled of

A flow description that compiles names a protocol and two endpoints, each with a range of
addresses and a range of ports.  The rule says the same of them and nothing else.
-/

namespace NextGCore.Upf

open Ipfw (parsePortRange parseProtocol splitPrefix)
open Sbi (parseIpv4 parseIpv6 splitWhitespace)

inductive AddressRange where
  | any
  | v4 (address : UInt32) (prefixLen : UInt8)
  | v6 (address : Vector UInt8 16) (prefixLen : UInt8)
  deriving DecidableEq

def AddressRange.read (token : String) : Option AddressRange :=
  if token = "any" ∨ token = "assigned" then some .any
  else
    match splitPrefix token with
    | .error _ => none
    | .ok parts =>
      match parseIpv4 parts.1 with
      | some ipv4 => some (.v4 ipv4 (parts.2.getD 32))
      | none => (parseIpv6 parts.1).map fun ipv6 => .v6 ipv6 (parts.2.getD 128)

structure Endpoint where
  range : AddressRange
  ports : Option PortRange

def Endpoint.read : List String → Option Endpoint
  | [] => none
  | token :: rest => do
    let range ← AddressRange.read token
    match rest with
    | [] => some ⟨range, none⟩
    | portStr :: _ => do
      let ports ← (parsePortRange portStr).toOption
      some ⟨range, some ports⟩

structure FlowDescription where
  proto : UInt8
  source : Endpoint
  destination : Endpoint

namespace FlowDescription

def readEnds (tokens : List String) (proto : UInt8) : Option FlowDescription :=
  match tokens.idxOf? "from", tokens.idxOf? "to" with
  | some fromIdx, some toIdx =>
    if toIdx < fromIdx + 1 then none
    else do
      let source ← Endpoint.read ((tokens.take toIdx).drop (fromIdx + 1))
      let destination ← Endpoint.read (tokens.drop (toIdx + 1))
      some ⟨proto, source, destination⟩
  | _, _ => none

/-- `permit out <proto> from <src_addr> [<src_port>] to <dst_addr> [<dst_port>]`, with anything
in between. -/
def read (text : String) : Option FlowDescription :=
  let tokens := splitWhitespace text
  if tokens.head? = some "permit" ∧ tokens[1]? = some "out" then do
    let protoStr ← tokens[2]?
    let proto ← (parseProtocol protoStr).toOption
    readEnds tokens proto
  else none

end FlowDescription

end NextGCore.Upf

namespace NextGCore.Ipfw

open Option
open Sbi (parseIpv4 parseIpv6 splitWhitespace)
open Upf (AddressRange Endpoint FlowDescription)

variable (tokens : List String) (text : String)

def sideOf (endpoint : Endpoint) : Side :=
  let port := endpoint.ports.getD .none
  match endpoint.range with
  | .any => { Side.none with port }
  | .v4 address prefixLen => ⟨true, false, .fromIpv4 address prefixLen, port⟩
  | .v6 address prefixLen => ⟨false, true, .fromIpv6 address prefixLen, port⟩

def ruleOf (description : FlowDescription) : IpfwRule :=
  ⟨description.proto, sideOf description.source, sideOf description.destination⟩

lemma toOption_parseHost (token : String) : (parseHost token .none).toOption =
    (AddressRange.read token).map fun range => sideOf ⟨range, none⟩ := by
  unfold AddressRange.read parseHost parseAddress
  by_cases named : token = "any" ∨ token = "assigned"
  · rw [if_pos named, if_pos named]
    rfl
  · rw [if_neg named, if_neg named]
    cases splitPrefix token with
    | error error => rfl
    | ok parts =>
      simp only [Bind.bind, Except.bind]
      cases parseIpv4 parts.1 with
      | some ipv4 => rfl
      | none => cases parseIpv6 parts.1 <;> rfl

lemma toOption_parseAddressPort :
  (parseAddressPort tokens .none).toOption = (Endpoint.read tokens).map sideOf := by
  cases tokens with
  | nil => rfl
  | cons token rest =>
    have host := toOption_parseHost token
    simp only [parseAddressPort, Endpoint.read]
    cases parsed : parseHost token .none with
    | error error =>
      rw [parsed] at host
      rw [map_eq_none_iff.mp host.symm]
      rfl
    | ok side =>
      rw [parsed] at host
      obtain ⟨range, read, rfl⟩ := map_eq_some_iff.mp host.symm
      rw [read]
      cases rest with
      | nil => rfl
      | cons portStr rest =>
        simp only [Bind.bind, Except.bind, Option.bind, parsePort]
        cases parsePortRange portStr with
        | error error => rfl
        | ok port => cases range <;> rfl

lemma toOption_compileEnds (proto : UInt8) :
  (compileEnds tokens { IpfwRule.new with proto }).bind Except.toOption =
    (FlowDescription.readEnds tokens proto).map ruleOf := by
  unfold compileEnds FlowDescription.readEnds
  cases tokens.idxOf? "from" with
  | none => rfl
  | some fromIdx =>
    cases tokens.idxOf? "to" with
    | none => rfl
    | some toIdx =>
      dsimp only
      split
      · rfl
      · have source := toOption_parseAddressPort ((tokens.take toIdx).drop (fromIdx + 1))
        have destination := toOption_parseAddressPort (tokens.drop (toIdx + 1))
        simp only [Bind.bind, bind_some, IpfwRule.new]
        cases src : parseAddressPort ((tokens.take toIdx).drop (fromIdx + 1)) .none with
        | error error =>
          rw [src] at source
          rw [map_eq_none_iff.mp source.symm]
          rfl
        | ok side =>
          rw [src] at source
          obtain ⟨endpoint, read, rfl⟩ := map_eq_some_iff.mp source.symm
          rw [read]
          cases dst : parseAddressPort (tokens.drop (toIdx + 1)) .none with
          | error error =>
            rw [dst] at destination
            rw [map_eq_none_iff.mp destination.symm]
            rfl
          | ok side =>
            rw [dst] at destination
            obtain ⟨endpoint, read, rfl⟩ := map_eq_some_iff.mp destination.symm
            rw [read]
            rfl

lemma toOption_compileRule :
  (compileRule text).bind Except.toOption = (FlowDescription.read text).map ruleOf := by
  unfold compileRule FlowDescription.read
  generalize splitWhitespace text = tokens
  cases tokens with
  | nil => rfl
  | cons first rest =>
    simp only [List.head?_cons, ne_eq, reduceCtorEq, ↓reduceIte, Option.some.injEq]
    by_cases permit : first = "permit"
    · by_cases out : (first :: rest)[1]? = some "out"
      · rw [if_neg (not_not_intro permit), if_neg (not_not_intro out), if_pos ⟨permit, out⟩]
        cases (first :: rest)[2]? with
        | none => rfl
        | some protoStr =>
          simp only [Bind.bind, Option.bind]
          cases parseProtocol protoStr with
          | error error => rfl
          | ok proto => exact toOption_compileEnds _ proto
      · rw [if_neg (not_not_intro permit), if_pos out, if_neg fun both => out both.2]
        rfl
    · rw [if_pos permit, if_neg fun both => permit both.1]
      rfl

lemma compileRule_eq_ok_iff {text : String} {rule : IpfwRule} :
  compileRule text = some (.ok rule) ↔
    ∃ description, FlowDescription.read text = some description ∧ ruleOf description = rule := by
  rw [← map_eq_some_iff, ← toOption_compileRule]
  cases compileRule text with
  | none => exact ⟨nofun, nofun⟩
  | some answer =>
    cases answer with
    | error error => exact ⟨nofun, nofun⟩
    | ok compiled =>
      rw [Option.some.injEq, Except.ok.injEq, bind_some, Except.toOption, Option.some.injEq]

end NextGCore.Ipfw
