import AgenticNetops.Schemas.Dump
import AgenticNetops.Migration.Decode

set_option autoImplicit false

/- What the translator decodes of an intent that the deployer posts: the same values
   under the translator's types, where they fit. -/
namespace AgenticNetops.Migration

open JsonValue Schemas

def wireRdRt (rdRt : Schemas.RdRt) : RdRt := { rd := rdRt.rd, importRT := rdRt.importRT, exportRT := rdRt.exportRT }

def wireFamilies (families : Schemas.AddressFamilies) : AddressFamilies :=
  { ipv4Prefixes := families.ipv4Prefixes, ipv6Prefixes := families.ipv6Prefixes }

def wireEndpoint (ep : Schemas.Endpoint) : Endpoint :=
  { node := ep.node, attachment := ep.attachment, vlan := ep.vlan.getD 0, vrf := ep.vrf.getD "",
    prefixes := ep.prefixes.getD [] }

def wireGateway (gateway : Schemas.AnycastGateway) : AnycastGateway :=
  { ipVRF := gateway.ipVrf.getD "", gatewayV4 := gateway.gatewayIPv4, gatewayV6 := gateway.gatewayIPv6 }

def wireUnsupported (u : Schemas.UnsupportedClaims) : UnsupportedClaims :=
  { tePolicy := u.tePolicy, pseudowireOAM := u.pseudowireOAM, controlWord := u.controlWord,
    multicastVPN := u.multicastVPN, complexQoS := u.complexQoS, serviceChain := u.serviceChain, rawCLI := u.rawCLI }

def wireProtocol : Option Protocol → String
  | some (.name text) => text
  | _ => ""

def wireRule (r : Schemas.ACLRule) : ACLRule :=
  { name := r.name, priority := r.priority, action := r.action.value, protocol := wireProtocol r.protocol,
    sourcePrefix := r.sourcePrefix.getD "", destinationPrefix := r.destinationPrefix.getD "",
    sourcePort := r.sourcePort.getD "", destinationPort := r.destinationPort.getD "", description := r.description.getD "" }

def wireACL (a : Schemas.ACL) : ACL :=
  { name := a.name.getD "", stage := (a.stage.map Stage.value).getD "", type := (a.type.map ACLType.value).getD "",
    rules := (a.rules.getD []).map wireRule, defaultAction := (a.defaultAction.map Action.value).getD "",
    bindTo := a.bindTo.getD "" }

def wire (intent : NormalizedServiceIntent) : ServiceInput :=
  { serviceID := intent.serviceID, type := intent.type, tenant := intent.tenant, transport := intent.transport,
    signalling := intent.signalling.getD "", preferredSpine := intent.preferredSpine.getD "",
    rdRt := intent.rdRt.map wireRdRt, l2vni := intent.l2vni.getD 0, l3vni := intent.l3vni.getD 0,
    addressFamilies := intent.addressFamilies.map wireFamilies,
    anycastGateway := intent.anycastGateway.map wireGateway, acl := intent.acl.map wireACL,
    endpoints := intent.endpoints.map wireEndpoint,
    policies := { vpwsLimitedEquivalence := intent.policies.any Schemas.Policies.vpwsLimitedEquivalence },
    unsupported := wireUnsupported intent.claims }

def FitsInt (value : Option Int) : Prop := ∀ n ∈ value, -2 ^ 63 ≤ n ∧ n < 2 ^ 63

instance (value : Option Int) : Decidable (FitsInt value) := inferInstanceAs (Decidable (∀ n ∈ value, _))

-- A protocol number is no string.
def Named : Option Protocol → Prop
  | some (.number _) => False
  | _ => True

instance : (protocol : Option Protocol) → Decidable (Named protocol)
  | none => isTrue trivial
  | some (.name _) => isTrue trivial
  | some (.number _) => isFalse id

def FitsRule (r : Schemas.ACLRule) : Prop := FitsInt (some r.priority) ∧ Named r.protocol

instance (r : Schemas.ACLRule) : Decidable (FitsRule r) := inferInstanceAs (Decidable (_ ∧ _))

def FitsACL (a : Schemas.ACL) : Prop := ∀ r ∈ a.rules.getD [], FitsRule r

instance (a : Schemas.ACL) : Decidable (FitsACL a) := inferInstanceAs (Decidable (∀ r ∈ a.rules.getD [], _))

def Fits (intent : NormalizedServiceIntent) : Prop :=
  FitsInt intent.l2vni ∧ FitsInt intent.l3vni ∧ (∀ a ∈ intent.acl, FitsACL a) ∧ ∀ ep ∈ intent.endpoints, FitsInt ep.vlan

instance (intent : NormalizedServiceIntent) : Decidable (Fits intent) := inferInstanceAs (Decidable (_ ∧ _ ∧ _ ∧ _))

section Fields

@[simp] theorem decode_string (text : String) : decodeString (.str text) = some text := rfl

@[simp] theorem decode_text (text : Option String) : decodeString (dumpOptional .str text) = some (text.getD "") := by
  cases text with
  | none => rfl
  | some value => rfl

@[simp] theorem decode_strings (texts : List String) : decodeSlice decodeString (dumpStrings texts) = some texts := by
  have each : (texts.map Json.str).mapM decodeString = some texts := by
    induction texts with
    | nil => rfl
    | cons text rest ih => simp [List.mapM_cons, decodeString, ih]
  exact each

@[simp] theorem decode_optional_strings (texts : Option (List String)) :
    decodeSlice decodeString (dumpOptional dumpStrings texts) = some (texts.getD []) := by
  cases texts with
  | none => rfl
  | some value => exact decode_strings value

theorem decode_number (value : Option Int) :
    decodeInt (dumpOptional .num value) = if FitsInt value then some (value.getD 0) else none := by
  cases value with
  | none => rfl
  | some stored =>
      by_cases small : -2 ^ 63 ≤ stored ∧ stored < 2 ^ 63
      · have fits : FitsInt (some stored) := by
          intro n member
          cases member
          exact small
        rw [if_pos fits]
        exact if_pos small
      · have large : ¬ FitsInt (some stored) := fun fits => small (fits stored rfl)
        rw [if_neg large]
        exact if_neg small

@[simp] theorem decode_claim (present : Bool) : decodeAny (dumpClaim present) = some present := by
  cases present with
  | false => rfl
  | true => rfl

section Parts
variable {α β : Type} (decode : Json → Option β) (dump : α → Json) (wired : α → β) (fits : α → Prop) [DecidablePred fits]
variable (each : ∀ a, decode (dump a) = if fits a then some (wired a) else none)

include each in
theorem decode_items (items : List α) :
    decodeSlice decode (.arr (items.map dump)) = if ∀ a ∈ items, fits a then some (items.map wired) else none := by
  change (items.map dump).mapM decode = _
  induction items with
  | nil => simp
  | cons a rest ih =>
      rw [List.map_cons, List.mapM_cons, each a, ih]
      by_cases here : fits a
      · by_cases later : ∀ b ∈ rest, fits b
        · have all : ∀ b ∈ a :: rest, fits b := List.forall_mem_cons.mpr ⟨here, later⟩
          rw [if_pos here, if_pos later, if_pos all]
          rfl
        · have some' : ¬ ∀ b ∈ a :: rest, fits b := fun all => later (List.forall_mem_cons.mp all).2
          rw [if_pos here, if_neg later, if_neg some']
          rfl
      · have some' : ¬ ∀ b ∈ a :: rest, fits b := fun all => here (List.forall_mem_cons.mp all).1
        rw [if_neg here, if_neg some']
        rfl

include each in
theorem decode_optional (some' : ∀ a, dump a ≠ .null) (value : Option α) :
    decodePointer decode (dumpOptional dump value) = if ∀ a ∈ value, fits a then some (value.map wired) else none := by
  cases value with
  | none => simp [dumpOptional, decodePointer]
  | some a =>
      have stored : decodePointer decode (dump a) = (decode (dump a)).map some := by
        cases shape : dump a with
        | null => exact absurd shape (some' a)
        | _ => rfl
      rw [dumpOptional, stored, each a]
      by_cases here : fits a
      · simp [here]
      · simp [here]

end Parts

end Fields

section Records

theorem decode_rdRt (rdRt : Schemas.RdRt) : decodeRdRt rdRt.dump = some (wireRdRt rdRt) := by
  simp [decodeRdRt, decodeStruct, Schemas.RdRt.dump, wireRdRt]

theorem decode_families (families : Schemas.AddressFamilies) :
    decodeFamilies families.dump = some (wireFamilies families) := by
  simp [decodeFamilies, decodeStruct, Schemas.AddressFamilies.dump, wireFamilies]

theorem decode_gateway (gateway : Schemas.AnycastGateway) : decodeGateway gateway.dump = some (wireGateway gateway) := by
  simp [decodeGateway, decodeStruct, Schemas.AnycastGateway.dump, wireGateway]

theorem decode_endpoint (ep : Schemas.Endpoint) :
    decodeEndpoint ep.dump = if FitsInt ep.vlan then some (wireEndpoint ep) else none := by
  by_cases fits : FitsInt ep.vlan
  · simp [decodeEndpoint, decodeStruct, Schemas.Endpoint.dump, decode_number, wireEndpoint, fits]
  · simp [decodeEndpoint, decodeStruct, Schemas.Endpoint.dump, decode_number, fits]

theorem decode_policies (policies : Option Schemas.Policies) :
    decodePolicies (dumpOptional Schemas.Policies.dump policies) =
      some { vpwsLimitedEquivalence := policies.any Schemas.Policies.vpwsLimitedEquivalence } := by
  cases policies with
  | none => rfl
  | some policies => simp [decodePolicies, decodeStruct, dumpOptional, Schemas.Policies.dump, decodeBool]

theorem decode_unsupported (unsupported : Option Schemas.UnsupportedClaims) :
    decodeUnsupported (dumpOptional Schemas.UnsupportedClaims.dump unsupported) =
      some (wireUnsupported (unsupported.getD {})) := by
  cases unsupported with
  | none => rfl
  | some u => simp [decodeUnsupported, decodeStruct, dumpOptional, Schemas.UnsupportedClaims.dump, wireUnsupported]

theorem decode_protocol (protocol : Option Protocol) :
    decodeString (dumpOptional Protocol.dump protocol) = if Named protocol then some (wireProtocol protocol) else none := by
  cases protocol with
  | none => rfl
  | some protocol =>
      cases protocol with
      | name text => rfl
      | number value => rfl

theorem decode_priority (priority : Int) :
    decodeInt (.num priority) = if FitsInt (some priority) then some priority else none := decode_number (some priority)

theorem decode_rule (r : Schemas.ACLRule) : decodeRule r.dump = if FitsRule r then some (wireRule r) else none := by
  by_cases priority : FitsInt (some r.priority)
  · by_cases named : Named r.protocol
    · simp [decodeRule, decodeStruct, Schemas.ACLRule.dump, decode_priority, decode_protocol, wireRule, FitsRule, priority, named]
    · simp [decodeRule, decodeStruct, Schemas.ACLRule.dump, decode_priority, decode_protocol, FitsRule, priority, named]
  · simp [decodeRule, decodeStruct, Schemas.ACLRule.dump, decode_priority, FitsRule, priority]

theorem decode_rules (rules : Option (List Schemas.ACLRule)) :
    decodeSlice decodeRule (dumpOptional dumpRules rules) =
      if ∀ r ∈ rules.getD [], FitsRule r then some ((rules.getD []).map wireRule) else none := by
  cases rules with
  | none => rfl
  | some rules => exact decode_items decodeRule Schemas.ACLRule.dump wireRule FitsRule decode_rule rules

-- A word of a closed vocabulary, or no word.
@[simp] theorem decode_word {α : Type} (value : α → String) (word : Option α) :
    decodeString (dumpOptional (fun word => .str (value word)) word) = some ((word.map value).getD "") := by
  cases word with
  | none => rfl
  | some word => rfl

theorem decode_acl (a : Schemas.ACL) : decodeACL a.dump = if FitsACL a then some (wireACL a) else none := by
  by_cases fits : ∀ r ∈ a.rules.getD [], FitsRule r
  · have whole : FitsACL a := fits
    simp only [if_pos whole]
    simp [decodeACL, decodeStruct, Schemas.ACL.dump, decode_rules, wireACL, if_pos fits]
  · have part : ¬ FitsACL a := fits
    simp only [if_neg part]
    simp [decodeACL, decodeStruct, Schemas.ACL.dump, decode_rules, if_neg fits]

theorem dump_is_object (intent : NormalizedServiceIntent) : ∃ fields, intent.dump = .obj fields := ⟨_, rfl⟩

@[simp] theorem decode_absent {β : Type} (decode : Json → Option β) : decodePointer decode .null = some none := rfl

theorem decode_optional_record {α β : Type} (decode : Json → Option β) (dump : α → Json) (wired : α → β)
    (each : ∀ a, decode (dump a) = some (wired a)) (some' : ∀ a, dump a ≠ .null) (value : Option α) :
    decodePointer decode (dumpOptional dump value) = some (value.map wired) := by
  have all := decode_optional decode dump wired (fun _ => True) (fun a => by rw [each a, if_pos trivial]) some' value
  rw [all, if_pos fun _ _ => trivial]

-- The posted document, as strictUnmarshal reads it.
theorem decode_intent (intent : NormalizedServiceIntent) :
    decodeServiceInput intent.dump = if Fits intent then some (wire intent) else none := by
  have rdRt := decode_optional_record decodeRdRt Schemas.RdRt.dump wireRdRt decode_rdRt (fun _ => Json.noConfusion) intent.rdRt
  have families := decode_optional_record decodeFamilies Schemas.AddressFamilies.dump wireFamilies decode_families
    (fun _ => Json.noConfusion) intent.addressFamilies
  have gateway := decode_optional_record decodeGateway Schemas.AnycastGateway.dump wireGateway decode_gateway
    (fun _ => Json.noConfusion) intent.anycastGateway
  have endpoints := decode_items decodeEndpoint Schemas.Endpoint.dump wireEndpoint (fun ep => FitsInt ep.vlan) decode_endpoint
    intent.endpoints
  have filter := decode_optional decodeACL Schemas.ACL.dump wireACL FitsACL decode_acl (fun _ => Json.noConfusion) intent.acl
  have names : (decodeServiceInput intent.dump) = (do
      let l2vni ← decodeInt (dumpOptional .num intent.l2vni)
      let l3vni ← decodeInt (dumpOptional .num intent.l3vni)
      let acl ← decodePointer decodeACL (dumpOptional Schemas.ACL.dump intent.acl)
      let endpoints ← decodeSlice decodeEndpoint (.arr (intent.endpoints.map Schemas.Endpoint.dump))
      return { wire intent with l2vni, l3vni, acl, endpoints }) := by
    simp [decodeServiceInput, decodeStruct, serviceInputNames, NormalizedServiceIntent.dump, rdRt, families, gateway,
      decode_policies, decode_unsupported, wire, NormalizedServiceIntent.claims]
  rw [names, decode_number, decode_number, filter, endpoints]
  by_cases l2vni : FitsInt intent.l2vni
  · by_cases l3vni : FitsInt intent.l3vni
    · by_cases carried : ∀ a ∈ intent.acl, FitsACL a
      · by_cases vlans : ∀ ep ∈ intent.endpoints, FitsInt ep.vlan
        · have fits : Fits intent := ⟨l2vni, l3vni, carried, vlans⟩
          rw [if_pos l2vni, if_pos l3vni, if_pos carried, if_pos vlans, if_pos fits]
          rfl
        · have part : ¬ Fits intent := fun fits => vlans fits.2.2.2
          rw [if_pos l2vni, if_pos l3vni, if_pos carried, if_neg vlans, if_neg part]
          rfl
      · have part : ¬ Fits intent := fun fits => carried fits.2.2.1
        rw [if_pos l2vni, if_pos l3vni, if_neg carried, if_neg part]
        rfl
    · have part : ¬ Fits intent := fun fits => l3vni fits.2.1
      rw [if_pos l2vni, if_neg l3vni, if_neg part]
      rfl
  · have part : ¬ Fits intent := fun fits => l2vni fits.1
    rw [if_neg l2vni, if_neg part]
    rfl

theorem parse_intent (intent : NormalizedServiceIntent) :
    parseStrictBatch intent.dump = if Fits intent then some [(wire intent).canonicalize] else none := by
  obtain ⟨fields, isObject⟩ := dump_is_object intent
  have decoded := decode_intent intent
  rw [isObject] at decoded ⊢
  change (decodeServiceInput (.obj fields)).map (fun input => [input.canonicalize]) = _
  rw [decoded]
  by_cases fits : Fits intent
  · rw [if_pos fits, if_pos fits]
    rfl
  · rw [if_neg fits, if_neg fits]
    rfl

end Records

end AgenticNetops.Migration
