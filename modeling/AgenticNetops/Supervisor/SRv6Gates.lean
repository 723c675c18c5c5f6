import AgenticNetops.Migration.Posted
import AgenticNetops.Migration.SRv6Carriage
import AgenticNetops.Migration.SiteNames
import AgenticNetops.Provisioning.ConfirmedFields
import AgenticNetops.Srv6service.Gates

set_option autoImplicit false

/- The supervisor's gates for an SRv6 request (graph.py `_srv6_guard_refusal`, capability.py)
   beside the gates of the SRv6Service controller, over one capability record. -/
namespace AgenticNetops.Supervisor

open GoText PyText Schemas Fabricplan

section Record

structure SRv6Capability where
  available : Bool := false
  supported : List String := []
  verifiableAttachments : List String := []
deriving DecidableEq, Repr

-- `_split_csv`
def splitNames (raw : String) : List String := ((split raw ',').map strip).filter fun part => part ≠ ""

/- `read_capability`, from the data of the ConfigMap; a read that fails for any reason
   leaves none. -/
def readCapability (data : Option (GoMap String)) : SRv6Capability :=
  match data with
  | none => {}
  | some data =>
      if data.get? "cap-sai-srv6" = some "true" then
        { available := true
          supported := splitNames (data.text "srv6-supported")
          verifiableAttachments := splitNames (data.text "srv6-probe-attachments") }
      else {}

end Record

section Site

structure SiteInventory where
  nodes : List String := []
  attachments : List String := []
  spines : List String := []
deriving DecidableEq, Repr

def isAsciiAlnum (c : Char) : Bool := isPortKeyChar c || ('A' ≤ c && c ≤ 'Z')

def normalizeSiteName (s : String) : String := String.ofList ((s.toList.flatMap lowerChar).filter isAsciiAlnum)

def knows (names : List String) (want : String) : Bool := names.any fun name => normalizeSiteName name = normalizeSiteName want

end Site

section Refusals

def restatedVariant : String → String
  | "ip-vrf/vpn" => "ip-vrf over srv6"
  | "mac-vrf/evpn" => "mac-vrf over srv6"
  | "ip-vrf/evpn" => "ip-vrf over srv6 with evpn signalling"
  | variant => variant

def srv6R2Reason (variant : String) (supported : List String) : String :=
  if variant = "mac-vrf/evpn" then "`mac-vrf over srv6` (bridged EVPN over SRv6) is not supported on this image."
  else "`" ++ restatedVariant variant ++ "` is not supported on this image. Supported SRv6 services: `" ++
    join (supported.map restatedVariant) ", " ++ "`."

def srv6R8Reason (node port service : String) : String := "`" ++ port ++ "` on `" ++ node ++ "` already belongs to `" ++ service ++ "`."

def srv6R9Reason (node port : String) (verifiable : List String) : String :=
  "`" ++ port ++ "` on `" ++ node ++ "` has no client to verify traffic from, so an SRv6 service there cannot reach Ready. " ++
    "Attachments that can be verified: `" ++ (if verifiable = [] then "none" else join verifiable ", ") ++ "`."

def unknownSpine (field spine : String) (inv : SiteInventory) : String :=
  field ++ ": unknown \"" ++ spine ++ "\" (site has: " ++ join inv.spines ", " ++ ")"

end Refusals

section Ladder
variable (capability : SRv6Capability) (inv : SiteInventory) (holder : String → String → Option String)

def variantOf (interp : Interpretation) : String :=
  interp.serviceType.value ++ "/" ++
    (interp.signalling.map Signalling.value).getD (if interp.serviceType = .ipVRF then "vpn" else "evpn")

-- An inventory without names validates nothing.
def spineRefusal (field : String) (spine : Option String) : Option String :=
  match spine with
  | none => none
  | some spine => if inv.spines ≠ [] ∧ spine ≠ "" ∧ ¬ knows inv.spines spine then some (unknownSpine field spine inv) else none

def endpointRefusal (entry : EndpointIntent × Nat) : Option String :=
  if inv.nodes ≠ [] ∧ ¬ knows inv.nodes entry.1.siteOrNode then
    some ("endpoints[" ++ toString entry.2 ++ "].node: \"" ++ entry.1.siteOrNode ++ "\" is not a node at this site (site has: " ++
      join inv.nodes ", " ++ ")")
  else if inv.attachments ≠ [] ∧ ¬ knows inv.attachments entry.1.attachment then
    some ("endpoints[" ++ toString entry.2 ++ "].attachment: \"" ++ entry.1.attachment ++
      "\" is not an attachment point at this site (site has: " ++ join inv.attachments ", " ++ ")")
  else none

def probeKey (endpoint : EndpointIntent) : String := endpoint.siteOrNode ++ "/" ++ endpoint.attachment

def verifiableRefusal (endpoint : EndpointIntent) : Option String :=
  if probeKey endpoint ∉ capability.verifiableAttachments.map lower then
    some (srv6R9Reason endpoint.siteOrNode endpoint.attachment capability.verifiableAttachments)
  else none

def holderRefusal (endpoint : EndpointIntent) : Option String :=
  (holder endpoint.siteOrNode endpoint.attachment).map fun service => srv6R8Reason endpoint.siteOrNode endpoint.attachment service

-- `_srv6_guard_refusal`: R2, R7, R9 and R8, in that order.
def srv6GuardRefusal (interp : Interpretation) : Option String :=
  if variantOf interp ∉ capability.supported then some (srv6R2Reason (variantOf interp) capability.supported)
  else
    (spineRefusal inv "preferredSpine" interp.preferredSpine).or
      ((spineRefusal inv "alternateSpine" interp.alternateSpine).or
        ((interp.endpoints.zipIdx.findSome? (endpointRefusal inv)).or
          ((interp.endpoints.findSome? (verifiableRefusal capability)).or
            (interp.endpoints.findSome? (holderRefusal holder)))))

end Ladder

section Spelling

theorem lower_capital (c : Char) (capital : 'A' ≤ c ∧ c ≤ 'Z') : isPortKeyChar (toLowerAscii c) = true := by
  have small : ∀ offset : Fin 26, isPortKeyChar (Char.ofNat (offset.val + 97)) = true := by decide
  have low : 65 ≤ c.toNat := by simpa [Char.le_def, UInt32.le_iff_toNat_le] using capital.1
  have high : c.toNat ≤ 90 := by simpa [Char.le_def, UInt32.le_iff_toNat_le] using capital.2
  have letter := small ⟨c.toNat - 65, by omega⟩
  have same : c.toNat - 65 + 97 = c.toNat + 32 := by omega
  rw [toLowerAscii, if_pos (by simpa using capital)]
  exact same ▸ letter

theorem lower_alnum (c : Char) : isAsciiAlnum (toLowerAscii c) = isPortKeyChar (toLowerAscii c) := by
  by_cases capital : 'A' ≤ c ∧ c ≤ 'Z'
  · rw [isAsciiAlnum, lower_capital c capital, Bool.true_or]
  · have kept : toLowerAscii c = c := if_neg (by simpa using capital)
    have small : (decide ('A' ≤ c) && decide (c ≤ 'Z')) = false := by simpa using capital
    rw [kept, isAsciiAlnum, small, Bool.or_false]

theorem lower_port_key (c : Char) : (lowerChar c).filter isAsciiAlnum = [lowerToAscii c].filter isPortKeyChar := by
  rw [lowerChar, lowerToAscii]
  by_cases kelvin : c.toNat = 0x212A
  · rw [if_pos kelvin, if_pos kelvin]
    decide
  · rw [if_neg kelvin, if_neg kelvin]
    by_cases dotted : c.toNat = 0x130
    · rw [if_pos dotted, if_pos dotted]
      decide
    · rw [if_neg dotted, if_neg dotted, List.filter_singleton, List.filter_singleton, lower_alnum]

-- The two tiers fold a name the same way.
theorem normalize_site_name (s : String) : normalizeSiteName s = normalizePortKey s := by
  rw [normalizeSiteName, normalizePortKey]
  congr 1
  induction s.toList with
  | nil => rfl
  | cons c rest ih =>
      rw [List.flatMap_cons, List.filter_append, lower_port_key, ih, List.map_cons, ← List.filter_append]
      rfl

theorem known_port (m : PortMapper) (name : String) (known : knows m.known name = true) : ∃ value, m.port name = .ok value := by
  rw [PortMapper.port]
  by_cases exact_ : GoMap.text m name ≠ ""
  · rw [if_pos exact_]
    exact ⟨_, rfl⟩
  · rw [if_neg exact_]
    obtain ⟨key, member, same⟩ := List.any_eq_true.mp known
    rw [normalize_site_name, normalize_site_name] at same
    cases found : m.known.find? (fun key => normalizePortKey key = normalizePortKey name) with
    | some other => exact ⟨_, rfl⟩
    | none => exact absurd same (List.find?_eq_none.mp found key member)

theorem port_known (m : PortMapper) (name value : String) (resolves : m.port name = .ok value) : m.known ≠ [] := by
  intro empty
  rw [PortMapper.port, empty] at resolves
  by_cases exact_ : GoMap.text m name ≠ ""
  · have member := (Migration.known_iff m name).mpr exact_
    rw [empty] at member
    cases member
  · rw [if_neg exact_] at resolves
    cases resolves

end Spelling

section Made

open Exits Provisioning

theorem received_construct (input : Migration.ServiceInput) : (Migration.srv6Spec input).received.construct = input.type := rfl

theorem received_word (input : Migration.ServiceInput) :
    (Migration.srv6Spec input).received.signalling = Migration.signallingOf input := rfl

theorem received_points (input : Migration.ServiceInput) :
    ((Migration.srv6Spec input).received.attachments.map fun a => (a.node, a.port)) =
      input.endpoints.map fun ep => (ep.node, ep.attachment) := by
  simp only [Migration.SRv6ServiceSpec.received, Migration.srv6Spec, List.map_map]
  rfl

theorem received_spine (input : Migration.ServiceInput) :
    (Migration.srv6Spec input).received.path = { preferredSpine := input.preferredSpine } := by
  simp only [Migration.SRv6ServiceSpec.received, Migration.carried_spine]

-- The spec of the SRv6Service that the allocated intent of an interpretation is translated to.
def madeSpec (intent : NormalizedServiceIntent) : Api.SRv6ServiceSpec := (Migration.srv6Spec (Migration.posted intent)).received

variable (fallback : Bool) (validateAllOrNothing : NormalizedServiceIntent → Option Message) (interp : Interpretation)
  (correlationID : String) (answers : CallAnswers) (before after : Store) (assignment : Assignment)

theorem srv6_signalling (endpoints : List Endpoint) (acl : Option ACL) (subnets : Nat → PrefixAnswers)
    (ran : srv6Intent interp acl endpoints correlationID subnets before = (after, .ok assignment)) :
    (interp.serviceType = .macVRF ∧ assignment.intent.signalling = some ((interp.signalling.getD .evpn).value)) ∨
      (interp.serviceType = .ipVRF ∧ assignment.intent.signalling = some ((interp.signalling.getD .vpn).value)) := by
  rw [srv6Intent] at ran
  cases construct : interp.serviceType with
  | vlan =>
      simp only [construct] at ran
      cases ran
  | acl =>
      simp only [construct] at ran
      cases ran
  | macVRF =>
      simp only [construct] at ran
      by_cases gateway : interp.anycastGateway.isSome = true
      · rw [if_pos gateway] at ran
        cases ran
      · rw [if_neg gateway] at ran
        obtain ⟨_, made, _, ran⟩ := bind_ran before _ _ after assignment ran
        obtain ⟨_, intent, isIntent, ends⟩ := bind_ran _ _ _ after assignment ran
        cases ends
        rw [make_intent_ran _ _ _ _ isIntent]
        exact Or.inl ⟨rfl, rfl⟩
  | ipVRF =>
      simp only [construct] at ran
      obtain ⟨_, made, _, ran⟩ := bind_ran before _ _ after assignment ran
      obtain ⟨_, intent, isIntent, ends⟩ := bind_ran _ _ _ after assignment ran
      cases ends
      rw [make_intent_ran _ _ _ _ isIntent]
      exact Or.inr ⟨rfl, rfl⟩

theorem built_signalling (srv6 : interp.transport = some .srv6)
    (ran : buildIntent fallback validateAllOrNothing interp correlationID answers before = (after, .ok assignment)) :
    (interp.serviceType = .macVRF ∧ assignment.intent.signalling = some ((interp.signalling.getD .evpn).value)) ∨
      (interp.serviceType = .ipVRF ∧ assignment.intent.signalling = some ((interp.signalling.getD .vpn).value)) := by
  obtain ⟨_, made, _, ran⟩ := bind_ran before _ _ after assignment ran
  obtain ⟨_, built, isBuilt, ran⟩ := bind_ran _ _ _ after assignment ran
  have same : built = assignment := by
    cases validated : validateAllOrNothing built.intent with
    | some causes => simp [validated] at ran
    | none =>
        simp only [validated] at ran
        cases ran
        rfl
  subst same
  rw [constructIntent, if_pos srv6] at isBuilt
  exact srv6_signalling interp correlationID _ _ built _ _ _ isBuilt

-- What the controller's gates read of the service, in the words of the interpretation.
structure MadeFrom (interp : Interpretation) (spec : Api.SRv6ServiceSpec) : Prop where
  variant : Srv6service.variantOf spec = variantOf interp
  attachments : (spec.attachments.map fun a => (a.node, a.port)).Perm (interp.endpoints.map askedPoint)
  preferred : spec.path.preferredSpine = interp.preferredSpine.getD ""
  alternate : spec.path.alternateSpine = ""

theorem signalling_named (word : Signalling) : word.value ≠ "" := by
  cases word with
  | vpn => decide
  | evpn => decide

theorem made_from (srv6 : interp.transport = some .srv6)
    (ran : buildIntent fallback validateAllOrNothing interp correlationID answers before = (after, .ok assignment)) :
    MadeFrom interp (madeSpec assignment.intent) := by
  have carries := (build_intent_built fallback correlationID before after validateAllOrNothing interp answers assignment ran).carries
  have signalling := built_signalling fallback validateAllOrNothing interp correlationID answers before after assignment srv6 ran
  have construct : IsConstruct assignment.intent.type := by
    rw [carries.construct]
    cases signalling with
    | inl mac =>
        rw [mac.1]
        exact Or.inr (Or.inl rfl)
    | inr ip =>
        rw [ip.1]
        exact Or.inr (Or.inr (Or.inl rfl))
  have spine := carries.spine srv6
  have attached : ((madeSpec assignment.intent).attachments.map fun a => (a.node, a.port)) =
      assignment.intent.endpoints.map attachmentPoint := by
    rw [madeSpec, received_points, Migration.posted_endpoints, List.map_map]
    rfl
  have type : (madeSpec assignment.intent).construct = interp.serviceType.value := by
    rw [madeSpec, received_construct, Migration.posted_type assignment.intent construct, carries.construct]
  have path : (madeSpec assignment.intent).path = { preferredSpine := interp.preferredSpine.getD "" } := by
    rw [madeSpec, received_spine, Migration.posted_spine, spine]
  have worded (word : Signalling) (carried : assignment.intent.signalling = some word.value) :
      (madeSpec assignment.intent).signalling = word.value := by
    have named : (Migration.posted assignment.intent).signalling = word.value := by
      rw [Migration.posted_signalling, carried, Option.getD_some]
    rw [madeSpec, received_word, Migration.signallingOf, named, if_pos (signalling_named word)]
  have variant (word : Signalling) (carried : assignment.intent.signalling = some word.value) :
      Srv6service.variantOf (madeSpec assignment.intent) = interp.serviceType.value ++ "/" ++ word.value := by
    rw [Srv6service.variantOf, worded word carried, type, if_pos (signalling_named word)]
  refine ⟨?_, ?_, ?_, by rw [path]⟩
  · rw [variantOf]
    cases signalling with
    | inl mac =>
        rw [variant _ mac.2, mac.1, if_neg (by decide)]
        cases interp.signalling with
        | none => rfl
        | some word => rfl
    | inr ip =>
        rw [variant _ ip.2, ip.1, if_pos rfl]
        cases interp.signalling with
        | none => rfl
        | some word => rfl
  · rw [attached]
    exact carries.attachments
  · rw [path]

end Made

section Controller

open Provisioning

-- The controller's gates let the service through: its site, its attachments' probes, its variant.
def Accepts (data : GoMap String) (facts : Srv6service.SiteFacts) (spec : Api.SRv6ServiceSpec) : Prop :=
  Srv6service.validateSite spec facts = none ∧ ∃ cap, Srv6service.readCapability (.ok data) = .ok cap ∧
    Srv6service.checkCapability spec cap = none ∧ Srv6service.checkSupported spec cap = none

variable (data : GoMap String) (facts : Srv6service.SiteFacts) (interp : Interpretation) (spec : Api.SRv6ServiceSpec)

def preferred : String := interp.preferredSpine.getD ""

theorem made_points (made : MadeFrom interp spec) (holds : String → String → Prop) :
    (∀ att ∈ spec.attachments, holds att.node att.port) ↔ ∀ ep ∈ interp.endpoints, holds ep.siteOrNode ep.attachment := by
  have left : (∀ point ∈ spec.attachments.map fun a => (a.node, a.port), holds point.1 point.2) ↔
      ∀ att ∈ spec.attachments, holds att.node att.port := List.forall_mem_map
  have right : (∀ point ∈ interp.endpoints.map askedPoint, holds point.1 point.2) ↔
      ∀ ep ∈ interp.endpoints, holds ep.siteOrNode ep.attachment := List.forall_mem_map
  rw [← left, ← right]
  exact ⟨fun all point member => all point (made.attachments.mem_iff.mpr member),
    fun all point member => all point (made.attachments.mem_iff.mp member)⟩

theorem leaf_iff (att : Api.Attachment) : Srv6service.checkLeaf facts att = none ↔ facts.nodes.get? att.node = some Srv6service.roleLeaf := by
  rw [Srv6service.checkLeaf]
  cases facts.nodes.get? att.node with
  | none => exact iff_of_false (Option.some_ne_none _) (Option.some_ne_none _).symm
  | some role =>
      dsimp only
      by_cases leaf : role = Srv6service.roleLeaf
      · rw [if_neg (not_not.mpr leaf), leaf]
        exact iff_of_true rfl rfl
      · rw [if_pos leaf]
        exact iff_of_false (Option.some_ne_none _) fun same => leaf (Option.some.inj same)

theorem port_iff (att : Api.Attachment) : Srv6service.checkPort facts att = none ↔ ∃ value, facts.portMap.port att.port = .ok value := by
  rw [Srv6service.checkPort]
  cases facts.portMap.port att.port with
  | ok value => exact iff_of_true rfl ⟨value, rfl⟩
  | error message => exact iff_of_false (Option.some_ne_none _) fun ok => by cases ok.choose_spec

theorem spine_iff (spine : String) :
    Srv6service.checkSpine facts spine = none ↔ spine = "" ∨ facts.nodes.get? spine = some Srv6service.roleSpine := by
  rw [Srv6service.checkSpine]
  by_cases allowed : spine = "" ∨ facts.nodes.get? spine = some Srv6service.roleSpine
  · rw [if_pos allowed]
    exact iff_of_true rfl allowed
  · rw [if_neg allowed]
    exact iff_of_false (Option.some_ne_none _) allowed

theorem site_accepts (made : MadeFrom interp spec) :
    Srv6service.validateSite spec facts = none ↔
      (∀ ep ∈ interp.endpoints, facts.nodes.get? ep.siteOrNode = some Srv6service.roleLeaf) ∧
      (∀ ep ∈ interp.endpoints, ∃ value, facts.portMap.port ep.attachment = .ok value) ∧
      (preferred interp = "" ∨ facts.nodes.get? (preferred interp) = some Srv6service.roleSpine) := by
  have leaves := made_points interp spec made fun node _ => facts.nodes.get? node = some Srv6service.roleLeaf
  have ports := made_points interp spec made fun _ port => ∃ value, facts.portMap.port port = .ok value
  rw [← leaves, ← ports, Srv6service.validateSite, Option.or_eq_none_iff, Option.or_eq_none_iff]
  simp only [List.findSome?_eq_none_iff, leaf_iff, port_iff, spine_iff, List.forall_mem_cons, List.not_mem_nil, IsEmpty.forall_iff,
    implies_true, and_true, made.preferred, made.alternate, true_or]
  rfl

theorem capability_accepts (made : MadeFrom interp spec) (cap : Srv6service.Capability) :
    Srv6service.checkCapability spec cap = none ↔
      cap.saiSRV6 = true ∧ ∀ ep ∈ interp.endpoints, probeKey ep ∈ cap.probeAttachments := by
  have probes := made_points interp spec made fun node port => node ++ "/" ++ port ∈ cap.probeAttachments
  rw [Srv6service.checkCapability]
  by_cases proven : cap.saiSRV6 = true
  · have listed : ((spec.attachments.map Srv6service.attachmentKey).filter fun key => key ∉ cap.probeAttachments) = [] ↔
        ∀ ep ∈ interp.endpoints, probeKey ep ∈ cap.probeAttachments := by
      refine Iff.trans ?_ probes
      rw [List.filter_eq_nil_iff, List.forall_mem_map]
      refine forall₂_congr fun att _ => ?_
      rw [decide_eq_true_eq, not_not]
      rfl
    rw [if_neg (not_not.mpr proven)]
    dsimp only
    rw [and_iff_right proven, ← listed]
    by_cases none' : ((spec.attachments.map Srv6service.attachmentKey).filter fun key => key ∉ cap.probeAttachments) = []
    · rw [if_pos none']
      exact iff_of_true rfl none'
    · rw [if_neg none']
      exact iff_of_false (Option.some_ne_none _) none'
  · rw [if_pos proven]
    exact iff_of_false (Option.some_ne_none _) fun both => proven both.1

theorem supported_accepts (made : MadeFrom interp spec) (cap : Srv6service.Capability) :
    Srv6service.checkSupported spec cap = none ↔
      variantOf interp ∈ cap.supported ∧ (preferred interp = "" ∨ "steering" ∈ cap.supported) := by
  rw [Srv6service.checkSupported, made.variant, made.preferred]
  by_cases listed : variantOf interp ∈ cap.supported
  · rw [if_neg (not_not.mpr listed), and_iff_right listed]
    by_cases unsteered : interp.preferredSpine.getD "" ≠ "" ∧ "steering" ∉ cap.supported
    · rw [if_pos unsteered]
      exact iff_of_false (Option.some_ne_none _) fun either => either.elim unsteered.1 unsteered.2
    · rw [if_neg unsteered]
      refine iff_of_true rfl ?_
      by_cases free : interp.preferredSpine.getD "" = ""
      · exact Or.inl free
      · exact Or.inr (not_not.mp fun missing => unsteered ⟨free, missing⟩)
  · rw [if_pos listed]
    exact iff_of_false (Option.some_ne_none _) fun both => listed both.1

end Controller

section Agreement

open Exits Provisioning

-- Both tiers are configured with the same names.
structure SameSite (inv : SiteInventory) (facts : Srv6service.SiteFacts) : Prop where
  nodes : ∀ name, name ∈ inv.nodes ↔ name ∈ facts.nodes.keys
  attachments : ∀ name, name ∈ inv.attachments ↔ name ∈ facts.portMap.known
  spines : ∀ name, name ∈ inv.spines ↔ name ∈ facts.spines

/- The names are spelled as the site and the record have them, the attachments are on
   leaves, the site declares ports, and a preferred spine has steering behind it. -/
structure Spelled (data : GoMap String) (facts : Srv6service.SiteFacts) (interp : Interpretation) : Prop where
  leaves : ∀ ep ∈ interp.endpoints, facts.nodes.get? ep.siteOrNode = some Srv6service.roleLeaf
  ports : interp.endpoints ≠ [] → facts.portMap.known ≠ []
  probes : ∀ ep ∈ interp.endpoints, probeKey ep ∈ Srv6service.splitCSV (data.text "srv6-probe-attachments")
  variant : variantOf interp ∈ Srv6service.splitCSV (data.text "srv6-supported")
  steering : preferred interp = "" ∨ facts.nodes.get? (preferred interp) = some Srv6service.roleSpine ∧
    "steering" ∈ Srv6service.splitCSV (data.text "srv6-supported")

-- The supervisor's gates pass.
def Passes (data : GoMap String) (inv : SiteInventory) (holder : String → String → Option String) (interp : Interpretation) : Prop :=
  (readCapability (some data)).available = true ∧ srv6GuardRefusal (readCapability (some data)) inv holder interp = none

instance (data : GoMap String) (inv : SiteInventory) (holder : String → String → Option String) (interp : Interpretation) :
    Decidable (Passes data inv holder interp) := inferInstanceAs (Decidable (_ ∧ _))

theorem available_true (data : GoMap String) (available : (readCapability (some data)).available = true) :
    GoMap.text data "cap-sai-srv6" = "true" := by
  rw [readCapability] at available
  by_cases proven : data.get? "cap-sai-srv6" = some "true"
  · have held : data.lookup "cap-sai-srv6" = some "true" := proven
    rw [GoMap.text, held]
    rfl
  · rw [if_neg proven] at available
    cases available

theorem passes_ports (data : GoMap String) (inv : SiteInventory) (holder : String → String → Option String) (interp : Interpretation)
    (passes : Passes data inv holder interp) (named : inv.attachments ≠ []) :
    ∀ ep ∈ interp.endpoints, knows inv.attachments ep.attachment = true := by
  have free := passes.2
  rw [srv6GuardRefusal] at free
  by_cases missing : variantOf interp ∉ (readCapability (some data)).supported
  · rw [if_pos missing] at free
    cases free
  · rw [if_neg missing] at free
    simp only [Option.or_eq_none_iff] at free
    intro ep member
    obtain ⟨index, here⟩ := List.mem_iff_getElem?.mp member
    have entry : (ep, index) ∈ interp.endpoints.zipIdx := List.mem_zipIdx_iff_getElem?.mpr here
    have allowed := List.findSome?_eq_none_iff.mp free.2.2.1 (ep, index) entry
    rw [endpointRefusal] at allowed
    by_cases strange : inv.nodes ≠ [] ∧ ¬ knows inv.nodes ep.siteOrNode = true
    · rw [if_pos strange] at allowed
      cases allowed
    · rw [if_neg strange] at allowed
      by_cases unknown : inv.attachments ≠ [] ∧ ¬ knows inv.attachments ep.attachment = true
      · rw [if_pos unknown] at allowed
        cases allowed
      · exact not_not.mp fun other => unknown ⟨named, other⟩

theorem site_ports (data : GoMap String) (inv : SiteInventory) (facts : Srv6service.SiteFacts) (same : SameSite inv facts)
    (holder : String → String → Option String) (interp : Interpretation) (passes : Passes data inv holder interp) :
    (∀ ep ∈ interp.endpoints, ∃ value, facts.portMap.port ep.attachment = .ok value) ↔ (interp.endpoints ≠ [] → facts.portMap.known ≠ []) := by
  constructor
  · intro resolves some'
    obtain ⟨ep, member⟩ := List.exists_mem_of_ne_nil _ some'
    obtain ⟨value, port⟩ := resolves ep member
    exact port_known facts.portMap ep.attachment value port
  · intro declared ep member
    have known := declared (List.ne_nil_of_mem member)
    obtain ⟨name, listed⟩ := List.exists_mem_of_ne_nil _ known
    have named : inv.attachments ≠ [] := List.ne_nil_of_mem ((same.attachments name).mpr listed)
    have folded := passes_ports data inv holder interp passes named ep member
    refine known_port facts.portMap ep.attachment ?_
    obtain ⟨key, held, spelled⟩ := List.any_eq_true.mp folded
    exact List.any_eq_true.mpr ⟨key, (same.attachments key).mp held, spelled⟩

/- A request that passes the supervisor's gates passes the controller's exactly when it is
   spelled out: the supervisor folds names and asks neither for leaves nor for steering. -/
theorem gates_agree_iff (data : GoMap String) (inv : SiteInventory) (facts : Srv6service.SiteFacts) (same : SameSite inv facts)
    (holder : String → String → Option String) (interp : Interpretation) (srv6 : interp.transport = some .srv6)
    (passes : Passes data inv holder interp) (fallback : Bool)
    (validateAllOrNothing : NormalizedServiceIntent → Option Message) (correlationID : String) (answers : CallAnswers)
    (before after : Store) (assignment : Assignment)
    (built : buildIntent fallback validateAllOrNothing interp correlationID answers before = (after, .ok assignment)) :
    Accepts data facts (madeSpec assignment.intent) ↔ Spelled data facts interp := by
  have made := made_from fallback validateAllOrNothing interp correlationID answers before after assignment srv6 built
  have proven : GoText.trimSpace (GoMap.text data Srv6service.keySAISRV6) = "true" := by
    have text : GoMap.text data Srv6service.keySAISRV6 = "true" := available_true data passes.1
    rw [text]
    decide
  have ports := site_ports data inv facts same holder interp passes
  rw [Accepts, site_accepts facts interp _ made, ports]
  constructor
  · intro accepts
    obtain ⟨⟨leaves, declared, spine⟩, cap, read, capability, supported⟩ := accepts
    cases read
    have probes := ((capability_accepts interp _ made _).mp capability).2
    obtain ⟨variant, steering⟩ := (supported_accepts interp _ made _).mp supported
    refine ⟨leaves, declared, probes, variant, ?_⟩
    cases spine with
    | inl none' => exact Or.inl none'
    | inr held => exact steering.imp_right fun listed => ⟨held, listed⟩
  · intro spelled
    refine ⟨⟨spelled.leaves, spelled.ports, spelled.steering.imp_right And.left⟩, _, rfl, ?_, ?_⟩
    · exact (capability_accepts interp _ made _).mpr ⟨decide_eq_true proven, spelled.probes⟩
    · exact (supported_accepts interp _ made _).mpr ⟨spelled.variant, spelled.steering.imp_right And.right⟩

def labSite : SiteInventory where
  nodes := Srv6service.defaultSiteFacts.nodes.keys
  attachments := Srv6service.defaultSiteFacts.portMap.known
  spines := Srv6service.defaultSiteFacts.spines

theorem lab_same_site : SameSite labSite Srv6service.defaultSiteFacts := ⟨fun _ => Iff.rfl, fun _ => Iff.rfl, fun _ => Iff.rfl⟩

def labRecord (supported : String) : GoMap String :=
  [("cap-sai-srv6", "true"), ("srv6-supported", supported), ("srv6-probe-attachments", "leaf01/wan1, leaf02/wan1")]

-- A routed service that is steered over one of the spines.
def labSteered : Interpretation := { labRouted with transport := some .srv6, preferredSpine := some "spine01" }

def labAllocatedSRv6 : Store × Except Failure Assignment := buildIntent true ownValidation labSteered "4f2a" labNumbers {}

theorem lab_steered_built : ∃ after assignment, labAllocatedSRv6 = (after, .ok assignment) := by
  have built : labAllocatedSRv6.2.isOk = true := by
    decide +kernel
  cases ran : labAllocatedSRv6 with
  | mk after result =>
      cases result with
      | error failure =>
          rw [ran] at built
          cases built
      | ok assignment => exact ⟨after, assignment, rfl⟩

theorem lab_gates_agree : ∃ after assignment, labAllocatedSRv6 = (after, .ok assignment) ∧
    Accepts (labRecord "ip-vrf/vpn, steering") Srv6service.defaultSiteFacts (madeSpec assignment.intent) := by
  obtain ⟨after, assignment, built⟩ := lab_steered_built
  have passes : Passes (labRecord "ip-vrf/vpn, steering") labSite (fun _ _ => none) labSteered := by
    decide +kernel
  have spelled : Spelled (labRecord "ip-vrf/vpn, steering") Srv6service.defaultSiteFacts labSteered := {
    leaves := by decide +kernel
    ports := fun _ => by decide +kernel
    probes := by decide +kernel
    variant := by decide +kernel
    steering := Or.inr (by decide +kernel) }
  exact ⟨after, assignment, built, (gates_agree_iff (labRecord "ip-vrf/vpn, steering") labSite Srv6service.defaultSiteFacts lab_same_site (fun _ _ => none)
    labSteered rfl passes true ownValidation "4f2a" labNumbers {} after assignment built).mpr spelled⟩

-- The record proves the variant and not the steering: the supervisor lets the request pass.
theorem steering_unchecked : ¬ ∀ (data : GoMap String) (interp : Interpretation) (after : Store) (assignment : Assignment),
    interp.transport = some .srv6 → interp.isComplete = true → Passes data labSite (fun _ _ => none) interp →
      buildIntent true ownValidation interp "4f2a" labNumbers {} = (after, .ok assignment) →
        Accepts data Srv6service.defaultSiteFacts (madeSpec assignment.intent) := by
  intro agree
  obtain ⟨after, assignment, built⟩ := lab_steered_built
  have passes : Passes (labRecord "ip-vrf/vpn") labSite (fun _ _ => none) labSteered := by
    decide +kernel
  obtain ⟨_, cap, read, _, supported⟩ := agree (labRecord "ip-vrf/vpn") labSteered after assignment rfl (by decide) passes built
  cases read
  have made := made_from true ownValidation labSteered "4f2a" labNumbers {} after assignment rfl built
  have steering := ((supported_accepts labSteered _ made _).mp supported).2
  have neither : ¬ (preferred labSteered = "" ∨ "steering" ∈ Srv6service.splitCSV ((labRecord "ip-vrf/vpn").text Srv6service.keySRv6Supported)) := by
    decide +kernel
  exact neither steering

end Agreement

end AgenticNetops.Supervisor
