import AgenticNetops.Migration.Batch

set_option autoImplicit false

/- What a valid input is written out as, and which texts the YAML converter does not
   read back from the JSON of an SRv6Service. -/
namespace AgenticNetops.Migration

open GoText HexText JsonValue KeyedAppend Causes Fallible

section Texts

-- The YAML reader takes no C1 control but U+0085, no DEL and no non-character;
-- JSON itself escapes what is below a blank.
def yamlRefuses (c : Char) : Bool :=
  (0x7F ≤ c.toNat && c.toNat ≤ 0x9F && c.toNat ≠ 0x85) || c.toNat = 0xFFFE || c.toNat = 0xFFFF

def nextLine : Char := Char.ofNat 0x85

-- A line break of YAML, and a document marker at the start of the next line.
def endsDocument : List Char → Bool
  | a :: b :: c :: d :: behind :: _ =>
      a = nextLine && (([b, c, d] = ['-', '-', '-']) || ([b, c, d] = ['.', '.', '.'])) && (behind = ' ' || behind = nextLine)
  | _ => false

def markerInside : List Char → Bool
  | [] => false
  | c :: rest => endsDocument (c :: rest) || markerInside rest

def yamlReadable (text : String) : Bool := !text.toList.any yamlRefuses && !markerInside text.toList

-- Every text in the JSON of the object.
def SRv6Service.texts (service : SRv6Service) : List String :=
  [service.name, service.inNamespace] ++ service.annotations.flatMap (fun entry => [entry.1, entry.2]) ++
    [service.spec.tenant, service.spec.construct, service.spec.signalling] ++
    service.spec.attachments.flatMap (fun att => [att.node, att.port] ++ att.gateway) ++
    service.spec.path.elim [] fun path => [path.preferredSpine]

-- The texts of an input that an SRv6Service carries.
def ServiceInput.carriedTexts (input : ServiceInput) : List String :=
  [input.serviceID, input.tenant, input.signalling, input.preferredSpine] ++
    input.endpoints.flatMap fun ep => [ep.node, ep.attachment] ++ ep.prefixes

theorem marker_needs_line (chars : List Char) (none : nextLine ∉ chars) : markerInside chars = false := by
  induction chars with
  | nil => rfl
  | cons c rest inner =>
      have other : c ≠ nextLine := fun same => none (same ▸ List.mem_cons_self)
      have here : endsDocument (c :: rest) = false := by
        unfold endsDocument
        split
        · rename_i a b d e behind more split
          have same : c = a := (List.cons.inj split).1
          rw [← same, decide_eq_false other]
          rfl
        · rfl
      rw [markerInside, here, Bool.false_or]
      exact inner fun listed => none (List.mem_cons_of_mem _ listed)

theorem ascii_readable (text : String) (small : ∀ c ∈ text.toList, c.toNat < 0x7F) : yamlReadable text = true := by
  have chars : text.toList.any yamlRefuses = false := by
    rw [List.any_eq_false]
    intro c listed refused
    have low := small c listed
    simp only [yamlRefuses, Bool.or_eq_true, Bool.and_eq_true, decide_eq_true_eq] at refused
    omega
  have lines : nextLine ∉ text.toList := by
    intro listed
    have low := small nextLine listed
    exact absurd low (by decide)
  rw [yamlReadable, chars, marker_needs_line _ lines]
  rfl

theorem hex_readable (bytes : List UInt8) : yamlReadable (hexText bytes) = true := by
  apply ascii_readable
  rw [hexText, String.toList_ofList]
  intro c listed
  obtain ⟨byte, _, digit⟩ := List.mem_flatMap.mp listed
  have digits : (List.range 16).all (fun n => (Nat.digitChar n).toNat < 0x7F) = true := by decide
  have small : ∀ n < 16, (Nat.digitChar n).toNat < 0x7F := by
    intro n inside
    exact of_decide_eq_true (List.all_eq_true.mp digits n (List.mem_range.mpr inside))
  have size := byte.toNat_lt
  rcases List.mem_cons.mp digit with high | low
  · rw [high]
    exact small _ (by omega)
  · rw [List.mem_singleton.mp low]
    exact small _ (by omega)

end Texts

section Valid
variable (site : Option SiteInventory)

theorem known_construct (folded : ServiceInput) (causes : constructCauses folded = []) : folded.type ∈ constructs := by
  unfold constructCauses at causes
  by_cases vlan : folded.type = serviceVLAN
  · rw [vlan]
    decide
  · by_cases macVRF : folded.type = serviceMACVRF
    · rw [macVRF]
      decide
    · by_cases ipVRF : folded.type = serviceIPVRF
      · rw [ipVRF]
        decide
      · by_cases acl : folded.type = serviceACL
        · rw [acl]
          decide
        · rw [if_neg vlan, if_neg macVRF, if_neg ipVRF, if_neg acl] at causes
          exact absurd causes (List.cons_ne_nil _ _)

theorem mac_vrf_targets (folded : ServiceInput) (causes : macVRFCauses folded = []) (other : folded.transport ≠ transportSRv6) :
    folded.rdRt ≠ none := by
  simp only [macVRFCauses, List.append_eq_nil_iff] at causes
  have required := (cause_if_nil_iff _ _).mp causes.1.1.1.1.1.2
  exact fun none => required ⟨none, other⟩

theorem ip_vrf_targets (folded : ServiceInput) (causes : ipVRFCauses folded = []) (other : folded.transport ≠ transportSRv6) :
    folded.rdRt ≠ none := by
  simp only [ipVRFCauses, List.append_eq_nil_iff] at causes
  have required := (cause_if_nil_iff _ _).mp causes.1.1.1.1.1.2
  exact fun none => required ⟨none, other⟩

/- Without causes the construct's spec has all that it is made of. -/
theorem causes_spec (folded : ServiceInput) (causes : constructCauses folded = []) (other : folded.transport ≠ transportSRv6) :
    (constructSpec folded).isOk = true := by
  unfold constructCauses at causes
  unfold constructSpec
  by_cases vlan : folded.type = serviceVLAN
  · rw [if_pos vlan]
    rfl
  · rw [if_neg vlan] at causes ⊢
    by_cases macVRF : folded.type = serviceMACVRF
    · rw [if_pos macVRF] at causes ⊢
      have needed := mac_vrf_targets folded causes other
      cases targets : folded.rdRt with
      | none => exact absurd targets needed
      | some rdRt => rfl
    · rw [if_neg macVRF] at causes ⊢
      by_cases ipVRF : folded.type = serviceIPVRF
      · rw [if_pos ipVRF] at causes ⊢
        have needed := ip_vrf_targets folded causes other
        cases targets : folded.rdRt with
        | none => exact absurd targets needed
        | some rdRt => rfl
      · rw [if_neg ipVRF] at causes ⊢
        by_cases acl : folded.type = serviceACL
        · rw [if_pos acl]
          rfl
        · rw [if_neg acl] at causes
          exact absurd causes (List.cons_ne_nil _ _)

variable (input : ServiceInput)

theorem valid_causes (valid : validateAllOrNothing site input false = []) : constructCauses input.canonicalize = [] := by
  simp only [validateAllOrNothing, canonicalCauses, List.append_eq_nil_iff] at valid
  exact valid.1.1.2

theorem validated_canonical : input.validated.canonicalize = input.canonicalize := by
  have acl : (input.acl.map ACL.canonicalize).map ACL.canonicalize = input.acl.map ACL.canonicalize := by
    cases input.acl with
    | none => rfl
    | some a => exact congrArg some (canonicalize_acl_again a)
  simp only [ServiceInput.canonicalize, ServiceInput.validated, ServiceInput.gateway, acl]

theorem translate_validated (canonicalHash : ServiceInput → String) :
    translate canonicalHash input.validated = translate canonicalHash input := by
  simp only [translate, validated_canonical]

end Valid

section Documents
variable (site : Option SiteInventory) (sum : ServiceInput → List UInt8)
variable (jsonToYAML : SRv6Service → Except Message String) (input : ServiceInput)

-- The converter writes an object out when it can read its texts.
def Converts : Prop :=
  ∀ service, (jsonToYAML service).isOk = true ↔ ∀ text ∈ service.texts, yamlReadable text = true

theorem document_validated :
    translateDocument sum jsonToYAML input.validated = translateDocument sum jsonToYAML input := by
  rw [translateDocument, translate_validated]
  rfl

theorem network_document (valid : validateAllOrNothing site input false = []) (other : input.transport ≠ transportSRv6) :
    (translateDocument sum jsonToYAML input).isOk = true := by
  have folded : input.canonicalize.transport ≠ transportSRv6 := by rwa [canonicalize_transport]
  obtain ⟨spec, made⟩ := is_ok_value _ (causes_spec input.canonicalize (valid_causes site input valid) folded)
  rw [translateDocument, translate, if_neg folded, translateNetwork, made]
  rfl

def srv6Object (folded : ServiceInput) (hash : String) : SRv6Service :=
  { name := folded.serviceID
    inNamespace := "agentic-netops-intent"
    annotations := srv6Annotations folded hash
    spec := srv6Spec folded }

theorem srv6_document (srv6 : input.transport = transportSRv6) :
    (translateDocument sum jsonToYAML input).isOk =
      (jsonToYAML (srv6Object input.canonicalize (inputHash sum input.canonicalize))).isOk := by
  rw [translateDocument, translate_srv6 _ _ srv6]
  change (((jsonToYAML (srv6Object input.canonicalize (inputHash sum input.canonicalize))).mapError
    BatchError.conversion).map _).isOk = _
  cases jsonToYAML (srv6Object input.canonicalize (inputHash sum input.canonicalize)) <;> rfl

end Documents

section Origins
variable (folded : ServiceInput) (hash text : String)

-- What every object says, whatever the input is.
def fixedTexts : List String :=
  ["agentic-netops-intent", "agentic-netops.io/translator", translatorName, "agentic-netops.io/translator-version",
    translatorVersion, "agentic-netops.io/mapping-version", mappingVersion, "agentic-netops.io/migration-input-hash",
    "agentic-netops.io/tenant", "agentic-netops.io/service-type", "agentic-netops.io/transport", transportSRv6, signallingVPN,
    signallingEVPN]

theorem attachment_texts :
    (srv6Object folded hash).spec.attachments.flatMap (fun att => [att.node, att.port] ++ att.gateway) =
      folded.endpoints.flatMap fun ep => [ep.node, ep.attachment] ++ ep.prefixes := by
  have same : (srv6Object folded hash).spec.attachments = folded.endpoints.map srv6Attachment := rfl
  rw [same, List.flatMap_map]
  rfl

theorem annotation_texts (entry : String × String) (listed : entry ∈ srv6Annotations folded hash) :
    entry.1 ∈ fixedTexts ∧ (entry.2 ∈ fixedTexts ∨ entry.2 = hash ∨ entry.2 = folded.type ∨ entry.2 = folded.tenant) := by
  simp only [srv6Annotations, List.mem_cons, List.not_mem_nil, or_false] at listed
  rcases listed with rfl | rfl | rfl | rfl | rfl | rfl | rfl <;> simp [fixedTexts]

theorem signalling_text : signallingOf folded ∈ fixedTexts ∨ signallingOf folded = folded.signalling := by
  unfold signallingOf
  split
  · exact Or.inr rfl
  · split <;> exact Or.inl (by simp [fixedTexts])

theorem own_texts : folded.serviceID ∈ folded.carriedTexts ∧ folded.tenant ∈ folded.carriedTexts ∧
    folded.signalling ∈ folded.carriedTexts ∧ folded.preferredSpine ∈ folded.carriedTexts := by
  simp [ServiceInput.carriedTexts]

theorem text_origin (listed : text ∈ (srv6Object folded hash).texts) :
    text ∈ fixedTexts ∨ text = hash ∨ text = folded.type ∨ text ∈ folded.carriedTexts := by
  obtain ⟨hasID, hasTenant, hasSignalling, hasSpine⟩ := own_texts folded
  rw [SRv6Service.texts, attachment_texts] at listed
  rcases List.mem_append.mp listed with listed | path
  · rcases List.mem_append.mp listed with listed | attachment
    · rcases List.mem_append.mp listed with listed | own
      · rcases List.mem_append.mp listed with names | annotation
        · rcases List.mem_cons.mp names with name | place
          · exact Or.inr (Or.inr (Or.inr (name ▸ hasID)))
          · have given : text = "agentic-netops-intent" := List.mem_singleton.mp place
            exact Or.inl (given ▸ List.mem_cons_self)
        · obtain ⟨entry, member, half⟩ := List.mem_flatMap.mp annotation
          obtain ⟨key, value⟩ := annotation_texts folded hash entry member
          rcases List.mem_cons.mp half with first | second
          · exact Or.inl (first ▸ key)
          · rw [List.mem_singleton.mp second]
            rcases value with isFixed | isHash | isType | isTenant
            · exact Or.inl isFixed
            · exact Or.inr (Or.inl isHash)
            · exact Or.inr (Or.inr (Or.inl isType))
            · exact Or.inr (Or.inr (Or.inr (isTenant ▸ hasTenant)))
      · rcases List.mem_cons.mp own with tenant | own
        · exact Or.inr (Or.inr (Or.inr (tenant ▸ hasTenant)))
        · rcases List.mem_cons.mp own with type | signalling
          · exact Or.inr (Or.inr (Or.inl type))
          · have given : text = signallingOf folded := List.mem_singleton.mp signalling
            rw [given]
            cases signalling_text folded with
            | inl isFixed => exact Or.inl isFixed
            | inr same =>
                rw [same]
                exact Or.inr (Or.inr (Or.inr hasSignalling))
    · exact Or.inr (Or.inr (Or.inr (List.mem_append_right _ attachment)))
  · by_cases preferred : folded.preferredSpine ≠ ""
    · have stated : (srv6Object folded hash).spec.path = some ⟨folded.preferredSpine⟩ := if_pos preferred
      rw [stated] at path
      exact Or.inr (Or.inr (Or.inr (List.mem_singleton.mp path ▸ hasSpine)))
    · have absent : (srv6Object folded hash).spec.path = none := if_neg preferred
      rw [absent] at path
      exact absurd path List.not_mem_nil

theorem carried_listed (carried : text ∈ folded.carriedTexts) :
    text ∈ (srv6Object folded hash).texts ∨ text = "" := by
  rw [SRv6Service.texts, attachment_texts]
  rcases List.mem_append.mp carried with own | attachment
  · simp only [List.mem_cons, List.not_mem_nil, or_false] at own
    rcases own with isID | isTenant | isSignalling | isSpine
    · left
      rw [isID]
      exact List.mem_append_left _ (List.mem_append_left _ (List.mem_append_left _ (List.mem_append_left _ List.mem_cons_self)))
    · left
      rw [isTenant]
      exact List.mem_append_left _ (List.mem_append_left _ (List.mem_append_right _ List.mem_cons_self))
    · by_cases empty : folded.signalling ≠ ""
      · left
        have given : (srv6Object folded hash).spec.signalling = folded.signalling := if_pos empty
        rw [isSignalling, given]
        exact List.mem_append_left _ (List.mem_append_left _ (List.mem_append_right _
          (List.mem_cons_of_mem _ (List.mem_cons_of_mem _ List.mem_cons_self))))
      · exact Or.inr (isSignalling.trans (not_not.mp empty))
    · by_cases empty : folded.preferredSpine ≠ ""
      · left
        have stated : (srv6Object folded hash).spec.path = some ⟨folded.preferredSpine⟩ := if_pos empty
        rw [isSpine, stated]
        exact List.mem_append_right _ List.mem_cons_self
      · exact Or.inr (isSpine.trans (not_not.mp empty))
  · exact Or.inl (List.mem_append_left _ (List.mem_append_right _ attachment))

/- Beside the input's own texts the object has only texts that are readable. -/
theorem srv6_texts_iff (known : folded.type ∈ constructs) (readable : yamlReadable hash = true) :
    (∀ text ∈ (srv6Object folded hash).texts, yamlReadable text = true) ↔
      ∀ text ∈ folded.carriedTexts, yamlReadable text = true := by
  have types : constructs.all yamlReadable = true := by decide +kernel
  have fixed : fixedTexts.all yamlReadable = true := by decide +kernel
  constructor
  · intro all text carried
    cases carried_listed folded hash text carried with
    | inl listed => exact all text listed
    | inr empty => rw [empty]; rfl
  · intro all text listed
    rcases text_origin folded hash text listed with isFixed | isHash | isType | carried
    · exact List.all_eq_true.mp fixed text isFixed
    · rw [isHash]
      exact readable
    · rw [isType]
      exact List.all_eq_true.mp types _ known
    · exact all text carried

end Origins

section Whole
variable (site : Option SiteInventory) (sum : ServiceInput → List UInt8)
variable (jsonToYAML : SRv6Service → Except Message String) (manifestFromYAML : String → Except Message Json)

-- The converter reads every text that this input puts into an SRv6Service.
def ReadableInput (input : ServiceInput) : Prop :=
  input.transport = transportSRv6 → ∀ text ∈ input.carriedTexts, yamlReadable text = true

theorem carried_canonical (input : ServiceInput) : input.canonicalize.carriedTexts = input.carriedTexts := by
  simp only [ServiceInput.carriedTexts, canonicalize_service_id, canonicalize_tenant, canonicalize_signalling, canonicalize_spine,
    canonicalize_endpoints]

theorem valid_document_iff (converts : Converts jsonToYAML) (input : ServiceInput)
    (valid : validateAllOrNothing site input false = []) :
    (translateDocument sum jsonToYAML input).isOk = true ↔ ReadableInput input := by
  by_cases srv6 : input.transport = transportSRv6
  · have known := known_construct input.canonicalize (valid_causes site input valid)
    have readable : yamlReadable (inputHash sum input.canonicalize) = true := hex_readable _
    rw [srv6_document sum jsonToYAML input srv6, converts, srv6_texts_iff _ _ known readable, carried_canonical]
    exact ⟨fun all _ => all, fun all => all srv6⟩
  · exact iff_of_true (network_document site sum jsonToYAML input valid srv6) (fun other => absurd other srv6)

-- Documents there are, or none at all: what is promised of a batch.
structure BatchAllOrNothing (inputs : List ServiceInput) : Prop where
  returned : (∃ documents, renderBatch site sum jsonToYAML inputs = .ok documents) ↔ RenderableBatch site inputs
  translated : ∀ documents, renderBatch site sum jsonToYAML inputs = .ok documents →
    List.Forall₂ (fun input text => (translateDocument sum jsonToYAML input).map Prod.snd = .ok text) inputs documents
  permuted : ∀ documents, renderBatch site sum jsonToYAML inputs = .ok documents → ∀ others, inputs.Perm others →
    ∃ moved, renderBatch site sum jsonToYAML others = .ok moved ∧ (inputs.zip documents).Perm (others.zip moved)
  refused : ¬ RenderableBatch site inputs →
    (∀ documents, renderBatch site sum jsonToYAML inputs ≠ .ok documents) ∧
      (handleTranslate site sum jsonToYAML manifestFromYAML (.ok inputs)).manifests = [] ∧
      (handleTranslate site sum jsonToYAML manifestFromYAML (.ok inputs)).yaml = ""

def documentText (input : ServiceInput) : Except BatchError String := (translateDocument sum jsonToYAML input).map Prod.snd

theorem document_text_ok (input : ServiceInput) :
    (documentText sum jsonToYAML input).isOk = (translateDocument sum jsonToYAML input).isOk := by
  rw [documentText]
  cases translateDocument sum jsonToYAML input <;> rfl

/- A batch is rendered when it is renderable and each input translates; the documents
   are the inputs' own. -/
theorem render_batch_iff (inputs : List ServiceInput) (documents : List String) :
    renderBatch site sum jsonToYAML inputs = .ok documents ↔
      RenderableBatch site inputs ∧ (∀ input ∈ inputs, (translateDocument sum jsonToYAML input).isOk = true) ∧
        documents = inputs.map fun input => made (documentText sum jsonToYAML input) := by
  have each : (fun input : ServiceInput => (translateDocument sum jsonToYAML input.validated).map Prod.snd) =
      documentText sum jsonToYAML := by
    funext input
    rw [document_validated]
    rfl
  rw [renderBatch, each, guard_ok, not_not, batch_causes_nil_iff, map_iff]
  simp only [document_text_ok]

theorem renderable_reordered (inputs others : List ServiceInput) (same : inputs.Perm others)
    (renderable : RenderableBatch site inputs) : RenderableBatch site others := by
  refine ⟨?_, ?_⟩
  · intro input listed
    exact renderable.valid input (same.mem_iff.mpr listed)
  · exact ((same.map _).nodup_iff).mp renderable.distinct

theorem zip_made (inputs : List ServiceInput) (text : ServiceInput → String) :
    inputs.zip (inputs.map text) = inputs.map fun input => (input, text input) := by
  induction inputs with
  | nil => rfl
  | cons input rest inner => rw [List.map_cons, List.zip_cons_cons, inner, List.map_cons]

theorem batch_translated (inputs : List ServiceInput) (documents : List String)
    (rendered : renderBatch site sum jsonToYAML inputs = .ok documents) :
    List.Forall₂ (fun input text => (translateDocument sum jsonToYAML input).map Prod.snd = .ok text) inputs documents := by
  obtain ⟨_, each, whole⟩ := (render_batch_iff site sum jsonToYAML inputs documents).mp rendered
  rw [whole, List.forall₂_map_right_iff, List.forall₂_same]
  intro input listed
  exact ok_made _ ((document_text_ok sum jsonToYAML input).trans (each input listed))

theorem batch_permuted (inputs others : List ServiceInput) (documents : List String)
    (rendered : renderBatch site sum jsonToYAML inputs = .ok documents) (same : inputs.Perm others) :
    ∃ moved, renderBatch site sum jsonToYAML others = .ok moved ∧ (inputs.zip documents).Perm (others.zip moved) := by
  obtain ⟨renderable, each, whole⟩ := (render_batch_iff site sum jsonToYAML inputs documents).mp rendered
  refine ⟨_, (render_batch_iff site sum jsonToYAML others _).mpr
    ⟨renderable_reordered site inputs others same renderable, fun input listed => each input (same.mem_iff.mpr listed), rfl⟩, ?_⟩
  rw [whole, zip_made, zip_made]
  exact same.map _

theorem batch_refused (inputs : List ServiceInput) (unfit : ¬ RenderableBatch site inputs) :
    (∀ documents, renderBatch site sum jsonToYAML inputs ≠ .ok documents) ∧
      (handleTranslate site sum jsonToYAML manifestFromYAML (.ok inputs)).manifests = [] ∧
      (handleTranslate site sum jsonToYAML manifestFromYAML (.ok inputs)).yaml = "" := by
  have causes : batchCauses site inputs ≠ [] := fun none => unfit ((batch_causes_nil_iff site inputs).mp none)
  have handled : handleTranslate site sum jsonToYAML manifestFromYAML (.ok inputs) = .unprocessable (batchCauses site inputs) :=
    if_pos causes
  refine ⟨?_, ?_, ?_⟩
  · intro documents rendered
    exact unfit ((render_batch_iff site sum jsonToYAML inputs documents).mp rendered).1
  · rw [handled]
    rfl
  · rw [handled]
    rfl

theorem batch_all_or_nothing_iff (converts : Converts jsonToYAML) (inputs : List ServiceInput) :
    BatchAllOrNothing site sum jsonToYAML manifestFromYAML inputs ↔
      (RenderableBatch site inputs → ∀ input ∈ inputs, ReadableInput input) := by
  constructor
  · intro whole renderable input listed
    obtain ⟨documents, rendered⟩ := whole.returned.mpr renderable
    have each := ((render_batch_iff site sum jsonToYAML inputs documents).mp rendered).2.1
    exact (valid_document_iff site sum jsonToYAML converts input (renderable.valid input listed)).mp (each input listed)
  · intro readable
    exact {
      returned := by
        constructor
        · intro rendered
          obtain ⟨documents, rendered⟩ := rendered
          exact ((render_batch_iff site sum jsonToYAML inputs documents).mp rendered).1
        · intro renderable
          refine ⟨_, (render_batch_iff site sum jsonToYAML inputs _).mpr ⟨renderable, ?_, rfl⟩⟩
          intro input listed
          exact (valid_document_iff site sum jsonToYAML converts input (renderable.valid input listed)).mpr
            (readable renderable input listed)
      translated := batch_translated site sum jsonToYAML inputs
      permuted := fun documents rendered others same => batch_permuted site sum jsonToYAML inputs others documents rendered same
      refused := batch_refused site sum jsonToYAML manifestFromYAML inputs }

end Whole

section Lab

-- A converter that refuses what it cannot read, and writes the rest out somehow.
def labConverter (service : SRv6Service) : Except Message String :=
  if service.texts.all yamlReadable then .ok service.name
  else .error [.lit "yaml: control characters are not allowed"]

theorem lab_converts : Converts labConverter := by
  intro service
  rw [← List.all_eq_true, labConverter]
  by_cases readable : service.texts.all yamlReadable = true
  · rw [if_pos readable]
    exact iff_of_true rfl readable
  · rw [if_neg readable]
    exact iff_of_false Bool.false_ne_true readable

def labRouted (tenant : String) : ServiceInput :=
  { serviceID := "svc1", type := "ip-vrf", tenant := tenant, transport := "srv6"
    endpoints := [⟨"leaf01", "Ethernet1", 0, "", ["10.1.0.0/24"]⟩, ⟨"leaf02", "Ethernet1", 0, "", ["10.2.0.0/24"]⟩] }

def noDigest (_ : ServiceInput) : List UInt8 := []

def noManifest (_ : String) : Except Message Json := .ok .null

theorem lab_batch_all_or_nothing : BatchAllOrNothing none noDigest labConverter noManifest [labRouted "blue"] :=
  (batch_all_or_nothing_iff none noDigest labConverter noManifest lab_converts [labRouted "blue"]).mpr (by
    intro _ input listed _
    rw [List.mem_singleton.mp listed]
    exact List.all_eq_true.mp (by decide +kernel))

-- A tenant with a DEL in it passes validation and is not written out.
theorem valid_service_unwritten :
    RenderableBatch none [labRouted "blue\x7f"] ∧
      ¬ BatchAllOrNothing none noDigest labConverter noManifest [labRouted "blue\x7f"] := by
  have renderable : RenderableBatch none [labRouted "blue\x7f"] :=
    (batch_causes_nil_iff none _).mp (by decide +kernel)
  refine ⟨renderable, ?_⟩
  intro whole
  obtain ⟨documents, rendered⟩ := whole.returned.mpr renderable
  have failed : (renderBatch none noDigest labConverter [labRouted "blue\x7f"]).isOk = false := by decide +kernel
  rw [rendered] at failed
  exact Bool.false_ne_true failed.symm

end Lab

end AgenticNetops.Migration
