import AgenticNetops.Sonicprovider.DeviceController

set_option autoImplicit false

/- What holds of a NetworkDevice and its Config in every run, whatever others do between the
   controller's calls and wherever one of its passes ends. -/
namespace AgenticNetops.Sonicprovider.Device

open GoText JsonValue Exits Compat

section Moves
variable (w : World)

@[simp] theorem store_config (d : NetworkDevice) : (w.store d).config = w.config := by
  unfold World.store
  split
  · rfl
  · rfl

@[simp] theorem store_clock (d : NetworkDevice) : (w.store d).clock = w.clock + 1 := by
  unfold World.store
  split
  · rfl
  · rfl

@[simp] theorem store_readied (d : NetworkDevice) : (w.store d).readied = w.readied := by
  unfold World.store
  split
  · rfl
  · rfl

theorem store_device (d stored : NetworkDevice) (there : (w.store d).device = some stored) :
    stored = { d with resourceVersion := w.clock + 1 } := by
  unfold World.store at there
  split at there
  · cases there
  · exact (Option.some.inj there).symm

theorem store_kept (d : NetworkDevice) (name : String) (kept : name ∈ d.finalizers) :
    (w.store d).device = some { d with resourceVersion := w.clock + 1 } := by
  unfold World.store
  rw [if_neg]
  intro gone
  rw [gone.2] at kept
  exact List.not_mem_nil kept

/- All that others can do: change a device and leave its uid, its conditions and the
   controller's finalizer alone, make a device where there is none, or change or take away
   a Config whose owner and contents stay. -/
inductive Moved : World → Prop where
  | device (d changed : NetworkDevice) (there : w.device = some d) (uid : changed.uid = d.uid) (conditions : changed.conditions = d.conditions)
      (kept : finalizerName ∈ d.finalizers → finalizerName ∈ changed.finalizers) : Moved (w.store changed)
  | created (d : NetworkDevice) (absent : w.device = none) (fresh : d.uid = w.clock + 1) (blank : d.conditions = none) : Moved (w.store d)
  | config (c changed : Config) (there : w.config = some c) (owner : changed.owner = c.owner) (annotations : changed.annotations = c.annotations)
      (spec : changed.spec = c.spec) (after : Option Config) (either : after = none ∨ after = some changed) : Moved { w with config := after }
  | published (site : Option (GoMap String)) : Moved { w with site }
  | same : Moved w

theorem stored_config_moved (c changed : Config) (there : w.config = some c) (owner : changed.owner = c.owner)
    (annotations : changed.annotations = c.annotations) (spec : changed.spec = c.spec) : Moved w (w.storeConfig changed) := by
  refine Moved.config c changed there owner annotations spec _ ?_
  by_cases gone : changed.deleting ∧ ¬ changed.held
  · rw [if_pos gone]
    exact Or.inl rfl
  · rw [if_neg gone]
    exact Or.inr rfl

theorem happens_moved (event : Event) : Moved w (w.happens event) := by
  cases event with
  | create finalizers annotations labels =>
      unfold World.happens
      cases there : w.device with
      | none => exact Moved.created _ there rfl rfl
      | some d => exact Moved.same
  | annotate annotations labels =>
      unfold World.happens
      cases there : w.device with
      | none => exact Moved.same
      | some d => exact Moved.device d _ there rfl rfl id
  | edit =>
      unfold World.happens
      cases there : w.device with
      | none => exact Moved.same
      | some d => exact Moved.device d _ there rfl rfl id
  | hold finalizer =>
      unfold World.happens
      cases there : w.device with
      | none => exact Moved.same
      | some d =>
          dsimp only
          split
          · exact Moved.same
          · exact Moved.device d _ there rfl rfl (List.mem_append_left [finalizer])
  | release finalizer =>
      unfold World.happens
      cases there : w.device with
      | none => exact Moved.same
      | some d =>
          dsimp only
          split
          · exact Moved.same
          · rename_i other
            exact Moved.device d _ there rfl rfl fun held => List.mem_filter.mpr ⟨held, decide_eq_true fun same => other same.symm⟩
  | delete =>
      unfold World.happens
      cases there : w.device with
      | none => exact Moved.same
      | some d => exact Moved.device d _ there rfl rfl id
  | publish site => exact Moved.published site
  | report status =>
      unfold World.happens
      cases there : w.config with
      | none => exact Moved.same
      | some c => exact Moved.config c { c with status } there rfl rfl rfl _ (Or.inr rfl)
  | holdConfig =>
      unfold World.happens
      cases there : w.config with
      | none => exact Moved.same
      | some c =>
          dsimp only
          split
          · exact Moved.same
          · exact stored_config_moved w c _ there rfl rfl rfl
  | releaseConfig =>
      unfold World.happens
      cases there : w.config with
      | none => exact Moved.same
      | some c => exact stored_config_moved w c _ there rfl rfl rfl
  | deleteConfig =>
      unfold World.happens
      cases there : w.config with
      | none => exact Moved.same
      | some c => exact stored_config_moved w c _ there rfl rfl rfl

end Moves

/- The invariant. A Config belongs to the device that is there, which the controller's
   finalizer holds; what is in it is what the controller renders; Ready=True stands only on
   a device whose Config was read as ready. The seal is a device with a status of its own:
   its conditions stay what they are. -/
structure Sound (canonicalHash : GoMap Json → String) (sealed : Option (Nat × List Condition)) (w : World) : Prop where
  clocked : ∀ d, w.device = some d → d.uid ≤ w.clock
  owned : ∀ c, w.config = some c → ∃ d, w.device = some d ∧ d.uid = c.owner ∧ finalizerName ∈ d.finalizers
  rendered : ∀ c, w.config = some c → c.spec = ("$policy", buildPolicy 100 "replace" true "retain") :: renderedSpec ∧
    c.annotations.get? annotationHash = some (canonicalHash renderedSpec)
  ready : ∀ d conds, w.device = some d → d.conditions = some conds → ∀ c ∈ conds, c.type = "Ready" → c.status = true → d.uid ∈ w.readied
  frozen : ∀ uid conds, sealed = some (uid, conds) → uid ≤ w.clock ∧ ∀ d, w.device = some d → d.uid = uid → d.conditions = some conds

def Held (uid : Nat) (w : World) : Prop := ∃ d, w.device = some d ∧ d.uid = uid ∧ finalizerName ∈ d.finalizers

section Kept
variable (canonicalHash : GoMap Json → String) (sealed : Option (Nat × List Condition)) (w : World)

-- A device that is stored in place of another with its uid.
theorem store_sound (sound : Sound canonicalHash sealed w) (d changed : NetworkDevice) (there : w.device = some d) (uid : changed.uid = d.uid)
    (holds : w.config = none ∨ finalizerName ∈ changed.finalizers)
    (honest : ∀ conds, changed.conditions = some conds → ∀ c ∈ conds, c.type = "Ready" → c.status = true → d.uid ∈ w.readied)
    (still : ∀ uid conds, sealed = some (uid, conds) → d.uid = uid → changed.conditions = some conds) :
    Sound canonicalHash sealed (w.store changed) where
  clocked := by
    intro stored here
    rw [store_device w changed stored here, store_clock]
    have bound := sound.clocked d there
    change changed.uid ≤ _
    omega
  owned := by
    intro c config
    rw [store_config] at config
    cases holds with
    | inl none =>
        rw [none] at config
        cases config
    | inr kept =>
        obtain ⟨owner, here, same, _⟩ := sound.owned c config
        rw [there] at here
        cases here
        exact ⟨_, store_kept w changed finalizerName kept, uid.trans same, kept⟩
  rendered := by
    intro c config
    rw [store_config] at config
    exact sound.rendered c config
  ready := by
    intro stored conds here given c member type status
    rw [store_device w changed stored here] at given ⊢
    rw [store_readied]
    change changed.uid ∈ w.readied
    rw [uid]
    exact honest conds given c member type status
  frozen := by
    intro frozenUid conds isSealed
    have before := sound.frozen frozenUid conds isSealed
    refine ⟨by rw [store_clock]; omega, fun stored here same => ?_⟩
    rw [store_device w changed stored here] at same ⊢
    exact still frozenUid conds isSealed (uid.symm.trans same)

theorem moved_sound (w' : World) (moved : Moved w w') (sound : Sound canonicalHash sealed w) : Sound canonicalHash sealed w' := by
  cases moved with
  | same => exact sound
  | published site => exact ⟨sound.clocked, sound.owned, sound.rendered, sound.ready, sound.frozen⟩
  | device d changed there uid conditions kept =>
      apply store_sound canonicalHash sealed w sound d changed there uid
      · cases config : w.config with
        | none => exact Or.inl rfl
        | some c =>
            obtain ⟨owner, here, _, held⟩ := sound.owned c config
            rw [there] at here
            cases here
            exact Or.inr (kept held)
      · intro conds given
        exact sound.ready d conds there (conditions ▸ given)
      · intro uid conds isSealed same
        rw [conditions]
        exact (sound.frozen uid conds isSealed).2 d there same
  | created d absent fresh blank =>
      have bare : w.config = none := by
        cases config : w.config with
        | none => rfl
        | some c =>
            obtain ⟨owner, here, _⟩ := sound.owned c config
            rw [absent] at here
            cases here
      constructor
      · intro stored here
        rw [store_device w d stored here, store_clock]
        exact fresh.le
      · intro c config
        rw [store_config, bare] at config
        cases config
      · intro c config
        rw [store_config, bare] at config
        cases config
      · intro stored conds here given
        rw [store_device w d stored here] at given
        rw [show ({ d with resourceVersion := w.clock + 1 } : NetworkDevice).conditions = d.conditions from rfl, blank] at given
        cases given
      · intro uid conds isSealed
        have before := (sound.frozen uid conds isSealed).1
        refine ⟨by rw [store_clock]; omega, fun stored here same => ?_⟩
        rw [store_device w d stored here] at same
        have again : d.uid = uid := same
        omega
  | config c changed there owner annotations spec after either =>
      have from' : ∀ other, after = some other → other.owner = c.owner ∧ other.annotations = c.annotations ∧ other.spec = c.spec := by
        intro other given
        cases either with
        | inl gone =>
            rw [gone] at given
            cases given
        | inr kept =>
            rw [kept] at given
            cases given
            exact ⟨owner, annotations, spec⟩
      constructor
      · exact sound.clocked
      · intro other given
        obtain ⟨sameOwner, _, _⟩ := from' other given
        rw [sameOwner]
        exact sound.owned c there
      · intro other given
        obtain ⟨_, sameAnnotations, sameSpec⟩ := from' other given
        rw [sameAnnotations, sameSpec]
        exact sound.rendered c there
      · exact sound.ready
      · exact sound.frozen

theorem moved_held (uid : Nat) (w' : World) (moved : Moved w w') (held : Held uid w) : Held uid w' := by
  obtain ⟨d, there, same, finalizer⟩ := held
  cases moved with
  | same => exact ⟨d, there, same, finalizer⟩
  | published site => exact ⟨d, there, same, finalizer⟩
  | config => exact ⟨d, there, same, finalizer⟩
  | device other changed here uid conditions kept =>
      rw [there] at here
      cases here
      exact ⟨_, store_kept w changed finalizerName (kept finalizer), uid.trans same, kept finalizer⟩
  | created other absent =>
      rw [there] at absent
      cases absent

theorem moved_readied (w' : World) (moved : Moved w w') : w'.readied = w.readied := by
  cases moved with
  | same => rfl
  | published site => rfl
  | config => rfl
  | device other changed => exact store_readied w changed
  | created other => exact store_readied w other

theorem moved_bare (w' : World) (moved : Moved w w') (bare : w.config = none) : w'.config = none := by
  cases moved with
  | same => exact bare
  | published site => exact bare
  | config c changed there =>
      rw [bare] at there
      cases there
  | device other changed => exact (store_config w changed).trans bare
  | created other => exact (store_config w other).trans bare

theorem sound_readied (readied : List Nat) (more : ∀ uid ∈ w.readied, uid ∈ readied) (sound : Sound canonicalHash sealed w) :
    Sound canonicalHash sealed { w with readied } where
  clocked := sound.clocked
  owned := sound.owned
  rendered := sound.rendered
  ready := fun d conds there given c member type status => more _ (sound.ready d conds there given c member type status)
  frozen := sound.frozen

-- A Config whose owner the finalizer holds.
theorem config_sound (c : Config) (held : Held c.owner w)
    (spec : c.spec = ("$policy", buildPolicy 100 "replace" true "retain") :: renderedSpec)
    (hash : c.annotations.get? annotationHash = some (canonicalHash renderedSpec)) (sound : Sound canonicalHash sealed w) :
    Sound canonicalHash sealed { w with config := some c } where
  clocked := sound.clocked
  owned := by
    intro other there
    cases there
    exact held
  rendered := by
    intro other there
    cases there
    exact ⟨spec, hash⟩
  ready := sound.ready
  frozen := sound.frozen

theorem unconfigured_sound (c : Config) (there : w.config = some c) (changed : Config) (owner : changed.owner = c.owner)
    (annotations : changed.annotations = c.annotations) (spec : changed.spec = c.spec) (sound : Sound canonicalHash sealed w) :
    Sound canonicalHash sealed (w.storeConfig changed) :=
  moved_sound canonicalHash sealed w _ (stored_config_moved w c changed there owner annotations spec) sound

end Kept

section Calls
variable {α : Type} (pre inv : World → Prop) (told : Except ApiError α → World → Prop)

theorem others_keep (stable : ∀ w w', Moved w w' → pre w → pre w') (events : List Event) (w : World) (here : pre w) :
    pre (events.foldl World.happens w) := by
  induction events generalizing w with
  | nil => exact here
  | cons event rest ih => exact ih (w.happens event) (stable w _ (happens_moved w event) here)

-- A call from where others cannot leave, that keeps the invariant and tells something when it is heard.
theorem triple_call (effect : World → World × Except ApiError α) (stable : ∀ w w', Moved w w' → pre w → pre w')
    (entails : ∀ w, pre w → inv w) (kept : ∀ w, pre w → inv (effect w).1) (heard : ∀ w, pre w → told (effect w).2 (effect w).1)
    (blind : ∀ w, told (.error .other) w) :
    Triple (fun s => pre s.world) (call effect) (fun r s => inv s.world ∧ told r s.world) (fun _ s => inv s.world) := by
  intro s holds
  have here : pre ((s.turns.headD {}).before.foldl World.happens s.world) := others_keep pre stable _ s.world holds
  unfold call
  dsimp only
  cases (s.turns.headD {}).delivery with
  | served => exact ⟨kept _ here, heard _ here⟩
  | refused => exact ⟨entails _ here, blind _⟩
  | lost => exact ⟨kept _ here, blind _⟩
  | killed landed =>
      cases landed with
      | true => exact kept _ here
      | false => exact entails _ here

end Calls

section Pass
variable (canonicalHash : GoMap Json → String) (sealed : Option (Nat × List Condition)) (nd : NetworkDevice)

-- The device that a pass works on is there under its finalizer.
def Working (w : World) : Prop := Sound canonicalHash sealed w ∧ Held nd.uid w

-- What was read of a sealed device.
def Agrees : Prop := ∀ uid conds, sealed = some (uid, conds) → nd.uid = uid → nd.conditions = some conds

abbrev Ends {α : Type} (pre : World → Prop) (m : PassM α) : Prop :=
  Triple (fun s => pre s.world) m (fun _ s => Sound canonicalHash sealed s.world) (fun _ s => Sound canonicalHash sealed s.world)

theorem working_moved (w w' : World) (moved : Moved w w') (working : Working canonicalHash sealed nd w) : Working canonicalHash sealed nd w' :=
  ⟨moved_sound canonicalHash sealed w w' moved working.1, moved_held w nd.uid w' moved working.2⟩

theorem remember_working (w : World) (c : Config) (working : Working canonicalHash sealed nd w) :
    Working canonicalHash sealed nd (w.remember c) := by
  unfold World.remember
  by_cases ready : c.status.ready = true
  · rw [if_pos ready]
    exact ⟨sound_readied canonicalHash sealed w _ (fun uid member => List.mem_cons_of_mem _ member) working.1, working.2⟩
  · rw [if_neg ready]
    exact working

theorem config_read :
    Triple (fun s => Working canonicalHash sealed nd s.world) getConfig
      (fun r s => Working canonicalHash sealed nd s.world ∧ ∀ status, r = .ok status → status.ready = true → nd.uid ∈ s.world.readied)
      (fun _ s => Sound canonicalHash sealed s.world) := by
  have spec := triple_call (Working canonicalHash sealed nd) (Working canonicalHash sealed nd)
    (fun r w => ∀ status, r = .ok status → status.ready = true → nd.uid ∈ w.readied) World.readConfig
    (working_moved canonicalHash sealed nd) (fun _ here => here) ?_ ?_ fun _ status never => by cases never
  · exact triple_weaken _ _ _ _ _ _ _ spec (fun _ here => here) (fun _ _ both => both) fun _ s working => working.1
  · intro w working
    unfold World.readConfig
    cases there : w.config with
    | none => exact working
    | some c => exact remember_working canonicalHash sealed nd w c working
  · intro w working status told ready
    unfold World.readConfig at told ⊢
    cases there : w.config with
    | none =>
        rw [there] at told
        cases told
    | some c =>
        rw [there] at told
        cases told
        dsimp only
        rw [World.remember, if_pos ready]
        obtain ⟨d, here, owner, _⟩ := working.1.owned c there
        obtain ⟨other, again, uid, _⟩ := working.2
        rw [here] at again
        cases again
        rw [← uid, owner]
        exact List.mem_cons_self

theorem patch_working (w : World) (c : Condition) (agrees : Agrees sealed nd) (working : Working canonicalHash sealed nd w)
    (honest : c.type = "Ready" → c.status = true → nd.uid ∈ w.readied) : Working canonicalHash sealed nd (w.patch nd c).1 := by
  obtain ⟨sound, d, there, uid, finalizer⟩ := working
  unfold World.patch
  rw [there]
  dsimp only
  cases read : nd.conditions with
  | some conds =>
      rw [upsertConditionGeneric]
      dsimp only
      rw [if_pos rfl]
      exact ⟨sound, d, there, uid, finalizer⟩
  | none =>
      have fresh : ¬ (none : Option (List Condition)) = some [c] := fun same => by cases same
      rw [upsertConditionGeneric]
      dsimp only
      rw [if_neg fresh]
      refine ⟨store_sound canonicalHash sealed w sound d _ there rfl (Or.inr finalizer) ?_ ?_, _, store_kept w _ finalizerName finalizer, uid, finalizer⟩
      · intro conds given other member type status
        rw [mergeFrom, if_neg fresh] at given
        cases given
        rw [List.mem_singleton.mp member] at type status
        rw [uid]
        exact honest type status
      · intro frozenUid conds isSealed same
        have known := agrees frozenUid conds isSealed (uid.symm.trans same)
        rw [read] at known
        cases known

theorem patched (c : Condition) (agrees : Agrees sealed nd) :
    Triple (fun s => Working canonicalHash sealed nd s.world ∧ (c.type = "Ready" → c.status = true → nd.uid ∈ s.world.readied)) (patchStatus nd c)
      (fun _ s => Working canonicalHash sealed nd s.world) (fun _ s => Sound canonicalHash sealed s.world) := by
  have spec := triple_call (fun w => Working canonicalHash sealed nd w ∧ (c.type = "Ready" → c.status = true → nd.uid ∈ w.readied))
    (Working canonicalHash sealed nd) (fun (_ : Except ApiError Unit) _ => True) (World.patch nd c)
    ?_ (fun _ here => here.1) (fun w here => patch_working canonicalHash sealed nd w c agrees here.1 here.2) (fun _ _ => trivial) fun _ => trivial
  · exact triple_weaken _ _ _ _ _ _ _ spec (fun _ here => here) (fun _ _ both => both.1) fun _ s working => working.1
  · intro w w' moved here
    refine ⟨working_moved canonicalHash sealed nd w w' moved here.1, ?_⟩
    rw [moved_readied w w' moved]
    exact here.2

theorem reported (c : Condition) (result : PassResult) (agrees : Agrees sealed nd) :
    Ends canonicalHash sealed (fun w => Working canonicalHash sealed nd w ∧ (c.type = "Ready" → c.status = true → nd.uid ∈ w.readied)) (report nd c result) := by
  rw [report]
  refine triple_bind _ _ _ _ (fun _ s => Working canonicalHash sealed nd s.world) _ (patched canonicalHash sealed nd c agrees) fun _ => ?_
  exact fun s working => working.1

theorem reported_unready (c : Condition) (result : PassResult) (agrees : Agrees sealed nd) (unready : c.status = false) :
    Ends canonicalHash sealed (Working canonicalHash sealed nd) (report nd c result) := by
  refine triple_weaken _ _ _ _ _ _ _ (reported canonicalHash sealed nd c result agrees) (fun s working => ⟨working, fun _ status => ?_⟩)
    (fun _ _ sound => sound) fun _ _ sound => sound
  rw [unready] at status
  cases status

theorem observed (agrees : Agrees sealed nd) : Ends canonicalHash sealed (Working canonicalHash sealed nd) (observe nd) := by
  rw [observe]
  apply triple_bind _ _ _ _ _ _ (config_read canonicalHash sealed nd)
  intro r
  cases r with
  | error err => exact fun s both => both.1.1
  | ok status =>
      dsimp only
      apply triple_ite
      · intro ready
        refine triple_weaken _ _ _ _ _ _ _ (reported canonicalHash sealed nd (readyTrue nd) .done agrees)
          (fun s both => ⟨both.1, fun _ _ => both.2 status rfl ready⟩) (fun _ _ sound => sound) fun _ _ sound => sound
      · intro _
        apply triple_ite
        · intro _
          refine triple_weaken _ _ _ _ _ _ _ (reported canonicalHash sealed nd (degraded nd status) (.backoff true) agrees)
            (fun s both => ⟨both.1, fun _ _ => ?_⟩) (fun _ _ sound => sound) fun _ _ sound => sound
          rename_i type _
          have other : (degraded nd status).type ≠ "Ready" := by
            change "Degraded" ≠ "Ready"
            decide
          exact absurd type other
        · exact fun _ s both => both.1.1

theorem copied_elsewhere (src dst : GoMap String) (keys : List String) (key : String) (other : key ∉ keys) :
    (keys.foldl (fun dst key => if src.text key ≠ "" then dst.set key (src.text key) else dst) dst).get? key = dst.get? key := by
  induction keys generalizing dst with
  | nil => rfl
  | cons first rest ih =>
      have here : key ≠ first := fun same => other (List.mem_cons.mpr (Or.inl same))
      have later : key ∉ rest := fun member => other (List.mem_cons_of_mem first member)
      rw [List.foldl_cons, ih _ later]
      by_cases given : src.text first ≠ ""
      · rw [if_pos given, get_set_other dst first key (src.text first) here]
      · rw [if_neg given]

theorem owned_hash (spec : GoMap Json) : (ownedConfig canonicalHash nd spec).annotations.get? annotationHash = some (canonicalHash spec) := by
  have apart : annotationHash ∉ compatKeys := by decide
  rw [ownedConfig]
  dsimp only
  rw [copyCompatAnnotations, copied_elsewhere nd.annotations _ compatKeys annotationHash apart]
  rfl

theorem apply_working (w : World) (working : Working canonicalHash sealed nd w) :
    Working canonicalHash sealed nd (w.applyFields (ownedConfig canonicalHash nd renderedSpec)).1 := by
  refine ⟨?_, ?_⟩
  · unfold World.applyFields
    cases w.config with
    | none => exact config_sound canonicalHash sealed w _ working.2 rfl (owned_hash canonicalHash nd renderedSpec) working.1
    | some old => exact config_sound canonicalHash sealed w _ working.2 rfl (owned_hash canonicalHash nd renderedSpec) working.1
  · unfold World.applyFields
    cases w.config with
    | none => exact working.2
    | some old => exact working.2

-- What the controller renders passes its own checks.
theorem rendered_checked : offlineValidate renderedSpec = .ok () ∧ validateSpecAgainstRegister renderedSpec = .ok () := by
  constructor
  · decide +kernel
  · decide +kernel

theorem applied (agrees : Agrees sealed nd) :
    Ends canonicalHash sealed (Working canonicalHash sealed nd) (renderAndApply canonicalHash nd renderedSpec) := by
  have spec := triple_call (Working canonicalHash sealed nd) (Working canonicalHash sealed nd) (fun (_ : Except ApiError Unit) _ => True)
    (World.applyFields (ownedConfig canonicalHash nd renderedSpec)) (working_moved canonicalHash sealed nd) (fun _ here => here)
    (apply_working canonicalHash sealed nd) (fun _ _ => trivial) fun _ => trivial
  rw [renderAndApply, rendered_checked.1]
  dsimp only
  rw [rendered_checked.2]
  dsimp only
  refine triple_bind _ _ _ _ (fun _ s => Working canonicalHash sealed nd s.world) _
    (triple_weaken _ _ _ _ _ _ _ spec (fun _ here => here) (fun _ _ both => both.1) fun _ s working => working.1) ?_
  intro r
  cases r with
  | error err => exact reported_unready canonicalHash sealed nd _ _ agrees rfl
  | ok _ => exact observed canonicalHash sealed nd agrees

theorem site_read : Triple (fun s => Working canonicalHash sealed nd s.world) readSite (fun _ s => Working canonicalHash sealed nd s.world)
    (fun _ s => Sound canonicalHash sealed s.world) := by
  have spec := triple_call (Working canonicalHash sealed nd) (Working canonicalHash sealed nd) (fun (_ : Except ApiError (Option (GoMap String))) _ => True)
    (fun w => (w, .ok w.site)) (working_moved canonicalHash sealed nd) (fun _ here => here) (fun _ here => here) (fun _ _ => trivial) fun _ => trivial
  rw [readSite]
  refine triple_bind _ _ _ _ (fun _ s => Working canonicalHash sealed nd s.world) _
    (triple_weaken _ _ _ _ _ _ _ spec (fun _ here => here) (fun _ _ both => both.1) fun _ s working => working.1) ?_
  intro r
  cases r with
  | error err => exact fun s working => working
  | ok site => exact fun s working => working

theorem converged (agrees : Agrees sealed nd) : Ends canonicalHash sealed (Working canonicalHash sealed nd) (converge canonicalHash nd) := by
  have unready : (pendingGates nd).status = false := rfl
  rw [converge]
  refine triple_bind _ _ _ _ (fun _ s => Working canonicalHash sealed nd s.world) _
    (triple_weaken _ _ _ _ _ _ _ (patched canonicalHash sealed nd (pendingGates nd) agrees) (fun s working => ⟨working, fun _ status => ?_⟩)
      (fun _ _ working => working) fun _ _ sound => sound) ?_
  · rw [unready] at status
    cases status
  · intro r
    cases r with
    | error err => exact fun s working => working.1
    | ok _ =>
        dsimp only
        refine triple_bind _ _ _ _ (fun _ s => Working canonicalHash sealed nd s.world) _
          (triple_weaken _ _ _ _ _ _ _ (config_read canonicalHash sealed nd) (fun _ here => here) (fun _ _ both => both.1) fun _ _ sound => sound) ?_
        intro _
        refine triple_bind _ _ _ _ _ _ (site_read canonicalHash sealed nd) ?_
        intro site
        cases gate (resolveSitePins site nd.annotations nd.labels) .networkDevice with
        | error err => exact reported_unready canonicalHash sealed nd _ _ agrees rfl
        | ok _ =>
            apply triple_bind _ _ _ _ _ _ (config_read canonicalHash sealed nd)
            intro r
            have onward := triple_weaken _ _ _ (renderAndApply canonicalHash nd renderedSpec)
              (fun s => Working canonicalHash sealed nd s.world ∧ ∀ status, r = .ok status → status.ready = true → nd.uid ∈ s.world.readied) _ _
              (applied canonicalHash sealed nd agrees) (fun _ both => both.1) (fun _ _ sound => sound) fun _ _ sound => sound
            cases r with
            | error err => exact onward
            | ok status =>
                dsimp only
                apply triple_ite
                · intro _
                  refine triple_weaken _ _ _ _ _ _ _ (reported canonicalHash sealed nd (degraded nd status) (.backoff false) agrees)
                    (fun s both => ⟨both.1, fun type _ => ?_⟩) (fun _ _ sound => sound) fun _ _ sound => sound
                  have other : (degraded nd status).type ≠ "Ready" := by
                    change "Degraded" ≠ "Ready"
                    decide
                  exact absurd type other
                · intro _
                  apply triple_ite
                  · intro ready
                    exact triple_weaken _ _ _ _ _ _ _ (reported canonicalHash sealed nd (readyTrue nd) .done agrees)
                      (fun s both => ⟨both.1, fun _ _ => both.2 status rfl ready⟩) (fun _ _ sound => sound) fun _ _ sound => sound
                  · exact fun _ => onward

-- An update that takes the metadata of a device that was read.
theorem update_sound (w : World) (changed : NetworkDevice) (sound : Sound canonicalHash sealed w)
    (holds : w.config = none ∨ finalizerName ∈ changed.finalizers) : Sound canonicalHash sealed (w.update changed).1 := by
  unfold World.update
  cases there : w.device with
  | none => exact sound
  | some d =>
      dsimp only
      split
      · exact sound
      · apply store_sound canonicalHash sealed w sound d { d with finalizers := changed.finalizers, annotations := changed.annotations } there rfl holds
        · exact fun conds given => sound.ready d conds there given
        · exact fun uid conds isSealed same => (sound.frozen uid conds isSealed).2 d there same

theorem finalizer_ensured (agrees : Agrees sealed nd) :
    Triple (fun s => Sound canonicalHash sealed s.world ∧ (finalizerName ∈ nd.finalizers → Held nd.uid s.world)) (ensureFinalizer nd)
      (fun ready s => Working canonicalHash sealed ready s.world ∧ Agrees sealed ready) (fun _ s => Sound canonicalHash sealed s.world) := by
  rw [ensureFinalizer]
  apply triple_ite
  · exact fun present s both => ⟨⟨both.1, both.2 present⟩, agrees⟩
  · intro _
    have spec := triple_call (Sound canonicalHash sealed) (Sound canonicalHash sealed)
      (fun r w => ∀ updated, r = .ok updated → Held updated.uid w ∧ updated.uid = nd.uid ∧ updated.conditions = nd.conditions)
      (World.update { nd with finalizers := nd.finalizers ++ [finalizerName] })
      (moved_sound canonicalHash sealed) (fun _ here => here)
      (fun w here => update_sound canonicalHash sealed w _ here (Or.inr (List.mem_append_right _ List.mem_cons_self))) ?_
      fun _ updated never => by cases never
    · refine triple_bind _ _ _ _ _ _ (triple_weaken _ _ _ _ _ _ _ spec (fun _ both => both.1) (fun _ _ both => both) fun _ _ sound => sound) ?_
      intro r
      cases r with
      | error err => exact fun s both => both.1
      | ok updated =>
          intro s both
          obtain ⟨held, uid, conditions⟩ := both.2 updated rfl
          refine ⟨⟨both.1, held⟩, fun frozenUid conds isSealed same => ?_⟩
          rw [conditions]
          exact agrees frozenUid conds isSealed (uid.symm.trans same)
    · intro w _ updated told
      unfold World.update at told ⊢
      cases there : w.device with
      | none =>
          rw [there] at told
          cases told
      | some d =>
          rw [there] at told
          dsimp only at told ⊢
          by_cases stale : d.uid ≠ nd.uid ∨ d.resourceVersion ≠ nd.resourceVersion
          · rw [if_pos stale] at told
            cases told
          · rw [if_neg stale] at told ⊢
            cases told
            have finalizer : finalizerName ∈ nd.finalizers ++ [finalizerName] := List.mem_append_right _ List.mem_cons_self
            exact ⟨⟨_, store_kept w _ finalizerName finalizer, not_not.mp fun other => stale (Or.inl other), finalizer⟩, rfl, rfl⟩

theorem finalized (now : String) : Ends canonicalHash sealed (Sound canonicalHash sealed) (finalize now nd) := by
  have remove := triple_call (Sound canonicalHash sealed) (Sound canonicalHash sealed) (fun (_ : Except ApiError Unit) _ => True) World.removeConfig
    (moved_sound canonicalHash sealed) (fun _ here => here) ?_ (fun _ _ => trivial) fun _ => trivial
  · have confirm := triple_call (Sound canonicalHash sealed) (Sound canonicalHash sealed) (fun r w => r = .error .notFound → w.config = none)
      World.readConfig (moved_sound canonicalHash sealed) (fun _ here => here) ?_ ?_ fun _ never => by cases never
    · have release := triple_call (fun w => Sound canonicalHash sealed w ∧ w.config = none) (Sound canonicalHash sealed)
        (fun (_ : Except ApiError NetworkDevice) _ => True)
        (World.update { nd with
          annotations := nd.annotations.set finalizedAt now
          finalizers := nd.finalizers.filter (· ≠ finalizerName) })
        (fun w w' moved here => ⟨moved_sound canonicalHash sealed w w' moved here.1, moved_bare w w' moved here.2⟩) (fun _ here => here.1)
        (fun w here => update_sound canonicalHash sealed w _ here.1 (Or.inl here.2)) (fun _ _ => trivial) fun _ => trivial
      rw [finalize]
      refine triple_bind _ _ _ _ (fun _ s => Sound canonicalHash sealed s.world) _
        (triple_weaken _ _ _ _ _ _ _ remove (fun _ here => here) (fun _ _ both => both.1) fun _ _ sound => sound) ?_
      intro _
      apply triple_bind _ _ _ _ _ _ confirm
      intro r
      cases r with
      | ok status => exact fun s both => both.1
      | error err =>
          cases err with
          | conflict => exact fun s both => both.1
          | other => exact fun s both => both.1
          | notFound =>
              refine triple_bind _ _ _ _ _ _ (triple_weaken _ _ _ _ _ _ _ release (fun _ both => ⟨both.1, both.2 rfl⟩) (fun _ _ both => both)
                fun _ _ sound => sound) ?_
              intro updated
              cases updated with
              | ok d => exact fun s both => both.1
              | error err => exact fun s both => both.1
    · intro w sound
      unfold World.readConfig
      cases there : w.config with
      | none => exact sound
      | some c =>
          dsimp only
          unfold World.remember
          split
          · exact sound_readied canonicalHash sealed w _ (fun uid member => List.mem_cons_of_mem _ member) sound
          · exact sound
    · intro w _ missing
      unfold World.readConfig at missing ⊢
      cases there : w.config with
      | none => exact there
      | some c =>
          rw [there] at missing
          cases missing
  · intro w sound
    unfold World.removeConfig
    cases there : w.config with
    | none => exact sound
    | some c => exact unconfigured_sound canonicalHash sealed w c there _ rfl rfl rfl sound

end Pass

section Runs
variable (canonicalHash : GoMap Json → String)

theorem reconcile_sound (sealed : Option (Nat × List Condition)) (now : String) :
    Ends canonicalHash sealed (Sound canonicalHash sealed) (reconcile canonicalHash now) := by
  have read := triple_call (Sound canonicalHash sealed) (Sound canonicalHash sealed)
    (fun r w => ∀ nd, r = .ok nd → (finalizerName ∈ nd.finalizers → Held nd.uid w) ∧ Agrees sealed nd) World.read
    (moved_sound canonicalHash sealed) (fun _ here => here) ?_ ?_ fun _ nd never => by cases never
  · rw [reconcile]
    apply triple_bind _ _ _ _ _ _ read
    intro r
    cases r with
    | error err =>
        cases err with
        | notFound => exact fun s both => both.1
        | conflict => exact fun s both => both.1
        | other => exact fun s both => both.1
    | ok nd =>
        dsimp only
        apply triple_ite
        · intro _
          exact triple_weaken _ _ _ _ _ _ _ (finalized canonicalHash sealed nd now) (fun s both => both.1) (fun _ _ sound => sound) fun _ _ sound => sound
        · intro _ s both
          obtain ⟨held, agrees⟩ := both.2 nd rfl
          refine triple_bind _ _ _ _ _ _ (finalizer_ensured canonicalHash sealed nd agrees) (fun ready => ?_) s ⟨both.1, held⟩
          intro s both
          exact converged canonicalHash sealed ready both.2 s both.1
  · intro w sound
    unfold World.read
    cases w.device with
    | none => exact sound
    | some d => exact sound
  · intro w sound nd told
    unfold World.read at told ⊢
    cases there : w.device with
    | none =>
        rw [there] at told
        cases told
    | some d =>
        rw [there] at told
        cases told
        exact ⟨fun finalizer => ⟨nd, there, rfl, finalizer⟩, fun uid conds isSealed same => (sound.frozen uid conds isSealed).2 nd there same⟩

theorem next_sound (sealed : Option (Nat × List Condition)) (w : World) (action : Action) (sound : Sound canonicalHash sealed w) :
    Sound canonicalHash sealed (w.next canonicalHash action) := by
  cases action with
  | event event => exact moved_sound canonicalHash sealed w _ (happens_moved w event) sound
  | pass pass =>
      have ends := reconcile_sound canonicalHash sealed pass.now { world := w, turns := pass.turns } sound
      rw [World.next]
      cases outcome : reconcile canonicalHash pass.now { world := w, turns := pass.turns } with
      | mk after result =>
          rw [outcome] at ends
          cases result with
          | ok value => exact ends
          | error value => exact ends

theorem run_sound (sealed : Option (Nat × List Condition)) (actions : List Action) (w : World) (sound : Sound canonicalHash sealed w) :
    Sound canonicalHash sealed (actions.foldl (World.next canonicalHash) w) := by
  induction actions generalizing w with
  | nil => exact sound
  | cons action rest ih => exact ih _ (next_sound canonicalHash sealed w action sound)

-- The run's start: a site that has none of the objects.
def emptyWorld (site : Option (GoMap String)) : World := { site }

theorem empty_sound (site : Option (GoMap String)) : Sound canonicalHash none (emptyWorld site) where
  clocked := fun _ there => by cases there
  owned := fun _ there => by cases there
  rendered := fun _ there => by cases there
  ready := fun _ _ there => by cases there
  frozen := fun _ _ isSealed => by cases isSealed

/- In every run no Config is without its device: it belongs to the device that is there and
   that the controller's finalizer holds, it is what the controller renders under its hash,
   and Ready=True stands only on a device whose Config was read as ready. -/
theorem config_never_orphaned (site : Option (GoMap String)) (actions : List Action) :
    Sound canonicalHash none (actions.foldl (World.next canonicalHash) (emptyWorld site)) :=
  run_sound canonicalHash none actions _ (empty_sound canonicalHash site)

theorem sealed_kept (before after : List Action) (w : World) (sound : Sound canonicalHash none w) (d later : NetworkDevice) (conds : List Condition)
    (there : (before.foldl (World.next canonicalHash) w).device = some d) (written : d.conditions = some conds)
    (still : ((before ++ after).foldl (World.next canonicalHash) w).device = some later) (same : later.uid = d.uid) :
    later.conditions = some conds := by
  have reached := run_sound canonicalHash none before _ sound
  have isSealed : Sound canonicalHash (some (d.uid, conds)) (before.foldl (World.next canonicalHash) w) := {
    clocked := reached.clocked
    owned := reached.owned
    rendered := reached.rendered
    ready := reached.ready
    frozen := by
      intro uid given isIt
      cases isIt
      refine ⟨reached.clocked d there, fun other here _ => ?_⟩
      rw [there] at here
      cases here
      exact written }
  rw [List.foldl_append] at still
  exact ((run_sound canonicalHash _ after _ isSealed).frozen d.uid conds rfl).2 later still same

/- Once a device has a status, its conditions are never changed again: a later pass writes
   its conditions into the status map of the very object that its patch is taken against. -/
theorem status_frozen (site : Option (GoMap String)) (before after : List Action) (d later : NetworkDevice) (conds : List Condition)
    (there : (before.foldl (World.next canonicalHash) (emptyWorld site)).device = some d) (written : d.conditions = some conds)
    (still : ((before ++ after).foldl (World.next canonicalHash) (emptyWorld site)).device = some later) (same : later.uid = d.uid) :
    later.conditions = some conds :=
  sealed_kept canonicalHash before after _ (empty_sound canonicalHash site) d later conds there written still same

end Runs

-- Passes that nothing disturbs.
section Undisturbed
variable (canonicalHash : GoMap Json → String)

theorem call_plain {α : Type} (effect : World → World × Except ApiError α) (w : World) :
    call effect { world := w } = ({ world := (effect w).1 }, .ok (effect w).2) := rfl

theorem report_plain (nd : NetworkDevice) (c : Condition) (result : PassResult) (w : World) :
    report nd c result { world := w } = ({ world := (w.patch nd c).1 }, .ok result) := rfl

-- What a patch does to a device that had no status when it was read.
theorem patch_first (nd d : NetworkDevice) (c : Condition) (w : World) (there : w.device = some d) (finalizer : finalizerName ∈ d.finalizers)
    (blank : nd.conditions = none) :
    w.patch nd c = (w.store { d with conditions := some [c] }, .ok ()) ∧
      (w.store { d with conditions := some [c] }).device = some { d with conditions := some [c], resourceVersion := w.clock + 1 } := by
  have fresh : ¬ (none : Option (List Condition)) = some [c] := fun same => by cases same
  refine ⟨?_, store_kept w _ finalizerName finalizer⟩
  rw [World.patch, there, blank]
  dsimp only [upsertConditionGeneric]
  rw [if_neg fresh, mergeFrom, if_neg fresh]

-- A device is written a condition once, and keeps it.
def Unready (uid : Nat) (w : World) : Prop :=
  ∃ d c, w.device = some d ∧ d.uid = uid ∧ d.conditions = some [c] ∧ c.type = "Ready" ∧ c.status = false

theorem converge_unready (nd d : NetworkDevice) (w : World) (there : w.device = some d) (finalizer : finalizerName ∈ d.finalizers)
    (uid : d.uid = nd.uid) (blank : nd.conditions = none) (bare : w.config = none) :
    Unready nd.uid (converge canonicalHash nd { world := w }).1.world := by
  obtain ⟨patched, stored⟩ := patch_first nd d (pendingGates nd) w there finalizer blank
  rw [converge, bind_run, patchStatus, call_plain, patched]
  dsimp only
  generalize written : w.store { d with conditions := some [pendingGates nd] } = mid at stored
  have still : mid.config = none := by
    rw [← written, store_config]
    exact bare
  have missing : mid.readConfig = (mid, .error .notFound) := by
    rw [World.readConfig, still]
  rw [bind_run, getConfig, call_plain, missing]
  dsimp only
  have site : readSite { world := mid } = (({ world := mid } : Session), .ok mid.site) := rfl
  rw [bind_run, site]
  dsimp only
  cases gate (resolveSitePins mid.site nd.annotations nd.labels) .networkDevice with
  | error err =>
      dsimp only
      obtain ⟨again, last⟩ := patch_first nd _ (condition nd "Ready" false err.reason
        ([.str err.text, .lit " ("] ++ (resolveSitePins mid.site nd.annotations nd.labels).provenance ++ [.lit ")"])) mid stored finalizer blank
      rw [report_plain, again]
      exact ⟨_, _, last, uid, rfl, rfl, rfl⟩
  | ok _ =>
      dsimp only
      rw [bind_run, call_plain, missing]
      dsimp only
      rw [renderAndApply, rendered_checked.1]
      dsimp only
      rw [rendered_checked.2]
      dsimp only
      rw [bind_run, applyConfig, call_plain, World.applyFields, still]
      exact ⟨_, _, stored, uid, rfl, rfl, rfl⟩

theorem first_pass_unready (d : NetworkDevice) (w : World) (now : String) (there : w.device = some d) (alive : d.deleting = false)
    (blank : d.conditions = none) (bare : w.config = none) :
    Unready d.uid (w.next canonicalHash (.pass { now })) := by
  rw [World.next, reconcile, bind_run, getDevice, call_plain, World.read, there]
  dsimp only
  rw [if_neg (by rw [alive]; exact Bool.false_ne_true), bind_run, ensureFinalizer]
  by_cases present : finalizerName ∈ d.finalizers
  · rw [if_pos present]
    exact converge_unready canonicalHash d d w there present rfl blank bare
  · have finalizer : finalizerName ∈ d.finalizers ++ [finalizerName] := List.mem_append_right _ List.mem_cons_self
    have current : ¬ (d.uid ≠ d.uid ∨ d.resourceVersion ≠ d.resourceVersion) := fun other => other.elim (fun no => no rfl) fun no => no rfl
    rw [if_neg present, bind_run, updateDevice, call_plain, World.update, there]
    dsimp only
    rw [if_neg current]
    exact converge_unready canonicalHash { d with finalizers := d.finalizers ++ [finalizerName], resourceVersion := w.clock + 1 } _ _
      (store_kept w { d with finalizers := d.finalizers ++ [finalizerName] } finalizerName finalizer) finalizer rfl blank
      ((store_config w _).trans bare)

/- So a device whose first pass nothing disturbs, before its Config is there, is never
   Ready, whatever SDC reports and whatever else happens later. -/
theorem never_ready (site : Option (GoMap String)) (before after : List Action) (now : String) (d later : NetworkDevice)
    (there : (before.foldl (World.next canonicalHash) (emptyWorld site)).device = some d) (alive : d.deleting = false)
    (blank : d.conditions = none) (bare : (before.foldl (World.next canonicalHash) (emptyWorld site)).config = none)
    (still : ((before ++ Action.pass { now } :: after).foldl (World.next canonicalHash) (emptyWorld site)).device = some later)
    (same : later.uid = d.uid) : ∃ c, later.conditions = some [c] ∧ c.type = "Ready" ∧ c.status = false := by
  obtain ⟨first, c, written, uid, conds, type, status⟩ := first_pass_unready canonicalHash d _ now there alive blank bare
  have split : before ++ Action.pass { now } :: after = (before ++ [Action.pass { now }]) ++ after := List.append_cons before _ after
  have reached : ((before ++ [Action.pass { now }]).foldl (World.next canonicalHash) (emptyWorld site)).device = some first := by
    rw [List.foldl_append]
    exact written
  rw [split] at still
  exact ⟨c, sealed_kept canonicalHash (before ++ [Action.pass { now }]) after _ (empty_sound canonicalHash site) first later [c] reached conds still
    (same.trans uid.symm), type, status⟩

/- A pass over a deleted device lets it go exactly when nothing of SDC's holds its Config. -/
theorem deletion_pass (w : World) (now : String) (d : NetworkDevice) (there : w.device = some d) (deleting : d.deleting = true) :
    ((∀ c, w.config = some c → c.held = false) →
      (w.next canonicalHash (.pass { now })).config = none ∧
      (w.next canonicalHash (.pass { now })).device =
        if d.finalizers.filter (· ≠ finalizerName) = [] then none
        else some { d with
          finalizers := d.finalizers.filter (· ≠ finalizerName)
          annotations := d.annotations.set finalizedAt now
          resourceVersion := w.clock + 1 }) ∧
    (∀ c, w.config = some c → c.held = true →
      (w.next canonicalHash (.pass { now })).config = some { c with deleting := true } ∧ (w.next canonicalHash (.pass { now })).device = some d) := by
  have opened : ∀ w : World, w.device = some d → w.next canonicalHash (.pass { now }) = (finalize now d { world := w }).1.world := by
    intro w there
    rw [World.next, reconcile, bind_run, getDevice, call_plain, World.read, there]
    dsimp only
    rw [if_pos deleting]
  have current : ¬ (d.uid ≠ d.uid ∨ d.resourceVersion ≠ d.resourceVersion) := fun other => other.elim (fun no => no rfl) fun no => no rfl
  -- Where the Config is not found, the device is updated.
  have gone : ∀ mid : World, mid.device = some d → mid.config = none → mid.clock = w.clock → (w.removeConfig).1 = mid →
      (finalize now d { world := w }).1.world = mid.store { d with
        finalizers := d.finalizers.filter (· ≠ finalizerName), annotations := d.annotations.set finalizedAt now } := by
    intro mid here bare _ removed
    rw [finalize, bind_run, deleteConfig, call_plain, removed]
    dsimp only
    rw [bind_run, getConfig, call_plain, World.readConfig, bare]
    dsimp only
    rw [bind_run, updateDevice, call_plain, World.update, here]
    dsimp only
    rw [if_neg current]
    rfl
  have stored : ∀ mid : World, mid.config = none → mid.clock = w.clock →
      (mid.store { d with finalizers := d.finalizers.filter (· ≠ finalizerName), annotations := d.annotations.set finalizedAt now }).config = none ∧
      (mid.store { d with finalizers := d.finalizers.filter (· ≠ finalizerName), annotations := d.annotations.set finalizedAt now }).device =
        if d.finalizers.filter (· ≠ finalizerName) = [] then none
        else some { d with
          finalizers := d.finalizers.filter (· ≠ finalizerName)
          annotations := d.annotations.set finalizedAt now
          resourceVersion := w.clock + 1 } := by
    intro mid bare clock
    refine ⟨(store_config mid _).trans bare, ?_⟩
    rw [World.store]
    dsimp only
    by_cases last : d.finalizers.filter (· ≠ finalizerName) = []
    · rw [if_pos ⟨deleting, last⟩, if_pos last]
    · rw [if_neg fun both => last both.2, if_neg last, clock]
  rw [opened w there]
  constructor
  · intro unheld
    cases config : w.config with
    | none =>
        have removed : (w.removeConfig).1 = w := by rw [World.removeConfig, config]
        rw [gone w there config rfl removed]
        exact stored w config rfl
    | some c =>
        have dropped : c.held = false := unheld c config
        have removed : (w.removeConfig).1 = { w with config := none } := by
          rw [World.removeConfig, config]
          dsimp only
          rw [World.storeConfig, if_pos ⟨rfl, by rw [dropped]; exact Bool.false_ne_true⟩]
        rw [gone { w with config := none } there rfl rfl removed]
        exact stored { w with config := none } rfl rfl
  · intro c config held
    have removed : (w.removeConfig).1 = { w with config := some { c with deleting := true } } := by
      rw [World.removeConfig, config]
      dsimp only
      rw [World.storeConfig, if_neg fun both => both.2 held]
    rw [finalize, bind_run, deleteConfig, call_plain, removed]
    dsimp only
    rw [bind_run, getConfig, call_plain, World.readConfig]
    dsimp only
    rw [World.remember]
    split
    · exact ⟨rfl, there⟩
    · exact ⟨rfl, there⟩

end Undisturbed

section Lab

def labSite : GoMap String := [
  ("sonic-image", "docker-sonic-vs:202405"),
  ("openconfig-commit", "0123456789abcdef"),
  ("sonic-native-commit", "fedcba9876543210"),
  ("mapping-version", "v1"),
  ("sdc-release", "v0.31.0"),
  ("topology-label-contract", "v1"),
  ("telemetry-label-contract", "v1")]

def labHash (_ : GoMap Json) : String := "9f86d081"

-- The device is made, and its first pass applies the Config; then SDC says that it is ready.
def labStart : List Action := [.event (.create [] [] [("network.kubenet.dev/derived", "true")])]
def labFirst : List Action := labStart ++ [.pass { now := "t1" }]
def labLater : List Action := [.event (.report { ready := true }), .pass { turns := [{ before := [.edit] }], now := "t2" }]

def labDevice : NetworkDevice :=
  { uid := 1, resourceVersion := 1, labels := [("network.kubenet.dev/derived", "true")] }

def labPending : List Condition := [pendingGates labDevice]

def labLast : NetworkDevice :=
  { labDevice with resourceVersion := 4, generation := 2, finalizers := [finalizerName], conditions := some labPending }

theorem lab_status_frozen : ((labFirst ++ labLater).foldl (World.next labHash) (emptyWorld (some labSite))).readied = [1, 1] ∧
    labLast.conditions = some labPending :=
  ⟨by decide +kernel, status_frozen labHash (some labSite) labFirst labLater
    { labDevice with resourceVersion := 3, finalizers := [finalizerName], conditions := some labPending } labLast labPending
    (by decide +kernel) rfl (by decide +kernel) rfl⟩

theorem lab_never_ready : ∃ c, labLast.conditions = some [c] ∧ c.type = "Ready" ∧ c.status = false :=
  never_ready labHash (some labSite) labStart labLater "t1" labDevice labLast (by decide +kernel) rfl rfl (by decide +kernel)
    (by decide +kernel) rfl

end Lab

end AgenticNetops.Sonicprovider.Device
