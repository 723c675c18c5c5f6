import AgenticNetops.Srv6service.Verify

set_option autoImplicit false

/- The route table of the ingress leaf and what the path observation reads in it. The
   table may list several routes to the peer's function prefix; the service's pin is
   the one "from ::". -/
namespace AgenticNetops.Srv6service

open GoText

section Table
variable (table : String) (view : PathView)

def tableLines : List String := split table '\n'

-- The routes to the peer's function prefix that name a next hop, in the order of the table.
def routesToPeer : List String :=
  (tableLines table).filter fun line => hasPrefix line (view.peerFn ++ " ") && (viaAddress line).isSome

def readsPin (line : String) : Prop := hasPrefix line (view.peerFn ++ " from :: ") = true

def pinVia (via : String) : Prop := ∃ line ∈ tableLines table, readsPin view line ∧ viaAddress line = some via

def legOf (spine via : String) : Prop := via ≠ "" ∧ (spine, via) ∈ view.legs

-- A spine has one leg, and no two spines share a leg address.
structure DistinctLegs : Prop where
  one : ∀ spine via other, legOf view spine via → legOf view spine other → via = other
  apart : ∀ spine other via, legOf view spine via → legOf view other via → spine = other

def pinOn (spine : String) : Prop := ∃ via, pinVia table view via ∧ legOf view spine via

/- The observation reads the pin: its spine is active, and without a pin on a known leg
   the path is down. -/
structure ReadsPin : Prop where
  active : ∀ spine, ((readPathTable table view).down = false ∧ (readPathTable table view).active = spine) ↔ pinOn table view spine
  down : (readPathTable table view).down = true ↔ ¬ ∃ spine, pinOn table view spine

/- The first route to the prefix leaves through the leg that every pin on a known leg uses,
   and through no known leg that no pin uses. -/
structure PinStandsFirst : Prop where
  pinned : ∀ first via, (routesToPeer table view).head? = some first → viaAddress first = some via →
    ∀ spine pin, pinVia table view pin → legOf view spine pin → pin = via
  unpinned : ∀ first via, (routesToPeer table view).head? = some first → viaAddress first = some via →
    ∀ spine, legOf view spine via → pinVia table view via

theorem via_found (lines : List String) (wanted : String → Bool) (read : String → Option String) :
    (lines.filter wanted).findSome? read = ((lines.filter fun line => wanted line && (read line).isSome).head?).bind read := by
  induction lines with
  | nil => rfl
  | cons line rest ih =>
      by_cases kept : wanted line = true
      · cases hop : read line with
        | none => simp [kept, hop, ih]
        | some via => simp [kept, hop]
      · simp [kept, ih]

-- What the observation is made of: the next hop of the first route, and the leg that has it.
theorem read_path_none (empty : (routesToPeer table view).head? = none) : readPathTable table view = { down := true } := by
  have hop : ((tableLines table).filter fun line => hasPrefix line (view.peerFn ++ " ")).findSome? viaAddress = none := by
    rw [via_found]
    exact congrArg (·.bind viaAddress) empty
  rw [tableLines] at hop
  rw [readPathTable, hop]

theorem read_path_some (first via : String) (leads : (routesToPeer table view).head? = some first) (hop : viaAddress first = some via) :
    readPathTable table view =
      ((view.legs.find? fun leg => leg.2 ≠ "" ∧ leg.2 = via).map fun leg => { active := leg.1, via }).getD { via, down := true } := by
  have found : ((tableLines table).filter fun line => hasPrefix line (view.peerFn ++ " ")).findSome? viaAddress = some via := by
    rw [via_found]
    exact (congrArg (·.bind viaAddress) leads).trans hop
  rw [tableLines] at found
  rw [readPathTable, found]
  simp only
  cases view.legs.find? fun leg => leg.2 ≠ "" ∧ leg.2 = via with
  | none => rfl
  | some leg => rfl

theorem leg_found (via spine : String) (leg : legOf view spine via) (distinct : DistinctLegs view) :
    view.legs.find? (fun leg => leg.2 ≠ "" ∧ leg.2 = via) = some (spine, via) := by
  have present : (view.legs.find? fun leg => leg.2 ≠ "" ∧ leg.2 = via).isSome = true :=
    List.find?_isSome.mpr ⟨(spine, via), leg.2, by simpa using leg.1⟩
  obtain ⟨found, located⟩ := Option.isSome_iff_exists.mp present
  have read := List.find?_some located
  obtain ⟨other, addr⟩ := found
  simp only [decide_eq_true_eq] at read
  obtain ⟨nonempty, rfl⟩ := read
  rw [located, distinct.apart other spine addr ⟨nonempty, List.mem_of_find?_eq_some located⟩ leg]

theorem leg_unknown (via : String) (unknown : ∀ spine, ¬ legOf view spine via) :
    view.legs.find? (fun leg => leg.2 ≠ "" ∧ leg.2 = via) = none := by
  rw [List.find?_eq_none]
  intro leg member known
  simp only [decide_eq_true_eq] at known
  obtain ⟨spine, addr⟩ := leg
  obtain ⟨nonempty, rfl⟩ := known
  exact unknown spine ⟨nonempty, member⟩

-- A pin with a next hop is one of the routes.
theorem pin_route (via : String) (pin : pinVia table view via) : ∃ line ∈ routesToPeer table view, viaAddress line = some via := by
  obtain ⟨line, listed, pinned, hop⟩ := pin
  refine ⟨line, List.mem_filter.mpr ⟨listed, ?_⟩, hop⟩
  have front : (view.peerFn ++ " ").toList <+: (view.peerFn ++ " from :: ").toList := by
    rw [String.toList_append, String.toList_append]
    exact (List.prefix_append_right_inj _).mpr (by decide)
  have matching := front.trans (List.isPrefixOf_iff_prefix.mp pinned)
  rw [hop, hasPrefix, List.isPrefixOf_iff_prefix.mpr matching]
  rfl

theorem no_route_reads (empty : (routesToPeer table view).head? = none) : ReadsPin table view := by
  have unpinned (spine : String) : ¬ pinOn table view spine := by
    intro pinned
    obtain ⟨via, pin, _⟩ := pinned
    obtain ⟨line, listed, _⟩ := pin_route table view via pin
    rw [List.head?_eq_none_iff.mp empty] at listed
    cases listed
  have observed := read_path_none table view empty
  constructor
  · intro spine
    rw [observed]
    exact iff_of_false (fun claimed => by cases claimed.1) (unpinned spine)
  · rw [observed]
    exact iff_of_true rfl fun pinned => unpinned pinned.choose pinned.choose_spec

-- The first route leaves through the leg of a spine.
theorem reads_known (distinct : DistinctLegs view) (first via spine : String) (leads : (routesToPeer table view).head? = some first)
    (hop : viaAddress first = some via) (leg : legOf view spine via)
    (observed : readPathTable table view = { active := spine, via }) : ReadsPin table view ↔ PinStandsFirst table view := by
  constructor
  · intro reads
    have own : pinOn table view spine := (reads.active spine).mp (by rw [observed]; exact ⟨rfl, rfl⟩)
    constructor
    · intro first' via' leads' hop' spine' pin pinned known
      rw [leads] at leads'
      cases leads'
      rw [hop] at hop'
      cases hop'
      have shown := (reads.active spine').mpr ⟨pin, pinned, known⟩
      rw [observed] at shown
      exact distinct.one spine' pin via known (shown.2 ▸ leg)
    · intro first' via' leads' hop' _ _
      rw [leads] at leads'
      cases leads'
      rw [hop] at hop'
      cases hop'
      obtain ⟨pin, pinned, known⟩ := own
      exact distinct.one spine pin via known leg ▸ pinned
  · intro stands
    have own : pinOn table view spine := ⟨via, stands.unpinned first via leads hop spine leg, leg⟩
    constructor
    · intro other
      rw [observed]
      constructor
      · intro shown
        exact shown.2 ▸ own
      · intro pinned
        obtain ⟨pin, isPinned, known⟩ := pinned
        rw [stands.pinned first via leads hop other pin isPinned known] at known
        exact ⟨rfl, distinct.apart spine other via leg known⟩
    · rw [observed]
      exact iff_of_false (fun down => by cases down) (fun none => none ⟨spine, own⟩)

-- The first route leaves through no known leg.
theorem reads_unknown (first via : String) (leads : (routesToPeer table view).head? = some first)
    (hop : viaAddress first = some via) (unknown : ∀ spine, ¬ legOf view spine via)
    (observed : readPathTable table view = { via, down := true }) : ReadsPin table view ↔ PinStandsFirst table view := by
  constructor
  · intro reads
    constructor
    · intro first' via' leads' hop' spine pin pinned known
      have shown := (reads.active spine).mpr ⟨pin, pinned, known⟩
      rw [observed] at shown
      cases shown.1
    · intro first' via' leads' hop' spine leg
      rw [leads] at leads'
      cases leads'
      rw [hop] at hop'
      cases hop'
      exact absurd leg (unknown spine)
  · intro stands
    have unpinned (spine : String) : ¬ pinOn table view spine := by
      intro pinned
      obtain ⟨pin, isPinned, known⟩ := pinned
      rw [stands.pinned first via leads hop spine pin isPinned known] at known
      exact unknown spine known
    constructor
    · intro spine
      rw [observed]
      exact iff_of_false (fun shown => by cases shown.1) (unpinned spine)
    · rw [observed]
      exact iff_of_true rfl fun pinned => unpinned pinned.choose pinned.choose_spec

/- The observation reads the pin exactly when no other route to the peer stands in front of
   it with another next hop. -/
theorem reads_pin_iff (distinct : DistinctLegs view) : ReadsPin table view ↔ PinStandsFirst table view := by
  cases leads : (routesToPeer table view).head? with
  | none =>
      refine iff_of_true (no_route_reads table view leads) ⟨?_, ?_⟩
      · intro first via found
        rw [leads] at found
        cases found
      · intro first via found
        rw [leads] at found
        cases found
  | some first =>
      have listed : first ∈ routesToPeer table view := List.mem_of_head? leads
      have reaches := (Bool.and_eq_true _ _ ▸ (List.mem_filter.mp listed).2 :)
      obtain ⟨via, hop⟩ := Option.isSome_iff_exists.mp reaches.2
      have observed := read_path_some table view first via leads hop
      by_cases known : ∃ spine, legOf view spine via
      · obtain ⟨spine, leg⟩ := known
        rw [leg_found view via spine leg distinct] at observed
        exact reads_known table view distinct first via spine leads hop leg observed
      · have unknown (spine : String) : ¬ legOf view spine via := fun leg => known ⟨spine, leg⟩
        rw [leg_unknown view via unknown] at observed
        exact reads_unknown table view first via leads hop unknown observed

end Table

def leafView : PathView where
  node := "leaf01"
  peerFn := "fcbb:bbbb:4:11::"
  legs := [("spine01", "2001:db8:1::3"), ("spine02", "2001:db8:2::3")]

def pinLine : String := "fcbb:bbbb:4:11:: from :: via 2001:db8:1::3 dev Ethernet0 metric 20"

def staticLine : String := "fcbb:bbbb:4:11:: via 2001:db8:2::3 dev Ethernet4"

theorem leaf_legs_distinct : DistinctLegs leafView := by
  have legs (spine via : String) (leg : legOf leafView spine via) :
      (spine = "spine01" ∧ via = "2001:db8:1::3") ∨ (spine = "spine02" ∧ via = "2001:db8:2::3") := by
    simpa [leafView] using leg.2
  constructor
  · intro spine via other leg again
    obtain ⟨rfl, rfl⟩ | ⟨rfl, rfl⟩ := legs spine via leg
    · exact Eq.symm (by simpa using legs _ _ again)
    · exact Eq.symm (by simpa using legs _ _ again)
  · intro spine other via leg again
    obtain ⟨rfl, rfl⟩ | ⟨rfl, rfl⟩ := legs spine via leg
    · exact Eq.symm (by simpa using legs _ _ again)
    · exact Eq.symm (by simpa using legs _ _ again)

def pinFirst : String := pinLine ++ "\n" ++ staticLine

def staticFirst : String := staticLine ++ "\n" ++ pinLine

theorem pin_first_lines : tableLines pinFirst = [pinLine, staticLine] ∧ (routesToPeer pinFirst leafView).head? = some pinLine ∧
    viaAddress pinLine = some "2001:db8:1::3" := by decide +kernel

theorem pin_first_vias (via : String) (pin : pinVia pinFirst leafView via) : via = "2001:db8:1::3" := by
  obtain ⟨line, listed, isPinned, hop⟩ := pin
  rw [pin_first_lines.1, List.mem_cons, List.mem_singleton] at listed
  cases listed with
  | inl here =>
      rw [here, pin_first_lines.2.2] at hop
      exact (Option.some.inj hop).symm
  | inr static =>
      rw [static] at isPinned
      exact absurd isPinned (by unfold readsPin; decide +kernel)

theorem pin_first_read : ReadsPin pinFirst leafView := by
  have lines := pin_first_lines
  refine (reads_pin_iff pinFirst leafView leaf_legs_distinct).mpr ⟨?_, ?_⟩
  · intro first via leads hop spine pin pinned _
    rw [lines.2.1] at leads
    cases leads
    rw [lines.2.2] at hop
    cases hop
    exact pin_first_vias pin pinned
  · intro first via leads hop spine _
    rw [lines.2.1] at leads
    cases leads
    rw [lines.2.2] at hop
    cases hop
    exact ⟨pinLine, by rw [lines.1]; simp, by unfold readsPin; decide +kernel, lines.2.2⟩

-- A static route in front of the pin is taken for it.
theorem static_first_misread :
    pinOn staticFirst leafView "spine01" ∧ (readPathTable staticFirst leafView).active = "spine02" ∧ ¬ ReadsPin staticFirst leafView := by
  have pinned : pinOn staticFirst leafView "spine01" :=
    ⟨"2001:db8:1::3", ⟨pinLine, by decide +kernel, by unfold readsPin; decide +kernel, by decide +kernel⟩, by unfold legOf; decide⟩
  have active : (readPathTable staticFirst leafView).active = "spine02" := by decide +kernel
  refine ⟨pinned, active, ?_⟩
  intro reads
  have shown := ((reads.active "spine01").mpr pinned).2
  rw [active] at shown
  exact absurd shown (by decide)

end AgenticNetops.Srv6service
