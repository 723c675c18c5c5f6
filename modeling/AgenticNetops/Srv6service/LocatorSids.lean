import AgenticNetops.Lib.GroupText
import AgenticNetops.Fabricplan.Derivations
import AgenticNetops.Srv6service.Types

set_option autoImplicit false

/- The service SID as text. The locator's text is taken to write three groups in front
   of its "::"; the printed form of a /48 writes fewer when its third group is zero. -/
namespace AgenticNetops.Srv6service

open GoText NetIP IPNetwork Fabricplan

-- An IPv6 address with its text in canonical form, read as a /48.
structure Locator where
  fields : List Nat
  eight : fields.length = 8
  small : ∀ field ∈ fields, field < 65536

def Locator.text (locator : Locator) : String := fieldsText locator.fields ++ "/48"

-- The SID is a /64 inside the locator whose fourth group is 0x11.
def SidInside (locator : Locator) : Prop :=
  ∃ sid groups, serviceSIDFromLocator locator.text = .ok sid ∧ parsePrefix sid = .ok ⟨.v6 groups [], 64⟩ ∧
    maskedAddr ⟨.v6 groups [], 48⟩ = maskedAddr ⟨.v6 locator.fields [], 48⟩ ∧ groups[3]? = some 0x11

-- The third group is the last one that is not zero, or the fourth is 0x11 already.
def WritesNodeGroup (locator : Locator) : Prop :=
  locator.fields[3]? = some 0x11 ∨ (locator.fields[2]? ≠ some 0 ∧ locator.fields.drop 3 = List.replicate 5 0)

-- Two SIDs that read as one prefix.
def SamePrefix (sid other : String) : Prop := ∃ pfx, parsePrefix sid = .ok pfx ∧ parsePrefix other = .ok pfx

section Shape
variable (locator : Locator)

-- The groups that the locator's text writes, and the SID made of them.
structure SidShape (front : List Nat) : Prop where
  few : front.length ≤ 6
  fields : locator.fields = front ++ List.replicate (8 - front.length) 0
  last : front.getLast? ≠ some 0
  sid : serviceSIDFromLocator locator.text = .ok (groupsText front ++ ":11::/64")

theorem sid_shape (ends : hasSuffix locator.text "::/48" = true) : ∃ front, SidShape locator front := by
  obtain ⟨init, whole⟩ := List.isSuffixOf_iff_suffix.mp ends
  have closing : (fieldsText locator.fields).toList = (init ++ [':']) ++ [':'] := by
    rw [Locator.text, String.toList_append] at whole
    have bits : "::/48".toList = [':', ':'] ++ "/48".toList := rfl
    rw [bits, ← List.append_assoc] at whole
    rw [← List.append_cancel_right whole, List.append_assoc]
    rfl
  have present : locator.fields ≠ [] := by
    intro empty
    have eight := locator.eight
    rw [empty] at eight
    cases eight
  obtain ⟨front, run, made, printed⟩ := ends_in_ellipsis locator.fields present _ closing
  have lengths : front.length + run = 8 := by
    have eight := locator.eight
    rw [made.whole, List.append_nil, List.length_append, List.length_replicate] at eight
    exact eight
  have long := made.long
  refine ⟨front, by omega, ?_, made.starts, ?_⟩
  · rw [made.whole, List.append_nil, show 8 - front.length = run by omega]
  · have stem : locator.text = groupsText front ++ "::/48" := by
      rw [Locator.text, printed, String.append_assoc]
      rfl
    rw [serviceSIDFromLocator, if_pos ends, stem, trim_suffix_append, srv6SIDFunction, String.append_assoc, String.append_assoc]
    rfl

variable (front : List Nat) (shape : SidShape locator front)
include shape

theorem front_small (field : Nat) (member : field ∈ front) : field < 65536 := by
  apply locator.small
  rw [shape.fields]
  exact List.mem_append_left _ member

-- With a group in front, the SID is these groups, then 0x11.
theorem sid_read (present : front ≠ []) :
    parsePrefix (groupsText front ++ ":11::/64") = .ok ⟨.v6 (front ++ 0x11 :: List.replicate (7 - front.length) 0) [], 64⟩ := by
  have extended : groupsText front ++ ":11::/64" = groupsText (front ++ [0x11]) ++ "::/64" := by
    rw [groupsText, groupsText, List.map_append, join, join, String.intercalate_append_of_ne_nil (by simpa using present) (by simp),
      String.append_assoc, String.append_assoc]
    rfl
  have small (field : Nat) (member : field ∈ front ++ [0x11]) : field < 65536 := by
    cases List.mem_append.mp member with
    | inl inside => exact front_small locator front shape field inside
    | inr last => rw [List.mem_singleton.mp last]; omega
  obtain ⟨group, rest, written⟩ := List.exists_cons_of_ne_nil (show front ++ [0x11] ≠ [] by simp)
  have length : rest.length = front.length := by
    have lengths := congrArg List.length written
    rw [List.length_append, List.length_singleton, List.length_cons] at lengths
    omega
  have few := shape.few
  have address := groups_address group rest (by omega) (by rw [← written]; exact small)
  rw [← written, length] at address
  have chars : (groupsText (front ++ [0x11]) ++ "::/64").toList =
      ((groupsText (front ++ [0x11])).toList ++ [':', ':']) ++ '/' :: ['6', '4'] := by
    rw [String.toList_append, List.append_assoc]
    rfl
  rw [extended, parsePrefix, chars]
  refine (prefix_read_iff _ ['6', '4'] (by decide) _ 64).mpr ⟨?_, rfl, by decide, by decide, show (64 : Nat) ≤ 128 by omega, by decide⟩
  rw [address, List.append_assoc]
  rfl

omit shape in
theorem sid_present (pfx : Prefix) (read : parsePrefix (groupsText front ++ ":11::/64") = .ok pfx) : front ≠ [] := by
  intro empty
  rw [empty] at read
  have unread : (parsePrefix ":11::/64").toOption = none := by decide
  have answer : (parsePrefix ":11::/64").toOption = some pfx := congrArg Except.toOption read
  rw [unread] at answer
  cases answer

theorem inside_iff_shape : SidInside locator ↔
    front ≠ [] ∧ maskedAddr ⟨.v6 (front ++ 0x11 :: List.replicate (7 - front.length) 0) [], 48⟩ = maskedAddr ⟨.v6 locator.fields [], 48⟩ ∧
      (front ++ 0x11 :: List.replicate (7 - front.length) 0)[3]? = some 0x11 := by
  constructor
  · intro inside
    obtain ⟨sid, groups, derived, read, within, function⟩ := inside
    have same : sid = groupsText front ++ ":11::/64" := Except.ok.inj (derived.symm.trans shape.sid)
    subst same
    have present := sid_present front _ read
    have again := sid_read locator front shape present
    rw [read] at again
    cases again
    exact ⟨present, within, function⟩
  · intro parts
    obtain ⟨present, within, function⟩ := parts
    exact ⟨_, _, shape.sid, sid_read locator front shape present, within, function⟩

end Shape

theorem mask_rest (l : List Nat) (small : ∀ field ∈ l, field < 65536) : maskFields 16 0 l = List.replicate l.length 0 := by
  induction l with
  | nil => rfl
  | cons field rest ih =>
      have here : field / 65536 = 0 := Nat.div_eq_of_lt (small field (by simp))
      have later := ih (fun other member => small other (List.mem_cons_of_mem field member))
      simp [maskFields, here, later, List.replicate_succ]

theorem mask_48 (a b c : Nat) (l : List Nat) (small : ∀ field ∈ l, field < 65536) :
    maskedAddr ⟨.v6 (a :: b :: c :: l) [], 48⟩ = .v6 (a :: b :: c :: List.replicate l.length 0) [] := by
  rw [← mask_rest l small]
  simp [maskedAddr, maskFields]

-- Behind three written groups, the SID and the locator have the same first 48 bits.
theorem inside_48 (a b c : Nat) (behind : List Nat) (small : ∀ field ∈ behind, field < 65536) (few : behind.length ≤ 3) :
    maskedAddr ⟨.v6 (a :: b :: c :: behind ++ 0x11 :: List.replicate (7 - (a :: b :: c :: behind).length) 0) [], 48⟩ =
      maskedAddr ⟨.v6 (a :: b :: c :: behind ++ List.replicate (8 - (a :: b :: c :: behind).length) 0) [], 48⟩ := by
  have left (field : Nat) (member : field ∈ behind ++ 0x11 :: List.replicate (7 - (behind.length + 3)) 0) : field < 65536 := by
    rw [List.mem_append, List.mem_cons, List.mem_replicate] at member
    obtain inside | function | zero := member
    · exact small field inside
    · omega
    · omega
  have right (field : Nat) (member : field ∈ behind ++ List.replicate (8 - (behind.length + 3)) 0) : field < 65536 := by
    rw [List.mem_append, List.mem_replicate] at member
    cases member with
    | inl inside => exact small field inside
    | inr zero => omega
  simp only [List.length_cons, List.cons_append]
  rw [mask_48 a b c _ left, mask_48 a b c _ right]
  simp only [List.length_append, List.length_cons, List.length_replicate]
  rw [show behind.length + (7 - (behind.length + 3) + 1) = behind.length + (8 - (behind.length + 3)) by omega]

theorem sid_inside_iff (locator : Locator) (ends : hasSuffix locator.text "::/48" = true) :
    SidInside locator ↔ WritesNodeGroup locator := by
  obtain ⟨front, shape⟩ := sid_shape locator ends
  rw [inside_iff_shape locator front shape, WritesNodeGroup, shape.fields]
  have small := front_small locator front shape
  have few := shape.few
  have last := shape.last
  cases front with
  | nil => simp
  | cons a front =>
      cases front with
      | nil => simp [List.replicate]
      | cons b front =>
          cases front with
          | nil => simp [List.replicate]
          | cons c front =>
              have behind (field : Nat) (member : field ∈ front) : field < 65536 := small field (by simp [member])
              have within := inside_48 a b c front behind (by simp only [List.length_cons] at few; omega)
              simp only [List.length_cons] at within ⊢
              cases front with
              | nil =>
                  have nonzero : c ≠ 0 := by simpa using last
                  exact iff_of_true ⟨by simp, within, rfl⟩ (Or.inr ⟨by simpa using nonzero, by simp⟩)
              | cons d rest =>
                  -- The fourth group is written, and a written group is not followed by zeros only.
                  have more : ¬ (d :: rest ++ List.replicate (8 - (rest.length + 4)) 0 = List.replicate 5 0) := by
                    intro zeros
                    have each : ∀ field ∈ d :: rest, field = 0 := by
                      intro field member
                      have inside : field ∈ List.replicate 5 0 := by
                        rw [← zeros]
                        exact List.mem_append_left _ member
                      exact List.eq_of_mem_replicate inside
                    apply last
                    rw [show a :: b :: c :: d :: rest = [a, b, c] ++ (d :: rest) from rfl, List.getLast?_append_of_ne_nil _ (by simp),
                      List.getLast?_eq_some_getLast (by simp), each _ (List.getLast_mem (by simp))]
                  constructor
                  · intro parts
                    exact Or.inl parts.2.2
                  · intro written
                    cases written with
                    | inl function => exact ⟨by simp, within, function⟩
                    | inr ended => exact absurd ended.2 more

/- The last group of a SID that is not zero is 0x11, so the groups in front of it, and with
   them the locator, are read off the SID. -/
theorem fronts_equal (front other : List Nat) (few : front.length ≤ 6) (otherFew : other.length ≤ 6)
    (same : front ++ 0x11 :: List.replicate (7 - front.length) 0 = other ++ 0x11 :: List.replicate (7 - other.length) 0) :
    front = other := by
  have shorter (l m : List Nat) (room : m.length ≤ 6)
      (agree : l ++ 0x11 :: List.replicate (7 - l.length) 0 = m ++ 0x11 :: List.replicate (7 - m.length) 0) : m.length ≤ l.length := by
    by_contra below
    have entries := congrArg (fun groups => groups[m.length]?) agree
    simp only [List.getElem?_append_right (show l.length ≤ m.length by omega), List.getElem?_append_right (Nat.le_refl m.length),
      Nat.sub_self, List.getElem?_cons_zero] at entries
    rw [show m.length - l.length = (m.length - l.length - 1) + 1 by omega, List.getElem?_cons_succ] at entries
    have zero := List.eq_of_mem_replicate (List.mem_of_getElem? entries)
    omega
  have lengths : front.length = other.length :=
    le_antisymm (shorter other front few same.symm) (shorter front other otherFew same)
  exact (List.append_inj same lengths).1

theorem locators_apart (locator other : Locator) (ends : hasSuffix locator.text "::/48" = true)
    (otherEnds : hasSuffix other.text "::/48" = true) (sid otherSid : String) (derived : serviceSIDFromLocator locator.text = .ok sid)
    (otherDerived : serviceSIDFromLocator other.text = .ok otherSid) (same : sid = otherSid ∨ SamePrefix sid otherSid) :
    locator.text = other.text := by
  cases same with
  | inl texts =>
      rw [serviceSIDFromLocator, if_pos ends] at derived
      rw [serviceSIDFromLocator, if_pos otherEnds] at otherDerived
      have stems := (Except.ok.inj derived).trans (texts.trans (Except.ok.inj otherDerived).symm)
      rw [String.append_left_inj, String.append_left_inj, String.append_left_inj] at stems
      rw [← trim_suffix_back locator.text _ ends, ← trim_suffix_back other.text _ otherEnds, stems]
  | inr prefixes =>
      obtain ⟨pfx, read, otherRead⟩ := prefixes
      obtain ⟨front, shape⟩ := sid_shape locator ends
      obtain ⟨front', shape'⟩ := sid_shape other otherEnds
      rw [Except.ok.inj (derived.symm.trans shape.sid)] at read
      rw [Except.ok.inj (otherDerived.symm.trans shape'.sid)] at otherRead
      have made := sid_read locator front shape (sid_present front pfx read)
      have made' := sid_read other front' shape' (sid_present front' pfx otherRead)
      rw [read] at made
      rw [Except.ok.inj made, made'] at otherRead
      have groups : front' ++ 0x11 :: List.replicate (7 - front'.length) 0 = front ++ 0x11 :: List.replicate (7 - front.length) 0 := by
        simpa using otherRead
      have fronts := fronts_equal front front' shape.few shape'.few groups.symm
      rw [Locator.text, Locator.text, shape.fields, shape'.fields, fronts]

/- The SID of a locator lies inside it exactly when the locator's text writes three groups, or
   writes 0x11 as the fourth; two locators never share one. -/
theorem service_sid_in_locator_iff (locator : Locator) (ends : hasSuffix locator.text "::/48" = true) :
    (SidInside locator ↔ WritesNodeGroup locator) ∧
      ∀ other : Locator, hasSuffix other.text "::/48" = true → other.text ≠ locator.text → ∀ sid otherSid,
        serviceSIDFromLocator locator.text = .ok sid → serviceSIDFromLocator other.text = .ok otherSid →
        sid ≠ otherSid ∧ ¬ SamePrefix sid otherSid := by
  refine ⟨sid_inside_iff locator ends, ?_⟩
  intro other otherEnds distinct sid otherSid derived otherDerived
  have apart := locators_apart locator other ends otherEnds sid otherSid derived otherDerived
  exact ⟨fun same => distinct (apart (Or.inl same)).symm, fun same => distinct (apart (Or.inr same)).symm⟩

def leafLocator : Locator := ⟨[0xfcbb, 0xbbbb, 3, 0, 0, 0, 0, 0], by decide, by decide⟩

theorem leaf_sid_in_locator :
    leafLocator.text = "fcbb:bbbb:3::/48" ∧ (SidInside leafLocator ↔ WritesNodeGroup leafLocator) ∧ WritesNodeGroup leafLocator :=
  ⟨by decide, (service_sid_in_locator_iff leafLocator (by decide)).1, by unfold WritesNodeGroup; decide⟩

-- The third group of 2001:db8::/48 is zero and not written: 0x11 becomes the third group.
def documentationLocator : Locator := ⟨[0x2001, 0xdb8, 0, 0, 0, 0, 0, 0], by decide, by decide⟩

theorem documentation_sid_outside :
    documentationLocator.text = "2001:db8::/48" ∧ (serviceSIDFromLocator documentationLocator.text).toOption = some "2001:db8:11::/64" ∧
      hasSuffix documentationLocator.text "::/48" = true ∧ ¬ SidInside documentationLocator := by
  refine ⟨by decide, by decide, by decide, ?_⟩
  rw [sid_inside_iff documentationLocator (by decide)]
  unfold WritesNodeGroup
  decide

end AgenticNetops.Srv6service
