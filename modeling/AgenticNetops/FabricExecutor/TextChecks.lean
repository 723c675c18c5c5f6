import AgenticNetops.FabricExecutor.FrrConf
import AgenticNetops.Fabricplan.Attachments
import AgenticNetops.Lib.InnerText

set_option autoImplicit false

/- The checks and guards that look for a text in what a device prints: verifyOne for
   ip-addr and vtysh-contains, the guard of the SVI's address and that of the VNI's
   adoption. Each finds its text inside a longer one, too. -/
namespace AgenticNetops.FabricExecutor

open GoText InnerText Fabricplan Migration

section Code

structure VerifyResult where
  ok : Bool
  actual : String := ""
  error : Message := []
deriving DecidableEq, Repr

def neqContainsMsg (got want : String) : Message :=
  if contains got want then [] else [.lit "expected value to contain ", .quoted want, .lit ", got ", .quoted got]

-- grep -oF | head -n1 of a text without a line break.
def grepOnly (text printed : String) : String := if text ≠ "" ∧ grepFixed text printed then text ++ "\n" else ""

-- verifyOne for ip-addr, on what `ip -br addr show` prints of the interface.
def verifyIPAddr (addr : String) (answer : Except Message String) : VerifyResult :=
  match answer with
  | .error error => { ok := false, error }
  | .ok printed =>
      let got := trimSpace (grepOnly addr printed)
      { ok := got ≠ "", actual := got }

-- verifyOne for vtysh-contains, on what vtysh prints for the command.
def verifyVtyshContains (expect : String) (answer : Except Message String) : VerifyResult :=
  match answer with
  | .error error => { ok := false, error }
  | .ok printed =>
      let got := trimSpace printed
      { ok := contains got expect, actual := got, error := neqContainsMsg got expect }

def tenantVRF : String := "Tenant VRF: "

def routeDistinguisher : String := "RD: "

/- A text check with the value it is about. The guards are grep -q; a device VRF name
   has no character that is special to grep. -/
inductive TextCheck where
  | ipAddr (addr : String)
  | sviGuard (addr : String)
  | tenantVRF (vrf : String)
  | adoptionGuard (vrf : String)
  | rd (number : String)
deriving DecidableEq, Repr

-- The check passes, or the guard skips its command.
def TextCheck.passes (printed : String) : TextCheck → Bool
  | .ipAddr addr => (verifyIPAddr addr (.ok printed)).ok
  | .sviGuard addr => grepFixed addr printed
  | .tenantVRF vrf => (verifyVtyshContains (FabricExecutor.tenantVRF ++ vrf) (.ok printed)).ok
  | .adoptionGuard vrf => grepFixed (FabricExecutor.tenantVRF ++ vrf) printed
  | .rd number => (verifyVtyshContains (routeDistinguisher ++ number) (.ok printed)).ok

end Code

section Meaning

def lines (printed : String) : List (List Char) := printed.toList.splitOn '\n'

def words (line : List Char) : List (List Char) := (line.splitOnP isSpace).filter (!·.isEmpty)

-- A line of `ip -br addr` is the interface, its state and its addresses.
def Carries (printed addr : String) : Prop := ∃ line ∈ lines printed, addr.toList ∈ (words line).drop 2

instance (printed addr : String) : Decidable (Carries printed addr) := inferInstanceAs (Decidable (∃ line ∈ _, _))

def Says (printed text : String) : Prop := ∃ line ∈ lines printed, trimChars isSpace line = text.toList

instance (printed text : String) : Decidable (Says printed text) := inferInstanceAs (Decidable (∃ line ∈ _, _))

def TextCheck.value : TextCheck → String
  | .ipAddr addr | .sviGuard addr => addr
  | .tenantVRF vrf | .adoptionGuard vrf => vrf
  | .rd number => number

def TextCheck.Exact (printed : String) : TextCheck → Prop
  | .ipAddr addr | .sviGuard addr => Carries printed addr
  | .tenantVRF vrf | .adoptionGuard vrf => Says printed (FabricExecutor.tenantVRF ++ vrf)
  | .rd number => Says printed (routeDistinguisher ++ number)

-- Addresses, VRF names and route distinguishers have no blanks in them.
def Plain (value : String) : Prop := value ≠ "" ∧ Unseparated isSpace value.toList

-- No word that is printed has the address in it.
def NoWordHolds (printed addr : String) : Prop := ∀ line ∈ lines printed, ∀ word ∈ words line, ¬ addr.toList <:+: word

def NoLineHolds (printed text : String) : Prop := ∀ line ∈ lines printed, ¬ text.toList <:+: trimChars isSpace line

def TextCheck.Unmistakable (printed : String) : TextCheck → Prop
  | .ipAddr addr | .sviGuard addr => Carries printed addr ∨ NoWordHolds printed addr
  | .tenantVRF vrf | .adoptionGuard vrf =>
      Says printed (FabricExecutor.tenantVRF ++ vrf) ∨ NoLineHolds printed (FabricExecutor.tenantVRF ++ vrf)
  | .rd number => Says printed (routeDistinguisher ++ number) ∨ NoLineHolds printed (routeDistinguisher ++ number)

end Meaning

section Search

theorem contains_iff (text sub : String) : contains text sub = true ↔ sub.toList <:+: text.toList := by
  rw [contains, List.any_eq_true, List.infix_iff_prefix_suffix]
  simp only [List.mem_tails, List.isPrefixOf_iff_prefix]
  exact ⟨fun ⟨tail, suffix, starts⟩ => ⟨tail, starts, suffix⟩, fun ⟨tail, starts, suffix⟩ => ⟨tail, suffix, starts⟩⟩

-- A text that trimming leaves alone, wherever it stands.
def Edged (text : List Char) : Prop :=
  (∃ c rest, text = c :: rest ∧ isSpace c = false) ∧ ∃ front d, text = front ++ [d] ∧ isSpace d = false

theorem trim_iff (text inner : List Char) (edged : Edged inner) : inner <:+: trimChars isSpace text ↔ inner <:+: text := by
  obtain ⟨⟨c, rest, starts, kept⟩, front, d, ends, keptLast⟩ := edged
  exact infix_trim text inner isSpace c d front rest starts ends kept keptLast

theorem plain_present (value : String) (plain : Plain value) : value.toList ≠ [] :=
  fun none => plain.1 (String.toList_eq_nil_iff.mp none)

theorem plain_edged (value : String) (plain : Plain value) : Edged value.toList := by
  have present := plain_present value plain
  refine ⟨?_, value.toList.dropLast, value.toList.getLast present, (List.dropLast_append_getLast present).symm,
    plain.2 _ (List.getLast_mem present)⟩
  obtain ⟨c, rest, starts⟩ := List.exists_cons_of_ne_nil present
  exact ⟨c, rest, starts, plain.2 c (starts ▸ List.mem_cons_self)⟩

theorem plain_no_break (value : String) (plain : Plain value) : Unseparated (· == '\n') value.toList := by
  intro c member
  rw [beq_eq_false_iff_ne]
  intro same
  have blank := plain.2 c member
  rw [same] at blank
  exact absurd blank (by decide)

-- What grep finds in the output of a device, it finds in one of the words.
theorem grep_word_iff (printed addr : String) (plain : Plain addr) : grepFixed addr printed ↔ ¬ NoWordHolds printed addr := by
  have present := plain_present addr plain
  have each : ∀ line : List Char, addr.toList <:+: line ↔ ∃ word ∈ words line, addr.toList <:+: word := by
    intro line
    rw [infix_piece_iff isSpace line addr.toList present plain.2]
    refine exists_congr fun word => ?_
    rw [words, List.mem_filter]
    refine ⟨fun ⟨member, inside⟩ => ⟨⟨member, ?_⟩, inside⟩, fun ⟨⟨member, _⟩, inside⟩ => ⟨member, inside⟩⟩
    have nonempty := inside.ne_nil present
    simp [nonempty]
  rw [grepFixed, infix_piece_iff (· == '\n') printed.toList addr.toList present (plain_no_break addr plain), NoWordHolds, lines,
    List.splitOn]
  simp only [not_forall, not_not, exists_prop]
  exact exists_congr fun line => and_congr_right fun _ => each line

-- A label, begun by a letter and free of line breaks, with a value behind it.
structure Label (label : String) : Prop where
  starts : ∃ c rest, label.toList = c :: rest ∧ isSpace c = false
  unbroken : Unseparated (· == '\n') label.toList

theorem label_of (label : String) (c : Char) (rest : List Char) (starts : label.toList = c :: rest) (kept : isSpace c = false)
    (unbroken : '\n' ∉ label.toList) : Label label :=
  ⟨⟨c, rest, starts, kept⟩, fun _ member => beq_eq_false_iff_ne.mpr fun same => unbroken (same ▸ member)⟩

theorem tenant_label : Label tenantVRF := label_of tenantVRF 'T' _ rfl (by decide) (by decide)

theorem rd_label : Label routeDistinguisher := label_of routeDistinguisher 'R' _ rfl (by decide) (by decide)

theorem labelled_edged (label value : String) (labelled : Label label) (plain : Plain value) : Edged (label ++ value).toList := by
  obtain ⟨c, rest, starts, kept⟩ := labelled.starts
  obtain ⟨_, front, d, ends, keptLast⟩ := plain_edged value plain
  refine ⟨⟨c, rest ++ value.toList, ?_, kept⟩, label.toList ++ front, d, ?_, keptLast⟩
  · rw [String.toList_append, starts, List.cons_append]
  · rw [String.toList_append, ends, List.append_assoc]

-- A label with its value is in the output exactly where it is in a trimmed line.
theorem line_holds_iff (printed label value : String) (labelled : Label label) (plain : Plain value) :
    grepFixed (label ++ value) printed ↔ ¬ NoLineHolds printed (label ++ value) := by
  have edged := labelled_edged label value labelled plain
  have present : (label ++ value).toList ≠ [] := by
    obtain ⟨⟨c, rest, starts, _⟩, _⟩ := edged
    rw [starts]
    exact List.cons_ne_nil c rest
  have unbroken : Unseparated (· == '\n') (label ++ value).toList := by
    intro e member
    rw [String.toList_append, List.mem_append] at member
    exact member.elim (labelled.unbroken e) (plain_no_break value plain e)
  rw [grepFixed, infix_piece_iff (· == '\n') printed.toList _ present unbroken, NoLineHolds, lines, List.splitOn]
  simp only [not_forall, not_not, exists_prop]
  exact exists_congr fun line => and_congr_right fun _ => (trim_iff line _ edged).symm

end Search

section Exactness

theorem ip_addr_finds (printed addr : String) (plain : Plain addr) :
    (verifyIPAddr addr (.ok printed)).ok = true ↔ grepFixed addr printed := by
  have stays : trimSpace (addr ++ "\n") ≠ "" := by
    intro none
    have trimmed : addr.toList <:+: trimChars isSpace (addr ++ "\n").toList := by
      rw [trim_iff _ _ (plain_edged addr plain), String.toList_append]
      exact (List.prefix_append _ _).isInfix
    have empty : trimChars isSpace (addr ++ "\n").toList = [] := by
      have chars := congrArg String.toList none
      rwa [trimSpace, String.toList_ofList] at chars
    rw [empty] at trimmed
    exact plain_present addr plain (List.eq_nil_of_infix_nil trimmed)
  rw [verifyIPAddr, grepOnly]
  by_cases found : grepFixed addr printed
  · simp [found, plain.1, stays]
  · simp [found, trimSpace, trimChars]

theorem vtysh_finds (printed label value : String) (labelled : Label label) (plain : Plain value) :
    (verifyVtyshContains (label ++ value) (.ok printed)).ok = true ↔ grepFixed (label ++ value) printed := by
  rw [verifyVtyshContains, contains_iff, trimSpace, String.toList_ofList, trim_iff _ _ (labelled_edged label value labelled plain),
    grepFixed]

-- What a check finds is one of two things, or it cannot be mistaken.
theorem exact_or_nothing (passes exact absent : Prop) (found : passes ↔ ¬ absent) : (passes → exact) ↔ exact ∨ absent := by
  rw [found, imp_iff_not_or, not_not, or_comm]

theorem text_checks_exact_iff (printed : String) (check : TextCheck) (plain : Plain check.value) :
    (check.passes printed = true → check.Exact printed) ↔ check.Unmistakable printed := by
  cases check with
  | ipAddr addr =>
      exact exact_or_nothing _ _ _ ((ip_addr_finds printed addr plain).trans (grep_word_iff printed addr plain))
  | sviGuard addr => exact exact_or_nothing _ _ _ (decide_eq_true_iff.trans (grep_word_iff printed addr plain))
  | tenantVRF vrf =>
      exact exact_or_nothing _ _ _ ((vtysh_finds printed _ vrf tenant_label plain).trans (line_holds_iff printed _ vrf tenant_label plain))
  | adoptionGuard vrf => exact exact_or_nothing _ _ _ (decide_eq_true_iff.trans (line_holds_iff printed _ vrf tenant_label plain))
  | rd number =>
      exact exact_or_nothing _ _ _ ((vtysh_finds printed _ number rd_label plain).trans (line_holds_iff printed _ number rd_label plain))

-- What FRR prints of an L3VNI that it has adopted.
def blueVNI : String := "VNI: 10020 (known to the kernel)\n  Type: L3\n  Tenant VRF: Vrf-blue\n  RD: 65000:10020\n"

theorem blue_vrf_exact : (TextCheck.tenantVRF "Vrf-blue").passes blueVNI = true ∧ (TextCheck.tenantVRF "Vrf-blue").Exact blueVNI := by
  have passed : (TextCheck.tenantVRF "Vrf-blue").passes blueVNI = true := by
    decide +kernel
  exact ⟨passed, (text_checks_exact_iff blueVNI (.tenantVRF "Vrf-blue") ⟨by decide, unseparated_of_all isSpace _ (by decide)⟩).mpr
    (Or.inl (by decide +kernel)) passed⟩

-- The SVI of 110.0.0.0/24 in place of that of 10.0.0.0/24.
def otherSVI : String := "Vlan4011@Bridge   UP             110.0.0.1/24 fe80::5054:ff:fe12:3456/64 \n"

theorem longer_address_passes : ¬ ∀ (printed : String) (check : TextCheck), Plain check.value →
    check.passes printed = true → check.Exact printed := by
  intro exact
  have plain : Plain "10.0.0.1/24" := ⟨by decide, unseparated_of_all isSpace _ (by decide)⟩
  have skipped : (TextCheck.sviGuard "10.0.0.1/24").passes otherSVI = true := by
    decide +kernel
  have carried : Carries otherSVI "10.0.0.1/24" := exact otherSVI (.sviGuard "10.0.0.1/24") plain skipped
  exact absurd carried (by decide +kernel)

end Exactness

section Values

-- An IPv4 address with its length, in pieces.
structure DottedPrefix where
  a : List Char
  b : List Char
  c : List Char
  d : List Char
  bits : List Char
  free : ∀ piece ∈ [a, b, c, d, bits], '.' ∉ piece ∧ '/' ∉ piece

def DottedPrefix.text (p : DottedPrefix) : List Char := p.a ++ '.' :: (p.b ++ '.' :: (p.c ++ '.' :: (p.d ++ '/' :: p.bits)))

theorem dotted_counts (p : DottedPrefix) : p.text.count '.' = 3 ∧ p.text.count '/' = 1 := by
  have none : ∀ piece ∈ [p.a, p.b, p.c, p.d, p.bits], piece.count '.' = 0 ∧ piece.count '/' = 0 := fun piece member =>
    ⟨List.count_eq_zero.mpr (p.free piece member).1, List.count_eq_zero.mpr (p.free piece member).2⟩
  simp only [List.forall_mem_cons] at none
  obtain ⟨a, b, c, d, bits, _⟩ := none
  simp [DottedPrefix.text, List.count_append, a, b, c, d, bits]

/- One address is inside another exactly where the last three octets are the same, the
   first octet ends as the one looked for, and the length begins as its length. -/
theorem dotted_inside_iff (p q : DottedPrefix) :
    p.text <:+: q.text ↔ (p.a <:+ q.a ∧ p.b = q.b ∧ p.c = q.c ∧ p.d = q.d ∧ p.bits <+: q.bits) := by
  have pFree := p.free
  have qFree := q.free
  simp only [List.forall_mem_cons] at pFree qFree
  obtain ⟨pa, pb, pc, pd, _, _⟩ := pFree
  obtain ⟨qa, qb, qc, qd, _, _⟩ := qFree
  refine ⟨fun ⟨front, back, whole⟩ => ?_, fun ⟨⟨front, first⟩, second, third, fourth, back, last⟩ => ⟨front, back, ?_⟩⟩
  · have dots := congrArg (List.count '.') whole
    rw [List.count_append, List.count_append, (dotted_counts p).1, (dotted_counts q).1] at dots
    have frontFree : '.' ∉ front ++ p.a := by
      rw [List.mem_append, not_or]
      exact ⟨List.count_eq_zero.mp (by omega), pa.1⟩
    simp only [DottedPrefix.text, List.append_assoc, List.cons_append] at whole
    rw [← List.append_assoc] at whole
    obtain ⟨first, whole⟩ := cut_unique '.' _ _ _ _ frontFree qa.1 whole
    obtain ⟨second, whole⟩ := cut_unique '.' _ _ _ _ pb.1 qb.1 whole
    obtain ⟨third, whole⟩ := cut_unique '.' _ _ _ _ pc.1 qc.1 whole
    obtain ⟨fourth, last⟩ := cut_unique '/' _ _ _ _ pd.2 qd.2 whole
    exact ⟨⟨front, first⟩, second, third, fourth, back, last⟩
  · simp only [DottedPrefix.text, ← first, second, third, fourth, ← last, List.append_assoc, List.cons_append]

theorem space_not_named (c : Char) (named : isDeviceNameChar c = true) : isSpace c = false := by
  rw [Bool.eq_false_iff]
  intro space
  have listed : c ∈ [' ', '\t', '\n', '\x0b', '\x0c', '\r', Char.ofNat 0x85, Char.ofNat 0xA0] := by
    simp only [isSpace, Bool.or_eq_true, decide_eq_true_eq] at space
    have code : c = Char.ofNat c.toNat := (Char.ofNat_toNat c).symm
    rcases space with ((((((rfl | rfl) | rfl) | rfl) | rfl) | rfl) | high) | high
    · decide
    · decide
    · decide
    · decide
    · decide
    · decide
    · rw [code, high]
      decide
    · rw [code, high]
      decide
  have outside := List.all_eq_true.mp (by decide : List.all [' ', '\t', '\n', '\x0b', '\x0c', '\r', Char.ofNat 0x85,
    Char.ofNat 0xA0] fun c => !isDeviceNameChar c) c listed
  rw [named] at outside
  exact Bool.noConfusion outside

theorem device_vrf_chars (name vrf : String) (derived : deviceVRFName name = .ok vrf) :
    vrf.toList = "Vrf-".toList ++ vrfStem name := by
  rw [(device_vrf_name name vrf derived).1, String.toList_append]
  exact congrArg ("Vrf-".toList ++ ·) String.toList_ofList

theorem device_vrf_plain (name vrf : String) (derived : deviceVRFName name = .ok vrf) : Unseparated isSpace vrf.toList := by
  rw [device_vrf_chars name vrf derived]
  intro c member
  rw [List.mem_append] at member
  cases member with
  | inl fixed => exact unseparated_of_all isSpace "Vrf-".toList (by decide) c fixed
  | inr stem =>
      have kept : c ∈ sanitize (stripVRF name.toList) := List.mem_of_mem_take stem
      rw [sanitize, List.mem_filter] at kept
      exact space_not_named c kept.2

-- The check of one service's VRF finds the VRF of another whose name goes on from it.
theorem tenant_line_iff (name other vrf vrf' : String) (derived : deviceVRFName name = .ok vrf)
    (derived' : deviceVRFName other = .ok vrf') :
    grepFixed (tenantVRF ++ vrf) ("  " ++ (tenantVRF ++ vrf')) ↔ vrfStem name <+: vrfStem other := by
  have tenant : Unseparated isSpace ('T' :: "enant".toList) := unseparated_of_all isSpace _ (by decide)
  have indented : ∀ d ∈ "  ".toList, isSpace d = true := fun d member =>
    List.all_eq_true.mp (by decide : "  ".toList.all isSpace) d member
  have goesOn := labelled_inside_iff isSpace "  ".toList tenantVRF.toList vrf.toList vrf'.toList 'T' "enant".toList "VRF: ".toList ' '
    rfl indented tenant (by decide) (device_vrf_plain name vrf derived) (device_vrf_plain other vrf' derived')
  rw [grepFixed, String.toList_append, String.toList_append, String.toList_append, goesOn, device_vrf_chars name vrf derived,
    device_vrf_chars other vrf' derived', List.prefix_append_right_inj]

end Values

end AgenticNetops.FabricExecutor
