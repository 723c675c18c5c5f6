import AgenticNetops.Api.SRv6Service

set_option autoImplicit false

/- The creation rules A1 to A10 and the bounds that api/v1alpha1 puts on an
   SRv6Service. An absent field is the empty one: a field that is there and empty breaks
   its own minimum, so no admitted object has one. -/
namespace AgenticNetops.Api

def isLabelEdge (c : Char) : Bool := ('a' ≤ c && c ≤ 'z') || ('0' ≤ c && c ≤ '9')

def isLabelChar (c : Char) : Bool := isLabelEdge c || c = '-'

-- ^[a-z0-9]([-a-z0-9]*[a-z0-9])?$
def isDNSLabel (s : String) : Bool :=
  s.toList.all isLabelChar && s.toList.head?.any isLabelEdge && s.toList.getLast?.any isLabelEdge

def isDecimal (c : Char) : Bool := '0' ≤ c && c ≤ '9'

def isAddressChar (c : Char) : Bool :=
  isDecimal c || ('a' ≤ c && c ≤ 'f') || ('A' ≤ c && c ≤ 'F') || c = ':' || c = '.'

-- ^[0-9a-fA-F:.]+/[0-9]{1,3}$
def isGatewayPrefix (g : String) : Bool :=
  let address := g.toList.takeWhile (· ≠ '/')
  match g.toList.dropWhile (· ≠ '/') with
  | [] => false
  | _ :: digits =>
      !address.isEmpty && address.all isAddressChar && !digits.isEmpty && digits.all isDecimal && decide (digits.length ≤ 3)

structure AdmittedAttachment (a : Attachment) : Prop where
  node : a.node ≠ ""
  port : a.port ≠ ""
  few : a.gateway.length ≤ 4
  prefixes : ∀ g ∈ a.gateway, isGatewayPrefix g ∧ 3 ≤ g.length ∧ g.length ≤ 45

structure Admitted (spec : SRv6ServiceSpec) : Prop where
  tenant : isDNSLabel spec.tenant ∧ spec.tenant.length ≤ 63
  construct : spec.construct = constructIPVRF ∨ spec.construct = constructMACVRF
  signalling : spec.signalling = "" ∨ spec.signalling = signallingVPN ∨ spec.signalling = signallingEVPN
  bridged : ¬ (spec.construct = constructMACVRF ∧ spec.signalling = signallingVPN)
  twoNodes : ∃ a b, spec.attachments = [a, b] ∧ a.node ≠ b.node
  attachments : ∀ a ∈ spec.attachments, AdmittedAttachment a
  vlan : (∃ vlan ∈ spec.vlan, 1 ≤ vlan ∧ vlan ≤ 4094) ↔ spec.construct = constructMACVRF
  vlanBound : ∀ vlan ∈ spec.vlan, 1 ≤ vlan ∧ vlan ≤ 4094
  gateways : spec.construct = constructIPVRF → ∀ a ∈ spec.attachments, a.gateway ≠ []
  spines : spec.path.preferredSpine ≠ "" → spec.path.alternateSpine ≠ "" →
    spec.path.preferredSpine ≠ spec.path.alternateSpine

-- The shortest text that the pattern lets through has one digit on each side.
theorem gateway_prefix_length (g : String) (shaped : isGatewayPrefix g) : 3 ≤ g.length := by
  have parts : g.toList.takeWhile (· ≠ '/') ++ g.toList.dropWhile (· ≠ '/') = g.toList := List.takeWhile_append_dropWhile
  unfold isGatewayPrefix at shaped
  cases rest : g.toList.dropWhile (· ≠ '/') with
  | nil =>
      rw [rest] at shaped
      cases shaped
  | cons slash digits =>
      rw [rest] at shaped parts
      simp only [Bool.and_eq_true, Bool.not_eq_true', List.isEmpty_eq_false_iff] at shaped
      obtain ⟨⟨⟨⟨address, _⟩, tail⟩, _⟩, _⟩ := shaped
      have left := List.length_pos_iff.mpr address
      have right := List.length_pos_iff.mpr tail
      have total := congrArg List.length parts
      rw [List.length_append, List.length_cons, String.length_toList] at total
      omega

end AgenticNetops.Api
