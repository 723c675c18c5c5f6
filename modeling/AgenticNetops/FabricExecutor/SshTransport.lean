import AgenticNetops.Lib.ShellWords

set_option autoImplicit false

/- cmd/fabric-executor/transport_ssh.go: the one command line that a remote
   command travels as, and how the remote shell reads it. -/
namespace AgenticNetops.FabricExecutor

open Utf8 ShellWords

def safeMarks : List Nat := "_-=/,.:+@%^".toList.map Char.toNat

def unsafeRemoteRune (r : Nat) : Bool :=
  if ('a'.toNat ≤ r ∧ r ≤ 'z'.toNat) ∨ ('A'.toNat ≤ r ∧ r ≤ 'Z'.toNat) ∨ ('0'.toNat ≤ r ∧ r ≤ '9'.toNat) then false
  else decide (r ∉ safeMarks)

-- Each ' of the element becomes '\'': the quotation is closed, a quote stands
-- for itself, and the quotation is opened again.
def escapeQuotes (a : Bytes) : Bytes :=
  a.flatMap (fun byte => if byte = singleQuote then [singleQuote, backslash, singleQuote, singleQuote] else [byte])

def remotePart (a : Bytes) : Bytes :=
  if a ≠ [] ∧ (runes a).any unsafeRemoteRune = false then a
  else [singleQuote] ++ escapeQuotes a ++ [singleQuote]

def sshRemoteJoin (argv : List Bytes) : Bytes := List.intercalate [blank] (argv.map remotePart)

theorem safe_rune_range (r : Nat) (safe : unsafeRemoteRune r = false) : r < 0x80 := by
  have marks : safeMarks.all (· < 0x80) = true := by decide
  rw [unsafeRemoteRune] at safe
  split at safe
  · rename_i letter
    have lower : 'z'.toNat = 122 := rfl
    have upper : 'Z'.toNat = 90 := rfl
    have digit : '9'.toNat = 57 := rfl
    omega
  · have listed : r ∈ safeMarks := by simpa using safe
    exact of_decide_eq_true (List.all_eq_true.mp marks r listed)

/- The safe set holds no byte that the shell reads otherwise than as itself. -/
theorem safe_byte_plain (byte : UInt8) (safe : unsafeRemoteRune byte.toNat = false) : Plain byte := by
  have checked : (List.range 256).all (fun n => unsafeRemoteRune n || decide (Plain (UInt8.ofNat n))) = true := by
    decide +kernel
  have here := List.all_eq_true.mp checked byte.toNat (List.mem_range.mpr byte.toNat_lt)
  rw [safe, Bool.false_or, UInt8.ofNat_toNat] at here
  exact of_decide_eq_true here

theorem safe_text_plain (a : Bytes) (safe : (runes a).any unsafeRemoteRune = false) : ∀ byte ∈ a, Plain byte := by
  have each : ∀ r ∈ runes a, unsafeRemoteRune r = false := by
    intro r listed
    exact Bool.eq_false_iff.mpr (List.any_eq_false.mp safe r listed)
  have bytes := runes_ascii a (fun r listed => safe_rune_range r (each r listed))
  intro byte listed
  apply safe_byte_plain
  apply each
  rw [bytes]
  exact List.mem_map_of_mem listed

/- What stands between the quotes is read byte by byte as the element. -/
theorem escaped_tokens (a : Bytes) (nulFree : 0 ∉ a) (text rest : Bytes) :
    tokensFrom (.single text) (escapeQuotes a ++ singleQuote :: rest) =
      tokensFrom (.outside (some (text ++ a)) false) rest := by
  induction a generalizing text with
  | nil =>
      rw [List.append_nil]
      rfl
  | cons byte behind inner =>
      have notNul : byte ≠ 0 := fun same => nulFree (same ▸ List.mem_cons_self)
      have later := inner (fun listed => nulFree (List.mem_cons_of_mem _ listed)) (text ++ [byte])
      rw [List.append_assoc] at later
      by_cases quote : byte = singleQuote
      · have spelled : escapeQuotes (byte :: behind) =
            [singleQuote, backslash, singleQuote, singleQuote] ++ escapeQuotes behind := by
          rw [escapeQuotes, List.flatMap_cons, if_pos quote]
          rfl
        rw [spelled]
        refine Eq.trans ?_ later
        rw [quote]
        rfl
      · have spelled : escapeQuotes (byte :: behind) = byte :: escapeQuotes behind := by
          rw [escapeQuotes, List.flatMap_cons, if_neg quote]
          rfl
        rw [spelled, List.cons_append, tokensFrom, single_step text byte notNul quote]
        exact later

theorem part_spells (a : Bytes) (nulFree : 0 ∉ a) : Spells (remotePart a) a := by
  intro rest
  by_cases safe : a ≠ [] ∧ (runes a).any unsafeRemoteRune = false
  · rw [remotePart, if_pos safe]
    exact plain_tokens a (safe_text_plain a safe.2) none true rest safe.1
  · refine ⟨false, ?_⟩
    have opened : tokensFrom start (remotePart a ++ rest) =
        tokensFrom (.single []) (escapeQuotes a ++ singleQuote :: rest) := by
      rw [remotePart, if_neg safe]
      simp only [List.cons_append, List.append_assoc, tokensFrom, start, open_step]
      rfl
    rw [opened]
    exact escaped_tokens a nulFree [] rest

theorem ssh_words_back (argv : List Bytes) (nulFree : ∀ argument ∈ argv, 0 ∉ argument) :
    tokens (sshRemoteJoin argv) = argv.map Token.word := by
  apply joined_tokens
  induction argv with
  | nil => exact List.Forall₂.nil
  | cons a others inner =>
      exact List.Forall₂.cons (part_spells a (nulFree a List.mem_cons_self))
        (inner (fun argument listed => nulFree argument (List.mem_cons_of_mem _ listed)))

def ascii (text : String) : Bytes := text.toList.map Char.toUInt8

theorem lab_command_back : tokens (sshRemoteJoin [ascii "bash", ascii "-c", ascii "echo ~ 'a b' | grep -c x #", []]) =
    [.word (ascii "bash"), .word (ascii "-c"), .word (ascii "echo ~ 'a b' | grep -c x #"), .word []] :=
  ssh_words_back [ascii "bash", ascii "-c", ascii "echo ~ 'a b' | grep -c x #", []] (by decide)

end AgenticNetops.FabricExecutor
