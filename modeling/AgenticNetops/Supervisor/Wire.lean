import AgenticNetops.Common.RedactionStable
import AgenticNetops.Lib.InnerText
import AgenticNetops.Lib.JsonText
import AgenticNetops.Lib.RegexFirst
import Mathlib.Data.List.DropRight

set_option autoImplicit false

/- The wire between the supervisor and its workers. A payload goes out in a fenced block
   (prompts/system.py; the allocator and deployer/submit.py read it) and comes back in a
   message (the workers' summaries with a marker; graph.py extract_payload_and_text). -/
namespace AgenticNetops.Supervisor.Wire

open Regex PyText JsonValue JsonText GoText NetIP Common

-- A dict that json writes, its keys in the order in which they are written.
structure Payload where
  fields : List (String × Json)
  distinct : Distinct (.obj fields)

def Payload.json (payload : Payload) : Json := .obj payload.fields

def Payload.written (payload : Payload) : List Char := dumps payload.json

-- `new_request_nonce`
structure Nonce where
  digits : List Char
  hex : ∀ c ∈ digits, (hexValue c).isSome = true

section Outward

def openFence (kind : String) (nonce : Nonce) : List Char :=
  "<<<DATA ".toList ++ (kind.toList ++ (" nonce=".toList ++ (nonce.digits ++ " >>>".toList)))

def closeFence (kind : String) (nonce : Nonce) : List Char :=
  "<<<END_DATA ".toList ++ (kind.toList ++ (" nonce=".toList ++ (nonce.digits ++ " >>>".toList)))

def wrapped (kind : String) (block : List Char) (nonce : Nonce) : List Char :=
  openFence kind nonce ++ '\n' :: (block ++ '\n' :: closeFence kind nonce)

def wrapWorkerText (block : List Char) (nonce : Nonce) : List Char := wrapped "worker_text" block nonce

-- [^>]*
def attributes : Pattern := .many true (.char fun c => c ≠ '>')

def fenceEnd : Pattern := exact "\n<<<END_DATA worker_text" ++ (attributes ++ exact ">>>")

-- DATA_FENCE_RE, and the same in the allocator. Under re.DOTALL a dot is any character.
def dataFence : Pattern :=
  exact "<<<DATA worker_text" ++ (attributes ++ (exact ">>>\n" ++ (.group "1" (.many false (.char fun _ => true)) ++ fenceEnd)))

-- What a worker takes for the payload's text.
def unfenced (content : List Char) : List Char :=
  match search dataFence content with
  | some found => (found.group "1").getD []
  | none => content

def received (content : List Char) : Option Json := loads (unfenced content)

end Outward

section Homeward

inductive Part where
  | data (fields : List (String × Json))
  | text (words : List Char)
deriving DecidableEq, Repr

-- The forms that a worker's answer comes in.
inductive Reply where
  | rpcError (code message : String)
  | message (parts : List Part)
  | dict (fields : List (String × Json))
  | text (words : List Char)
deriving DecidableEq, Repr

def dictPart : Json → List Part
  | .obj part =>
      (match part.lookup "data" with
        | some (.obj fields) => [.data fields]
        | _ => []) ++
      match part.lookup "text" with
        | some (.str words) => [.text words.toList]
        | _ => []
  | _ => []

def iterWorkerParts : Reply → Except String (List Part)
  | .rpcError code message => .error ("A2A JSON-RPC error (code=" ++ code ++ "): " ++ message)
  | .message parts => .ok parts
  | .dict fields =>
      match fields.lookup "parts" with
      | some (.arr parts) => .ok (parts.flatMap dictPart)
      | _ => .ok [.data fields]
  | .text words => .ok [.text words]

def Part.data? : Part → Option (List (String × Json))
  | .data fields => some fields
  | .text _ => none

def Part.text? : Part → Option (List Char)
  | .data _ => none
  | .text words => some words

def markerPattern (marker : String) : Pattern :=
  exact "<!--" ++ (.many true blank ++ (exact marker ++ (.many true blank ++ (exact ":" ++
    (.many true blank ++ (.group "1" (.many false (.char fun _ => true)) ++ exact "-->"))))))

def objectIn : Option Json → Option (List (String × Json))
  | some (.obj fields) => some fields
  | _ => none

def markedPayload (marker : String) (words : List Char) : Option (List (String × Json)) :=
  (search (markerPattern marker) words).bind fun found => objectIn (loads (trimChars isBlank ((found.group "1").getD [])))

-- The first data part counts; without one, the marker in the text does.
def extractPayloadAndText (reply : Reply) (marker : String) : Except String (Option (List (String × Json)) × List Char) :=
  (iterWorkerParts reply).map fun parts =>
    let words := List.intercalate ['\n'] (parts.filterMap Part.text?)
    ((parts.findSome? Part.data?).or (markedPayload marker words), words)

-- The markers that the workers and the supervisor share.
inductive Worker where
  | mapper
  | allocator
  | deployer
deriving DecidableEq, Repr

def Worker.marker : Worker → String
  | .mapper => "MAPPED_JSON"
  | .allocator => "DEPLOYMENT_JSON"
  | .deployer => "SUBMISSION_JSON"

def formatSummaryWithMarker (worker : Worker) (summary : List Char) (payload : Payload) : List Char :=
  trimChars isBlank summary ++
    ("\n<!-- ".toList ++ (worker.marker.toList ++ (": ".toList ++ (payload.written ++ " -->".toList))))

end Homeward

section Lines

theorem hex_plain (c : Char) (hex : (hexValue c).isSome = true) : c ≠ '>' := by
  intro is
  rw [is] at hex
  cases hex

theorem unit_line (unit : Nat) : '\n' ∉ unitText unit := by
  have digits : '\n' ∉ hexDigits 4 unit := by
    have each : ∀ value, '\n' ≠ hexDigit value := by
      intro value is
      have read := hex_value_digit value
      rw [← is] at read
      cases read
    simp [hexDigits, each]
  rw [unitText]
  split_ifs with quote slash newline return' tab feed back plain
  · decide
  · decide
  · decide
  · decide
  · decide
  · decide
  · decide
  · intro member
    have code := congrArg Char.toNat (List.mem_singleton.mp member)
    rw [plain_char unit plain.1 plain.2] at code
    exact newline code.symm
  · intro member
    cases List.mem_cons.mp member with
    | inl first => cases first
    | inr later =>
        cases List.mem_cons.mp later with
        | inl second => cases second
        | inr hex => exact digits hex

theorem quoted_line (text : String) : '\n' ∉ quoted text := by
  intro member
  rw [quoted, List.cons_append, List.mem_cons, List.mem_append] at member
  obtain first | inside | last := member
  · cases first
  · obtain ⟨unit, _, within⟩ := List.mem_flatMap.mp inside
    exact unit_line unit within
  · cases List.mem_singleton.mp last

theorem number_line (value : Int) : '\n' ∉ numberText value := by
  have digits : '\n' ∉ Nat.toDigits 10 value.natAbs := by
    intro member
    cases digit_of_mem _ _ member
  rw [numberText]
  split_ifs with negative
  · intro member
    cases List.mem_cons.mp member with
    | inl first => cases first
    | inr later => exact digits later
  · exact digits

mutual

theorem dumps_line (value : Json) : '\n' ∉ dumps value := by
  cases value with
  | null => decide
  | bool value => cases value <;> decide
  | num value => exact number_line value
  | str text => exact quoted_line text
  | arr items =>
      have inner := items_line items
      simp [dumps, inner]
  | obj fields =>
      have inner := fields_line fields
      simp [dumps, inner]

theorem items_line (items : List Json) : '\n' ∉ dumpsItems items := by
  cases items with
  | nil => decide
  | cons item later =>
      have first := dumps_line item
      cases later with
      | nil => exact first
      | cons next others =>
          have rest := items_line (next :: others)
          simp [dumpsItems, first, rest]

theorem fields_line (fields : List (String × Json)) : '\n' ∉ dumpsFields fields := by
  cases fields with
  | nil => decide
  | cons field later =>
      obtain ⟨key, value⟩ := field
      have name := quoted_line key
      have first := dumps_line value
      cases later with
      | nil => simp [dumpsFields, name, first]
      | cons next others =>
          obtain ⟨nextKey, nextValue⟩ := next
          have rest := fields_line ((nextKey, nextValue) :: others)
          simp [dumpsFields, name, first, rest]

end

-- A substitution that cuts its matches only puts its mark in their place.
theorem pieces_line (marked : List Char) (pieces : List Regex.Piece) (line : '\n' ∉ readAll pieces) (plain : '\n' ∉ marked) :
    '\n' ∉ writeAll marked pieces := by
  intro member
  obtain ⟨piece, isPiece, within⟩ := List.mem_flatMap.mp member
  cases piece with
  | kept free c => exact line (List.mem_flatMap.mpr ⟨_, isPiece, within⟩)
  | cut old => exact plain within

theorem cuts_line (pattern : Pattern) (replacement : Match → List Char) (marked : List Char)
    (holds : List Char → Regex.Piece → List Regex.Piece → Prop)
    (cuts : CutsInto pattern replacement marked holds) (plain : '\n' ∉ marked) (block : List Char) (line : '\n' ∉ block) :
    '\n' ∉ sub pattern replacement block := by
  obtain ⟨pieces, isRead, isWritten, _⟩ := sub_pieces pattern replacement marked holds cuts block
  rw [← isWritten]
  exact pieces_line marked pieces (isRead ▸ line) plain

theorem redact_line (table : CharTable) (block : List Char) (line : '\n' ∉ block) : '\n' ∉ redact table block := by
  have each : ∀ entry ∈ credentialPatterns table, ∀ block : List Char, '\n' ∉ block → '\n' ∉ sub entry.1 entry.2 block := by
    intro entry member block line
    have shape : credentialPatterns table =
        (pemBlock, fun _ => redactedPEM.toList) :: (urlPassword, keepLabelAndHost) :: kindEntries table := rfl
    rw [shape] at member
    cases List.mem_cons.mp member with
    | inl pem =>
        rw [pem]
        exact cuts_line pemBlock _ redactedPEM.toList _ (pem_cuts table) (by decide) block line
    | inr others =>
        cases List.mem_cons.mp others with
        | inl url =>
            rw [url]
            exact cuts_line urlPassword _ mark _ (url_safe table).cuts (by decide) block line
        | inr other =>
            obtain ⟨holds, safe⟩ := kind_safe table entry (kinds table entry other)
            exact cuts_line entry.1 entry.2 mark holds safe.cuts (by decide) block line
  rw [redact]
  generalize credentialPatterns table = entries at each ⊢
  induction entries generalizing block with
  | nil => exact line
  | cons entry rest ih =>
      rw [List.foldl_cons]
      exact ih _ (each entry List.mem_cons_self block line) fun later member => each later (List.mem_cons_of_mem entry member)

end Lines

section Fence

-- What stands between a fence's name and its end.
def stamp (nonce : Nonce) : List Char := " nonce=".toList ++ (nonce.digits ++ " ".toList)

theorem stamp_inside (nonce : Nonce) : ∀ c ∈ stamp nonce, decide (c ≠ '>') = true := by
  intro c member
  refine decide_eq_true ?_
  cases List.mem_append.mp member with
  | inl lead => exact fun is => absurd (is ▸ lead) (by decide)
  | inr later =>
      cases List.mem_append.mp later with
      | inl digit => exact hex_plain c (nonce.hex c digit)
      | inr last => exact fun is => absurd (is ▸ last) (by decide)

theorem fences_joined (openKind closeKind opener closer kind name digits blank' last brackets line block : List Char)
    (opened : openKind = opener ++ kind) (closed : closeKind = '\n' :: (closer ++ kind)) (lined : line = '>' :: brackets ++ ['\n'])
    (ended : last = blank' ++ '>' :: brackets) :
    (opener ++ (kind ++ (name ++ (digits ++ last)))) ++ '\n' :: (block ++ '\n' :: (closer ++ (kind ++ (name ++ (digits ++ last))))) =
      openKind ++ ((name ++ (digits ++ blank')) ++ (line ++ (block ++
        (closeKind ++ ((name ++ (digits ++ blank')) ++ (('>' :: brackets) ++ [])))))) := by
  rw [opened, closed, lined, ended]
  simp only [List.append_assoc, List.cons_append, List.nil_append, List.append_nil]

theorem wrapped_shape (block : List Char) (nonce : Nonce) : wrapWorkerText block nonce =
    "<<<DATA worker_text".toList ++ (stamp nonce ++ (">>>\n".toList ++ (block ++
      ("\n<<<END_DATA worker_text".toList ++ (stamp nonce ++ (">>>".toList ++ [])))))) :=
  fences_joined _ _ _ _ _ _ _ _ _ ">>".toList _ _ (by decide +kernel) (by decide +kernel) (by decide +kernel) (by decide +kernel)

-- A fence ends at the start of a line only.
theorem fence_end_silent (c : Char) (before rest : List Char) (groups : List (String × List Char)) (inside : c ≠ '\n') :
    ways fenceEnd ⟨before, c :: rest, groups⟩ = [] := by
  have refused : ways (exact "\n<<<END_DATA worker_text") ⟨before, c :: rest, groups⟩ = [] := by
    apply exact_absent
    intro starts
    obtain ⟨more, split⟩ := starts
    exact inside (List.cons.inj split).1.symm
  change (ways (exact "\n<<<END_DATA worker_text") ⟨before, c :: rest, groups⟩).flatMap _ = []
  rw [refused]
  rfl

theorem fence_end_yields (nonce : Nonce) (groups : List (String × List Char)) :
    Yields fenceEnd ("\n<<<END_DATA worker_text".toList ++ (stamp nonce ++ (">>>".toList ++ []))) groups groups :=
  yields_exact _ _ _ _ _ (yields_many _ (stamp nonce) _ _ _ _ (stamp_inside nonce) rfl (yields_end ">>>" [] groups))

/- A block of one line comes out of its fence as it went in: its end is the first line
   that ends a fence. -/
theorem fence_carries (nonce : Nonce) (block : List Char) (line : '\n' ∉ block) : unfenced (wrapWorkerText block nonce) = block := by
  have silent : ∀ front back : List Char, block = front ++ back → back ≠ [] → ∀ before,
      ways fenceEnd ⟨before, back ++ ("\n<<<END_DATA worker_text".toList ++ (stamp nonce ++ (">>>".toList ++ []))), [("1", front)]⟩ = [] := by
    intro front back split present before
    obtain ⟨c, more, isBack⟩ := List.exists_cons_of_ne_nil present
    rw [isBack, List.cons_append]
    apply fence_end_silent
    intro is
    exact line (by rw [split, isBack, is]; exact List.mem_append_right front List.mem_cons_self)
  have inner := yields_lazy "1" fenceEnd block _ [] _ silent (fence_end_yields nonce _)
  have opened : Yields dataFence (wrapWorkerText block nonce) [] [("1", block)] := by
    rw [wrapped_shape]
    exact yields_exact _ _ _ _ _ (yields_many _ (stamp nonce) _ _ _ _ (stamp_inside nonce) rfl (yields_exact ">>>\n" _ _ _ _ inner))
  obtain ⟨made, found, groups⟩ := yields_found dataFence _ (begins_exact "<<<DATA worker_text" _) [] _ _ rfl opened
  rw [List.nil_append] at found
  rw [unfenced, found]
  show (made.groups.lookup "1").getD [] = block
  rw [groups]
  rfl

end Fence

section Marker

-- A text without the word, in front of a character that the word does not have.
theorem quiet_absent (word skipped more : List Char) (d : Char) (absent : ¬ word <:+: skipped) (other : d ∉ word) :
    quiet (fun text => decide (word <+: text)) skipped (d :: more) = true := by
  induction skipped with
  | nil => rfl
  | cons c front ih =>
      have here : ¬ word <+: c :: (front ++ d :: more) := by
        intro starts
        exact absent (InnerText.prefix_kept word (c :: front) more d other starts).isInfix
      have later := ih fun within => absent (List.infix_cons within)
      rw [quiet, decide_eq_false here, later]
      rfl

theorem marks_joined (front opener start marker colon colon' written closer dashes : List Char) (opened : opener = '\n' :: (start ++ [' ']))
    (coloned : colon = colon' ++ [' ']) (closed : closer = ' ' :: dashes) :
    front ++ (opener ++ (marker ++ (colon ++ (written ++ closer)))) =
      (front ++ ['\n']) ++ (start ++ ([' '] ++ (marker ++ ([] ++ (colon' ++ ([' '] ++ (written ++ ' ' :: dashes))))))) := by
  rw [opened, coloned, closed]
  simp only [List.append_assoc, List.cons_append, List.nil_append]

theorem marker_shape (worker : Worker) (summary : List Char) (payload : Payload) : formatSummaryWithMarker worker summary payload =
    (trimChars isBlank summary ++ ['\n']) ++ ("<!--".toList ++ ([' '] ++ (worker.marker.toList ++ ([] ++ (":".toList ++ ([' '] ++
      (payload.written ++ ' ' :: "-->".toList))))))) :=
  marks_joined _ _ _ _ _ _ _ _ _ (by decide +kernel) (by decide +kernel) (by decide +kernel)

theorem marker_solid (worker : Worker) (rest : List Char) : (worker.marker.toList ++ rest).head?.any isBlank = false := by
  cases worker <;> rfl

-- The group takes the text up to the first end of a comment.
theorem marker_yields (worker : Worker) (body taken behind : List Char)
    (solid : body.head?.any isBlank = false) (split : body = taken ++ ("-->".toList ++ behind))
    (silent : ∀ front back, taken = front ++ back → back ≠ [] → ¬ "-->".toList <+: back ++ ("-->".toList ++ behind)) :
    Yields (markerPattern worker.marker) ("<!--".toList ++ ([' '] ++ (worker.marker.toList ++ ([] ++ (":".toList ++ ([' '] ++ body))))))
      [] [("1", taken)] := by
  have one : ∀ c ∈ [' '], isBlank c = true := List.all_eq_true.mp (by decide)
  have payload := yields_lazy "1" (exact "-->") taken ("-->".toList ++ behind) [] _
    (fun front back parts present before => exact_absent "-->" _ (silent front back parts present)) (yields_end "-->" behind _)
  rw [← split] at payload
  have colon := yields_exact ":" _ _ _ _ (yields_many isBlank [' '] _ body _ _ one solid payload)
  have named := yields_exact worker.marker _ _ _ _ (yields_many isBlank [] _ _ _ _ (List.forall_mem_nil _) rfl colon)
  exact yields_exact "<!--" _ _ _ _ (yields_many isBlank [' '] _ _ _ _ one (marker_solid worker _) named)

theorem marker_found (worker : Worker) (summary body taken behind : List Char) (unmarked : ¬ "<!--".toList <:+: summary)
    (solid : body.head?.any isBlank = false) (split : body = taken ++ ("-->".toList ++ behind))
    (silent : ∀ front back, taken = front ++ back → back ≠ [] → ¬ "-->".toList <+: back ++ ("-->".toList ++ behind)) :
    markedPayload worker.marker ((trimChars isBlank summary ++ ['\n']) ++ ("<!--".toList ++ ([' '] ++ (worker.marker.toList ++ ([] ++
      (":".toList ++ ([' '] ++ body))))))) = objectIn (loads (trimChars isBlank taken)) := by
  have passed : quiet (fun text => decide ("<!--".toList <+: text)) (trimChars isBlank summary ++ ['\n'])
      ("<!--".toList ++ ([' '] ++ (worker.marker.toList ++ ([] ++ (":".toList ++ ([' '] ++ body)))))) = true := by
    have trimmed : ¬ "<!--".toList <:+: trimChars isBlank summary := by
      rw [InnerText.infix_trim summary "<!--".toList isBlank '<' '-' "<!-".toList "!--".toList (by decide) (by decide) (by decide) (by decide)]
      exact unmarked
    rw [quiet_append, List.singleton_append, quiet_absent "<!--".toList _ _ '\n' trimmed (by decide)]
    rfl
  obtain ⟨made, found, groups⟩ := yields_found (markerPattern worker.marker) _ (begins_exact "<!--" _) _ _ _ passed
    (marker_yields worker body taken behind solid split silent)
  rw [markedPayload, found, Option.bind_some]
  show objectIn (loads (trimChars isBlank ((made.groups.lookup "1").getD []))) = _
  rw [groups]
  rfl

theorem written_object (payload : Payload) : payload.written = '{' :: (dumpsFields payload.fields ++ ['}']) := by
  rw [Payload.written, Payload.json, dumps]
  rfl

theorem written_solid (payload : Payload) (rest : List Char) : (payload.written ++ rest).head?.any isBlank = false := by
  rw [written_object]
  rfl

-- Without the end of a comment inside, the payload is what comes out.
theorem whole_read (payload : Payload) : objectIn (loads (trimChars isBlank (payload.written ++ [' ']))) = some payload.fields := by
  have first : payload.written.head? = some '{' := by rw [written_object]; rfl
  have last : payload.written.getLast? = some '}' := by rw [written_object, ← List.cons_append]; exact List.getLast?_concat
  have trimmed := InnerText.trim_around isBlank [] payload.written [' '] '{' '}' first last (by decide) (by decide)
  rw [List.nil_append] at trimmed
  rw [trimmed, show ([' '].reverse.dropWhile isBlank).reverse = [] by decide, List.dropWhile_nil, List.nil_append, List.append_nil,
    Payload.written, loads_dumps payload.json payload.distinct]
  rfl

theorem whole_silent (payload : Payload) (unended : ¬ "-->".toList <:+: payload.written) (front back : List Char)
    (split : payload.written ++ [' '] = front ++ back) (present : back ≠ []) : ¬ "-->".toList <+: back ++ ("-->".toList ++ []) := by
  obtain ⟨inner, c, isBack⟩ := (List.eq_nil_or_concat back).resolve_left present
  rw [isBack, List.concat_eq_append, ← List.append_assoc] at split
  obtain ⟨written, last⟩ := List.append_inj' split rfl
  intro starts
  rw [isBack, List.concat_eq_append, ← last, List.append_assoc, List.singleton_append] at starts
  have within := InnerText.prefix_kept "-->".toList inner _ ' ' (by decide) starts
  rw [written] at unended
  exact unended (within.isInfix.trans (List.suffix_append front inner).isInfix)

-- Cut at the end of a comment, it is no payload.
theorem cut_read (payload : Payload) (taken rest : List Char) (split : payload.written = taken ++ ("-->".toList ++ rest)) :
    objectIn (loads (trimChars isBlank taken)) = none := by
  have starts : taken.dropWhile isBlank = taken := by
    cases taken with
    | nil => rfl
    | cons c more =>
        rw [written_object] at split
        rw [← (List.cons.inj split).1]
        rfl
  obtain ⟨dropped, isTaken⟩ := List.rdropWhile_prefix isBlank taken
  have shorter : trimChars isBlank taken = taken.rdropWhile isBlank := by
    rw [trimChars, starts]
    rfl
  have unread := cut_unread payload.fields payload.distinct (taken.rdropWhile isBlank) (dropped ++ ("-->".toList ++ rest))
    (by rw [← List.append_assoc, isTaken]; exact split)
    (fun empty => by cases (List.append_eq_nil_iff.mp empty).2)
  rw [shorter, unread]
  rfl

end Marker

section Carried

theorem intercalate_one (words : List Char) : List.intercalate ['\n'] [words] = words := by simp [List.intercalate]

theorem answered_text (reply : Reply) (words : List Char) (marker : String) (answer : iterWorkerParts reply = .ok [.text words]) :
    extractPayloadAndText reply marker = .ok (markedPayload marker words, words) := by
  rw [extractPayloadAndText, answer]
  show Except.ok ((none : Option _).or (markedPayload marker (List.intercalate ['\n'] [words])), List.intercalate ['\n'] [words]) = _
  rw [intercalate_one, Option.none_or]

theorem answered_data (reply : Reply) (fields : List (String × Json)) (words : List Char) (marker : String)
    (answer : iterWorkerParts reply = .ok [.data fields, .text words]) : extractPayloadAndText reply marker = .ok (some fields, words) := by
  rw [extractPayloadAndText, answer]
  show Except.ok ((some fields).or (markedPayload marker (List.intercalate ['\n'] [words])), List.intercalate ['\n'] [words]) = _
  rw [intercalate_one, Option.some_or]

theorem marker_carries (worker : Worker) (summary : List Char) (payload : Payload) (unmarked : ¬ "<!--".toList <:+: summary) :
    markedPayload worker.marker (formatSummaryWithMarker worker summary payload) =
      if "-->".toList <:+: payload.written then none else some payload.fields := by
  rw [marker_shape]
  split_ifs with ended
  · obtain ⟨taken, behind, split, silent⟩ := InnerText.first_infix _ _ ended
    have further : ∀ front back, taken = front ++ back → back ≠ [] →
        ¬ "-->".toList <+: back ++ ("-->".toList ++ (behind ++ ' ' :: "-->".toList)) := by
      intro front back parts present starts
      refine silent front back parts present (List.prefix_of_prefix_length_le starts ?_ ?_)
      · have whole : back ++ ("-->".toList ++ (behind ++ ' ' :: "-->".toList)) = (back ++ ("-->".toList ++ behind)) ++ ' ' :: "-->".toList := by
          simp only [List.append_assoc]
        rw [whole]
        exact List.prefix_append _ _
      · rw [List.length_append, List.length_append]
        omega
    rw [marker_found worker summary _ taken (behind ++ ' ' :: "-->".toList) unmarked (written_solid payload _)
      (by rw [split, List.append_assoc, List.append_assoc]) further]
    exact cut_read payload taken behind split
  · rw [marker_found worker summary _ (payload.written ++ [' ']) [] unmarked (written_solid payload _)
      (by rw [List.append_nil, List.append_assoc]; rfl) (whole_silent payload ended)]
    exact whole_read payload

theorem redact_same_iff (table : CharTable) (block : List Char) : redact table block = block ↔ containsCredential table block = false := by
  refine ⟨fun same => ?_, redact_clean table block⟩
  have clean := redacted_clean table block
  rw [same] at clean
  exact clean

/- A worker reads the redacted text that the supervisor fenced, and so the payload where
   there was nothing to redact. The supervisor reads a worker's data part; the marker alone
   gives the payload too, unless its text holds the end of a comment: then nothing is read. -/
theorem wire_carries (worker : Worker) (table : CharTable) (nonce : Nonce) (payload : Payload) (summary : List Char)
    (unmarked : ¬ "<!--".toList <:+: summary) :
    unfenced (wrapWorkerText (redact table payload.written) nonce) = redact table payload.written ∧
      (redact table payload.written = payload.written ↔ containsCredential table payload.written = false) ∧
      (containsCredential table payload.written = false → received (wrapWorkerText (redact table payload.written) nonce) = some payload.json) ∧
      ∀ reply,
        (iterWorkerParts reply = .ok [.data payload.fields, .text (formatSummaryWithMarker worker summary payload)] →
          extractPayloadAndText reply worker.marker = .ok (some payload.fields, formatSummaryWithMarker worker summary payload)) ∧
        (iterWorkerParts reply = .ok [.text (formatSummaryWithMarker worker summary payload)] →
          extractPayloadAndText reply worker.marker =
            .ok (if "-->".toList <:+: payload.written then none else some payload.fields, formatSummaryWithMarker worker summary payload)) := by
  have outward := fence_carries nonce (redact table payload.written) (redact_line table _ (dumps_line payload.json))
  refine ⟨outward, redact_same_iff table payload.written, ?_, fun reply => ⟨?_, ?_⟩⟩
  · intro clean
    rw [received, outward, redact_clean table _ clean, Payload.written, loads_dumps payload.json payload.distinct]
  · exact answered_data reply payload.fields _ worker.marker
  · intro answer
    rw [answered_text reply _ worker.marker answer, marker_carries worker summary payload unmarked]

def labTable : CharTable := ⟨fun _ => false, fun _ => false, fun _ => none, id⟩

def labNonce : Nonce := { digits := "0a1b".toList, hex := List.all_eq_true.mp (by decide +kernel) }

def labPayload : Payload := { fields := [("tenant", .str "blue"), ("vlan", .num 10)], distinct := by simp [Distinct, DistinctFields] }

def labEnded : Payload := { fields := [("tenant", .str "a-->b")], distinct := by simp [Distinct, DistinctFields] }

theorem lab_wire_carries :
    received (wrapWorkerText (redact labTable labPayload.written) labNonce) = some labPayload.json ∧
      extractPayloadAndText (.message [.text (formatSummaryWithMarker .mapper "Service vlan.".toList labPayload)]) "MAPPED_JSON" =
        .ok (some labPayload.fields, formatSummaryWithMarker .mapper "Service vlan.".toList labPayload) ∧
      extractPayloadAndText (.message [.text (formatSummaryWithMarker .mapper "Service vlan.".toList labEnded)]) "MAPPED_JSON" =
        .ok (none, formatSummaryWithMarker .mapper "Service vlan.".toList labEnded) := by
  have unmarked : ¬ "<!--".toList <:+: "Service vlan.".toList := by decide +kernel
  have plain := wire_carries .mapper labTable labNonce labPayload "Service vlan.".toList unmarked
  have ended := wire_carries .mapper labTable labNonce labEnded "Service vlan.".toList unmarked
  refine ⟨plain.2.2.1 (by decide +kernel), ?_, ?_⟩
  · have read := (plain.2.2.2 (.message [.text (formatSummaryWithMarker .mapper "Service vlan.".toList labPayload)])).2 rfl
    rw [if_neg (by decide +kernel)] at read
    exact read
  · have read := (ended.2.2.2 (.message [.text (formatSummaryWithMarker .mapper "Service vlan.".toList labEnded)])).2 rfl
    rw [if_pos (by decide +kernel)] at read
    exact read

end Carried

end AgenticNetops.Supervisor.Wire
