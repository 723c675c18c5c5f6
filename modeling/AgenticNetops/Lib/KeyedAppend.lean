import AgenticNetops.Lib.GoText
import AgenticNetops.Lib.Fallible

set_option autoImplicit false

/- A map that is filled by adding parts under keys, and lists that a sort puts into one
   order whatever order they came in. -/
namespace KeyedAppend

open GoText Fallible

section Filled
variable {α β : Type} (fresh : String → α) (add : α → β → α)

def put (m : GoMap α) (entry : String × β) : GoMap α := m.set entry.1 (add ((m.get? entry.1).getD (fresh entry.1)) entry.2)

def fill (m : GoMap α) (entries : List (String × β)) : GoMap α := entries.foldl (put fresh add) m

def partsUnder (entries : List (String × β)) (key : String) : List β := (entries.filter fun entry => entry.1 = key).map Prod.snd

theorem parts_under_append (front back : List (String × β)) (key : String) :
    partsUnder (front ++ back) key = partsUnder front key ++ partsUnder back key := by
  rw [partsUnder, List.filter_append, List.map_append]
  rfl

theorem fill_append (m : GoMap α) (front back : List (String × β)) :
    fill fresh add m (front ++ back) = fill fresh add (fill fresh add m front) back := List.foldl_append

-- A key holds its own parts in the order in which they were added.
theorem fill_get (m : GoMap α) (entries : List (String × β)) (key : String) :
    (fill fresh add m entries).get? key =
      if partsUnder entries key = [] then m.get? key
      else some ((partsUnder entries key).foldl add ((m.get? key).getD (fresh key))) := by
  induction entries generalizing m with
  | nil => rfl
  | cons entry rest ih =>
      have next : fill fresh add m (entry :: rest) = fill fresh add (put fresh add m entry) rest := rfl
      rw [next, ih]
      by_cases here : entry.1 = key
      · have parts : partsUnder (entry :: rest) key = entry.2 :: partsUnder rest key := by
          rw [partsUnder, List.filter_cons_of_pos (by simpa using here)]
          rfl
        have held : (put fresh add m entry).get? key = some (add ((m.get? key).getD (fresh key)) entry.2) := by
          rw [put, here]
          exact get_set_same _ _ _
        rw [parts, held, if_neg (List.cons_ne_nil _ _), List.foldl_cons, Option.getD_some]
        split
        · rename_i none
          rw [none]
          rfl
        · rfl
      · have parts : partsUnder (entry :: rest) key = partsUnder rest key := by
          rw [partsUnder, List.filter_cons_of_neg (by simpa using here)]
          rfl
        have held : (put fresh add m entry).get? key = m.get? key := get_set_other _ _ _ _ (Ne.symm here)
        rw [parts, held]

theorem fill_nil_iff (entries : List (String × β)) : fill fresh add [] entries = [] ↔ entries = [] := by
  cases entries with
  | nil => exact iff_of_true rfl rfl
  | cons entry rest =>
      refine iff_of_false ?_ (List.cons_ne_nil _ _)
      intro empty
      have parts : partsUnder (entry :: rest) entry.1 ≠ [] := by
        rw [partsUnder, List.filter_cons_of_pos (by simp)]
        exact List.cons_ne_nil _ _
      have held := fill_get fresh add [] (entry :: rest) entry.1
      rw [empty, if_neg parts] at held
      cases held

end Filled

section Fallible
variable {ε α β ι : Type}

-- What a fallible step returned; only read where there is a result.
def made [Inhabited β] (result : Except ε β) : β := result.toOption.getD default

theorem made_ok [Inhabited β] (result : Except ε β) (value : β) (ok : result = .ok value) : made result = value := by
  rw [ok]
  rfl

theorem ok_made [Inhabited β] (result : Except ε β) (ok : result.isOk = true) : result = .ok (made result) := by
  cases result with
  | error message => cases ok
  | ok value => rfl

theorem map_iff [Inhabited β] (step : ι → Except ε β) (entries : List ι) (out : List β) :
    entries.mapM step = .ok out ↔ (∀ x ∈ entries, (step x).isOk = true) ∧ out = entries.map fun x => made (step x) := by
  induction entries generalizing out with
  | nil => exact ⟨fun done => ⟨by simp, (Except.ok.inj done).symm⟩, fun parts => congrArg Except.ok parts.2.symm⟩
  | cons x rest ih =>
      rw [List.mapM_cons]
      constructor
      · intro done
        obtain ⟨value, here, done⟩ := bind_ok _ _ _ done
        obtain ⟨later, behind, done⟩ := bind_ok _ _ _ done
        cases done
        obtain ⟨oks, same⟩ := (ih later).mp behind
        refine ⟨?_, by rw [List.map_cons, made_ok _ value here, same]⟩
        intro y member
        cases List.mem_cons.mp member with
        | inl first => rw [first, here]; rfl
        | inr inside => exact oks y inside
      · intro parts
        obtain ⟨oks, whole⟩ := parts
        have here := ok_made _ (oks x List.mem_cons_self)
        have behind := (ih _).mpr ⟨fun y member => oks y (List.mem_cons_of_mem x member), rfl⟩
        rw [here, behind, whole]
        rfl

/- A loop that renders one entry after the other and adds each part under its key: it ends
   well when every entry renders, and fills the map with the parts. -/
theorem run_iff [Inhabited β] (fresh : String → α) (add : α → β → α) (step : ι → Except ε β) (key : ι → String)
    (run : GoMap α → List ι → Except ε (GoMap α)) (stop : ∀ m, run m [] = .ok m)
    (next : ∀ m x rest, run m (x :: rest) = step x >>= fun part => run (put fresh add m (key x, part)) rest)
    (m out : GoMap α) (entries : List ι) :
    run m entries = .ok out ↔
      (∀ x ∈ entries, (step x).isOk = true) ∧ out = fill fresh add m (entries.map fun x => (key x, made (step x))) := by
  induction entries generalizing m with
  | nil =>
      rw [stop, Except.ok.injEq]
      exact ⟨fun same => ⟨by simp, same.symm⟩, fun parts => parts.2.symm⟩
  | cons x rest ih =>
      rw [next]
      constructor
      · intro done
        obtain ⟨part, here, done⟩ := bind_ok _ _ _ done
        obtain ⟨oks, same⟩ := (ih _).mp done
        refine ⟨?_, by rw [List.map_cons, made_ok _ part here]; exact same⟩
        intro y member
        cases List.mem_cons.mp member with
        | inl first => rw [first, here]; rfl
        | inr inside => exact oks y inside
      · intro parts
        obtain ⟨oks, whole⟩ := parts
        rw [ok_made _ (oks x List.mem_cons_self)]
        exact (ih _).mpr ⟨fun y member => oks y (List.mem_cons_of_mem x member), whole⟩

end Fallible

section Segments
variable {α β : Type}

/- Two readings of one list of segments: where no segment of the one is longer than the
   other's, equal concatenations have equal segments. -/
theorem segments_same (one other : α → List β) (entries : List α) (shorter : ∀ x ∈ entries, (one x).length ≤ (other x).length)
    (same : entries.flatMap one = entries.flatMap other) : ∀ x ∈ entries, one x = other x := by
  have total (rest : List α) (bounded : ∀ x ∈ rest, (one x).length ≤ (other x).length) :
      (rest.flatMap one).length ≤ (rest.flatMap other).length := by
    induction rest with
    | nil => exact Nat.le_refl _
    | cons x rest ih =>
        have here := bounded x List.mem_cons_self
        have later := ih fun y member => bounded y (List.mem_cons_of_mem x member)
        rw [List.flatMap_cons, List.flatMap_cons, List.length_append, List.length_append]
        omega
  induction entries with
  | nil => simp
  | cons x rest ih =>
      have here := shorter x List.mem_cons_self
      have later := total rest fun y member => shorter y (List.mem_cons_of_mem x member)
      have lengths := congrArg List.length same
      rw [List.flatMap_cons, List.flatMap_cons, List.length_append, List.length_append] at lengths
      rw [List.flatMap_cons, List.flatMap_cons] at same
      obtain ⟨head, tail⟩ := List.append_inj same (by omega)
      intro y member
      cases List.mem_cons.mp member with
      | inl first => rw [first]; exact head
      | inr behind => exact ih (fun z inside => shorter z (List.mem_cons_of_mem x inside)) tail y behind

-- Words that differ in a place that both have do not commute.
theorem words_commute (u v : List β) (commute : u ++ v = v ++ u) (i : Nat) (inU : i < u.length) (inV : i < v.length) : u[i]? = v[i]? := by
  have at_ : (u ++ v)[i]? = (v ++ u)[i]? := by rw [commute]
  rw [List.getElem?_append_left inU, List.getElem?_append_left inV] at at_
  exact at_

theorem swapped_words (u v rest later : List β) (same : u ++ (v ++ rest) = v ++ (u ++ later)) : u ++ v = v ++ u := by
  have regrouped : (u ++ v) ++ rest = (v ++ u) ++ later := by rw [List.append_assoc, List.append_assoc, same]
  exact (List.append_inj regrouped (by rw [List.length_append, List.length_append, Nat.add_comm])).1

end Segments

section Orders
variable {α β κ : Type} [LinearOrder κ]

/- Two sorted orders of the same entries show the same values, where entries under one key
   have one value. -/
theorem keyed_values_same (key : α → κ) (value : α → β) (one other : List α) (perm : one.Perm other)
    (sorted : one.Pairwise fun x y => key x ≤ key y) (sortedOther : other.Pairwise fun x y => key x ≤ key y)
    (settled : ∀ x ∈ one, ∀ y ∈ one, key x = key y → value x = value y) : one.map value = other.map value := by
  have pairs : one.map (fun x => (key x, value x)) = other.map fun x => (key x, value x) := by
    refine @List.Perm.eq_of_pairwise (κ × β) (fun x y => x.1 ≤ y.1) _ _ ?_ ?_ ?_ (perm.map _)
    · intro left right inOne inOther up down
      obtain ⟨x, inside, rfl⟩ := List.mem_map.mp inOne
      obtain ⟨y, beside, rfl⟩ := List.mem_map.mp inOther
      have keys : key x = key y := le_antisymm up down
      rw [keys, settled x inside y (perm.mem_iff.mpr beside) keys]
    · exact List.pairwise_map.mpr sorted
    · exact List.pairwise_map.mpr sortedOther
  have values := congrArg (List.map Prod.snd) pairs
  rw [List.map_map, List.map_map] at values
  exact values

theorem sort_strings_same (one other : List String) (perm : one.Perm other) : sortStrings one = sortStrings other := by
  have sorted (names : List String) : (sortStrings names).Pairwise (· ≤ ·) := List.pairwise_insertionSort _ names
  refine List.Perm.eq_of_pairwise (fun x y _ _ up down => le_antisymm up down) (sorted one) (sorted other) ?_
  exact ((List.perm_insertionSort _ one).trans perm).trans (List.perm_insertionSort _ other).symm

-- A search through sorted names finds the least that is wanted.
theorem sort_find_iff (names : List String) (wanted : String → Bool) (name : String) :
    (sortStrings names).find? wanted = some name ↔ name ∈ names ∧ wanted name = true ∧ ∀ other ∈ names, wanted other = true → name ≤ other := by
  have member (other : String) : other ∈ names ↔ other ∈ sortStrings names := (List.mem_insertionSort _).symm
  simp only [member]
  have sorted : (sortStrings names).Pairwise (· ≤ ·) := List.pairwise_insertionSort _ names
  generalize sortStrings names = inOrder at sorted
  induction inOrder with
  | nil => simp
  | cons first rest ih =>
      obtain ⟨before, ordered⟩ := List.pairwise_cons.mp sorted
      by_cases hit : wanted first = true
      · rw [List.find?_cons_of_pos hit]
        constructor
        · intro found
          cases found
          refine ⟨List.mem_cons_self, hit, fun other listed _ => ?_⟩
          cases List.mem_cons.mp listed with
          | inl same => exact le_of_eq same.symm
          | inr behind => exact before other behind
        · intro parts
          obtain ⟨listed, _, least⟩ := parts
          cases List.mem_cons.mp listed with
          | inl same => rw [same]
          | inr behind => rw [le_antisymm (before name behind) (least first List.mem_cons_self hit)]
      · rw [List.find?_cons_of_neg hit]
        refine Iff.trans (ih ordered) ?_
        constructor
        · intro parts
          obtain ⟨listed, chosen, least⟩ := parts
          refine ⟨List.mem_cons_of_mem first listed, chosen, fun other inside also => ?_⟩
          cases List.mem_cons.mp inside with
          | inl same => exact absurd (same ▸ also) hit
          | inr behind => exact least other behind also
        · intro parts
          obtain ⟨listed, chosen, least⟩ := parts
          cases List.mem_cons.mp listed with
          | inl same => exact absurd (same ▸ chosen) hit
          | inr behind => exact ⟨behind, chosen, fun other inside => least other (List.mem_cons_of_mem first inside)⟩

variable (r : α → α → Prop) [DecidableRel r] [IsTrans α r]

theorem insert_beside (a b : α) (up : r a b) (down : r b a) (front back : List α) (before : ∀ c ∈ front, ¬ r b c) :
    (front ++ b :: back).orderedInsert r a = front ++ a :: b :: back := by
  induction front with
  | nil => exact List.orderedInsert_cons_of_le r _ up
  | cons c rest ih =>
      have behind : ¬ r a c := fun first => before c List.mem_cons_self (IsTrans.trans b a c down first)
      rw [List.cons_append, List.orderedInsert_of_not_le r _ behind, ih fun d inside => before d (List.mem_cons_of_mem c inside)]
      rfl

-- Two tied entries at the head of a list stand side by side in its sorted order, as they came.
theorem sorted_swap (x y : α) (rest : List α) (up : r x y) (down : r y x) :
    ∃ front back, (x :: y :: rest).insertionSort r = front ++ x :: y :: back ∧ (y :: x :: rest).insertionSort r = front ++ y :: x :: back := by
  have split (a b : α) (first : r a b) (second : r b a) : (a :: b :: rest).insertionSort r =
      ((rest.insertionSort r).takeWhile fun c => ¬ r b c) ++ a :: b :: (rest.insertionSort r).dropWhile fun c => ¬ r b c := by
    rw [List.insertionSort_cons, List.insertionSort_cons_eq_take_drop, insert_beside r a b first second]
    intro c inside
    exact of_decide_eq_true (List.all_eq_true.mp List.all_takeWhile c inside)
  have alike : (fun c => decide (¬ r x c)) = fun c => decide (¬ r y c) := by
    funext c
    have same : r x c ↔ r y c := ⟨fun before => IsTrans.trans y x c down before, fun before => IsTrans.trans x y c up before⟩
    simp only [same]
  refine ⟨_, _, split x y up down, ?_⟩
  rw [split y x down up, alike]

end Orders

end KeyedAppend
