import AgenticNetops.Common.RedactionTokens

set_option autoImplicit false

/- The first substitution. A private key has blanks, so no secret holds one, and a URL that
   reaches a secret from in front, or out of it, stood there before. -/
namespace AgenticNetops.Common

open Regex PyText

variable (table : CharTable)

section Urls
variable (marked : List Char) (colon : ':' ∉ marked) (front lead secret after after' : List Char) (f : List Piece) (isFront : readAll f = front)
variable (joint : Joint after' after)

include colon isFront joint in
theorem url_front
    (spaced : ∀ ahead old behind, f = ahead ++ .cut old :: behind → ∃ c ∈ readAll behind, isBlank c = true)
    (apart : FrontApart urlPassword front lead secret after) : FrontApart urlPassword (writeAll marked f) lead secret after' := by
  rintro start stop ⟨before, taken, rest, caught, split, took, rfl, rfl⟩ begins
  refine Nat.le_of_not_lt fun past => ?_
  obtain ⟨filled, ⟨more, isColon⟩, body, isTaken, free⟩ := url_shape _ _ _ _ took
  cases List.append_eq_append_iff.mp split with
  | inl beyond =>
      obtain ⟨extra, isBefore, _⟩ := beyond
      rw [isBefore, List.length_append] at begins
      omega
  | inr within =>
      obtain ⟨extra, isWritten, isText⟩ := within
      cases List.append_eq_append_iff.mp isText with
      | inl shorter =>
          obtain ⟨last, isExtra, _⟩ := shorter
          rw [isWritten, isExtra] at past
          simp only [List.length_append] at past
          omega
      | inr longer =>
          obtain ⟨inner, isTaken', isInner⟩ := longer
          cases extra with
          | nil =>
              rw [isWritten, List.append_nil] at begins
              exact absurd begins (Nat.lt_irrefl _)
          | cons c extra' =>
              have isColon' : c = ':' := by
                rw [isColon] at isTaken'
                exact ((List.cons.inj isTaken').1).symm
              obtain ⟨ahead, free', behind, isPieces, isAhead, isBehind⟩ := kept_at marked f before extra' ':' colon (by rw [isWritten, isColon'])
              -- From the URL on, nothing in front of the label was cut out.
              have stays := spaced_joined marked f ahead (.kept free' ':' :: behind) spaced isPieces fun d member => by
                refine filled d ?_
                rw [isTaken', isColon', ← isBehind]
                exact List.mem_append_left _ member
              have isExtra : writeAll marked (.kept free' ':' :: behind) = c :: extra' := by
                rw [written_cons, isBehind, isColon']
                rfl
              rw [isExtra] at stays
              have isFront' : front = readAll ahead ++ (c :: extra') := by
                rw [← isFront, isPieces, read_append, stays_read _ _ stays]
              obtain ⟨rest', isOuter⟩ := joint_within body taken rest inner after' after joint isTaken free filled (c :: extra') isTaken'.symm
                (lead ++ secret) (by rw [List.append_assoc]; exact isInner.symm)
              have occurs := occurs_place urlPassword front lead secret after (readAll ahead) taken rest' caught (by
                rw [isFront', isTaken', List.append_assoc, List.append_assoc, isOuter, List.append_assoc]) (url_moves _ _ _ _ rest' caught took)
              have stops := apart _ _ occurs (by rw [isFront']; simp only [List.length_append, List.length_cons]; omega)
              rw [isFront', isTaken'] at stops
              rw [isWritten, isTaken'] at past
              simp only [List.length_append, List.length_cons] at stops past
              omega

-- What begins in the label or in the secret.
include joint in
theorem url_place (written : List Char) (start stop : Nat) (occurs : Occurs' urlPassword written lead secret after' start stop)
    (from' : written.length ≤ start) (below : start < (written ++ (lead ++ secret)).length) :
    Occurs' urlPassword front lead secret after (front.length + (start - written.length)) (front.length + (stop - written.length)) := by
  obtain ⟨before, taken, rest, caught, split, took, rfl, rfl⟩ := occurs
  obtain ⟨filled, _, body, isTaken, free⟩ := url_shape _ _ _ _ took
  cases List.append_eq_append_iff.mp split with
  | inr shorter =>
      obtain ⟨extra, isLonger, isText⟩ := shorter
      have none' : extra = [] := by
        rw [isLonger, List.length_append] at from'
        exact List.length_eq_zero_iff.mp (by omega)
      rw [none', List.append_nil] at isLonger
      rw [none', List.nil_append] at isText
      obtain ⟨rest', isOuter⟩ := joint_within body taken rest taken after' after joint isTaken free filled [] rfl (lead ++ secret)
        (by rw [List.append_assoc]; exact isText)
      have here := occurs_place urlPassword front lead secret after front taken rest' caught (by rw [isOuter, List.append_assoc])
        (url_moves _ _ _ _ rest' caught took)
      rw [isLonger, List.length_append, Nat.sub_self, Nat.add_sub_cancel_left]
      rw [List.length_append] at here
      exact here
  | inl longer =>
      obtain ⟨part, isBefore, isText⟩ := longer
      rw [← List.append_assoc] at isText
      cases List.append_eq_append_iff.mp isText with
      | inl past =>
          obtain ⟨extra, isPart, _⟩ := past
          rw [isBefore, isPart] at below
          simp only [List.length_append] at below
          omega
      | inr within =>
          obtain ⟨back, isSplit, isBack⟩ := within
          obtain ⟨rest', isOuter⟩ := joint_within body taken rest taken after' after joint isTaken free filled [] rfl back isBack
          have here := occurs_place urlPassword front lead secret after (front ++ part) taken rest' caught (by
            rw [← List.append_assoc lead, isSplit, List.append_assoc, List.append_assoc, isOuter]) (url_moves _ _ _ _ rest' caught took)
          have isStart : front.length + (before.length - written.length) = (front ++ part).length := by
            rw [isBefore, List.length_append, List.length_append]
            omega
          have isStop : front.length + ((before ++ taken).length - written.length) = (front ++ part ++ taken).length := by
            rw [isBefore]
            simp only [List.length_append]
            omega
          rw [isStart, isStop]
          exact here

include joint in
theorem url_inner (written : List Char) (apart : InnerApart urlPassword front lead secret after) : InnerApart urlPassword written lead secret after' := by
  refine ⟨fun start stop occurs from' below => ?_, fun start stop occurs from' below => ?_⟩
  · rw [List.length_append] at below
    have here := url_place front lead secret after after' joint written start stop occurs from' (by simp only [List.length_append]; omega)
    exact apart.label _ _ here (by omega) (by rw [List.length_append]; omega)
  · simp only [List.length_append] at from' below
    have here := url_place front lead secret after after' joint written start stop occurs (by omega) (by simp only [List.length_append]; omega)
    have stops := apart.secret _ _ here (by rw [List.length_append]; omega) (by simp only [List.length_append]; omega)
    simp only [List.length_append] at stops ⊢
    omega

end Urls

section Keys
variable (front lead secret after : List Char) (f l s a : List Piece)
variable (written : Written (pemBlock, fun _ => redactedPEM.toList) redactedPEM.toList
  (Holds pemBlock (fun _ _ => False) (KeyCut table) redactedPEM.toList) front lead secret after f l s a)
include written

-- Every private key in front has a blank between itself and the label.
def KeysSpaced (front lead secret after : List Char) : Prop :=
  ∀ start stop, Occurs' pemBlock front lead secret after start stop → stop ≤ front.length → ∃ c ∈ front.drop stop, isBlank c = true

theorem keys_spaced (fronts : FrontApart pemBlock front lead secret after) (spaced : KeysSpaced front lead secret after) (ahead : List Piece)
    (old : List Char) (behind : List Piece) (shape : f = ahead ++ .cut old :: behind) : ∃ c ∈ readAll behind, isBlank c = true := by
  have along := written.parted.along
  rw [shape, List.append_assoc, List.cons_append] at along
  have cut : KeyCut table _ old _ := along_split _ [] ahead (.cut old) _ along
  obtain ⟨lead', trail, start, rest, caught, isBefore, isAfter, rfl, took⟩ := cut.source
  have isFront : front = readAll ahead ++ (old ++ readAll behind) := by
    rw [← written.parted.front, shape, read_append, read_cons]
    rfl
  have isRest : readAll (behind ++ (l ++ (s ++ a))) = readAll behind ++ (lead ++ (secret ++ after)) := by
    rw [read_append, read_append, read_append, stays_read l lead written.parted.lead, written.parted.secret, written.parted.after]
  rw [isRest] at isAfter
  rw [List.append_nil, List.reverse_nil, List.nil_append] at isBefore
  have occurs := occurs_place pemBlock front lead secret after (readAll ahead) (old ++ trail) rest caught (by
    rw [isFront, List.append_assoc, List.append_assoc, isAfter, List.append_assoc]) (by
    rw [isBefore]
    exact took)
  have some_length := List.length_pos_iff.mpr cut.fact.edges.present
  have stops := fronts _ _ occurs (by rw [isFront]; simp only [List.length_append]; omega)
  obtain ⟨c, member, blank⟩ := spaced _ _ occurs stops
  refine ⟨c, ?_, blank⟩
  rw [isFront, List.drop_append, List.drop_append] at member
  have passed : (readAll ahead).drop (readAll ahead ++ (old ++ trail)).length = [] := by
    refine List.drop_eq_nil_of_le ?_
    rw [List.length_append]
    exact Nat.le_add_right _ _
  have passed' : old.drop ((readAll ahead ++ (old ++ trail)).length - (readAll ahead).length) = [] := by
    refine List.drop_eq_nil_of_le ?_
    simp only [List.length_append]
    omega
  rw [passed, passed', List.nil_append, List.nil_append] at member
  exact List.mem_of_mem_drop member

theorem key_secret_stays (inners : InnerApart pemBlock front lead secret after) (filled : ∀ c ∈ secret, isBlank c = false) : Stays s secret := by
  refine written.idle (foreign_unbegun pemBlock front lead secret after inners fun before taken behind caught took => ?_)
  refine ⟨' ', (key_takes before taken behind caught took).2.2, fun member => ?_⟩
  cases filled ' ' member

end Keys

end AgenticNetops.Common
