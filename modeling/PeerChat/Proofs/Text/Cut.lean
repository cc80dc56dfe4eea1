import PeerChat.Proofs.Text.Trim

/-!
Texts that are cut at a character or behind a lead, searched for a word, or read up to their first blank.

* `cutWhere_append_cons`, `cutWhere_of_forall`: a text is cut at the first character that is looked for, if it has one;
* `after?_eq_some_iff`: what follows a lead is all of the text behind it;
* `occursIn_iff`: a word occurs in a text exactly if the text has it as a part;
* `infix_of_infix_append_cons`: a word does not reach across a character that is not in it.
-/

namespace PeerChat.Text

variable {p : Char → Bool} {cs : List Char}

/-! ### Cutting -/

lemma cutWhere_of_forall (h : ∀ c ∈ cs, p c = false) : cutWhere p cs = none := by
  have hall : cs.dropWhile (fun c => !p c) = [] := by
    rw [List.dropWhile_eq_nil_iff]
    intro c hc
    simp [h c hc]
  unfold cutWhere
  rw [hall]

lemma cutWhere_append_cons {front : List Char} {c : Char} (hfront : ∀ c ∈ front, p c = false) (hc : p c = true)
    (back : List Char) : cutWhere p (front ++ c :: back) = some (front, back) := by
  have hpass : ∀ c ∈ front, (!p c) = true := by
    intro c hc
    simp [hfront c hc]
  have hdrop : (front ++ c :: back).dropWhile (fun c => !p c) = c :: back := by
    rw [List.dropWhile_append_of_pos hpass]
    exact List.dropWhile_cons_of_neg (by simp [hc])
  have htake : (front ++ c :: back).takeWhile (fun c => !p c) = front := by
    rw [List.takeWhile_append_of_pos hpass, List.takeWhile_cons_of_neg (by simp [hc]), List.append_nil]
  unfold cutWhere
  rw [hdrop, htake]

lemma exists_of_cutWhere {front back : List Char} (h : cutWhere p cs = some (front, back)) :
    ∃ c, p c = true ∧ (∀ c ∈ front, p c = false) ∧ cs = front ++ c :: back := by
  unfold cutWhere at h
  split at h
  · exact nomatch h
  · next c rest hdrop =>
    obtain ⟨rfl, rfl⟩ := Prod.mk.inj (Option.some.inj h)
    have hc : p c = true := by
      have hhead := List.head?_dropWhile_not (fun c => !p c) cs
      rw [hdrop] at hhead
      simpa using hhead
    refine ⟨c, hc, fun c hc => by simpa using List.mem_takeWhile_imp hc, ?_⟩
    rw [← hdrop]
    exact List.takeWhile_append_dropWhile.symm

lemma cutAtBlank_eq_some_iff {s front back : String} : cutAtBlank s = some (front, back) ↔
    ∃ c, isBlank c = true ∧ (∀ c ∈ front.toList, isBlank c = false) ∧ s.toList = front.toList ++ c :: back.toList := by
  unfold cutAtBlank
  rw [Option.map_eq_some_iff]
  constructor
  · rintro ⟨⟨first, rest⟩, hcut, heq⟩
    obtain ⟨rfl, rfl⟩ := Prod.mk.inj heq
    simpa only [String.toList_ofList] using exists_of_cutWhere hcut
  · rintro ⟨c, hc, hfront, hs⟩
    refine ⟨(front.toList, back.toList), hs ▸ cutWhere_append_cons hfront hc _, ?_⟩
    simp only [String.ofList_toList]

lemma cutAtBlank_append_space {front : String} (hfront : ∀ c ∈ front.toList, isBlank c = false) (back : String) :
    cutAtBlank (front ++ " " ++ back) = some (front, back) := by
  refine cutAtBlank_eq_some_iff.2 ⟨' ', isBlank_space, hfront, ?_⟩
  simp only [String.toList_append, List.append_assoc]
  rfl

/-! ### Leads -/

lemma afterChars?_eq_some_iff {lead rest : List Char} : afterChars? lead cs = some rest ↔ cs = lead ++ rest := by
  induction lead generalizing cs with
  | nil => simp [afterChars?]
  | cons l lead ih =>
    cases cs with
    | nil => simp [afterChars?]
    | cons c cs => by_cases hl : l = c <;> simp [afterChars?, hl, ih, eq_comm]

theorem after?_eq_some_iff {lead s rest : String} : after? lead s = some rest ↔ s = lead ++ rest := by
  unfold after?
  rw [Option.map_eq_some_iff, ← String.toList_inj, String.toList_append]
  simp only [afterChars?_eq_some_iff]
  constructor
  · rintro ⟨chars, hs, rfl⟩
    rw [hs, String.toList_ofList]
  · intro hs
    exact ⟨rest.toList, hs, String.ofList_toList⟩

lemma after?_eq_none_iff {lead s : String} : after? lead s = none ↔ ¬lead.toList <+: s.toList := by
  rw [← not_iff_not, not_not, ← ne_eq, Option.ne_none_iff_exists']
  constructor
  · rintro ⟨rest, hrest⟩
    rw [after?_eq_some_iff.1 hrest, String.toList_append]
    exact List.prefix_append _ _
  · rintro ⟨chars, hs⟩
    refine ⟨String.ofList chars, after?_eq_some_iff.2 ?_⟩
    rw [← String.toList_inj, String.toList_append, String.toList_ofList, hs]

/-! ### Words of a text -/

lemma occursIn_iff (word cs : List Char) : occursIn word cs = true ↔ word <:+: cs := by
  induction cs with
  | nil => simp [occursIn]
  | cons c cs ih => simp [occursIn, ih, List.infix_cons_iff, List.isPrefixOf_iff_prefix]

/-- A word that begins before a character that is not in it ends before it. -/
lemma prefix_of_prefix_append_cons {word : List Char} {c : Char} (hc : c ∉ word) (front back : List Char)
    (h : word <+: front ++ c :: back) : word <+: front := by
  have hfront : front <+: front ++ c :: back := List.prefix_append _ _
  rcases List.prefix_or_prefix_of_prefix h hfront with hword | ⟨more, rfl⟩
  · exact hword
  · cases more with
    | nil => exact ⟨[], by simp⟩
    | cons x more =>
      rw [List.prefix_append_right_inj, List.cons_prefix_cons] at h
      exact absurd (by simp [h.1]) hc

/-- A word does not reach across a character that is not in it. -/
theorem infix_of_infix_append_cons {word front back : List Char} {c : Char} (hc : c ∉ word)
    (h : word <:+: front ++ c :: back) : word <:+: front ∨ word <:+: back := by
  induction front with
  | nil =>
    rcases List.infix_cons_iff.1 h with hprefix | hback
    · have hword : word <+: [] := prefix_of_prefix_append_cons hc [] back hprefix
      exact Or.inl hword.isInfix
    · exact Or.inr hback
  | cons x front ih =>
    rcases List.infix_cons_iff.1 h with hprefix | hrest
    · have hword : word <+: x :: front := prefix_of_prefix_append_cons hc (x :: front) back hprefix
      exact Or.inl hword.isInfix
    · exact (ih hrest).imp_left fun hfront => List.infix_cons_iff.2 (Or.inr hfront)

lemma firstWord_append {name more : String} (hne : name ≠ "") (hname : ∀ c ∈ name.toList, isBlank c = false)
    (hmore : ∀ c, more.toList.head? = some c → isBlank c = true) : firstWord (name ++ more) = some name := by
  have htake : (name ++ more).toList.takeWhile (fun c => !isBlank c) = name.toList := by
    have hpass : ∀ c ∈ name.toList, (!isBlank c) = true := by
      intro c hc
      simp [hname c hc]
    rw [String.toList_append, List.takeWhile_append_of_pos hpass]
    cases hm : more.toList with
    | nil => rw [List.takeWhile_nil, List.append_nil]
    | cons first rest =>
      rw [hm] at hmore
      rw [List.takeWhile_cons_of_neg (by simp [hmore first rfl]), List.append_nil]
  have hstart : trimStart (name ++ more).toList = (name ++ more).toList := by
    rw [String.toList_append]
    cases hn : name.toList with
    | nil => exact absurd (String.toList_eq_nil_iff.1 hn) hne
    | cons first rest =>
      rw [hn] at hname
      exact List.dropWhile_cons_of_neg (by simp [hname first (List.mem_cons_self ..)])
  unfold firstWord
  rw [hstart]
  split
  · next hnil =>
    rw [String.toList_append, List.append_eq_nil_iff, String.toList_eq_nil_iff] at hnil
    exact absurd hnil.1 hne
  · rw [htake, String.ofList_toList]

end PeerChat.Text
