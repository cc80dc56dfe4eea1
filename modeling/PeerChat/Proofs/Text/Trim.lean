import Mathlib.Data.List.DropRight
import PeerChat.Text.Cut

/-!
Texts without the blanks around them: what trimming does not see, and how a trimmed text begins.

* `trimChars_dropTrailing`: what is trimmed may be cut off before, and it makes no difference;
* `trimChars_trimChars`: a trimmed text stays as it is when it is trimmed again;
* `head?_trimChars`: a trimmed text begins with the first character that is not blank;
* `trimChars_eq_self_iff`: a text is trimmed exactly if it neither begins nor ends with a blank;
* `after?_slash_eq_none_iff`: a text has nothing after a slash exactly if it does not begin with one.
-/

namespace PeerChat.Text

variable {p : Char → Bool} {cs : List Char}

lemma dropTrailing_eq_rdropWhile (p : Char → Bool) (cs : List Char) : dropTrailing p cs = cs.rdropWhile p := rfl

/-! ### What trimming does not see -/

lemma trimChars_concat {c : Char} (hc : isBlank c = true) : trimChars (cs ++ [c]) = trimChars cs := by
  have hstart : trimStart (cs ++ [c]) = trimStart cs ++ [c] ∨ trimStart cs = [] ∧ trimStart (cs ++ [c]) = [] := by
    unfold trimStart
    rw [List.dropWhile_append]
    cases hcs : cs.dropWhile isBlank with
    | nil => exact Or.inr ⟨rfl, by simp [hc]⟩
    | cons first rest => exact Or.inl rfl
  unfold trimChars
  rcases hstart with hstart | ⟨hnil, hstart⟩
  · rw [hstart, dropTrailing_eq_rdropWhile, List.rdropWhile_concat_pos _ _ _ hc]
    rfl
  · rw [hstart, hnil]

/-- Blanks that are cut off at the end make no difference, whichever they are. -/
theorem trimChars_dropTrailing (hp : ∀ c, p c = true → isBlank c = true) (cs : List Char) :
    trimChars (dropTrailing p cs) = trimChars cs := by
  induction cs using List.reverseRecOn with
  | nil => rfl
  | append_singleton cs c ih =>
    rw [dropTrailing_eq_rdropWhile, List.rdropWhile_concat]
    split
    · next hc => rw [trimChars_concat (hp c hc)]; exact ih
    · rfl

lemma trimChars_eq_nil_iff : trimChars cs = [] ↔ cs.all isBlank = true := by
  unfold trimChars trimStart
  rw [dropTrailing_eq_rdropWhile, List.rdropWhile_eq_nil_iff, List.all_eq_true]
  constructor
  · intro hrest c hc
    rw [← List.takeWhile_append_dropWhile (p := isBlank) (l := cs)] at hc
    rcases List.mem_append.1 hc with hc | hc
    · exact List.mem_takeWhile_imp hc
    · exact hrest c hc
  · intro hall c hc
    exact hall c ((List.dropWhile_suffix isBlank).subset hc)

/-! ### How a text begins -/

lemma head?_of_begins {front : List Char} (hbegins : front <+: cs) (hfront : front ≠ []) : front.head? = cs.head? := by
  obtain ⟨back, rfl⟩ := hbegins
  exact (List.head?_append_of_ne_nil _ hfront).symm

/-- A trimmed text begins with the first character that is not blank. -/
theorem head?_trimChars (cs : List Char) : (trimChars cs).head? = cs.find? fun c => !isBlank c := by
  have hstart : (trimStart cs).head? = cs.find? fun c => !isBlank c := by
    rw [List.find?_eq_head?_dropWhile_not]
    simp only [Bool.not_not]
    rfl
  by_cases hnil : trimChars cs = []
  · have hall : ∀ c ∈ cs, isBlank c = true := List.all_eq_true.1 (trimChars_eq_nil_iff.1 hnil)
    rw [hnil, List.head?_nil, eq_comm, List.find?_eq_none]
    simpa using hall
  · have hbegins : trimChars cs <+: trimStart cs := List.rdropWhile_prefix isBlank _
    rw [head?_of_begins hbegins hnil, hstart]

/-! ### Trimmed texts -/

lemma mem_of_mem_trimChars {c : Char} (hc : c ∈ trimChars cs) : c ∈ cs :=
  (List.dropWhile_suffix isBlank).subset ((List.rdropWhile_prefix isBlank _).subset hc)

lemma isBlank_head?_trimChars {c : Char} (hc : (trimChars cs).head? = some c) : isBlank c = false := by
  rw [head?_trimChars] at hc
  simpa using List.find?_some hc

theorem trimChars_trimChars (cs : List Char) : trimChars (trimChars cs) = trimChars cs := by
  have hstart : trimStart (trimChars cs) = trimChars cs := by
    unfold trimStart
    cases hcs : trimChars cs with
    | nil => rfl
    | cons first rest =>
      have hfirst : isBlank first = false := isBlank_head?_trimChars (congrArg List.head? hcs)
      exact List.dropWhile_cons_of_neg (by simp [hfirst])
  show dropTrailing isBlank (trimStart (trimChars cs)) = trimChars cs
  rw [hstart]
  exact List.rdropWhile_idempotent isBlank _

lemma dropTrailing_eq_self_iff : dropTrailing p cs = cs ↔ ∀ c, cs.getLast? = some c → p c = false := by
  rw [dropTrailing_eq_rdropWhile, List.rdropWhile_eq_self_iff]
  constructor
  · intro h c hc
    obtain ⟨front, rfl⟩ := List.getLast?_eq_some_iff.1 hc
    simpa using h (by simp)
  · intro h hne
    simpa using h _ (List.getLast?_eq_some_getLast hne)

theorem trimChars_eq_self_iff : trimChars cs = cs ↔
    (∀ c, cs.head? = some c → isBlank c = false) ∧ ∀ c, cs.getLast? = some c → isBlank c = false := by
  have hstart (hhead : ∀ c, cs.head? = some c → isBlank c = false) : trimStart cs = cs := by
    cases cs with
    | nil => rfl
    | cons first rest => exact List.dropWhile_cons_of_neg (by simp [hhead first rfl])
  rw [← dropTrailing_eq_self_iff]
  constructor
  · intro h
    have hhead : ∀ c, cs.head? = some c → isBlank c = false := fun c hc => isBlank_head?_trimChars (h.symm ▸ hc)
    have hdrop : dropTrailing isBlank (trimStart cs) = cs := h
    exact ⟨hhead, by rwa [hstart hhead] at hdrop⟩
  · rintro ⟨hhead, hend⟩
    show dropTrailing isBlank (trimStart cs) = cs
    rw [hstart hhead]
    exact hend

lemma trimChars_of_forall (h : ∀ c ∈ cs, isBlank c = false) : trimChars cs = cs :=
  trimChars_eq_self_iff.2 ⟨fun c hc => h c (List.mem_of_head? hc), fun c hc => h c (List.mem_of_getLast? hc)⟩

lemma visible_of_all (h : cs.all (!isBlank ·) = true) : ∀ c ∈ cs, isBlank c = false := by simpa using h

lemma trim_trim (s : String) : trim (trim s) = trim s := by
  unfold trim
  rw [String.toList_ofList, trimChars_trimChars]

lemma trim_of_forall {s : String} (h : ∀ c ∈ s.toList, isBlank c = false) : trim s = s := by
  unfold trim
  rw [trimChars_of_forall h, String.ofList_toList]

lemma isAllBlank_eq_true_iff (s : String) : isAllBlank s = true ↔ trim s = "" := by
  unfold isAllBlank
  rw [← trimChars_eq_nil_iff, ← toList_trim, String.toList_eq_nil_iff]

lemma isAllBlank_trim (s : String) : isAllBlank (trim s) = isAllBlank s := by
  rw [Bool.eq_iff_iff, isAllBlank_eq_true_iff, isAllBlank_eq_true_iff, trim_trim]

lemma exists_head_of_trimmed {s : String} (htrimmed : trim s = s) (hne : s ≠ "") :
    ∃ first rest, s.toList = first :: rest ∧ isBlank first = false := by
  cases hs : s.toList with
  | nil => exact absurd (String.toList_eq_nil_iff.1 hs) hne
  | cons first rest =>
    have hfirst : (trimChars s.toList).head? = some first := by
      rw [← toList_trim, htrimmed, hs]
      rfl
    exact ⟨first, rest, rfl, isBlank_head?_trimChars hfirst⟩

/-! ### Texts that begin with a slash -/

lemma after?_slash_eq_none_iff (s : String) : after? "/" s = none ↔ s.toList.head? ≠ some '/' := by
  unfold after?
  have hlead : "/".toList = ['/'] := rfl
  rw [hlead, Option.map_eq_none_iff]
  cases s.toList with
  | nil => simp [afterChars?]
  | cons c cs => simp [afterChars?, eq_comm]

end PeerChat.Text
