import Mathlib.Algebra.Order.Field.Rat
import Mathlib.Tactic.FieldSimp
import PeerChat.Proofs.Text.Cut

/-!
Decimal numerals: digits, and maybe a point with more digits behind it.

* `ofDigits_append`, `ofDigits_digitsPadded`: the number that a run of digits writes, by its parts;
* `Writes`: a numeral in its shortest form and the number that it writes, which is one number (`Writes.unique`);
* `writes_parts`: digits, and the digits of a rest without the zeros at their end, make such a numeral.
-/

namespace PeerChat.Text

variable {cs : List Char} {c : Char} {n width places : Nat} {q r : ℚ}

/-! ### Runs of digits -/

lemma ofDigits_eq (cs : List Char) : ofDigits cs = Nat.ofDigitChars 10 cs 0 := Nat.ofDigitChars_eq_foldl.symm

lemma ofDigits_digits (n : Nat) : ofDigits (digits n) = n := by
  rw [ofDigits_eq]
  exact Nat.ofDigitChars_ten_toDigits

lemma ofDigits_append (front back : List Char) :
    ofDigits (front ++ back) = 10 ^ back.length * ofDigits front + ofDigits back := by
  rw [ofDigits_eq, Nat.ofDigitChars_append, Nat.ofDigitChars_eq_ofDigitChars_zero, ← ofDigits_eq, ← ofDigits_eq]

lemma ofDigits_replicate_zero (k : Nat) : ofDigits (List.replicate k '0') = 0 := by
  rw [ofDigits_eq, Nat.ofDigitChars_replicate_zero, Nat.mul_zero]

lemma ofDigits_digitsPadded (width n : Nat) : ofDigits (digitsPadded width n) = n := by
  unfold digitsPadded
  rw [ofDigits_append, ofDigits_replicate_zero, ofDigits_digits, Nat.mul_zero, Nat.zero_add]

lemma length_digitsPadded (hwidth : 0 < width) (h : n < 10 ^ width) : (digitsPadded width n).length = width := by
  have hle : (digits n).length ≤ width := (Nat.length_toDigits_le_iff (by omega) hwidth).2 h
  unfold digitsPadded
  rw [List.length_append, List.length_replicate]
  omega

lemma isDigit_of_mem_digits (h : c ∈ digits n) : isDigit c = true :=
  Nat.isDigit_of_mem_toDigits (by omega) (Nat.le_refl 10) h

lemma isDigit_of_mem_digitsPadded (h : c ∈ digitsPadded width n) : isDigit c = true := by
  rcases List.mem_append.1 h with hzero | hdigit
  · rw [List.eq_of_mem_replicate hzero]
    rfl
  · exact isDigit_of_mem_digits hdigit

lemma takeWhile_isDigit_append {rest : List Char} (hcs : ∀ c ∈ cs, isDigit c = true)
    (hrest : ∀ c, rest.head? = some c → isDigit c = false) : (cs ++ rest).takeWhile isDigit = cs := by
  rw [List.takeWhile_append_of_pos hcs]
  cases rest with
  | nil => simp
  | cons c rest => rw [List.takeWhile_cons_of_neg (by simp [hrest c rfl]), List.append_nil]

lemma digits_ne_nil (n : Nat) : digits n ≠ [] := Nat.toDigits_ne_nil

lemma head?_digits_ne_zero (h : 0 < n) : (digits n).head? ≠ some '0' := by
  induction n using Nat.strongRecOn with
  | ind n ih =>
    by_cases hsmall : n < 10
    · have hall : ∀ n < 10, 0 < n → [n.digitChar].head? ≠ some '0' := by decide
      unfold digits
      rw [Nat.toDigits_of_lt_base hsmall]
      exact hall n hsmall h
    · have hfront := ih (n / 10) (by omega) (by omega)
      unfold digits at hfront ⊢
      rwa [Nat.toDigits_of_base_le (by omega) (by omega), List.head?_append_of_ne_nil _ Nat.toDigits_ne_nil]

lemma exists_digits_eq_cons (n : Nat) : ∃ d ds, digits n = d :: ds ∧ d ≠ '-' ∧ d ≠ '+' := by
  obtain ⟨d, ds, hds⟩ := List.exists_cons_of_ne_nil (digits_ne_nil n)
  have hd : isDigit d = true := isDigit_of_mem_digits (hds ▸ List.mem_cons_self ..)
  refine ⟨d, ds, hds, ?_, ?_⟩
  · rintro rfl
    exact absurd hd (by decide)
  · rintro rfl
    exact absurd hd (by decide)

lemma exists_dropTrailing_append (c : Char) (cs : List Char) :
    ∃ k, dropTrailing (· = c) cs ++ List.replicate k c = cs := by
  have hrun : ∀ x ∈ cs.rtakeWhile (· = c), x = c := by
    intro x hx
    simpa using List.mem_rtakeWhile_imp (p := (· = c)) hx
  refine ⟨(cs.rtakeWhile (· = c)).length, ?_⟩
  rw [← List.eq_replicate_of_mem hrun]
  exact List.rdropWhile_append_rtakeWhile

/-! ### Numerals -/

/-- A numeral with at most so many digits behind its point writes a number. It has its shortest form: the whole number
is written by its digits and nothing else, the others do not end in a zero, and the point stands only before a digit. -/
inductive Writes (places : Nat) : List Char → ℚ → Prop
  | whole (n : Nat) : Writes places (digits n) n
  | withFraction (n : Nat) {fraction : List Char} (hdigits : ∀ c ∈ fraction, isDigit c = true)
      (hlength : fraction.length ≤ places) (hne : fraction ≠ []) (hlast : fraction.getLast hne ≠ '0') :
      Writes places (digits n ++ '.' :: fraction) (n + ofDigits fraction / 10 ^ fraction.length)

/-- The number that digits with or without a point write. -/
def ofNumeral (cs : List Char) : ℚ :=
  match cutWhere (· == '.') cs with
  | none => ofDigits cs
  | some (whole, fraction) => ofDigits whole + ofDigits fraction / 10 ^ fraction.length

lemma ne_of_mem_digits {d : Char} (hd : isDigit d = false) (h : c ∈ digits n) : (c == d) = false := by
  rw [beq_eq_false_iff_ne]
  rintro rfl
  exact absurd (isDigit_of_mem_digits h) (by simp [hd])

lemma Writes.eq_ofNumeral (h : Writes places cs q) : q = ofNumeral cs := by
  have hpoint (n : Nat) : ∀ c ∈ digits n, (c == '.') = false := fun c hc => ne_of_mem_digits (by decide) hc
  cases h with
  | whole n =>
    unfold ofNumeral
    rw [cutWhere_of_forall (hpoint n), ofDigits_digits]
  | @withFraction n fraction =>
    unfold ofNumeral
    rw [cutWhere_append_cons (hpoint n) (by decide)]
    dsimp only
    rw [ofDigits_digits]

theorem Writes.unique {places' : Nat} (hq : Writes places cs q) (hr : Writes places' cs r) : q = r :=
  hq.eq_ofNumeral.trans hr.eq_ofNumeral.symm

lemma Writes.isBlank_eq_false (h : Writes places cs q) (hc : c ∈ cs) : isBlank c = false := by
  cases h with
  | whole n => exact isBlank_eq_false_of_isDigit (isDigit_of_mem_digits hc)
  | @withFraction n fraction hdigits =>
    rcases List.mem_append.1 hc with hc | hc
    · exact isBlank_eq_false_of_isDigit (isDigit_of_mem_digits hc)
    · rcases List.mem_cons.1 hc with rfl | hc
      · decide
      · exact isBlank_eq_false_of_isDigit (hdigits c hc)

/-- Digits, and behind a point the digits of a rest without the zeros at their end: if nothing is left of those, there
is no point. -/
theorem writes_parts (whole : Nat) {rest : Nat} (hplaces : 0 < places) (hrest : rest < 10 ^ places) :
    Writes places
      (digits whole ++ if dropTrailing (· = '0') (digitsPadded places rest) = [] then []
        else '.' :: dropTrailing (· = '0') (digitsPadded places rest))
      (whole + rest / 10 ^ places) := by
  obtain ⟨k, hzeros⟩ := exists_dropTrailing_append '0' (digitsPadded places rest)
  generalize hfraction : dropTrailing (· = '0') (digitsPadded places rest) = fraction at hzeros ⊢
  have hlength : fraction.length + k = places := by
    have hpadded := length_digitsPadded hplaces hrest
    rwa [← hzeros, List.length_append, List.length_replicate] at hpadded
  have hvalue : 10 ^ k * ofDigits fraction = rest := by
    have hpadded := ofDigits_digitsPadded places rest
    rwa [← hzeros, ofDigits_append, ofDigits_replicate_zero, List.length_replicate, Nat.add_zero] at hpadded
  have hquotient : (rest : ℚ) / 10 ^ places = ofDigits fraction / 10 ^ fraction.length := by
    rw [← hvalue, ← hlength, pow_add]
    push_cast
    field_simp
  rw [hquotient]
  split_ifs with hnil
  · rw [hnil, List.append_nil]
    simpa [ofDigits] using Writes.whole whole
  · refine .withFraction whole ?_ (by omega) hnil ?_
    · intro c hc
      have hmem : c ∈ digitsPadded places rest := hzeros ▸ List.mem_append_left _ hc
      exact isDigit_of_mem_digitsPadded hmem
    · subst hfraction
      have hlast := List.rdropWhile_last_not _ _ hnil
      exact fun hzero => hlast (decide_eq_true hzero)

end PeerChat.Text
