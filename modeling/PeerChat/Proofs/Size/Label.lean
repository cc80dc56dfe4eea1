import PeerChat.Proofs.Size.Rounding
import PeerChat.Proofs.Text.Numeral
import PeerChat.SizeLabel

/-!
What size labels say of the count of bytes that they are made of.

* `shows_text`, `Shows.unique`: a label shows one number of units, written in its shortest form;
* `faithful`: the unit is the largest one not above the count, the number is the nearest one with so many places, and
  labels of larger counts show no less;
* `stays_below_next_unit`: but the number may be rounded up to 1024, which is one of the next unit.
-/

namespace PeerChat

open Text (Writes)

/-! ### Units -/

namespace SizeUnit

lemma symbol_injective {u w : SizeUnit} (h : u.symbol = w.symbol) : u = w := by
  revert h
  cases u <;> cases w <;> decide

lemma bytes_dvd {u w : SizeUnit} (h : u.bytes ≤ w.bytes) : u.bytes ∣ w.bytes := by
  revert h
  cases u <;> cases w <;> decide

lemma bytes_le (u : SizeUnit) : u.bytes ≤ 2 ^ 40 := by cases u <;> decide

variable {n m : Nat}

lemma bytes_le_bytes_ofBytes {u : SizeUnit} (h : u.bytes ≤ n) : u.bytes ≤ (ofBytes n).bytes := by
  unfold ofBytes
  split_ifs <;> cases u <;> simp only [bytes] at * <;> omega

lemma bytes_ofBytes_le_of_le (h : n ≤ m) : (ofBytes n).bytes ≤ (ofBytes m).bytes := by
  rcases Nat.eq_zero_or_pos n with rfl | hn
  · exact bytes_pos _
  · exact bytes_le_bytes_ofBytes ((bytes_ofBytes_le hn).trans h)

lemma lt_of_ofBytes_ne_tera (h : ofBytes n ≠ tera) : n < 1024 * (ofBytes n).bytes := by
  unfold ofBytes at *
  split_ifs at * with htera hgiga hmega hkilo
  · exact absurd rfl h
  all_goals simp only [bytes] at *; omega

end SizeUnit

namespace SizeLabel

variable {places n m : Nat} {q r : ℚ} {u w : SizeUnit}

/-! ### What a label shows -/

/-- A label shows a number of units: a numeral in its shortest form and the symbol of the unit, parted by a blank. -/
def Shows (places : Nat) (label : String) (q : ℚ) (unit : SizeUnit) : Prop :=
  ∃ number, Writes places number q ∧ label = String.ofList number ++ " " ++ unit.symbol

lemma writes_number (l : SizeLabel) : Writes l.places l.number (l.scaled / 10 ^ l.places) := by
  unfold number fraction whole
  by_cases hplaces : l.places = 0
  · rw [if_pos hplaces, if_pos rfl, List.append_nil, hplaces]
    simpa using Writes.whole (l.scaled / Nat.pow 10 0)
  · have hpow : 0 < 10 ^ l.places := Nat.pow_pos (by omega)
    have hparts : (l.scaled : ℚ) / 10 ^ l.places =
        (l.scaled / 10 ^ l.places : Nat) + (l.scaled % 10 ^ l.places : Nat) / 10 ^ l.places := by
      have hsum : (l.scaled : ℚ) = 10 ^ l.places * (l.scaled / 10 ^ l.places : Nat) +
          (l.scaled % 10 ^ l.places : Nat) := by
        exact_mod_cast (Nat.div_add_mod _ _).symm
      rw [div_eq_iff (by positivity), add_mul, div_mul_cancel₀ _ (by positivity), mul_comm _ (10 ^ l.places : ℚ)]
      exact hsum
    rw [if_neg hplaces, hparts]
    exact Text.writes_parts _ (by omega) (Nat.mod_lt _ hpow)

lemma shows_text (l : SizeLabel) : Shows l.places l.text (l.scaled / 10 ^ l.places) l.unit :=
  ⟨l.number, writes_number l, rfl⟩

lemma cut_of_shows {label : String} (h : Shows places label q u) : ∃ number, Writes places number q ∧
    Text.cutWhere (· == ' ') label.toList = some (number, u.symbol.toList) := by
  obtain ⟨number, hnumber, rfl⟩ := h
  refine ⟨number, hnumber, ?_⟩
  have hvisible : ∀ c ∈ number, (c == ' ') = false := by
    intro c hc
    rw [beq_eq_false_iff_ne]
    rintro rfl
    exact absurd (hnumber.isBlank_eq_false hc) (by decide)
  rw [String.toList_append, String.toList_append, String.toList_ofList, List.append_assoc]
  exact Text.cutWhere_append_cons hvisible (by decide) _

theorem Shows.unique {label : String} (hq : Shows places label q u) (hr : Shows places label r w) : q = r ∧ u = w := by
  obtain ⟨number, hnumber, hcut⟩ := cut_of_shows hq
  obtain ⟨other, hother, hcut'⟩ := cut_of_shows hr
  rw [hcut] at hcut'
  obtain ⟨rfl, hsymbol⟩ := Prod.mk.inj (Option.some.inj hcut')
  exact ⟨hnumber.unique hother, SizeUnit.symbol_injective (String.toList_inj.1 hsymbol)⟩

/-! ### How near it comes -/

lemma isNearest_scaled (n places : Nat) : IsNearest (nearestDouble n * 10 ^ places) (SizeUnit.ofBytes n).bytes
    (ofBytes n places).scaled :=
  isNearest_roundHalfEven _ (SizeUnit.bytes_pos _)

lemma abs_shown_sub_le (n places : Nat) :
    |((ofBytes n places).scaled / 10 ^ places * (SizeUnit.ofBytes n).bytes - nearestDouble n : ℚ)| ≤
      (SizeUnit.ofBytes n).bytes / (2 * 10 ^ places) := by
  obtain ⟨hbelow, habove, -⟩ := isNearest_scaled n places
  generalize (ofBytes n places).scaled = scaled at *
  generalize (SizeUnit.ofBytes n).bytes = bytes at *
  have hbelow : (2 * (nearestDouble n * 10 ^ places) : ℚ) ≤ 2 * (scaled * bytes) + bytes := by exact_mod_cast hbelow
  have habove : (2 * (scaled * bytes) : ℚ) ≤ 2 * (nearestDouble n * 10 ^ places) + bytes := by exact_mod_cast habove
  have hpow : (0 : ℚ) < 10 ^ places := by positivity
  have hhalf : (bytes : ℚ) / (2 * 10 ^ places) * 10 ^ places = bytes / 2 := by field_simp
  have hshown : (scaled : ℚ) / 10 ^ places * bytes * 10 ^ places = scaled * bytes := by field_simp
  rw [abs_le, neg_le_sub_iff_le_add, sub_le_iff_le_add]
  constructor
  · refine le_of_mul_le_mul_right ?_ hpow
    rw [add_mul, hhalf, hshown]
    linarith
  · refine le_of_mul_le_mul_right ?_ hpow
    rw [add_mul, hhalf, hshown]
    linarith

/-! ### The order of sizes -/

/-- What is shown of a count below a larger unit is no more than that unit. -/
lemma scaled_mul_le {w : SizeUnit} (hw : (SizeUnit.ofBytes n).bytes ≤ w.bytes) (hn : n ≤ w.bytes) :
    (ofBytes n places).scaled * (SizeUnit.ofBytes n).bytes ≤ w.bytes * 10 ^ places := by
  have hunit : 0 < (SizeUnit.ofBytes n).bytes := SizeUnit.bytes_pos _
  have hw40 : w.bytes ≤ 2 ^ 40 := w.bytes_le
  obtain ⟨k, hk⟩ := SizeUnit.bytes_dvd hw
  have hdouble : nearestDouble n ≤ w.bytes := by
    rw [nearestDouble_of_lt (by omega)]
    exact hn
  have hle : (ofBytes n places).scaled ≤ k * 10 ^ places := calc
    (ofBytes n places).scaled
      ≤ roundHalfEven (w.bytes * 10 ^ places) (SizeUnit.ofBytes n).bytes :=
        roundHalfEven_le hunit (Nat.mul_le_mul_right _ hdouble)
    _ = roundHalfEven (k * 10 ^ places * (SizeUnit.ofBytes n).bytes) (SizeUnit.ofBytes n).bytes := by
        rw [hk]
        ring_nf
    _ = k * 10 ^ places := roundHalfEven_mul _ hunit
  calc (ofBytes n places).scaled * (SizeUnit.ofBytes n).bytes
      ≤ k * 10 ^ places * (SizeUnit.ofBytes n).bytes := Nat.mul_le_mul_right _ hle
    _ = w.bytes * 10 ^ places := by
        rw [hk]
        ring

lemma le_scaled_mul (hn : 0 < n) (hlt : n < 2 ^ 64) :
    (SizeUnit.ofBytes n).bytes * 10 ^ places ≤ (ofBytes n places).scaled * (SizeUnit.ofBytes n).bytes := by
  have hunit : 0 < (SizeUnit.ofBytes n).bytes := SizeUnit.bytes_pos _
  have hdouble : (SizeUnit.ofBytes n).bytes ≤ nearestDouble n := by
    have hle := nearestDouble_le hlt (SizeUnit.bytes_ofBytes_le hn)
    rwa [nearestDouble_of_lt (by have := (SizeUnit.ofBytes n).bytes_le; omega)] at hle
  have hle : 10 ^ places ≤ (ofBytes n places).scaled := calc
    10 ^ places = roundHalfEven (10 ^ places * (SizeUnit.ofBytes n).bytes) (SizeUnit.ofBytes n).bytes :=
        (roundHalfEven_mul _ hunit).symm
    _ ≤ (ofBytes n places).scaled := by
        refine roundHalfEven_le hunit ?_
        rw [Nat.mul_comm]
        exact Nat.mul_le_mul_right _ hdouble
  rw [Nat.mul_comm]
  exact Nat.mul_le_mul_right _ hle

theorem scaled_mul_le_scaled_mul (hnm : n ≤ m) (hm : m < 2 ^ 64) :
    (ofBytes n places).scaled * (SizeUnit.ofBytes n).bytes ≤
      (ofBytes m places).scaled * (SizeUnit.ofBytes m).bytes := by
  have hunit := SizeUnit.bytes_ofBytes_le_of_le hnm
  rcases hunit.eq_or_lt with hsame | hlt
  · have hdouble : nearestDouble n * 10 ^ places ≤ nearestDouble m * 10 ^ places :=
      Nat.mul_le_mul_right _ (nearestDouble_le hm hnm)
    have hscaled := roundHalfEven_le (SizeUnit.bytes_pos (SizeUnit.ofBytes m)) hdouble
    rw [hsame]
    refine Nat.mul_le_mul_right _ ?_
    show roundHalfEven (nearestDouble n * 10 ^ places) (SizeUnit.ofBytes n).bytes ≤ _
    rw [hsame]
    exact hscaled
  · -- the smaller count lies below the unit of the larger one
    have hbelow : n < (SizeUnit.ofBytes m).bytes := by
      by_contra hle
      exact absurd (SizeUnit.bytes_le_bytes_ofBytes (Nat.le_of_not_lt hle)) (Nat.not_le_of_lt hlt)
    have hpos : 0 < m := by
      by_contra hzero
      obtain ⟨rfl, rfl⟩ : n = 0 ∧ m = 0 := by omega
      exact absurd hlt (Nat.lt_irrefl _)
    exact (scaled_mul_le hunit hbelow.le).trans (le_scaled_mul hpos hm)

/-! ### What labels say -/

/-- A number of units is what a count of bytes comes to, with so many places. -/
structure Measures (places n : Nat) (q : ℚ) (unit : SizeUnit) : Prop where
  /-- The unit is the largest one that is not above the count. -/
  fits : unit.bytes ≤ n
  largest (u : SizeUnit) : u.bytes ≤ n → u.bytes ≤ unit.bytes
  /-- The size is at most half a unit of the last place away from the double nearest to the count. -/
  rounded : IsNearestDouble n (nearestDouble n)
  close : |q * unit.bytes - nearestDouble n| ≤ unit.bytes / (2 * 10 ^ places)

/-- What labels with so many places say of the counts that they are made of. -/
structure Faithful (places : Nat) : Prop where
  shown (n : Nat) : 0 < n → n < 2 ^ 64 →
    ∃ q unit, Shows places (ofBytes n places).text q unit ∧ Measures places n q unit
  zero : Shows places (ofBytes 0 places).text 0 .byte
  /-- Labels show no less of larger counts. -/
  ordered {n m : Nat} {q r : ℚ} {u w : SizeUnit} : n ≤ m → m < 2 ^ 64 →
    Shows places (ofBytes n places).text q u → Shows places (ofBytes m places).text r w → q * u.bytes ≤ r * w.bytes

/-- **A label shows what its count comes to**, whatever the number of its places: in the largest unit that fits, as the
nearest number with so many places, written in its shortest form; and the larger the counts, the larger the sizes
shown. -/
theorem faithful (places : Nat) : Faithful places where
  shown n hpos hlt := by
    refine ⟨_, _, shows_text (ofBytes n places), ?_⟩
    exact {
      fits := SizeUnit.bytes_ofBytes_le hpos
      largest := fun _ hu => SizeUnit.bytes_le_bytes_ofBytes hu
      rounded := isNearestDouble_nearestDouble hlt
      close := abs_shown_sub_le n places }
  zero := by
    have hscaled : (ofBytes 0 places).scaled = 0 := by simp [ofBytes, nearestDouble, roundHalfEven]
    have hshows := shows_text (ofBytes 0 places)
    rwa [hscaled, Nat.cast_zero, zero_div] at hshows
  ordered {n m q r u w} hnm hm hq hr := by
    obtain ⟨rfl, rfl⟩ := hq.unique (shows_text (ofBytes n places))
    obtain ⟨rfl, rfl⟩ := hr.unique (shows_text (ofBytes m places))
    have hle : ((ofBytes n places).scaled * (SizeUnit.ofBytes n).bytes : ℚ) ≤
        (ofBytes m places).scaled * (SizeUnit.ofBytes m).bytes := by
      exact_mod_cast scaled_mul_le_scaled_mul hnm hm
    show (_ / 10 ^ places * (SizeUnit.ofBytes n).bytes : ℚ) ≤ _ / 10 ^ places * (SizeUnit.ofBytes m).bytes
    rw [div_mul_eq_mul_div, div_mul_eq_mul_div]
    exact div_le_div_of_nonneg_right hle (by positivity)

/-! ### The next unit -/

lemma scaled_of_ne_tera (places : Nat) (h : SizeUnit.ofBytes n ≠ .tera) :
    (ofBytes n places).scaled = roundHalfEven (n * 10 ^ places) (SizeUnit.ofBytes n).bytes := by
  have hlt : n < 1024 * (SizeUnit.ofBytes n).bytes := SizeUnit.lt_of_ofBytes_ne_tera h
  have hle : (SizeUnit.ofBytes n).bytes ≤ 2 ^ 40 := SizeUnit.bytes_le _
  show roundHalfEven (nearestDouble n * 10 ^ places) _ = _
  rw [nearestDouble_of_lt (by omega)]

lemma scaled_le_of_ne_tera (places : Nat) (h : SizeUnit.ofBytes n ≠ .tera) :
    (ofBytes n places).scaled ≤ 1024 * 10 ^ places := by
  have hunit : 0 < (SizeUnit.ofBytes n).bytes := SizeUnit.bytes_pos _
  have hcount : n * 10 ^ places ≤ 1024 * 10 ^ places * (SizeUnit.ofBytes n).bytes := calc
    n * 10 ^ places ≤ 1024 * (SizeUnit.ofBytes n).bytes * 10 ^ places :=
        Nat.mul_le_mul_right _ (SizeUnit.lt_of_ofBytes_ne_tera h).le
    _ = 1024 * 10 ^ places * (SizeUnit.ofBytes n).bytes := Nat.mul_right_comm ..
  rw [scaled_of_ne_tera places h, ← roundHalfEven_mul (1024 * 10 ^ places) hunit]
  exact roundHalfEven_le hunit hcount

/-- 1024 is an even number, so a number that lies in the middle below it is rounded up to it. -/
lemma scaled_lt_iff (places : Nat) (h : SizeUnit.ofBytes n ≠ .tera) : (ofBytes n places).scaled < 1024 * 10 ^ places ↔
    2 * (n * 10 ^ places) + (SizeUnit.ofBytes n).bytes < 2 * (1024 * 10 ^ places * (SizeUnit.ofBytes n).bytes) := by
  have hunit : 0 < (SizeUnit.ofBytes n).bytes := SizeUnit.bytes_pos _
  rw [scaled_of_ne_tera places h, ← Nat.not_le, le_roundHalfEven_iff hunit (by omega), Nat.not_le]

/-- A number of units below the largest one stays below 1024, unless half a unit of the last place or less is missing to
the next unit; then it is 1024. -/
structure StaysBelow (places n : Nat) (q : ℚ) (unit : SizeUnit) : Prop where
  le : q ≤ 1024
  lt_iff : q < 1024 ↔ (unit.bytes : ℚ) / (2 * 10 ^ places) < 1024 * unit.bytes - n

/-- **A label shows fewer than 1024 units, if more than half a unit of the last place is missing to the next one.** -/
theorem stays_below_next_unit (places n : Nat) :
    ∃ q unit, Shows places (ofBytes n places).text q unit ∧ (unit ≠ .tera → StaysBelow places n q unit) := by
  refine ⟨_, _, shows_text (ofBytes n places), fun h => ?_⟩
  have hpow : (0 : ℚ) < 10 ^ places := by positivity
  constructor
  · show ((ofBytes n places).scaled : ℚ) / 10 ^ places ≤ 1024
    rw [div_le_iff₀ hpow]
    exact_mod_cast scaled_le_of_ne_tera places h
  · show ((ofBytes n places).scaled : ℚ) / 10 ^ places < 1024 ↔
      ((SizeUnit.ofBytes n).bytes : ℚ) / (2 * 10 ^ places) < 1024 * (SizeUnit.ofBytes n).bytes - n
    have hscaled : ((ofBytes n places).scaled : ℚ) < 1024 * 10 ^ places ↔
        (2 * (n * 10 ^ places) + (SizeUnit.ofBytes n).bytes : ℚ) <
          2 * (1024 * 10 ^ places * (SizeUnit.ofBytes n).bytes) := by
      exact_mod_cast scaled_lt_iff places h
    rw [div_lt_iff₀ hpow, div_lt_iff₀ (by positivity), hscaled]
    constructor <;> intro hlt <;> linarith

/-- One byte less than a megabyte is shown as 1024 kilobytes. -/
theorem kilobytes_reach_1024 :
    ¬∀ (places n : Nat) (q : ℚ) (unit : SizeUnit), n < 2 ^ 64 → Shows places (ofBytes n places).text q unit →
      unit ≠ .tera → q < 1024 := by
  intro h
  have hshows : Shows 2 (ofBytes 1048575 2).text 1024 .kilo := by
    have htext : (ofBytes 1048575 2).text = "1024 KB" := by decide +kernel
    rw [htext]
    exact ⟨"1024".toList, Writes.whole 1024, rfl⟩
  exact absurd (h 2 1048575 1024 .kilo (by norm_num) hshows (by decide)) (lt_irrefl _)

end SizeLabel

end PeerChat
