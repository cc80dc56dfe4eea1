import PeerChat.Calendar.Timestamp
import PeerChat.Proofs.Text.Numeral

/-!
Moments, written and read. Every moment is read from the text that it is written as: with any fraction of a second, in a
leap second, and in a year of any sign and length.

* `readDigits_append`: a field of digits is read up to its width;
* `readYear_append`, `readDate_append`, `readFraction_append`: the parts of a moment;
* `toUtc?_zero`: a clock that shows UTC shows the moment;
* `ofText?_text`: a moment is what its text writes;
* `ofText?_of_offset`: it may be written with any offset from UTC;
* `clockText_of_toUtc?`: local clocks show a moment as it is written with their offset.
-/

namespace PeerChat.Calendar

open PeerChat.Text

namespace Timestamp

variable {cs rest : List Char} {width n nano : Nat}

/-! ### Fields of digits -/

lemma exists_digitsPadded_eq_cons (width n : Nat) (rest : List Char) :
    ∃ d ds, digitsPadded width n ++ rest = d :: ds ∧ isDigit d = true := by
  have hne : digitsPadded width n ≠ [] := List.append_ne_nil_of_right_ne_nil _ (digits_ne_nil n)
  obtain ⟨d, ds, hds⟩ := List.exists_cons_of_ne_nil hne
  exact ⟨d, ds ++ rest, by rw [hds]; rfl, isDigit_of_mem_digitsPadded (hds ▸ List.mem_cons_self ..)⟩

lemma trimStart_digitsPadded (width n : Nat) (rest : List Char) :
    trimStart (digitsPadded width n ++ rest) = digitsPadded width n ++ rest := by
  obtain ⟨d, ds, hds, hd⟩ := exists_digitsPadded_eq_cons width n rest
  rw [hds]
  exact List.dropWhile_cons_of_neg (by simp [isBlank_eq_false_of_isDigit hd])

lemma readDigits_of_takeWhile {most : Nat}
    (h : ((digitsPadded width n ++ rest).take most).takeWhile isDigit = digitsPadded width n) :
    readDigits most (digitsPadded width n ++ rest) = some (n, rest) := by
  have hne : digitsPadded width n ≠ [] := List.append_ne_nil_of_right_ne_nil _ (digits_ne_nil n)
  unfold readDigits
  rw [h]
  simp [hne, ofDigits_digitsPadded]

lemma readDigits_append (hwidth : 0 < width) (h : n < 10 ^ width) (rest : List Char) :
    readDigits width (digitsPadded width n ++ rest) = some (n, rest) := by
  refine readDigits_of_takeWhile ?_
  rw [List.take_left' (length_digitsPadded hwidth h)]
  exact List.takeWhile_eq_self_iff.2 fun c hc => isDigit_of_mem_digitsPadded hc

lemma readDigits_length_append (width n : Nat) (hrest : ∀ c, rest.head? = some c → isDigit c = false) :
    readDigits (digitsPadded width n ++ rest).length (digitsPadded width n ++ rest) = some (n, rest) := by
  refine readDigits_of_takeWhile ?_
  rw [List.take_length]
  exact takeWhile_isDigit_append (fun c hc => isDigit_of_mem_digitsPadded hc) hrest

/-! ### Dates -/

lemma readYear_append (year : Int) (rest : List Char) :
    readYear (trimStart (yearText year ++ '-' :: rest)) = some (year, '-' :: rest) := by
  have hrest : ∀ c, ('-' :: rest).head? = some c → isDigit c = false := fun c hc => by cases hc; decide
  unfold yearText
  by_cases hshort : 0 ≤ year ∧ year ≤ 9999
  · have hread : readDigits 4 (digitsPadded 4 year.toNat ++ '-' :: rest) = some (year.toNat, '-' :: rest) :=
      readDigits_append (by omega) (by omega) _
    have hvalue : (year.toNat : Int) = year := by omega
    rw [if_pos hshort, trimStart_digitsPadded]
    obtain ⟨d, ds, hds, hd⟩ := exists_digitsPadded_eq_cons 4 year.toNat ('-' :: rest)
    have hminus : d ≠ '-' := by rintro rfl; exact absurd hd (by decide)
    have hplus : d ≠ '+' := by rintro rfl; exact absurd hd (by decide)
    rw [hds] at hread ⊢
    simp [readYear, hminus, hplus, hread, hvalue]
  · have hread := readDigits_length_append 4 year.natAbs hrest
    rw [if_neg hshort]
    by_cases hnegative : year < 0
    · have hvalue : -(year.natAbs : Int) = year := by omega
      have htrim : trimStart ('-' :: digitsPadded 4 year.natAbs ++ '-' :: rest) =
          '-' :: (digitsPadded 4 year.natAbs ++ '-' :: rest) := rfl
      rw [if_pos hnegative, htrim, readYear, hread, Option.map_some]
      dsimp only
      rw [hvalue]
    · have hvalue : (year.natAbs : Int) = year := by omega
      have htrim : trimStart ('+' :: digitsPadded 4 year.natAbs ++ '-' :: rest) =
          '+' :: (digitsPadded 4 year.natAbs ++ '-' :: rest) := rfl
      rw [if_neg hnegative, htrim, readYear, hread, Option.map_some]
      dsimp only
      rw [hvalue]

lemma daysIn_le (year : Int) (month : Nat) : daysIn year month ≤ 31 := by
  unfold daysIn
  split_ifs <;> omega

lemma readDate_append (d : Date) (rest : List Char) :
    readDate (yearText d.year ++ '-' :: (digitsPadded 2 d.month ++ '-' :: (digitsPadded 2 d.day ++ rest))) =
      some (d, rest) := by
  have hmonth : d.month < 10 ^ 2 := by have := d.month_mem; omega
  have hday : d.day < 10 ^ 2 := by
    have := d.day_mem
    have := daysIn_le d.year d.month
    omega
  have hdash (cs : List Char) : skipChar '-' (trimStart ('-' :: cs)) = some cs := rfl
  simp [readDate, readYear_append, hdash, trimStart_digitsPadded, readDigits_append (by omega : 0 < 2) hmonth,
    readDigits_append (by omega : 0 < 2) hday]

/-! ### Times of day -/

lemma readFraction_digitsPadded (hwidth : 0 < width) (hle : width ≤ 9) (h : n < 10 ^ width)
    (hrest : ∀ c, rest.head? = some c → isDigit c = false) :
    readFraction ('.' :: (digitsPadded width n ++ rest)) = some (n * 10 ^ (9 - width), rest) := by
  have htake : (digitsPadded width n ++ rest).takeWhile isDigit = digitsPadded width n :=
    takeWhile_isDigit_append (fun c hc => isDigit_of_mem_digitsPadded hc) hrest
  have hlength := length_digitsPadded hwidth h
  have hkept : (digitsPadded width n).take 9 = digitsPadded width n := List.take_of_length_le (by omega)
  have hne : digitsPadded width n ≠ [] := List.append_ne_nil_of_right_ne_nil _ (digits_ne_nil n)
  simp [readFraction, htake, hkept, hne, ofDigits_digitsPadded, hlength]

/-- The digits that are left out at the end of a fraction are zeros. -/
lemma readFraction_append (h : nano < 1000000000)
    (hrest : ∀ c, rest.head? = some c → isDigit c = false ∧ c ≠ '.') :
    readFraction (fractionText nano ++ rest) = some (nano, rest) := by
  have hdigit : ∀ c, rest.head? = some c → isDigit c = false := fun c hc => (hrest c hc).1
  unfold fractionText
  split_ifs with hzero hmilli hmicro
  · rw [hzero]
    cases rest with
    | nil => rfl
    | cons c rest => simp [readFraction, (hrest c rfl).2]
  · have hvalue : nano / 1000000 * 10 ^ (9 - 3) = nano := by omega
    rw [List.cons_append, readFraction_digitsPadded (by omega) (by omega) (by omega) hdigit, hvalue]
  · have hvalue : nano / 1000 * 10 ^ (9 - 6) = nano := by omega
    rw [List.cons_append, readFraction_digitsPadded (by omega) (by omega) (by omega) hdigit, hvalue]
  · have hvalue : nano * 10 ^ (9 - 9) = nano := Nat.mul_one nano
    rw [List.cons_append, readFraction_digitsPadded (by omega) (by omega) (by omega) hdigit, hvalue]

lemma toUtc?_zero (t : Timestamp) : t.toUtc? 0 = some t := by
  have hhour := t.hour_lt
  have hminute := t.minute_lt
  have hparts : ((60 * t.hour + t.minute - 0 : Int) % 1440).toNat = 60 * t.hour + t.minute := by omega
  have hdivided : (60 * t.hour + t.minute) / 60 = t.hour ∧ (60 * t.hour + t.minute) % 60 = t.minute := by omega
  unfold toUtc?
  dsimp only
  rw [if_neg (by omega), if_pos (by omega), hparts, hdivided.1, hdivided.2]
  exact of?_parts t

/-! ### Moments -/

/-- What is written of a moment before its offset from UTC. -/
def shownText (t : Timestamp) : List Char :=
  yearText t.date.year ++ '-' :: (digitsPadded 2 t.date.month ++ '-' :: (digitsPadded 2 t.date.day ++
    'T' :: (digitsPadded 2 t.hour ++ ':' :: (digitsPadded 2 t.minute ++
      ':' :: (digitsPadded 2 t.second ++ fractionText t.nano)))))

/-- An offset of so many minutes, as a sign with hours and minutes. -/
def offsetText (offset : Int) : List Char :=
  (if offset < 0 then '-' else '+') ::
    (digitsPadded 2 (offset.natAbs / 60) ++ ':' :: digitsPadded 2 (offset.natAbs % 60))

lemma render_eq (t : Timestamp) : t.render = t.shownText ++ ['Z'] := by simp [render, clockText, shownText]

lemma read?_append (t : Timestamp) {offset : Int} (hstart : ∀ c, rest.head? = some c → isDigit c = false ∧ c ≠ '.')
    (hoffset : readOffset (trimStart rest) = some (offset, [])) : read? (t.shownText ++ rest) = t.toUtc? offset := by
  have hhour : t.hour < 10 ^ 2 := by have := t.hour_lt; omega
  have hminute : t.minute < 10 ^ 2 := by have := t.minute_lt; omega
  have hsecond : t.second < 10 ^ 2 := by have := t.second_le; omega
  have hfraction : readFraction (fractionText t.nano ++ rest) = some (t.nano, rest) :=
    readFraction_append t.nano_lt hstart
  have hcolon (cs : List Char) : skipChar ':' (trimStart (':' :: cs)) = some cs := rfl
  have hend : trimStart [] = [] := rfl
  have hfield {n : Nat} (h : n < 10 ^ 2) (rest : List Char) :
      readDigits 2 (trimStart (digitsPadded 2 n ++ rest)) = some (n, rest) := by
    rw [trimStart_digitsPadded, readDigits_append (by omega) h]
  unfold shownText
  simp only [List.append_assoc, List.cons_append]
  simp [read?, readDate_append, skipSeparator, hfield hhour, hfield hminute, hfield hsecond, hcolon, hfraction, hoffset,
    hend]

/-- **A moment is what its text writes.** -/
theorem ofText?_text (t : Timestamp) : ofText? t.text = some t := by
  have hoffset : readOffset (trimStart ['Z']) = some (0, []) := by decide
  unfold ofText? text
  rw [String.toList_ofList, render_eq, read?_append t (fun c hc => by cases hc; decide) hoffset, toUtc?_zero]

/-! ### Offsets -/

lemma exists_two_digits {n : Nat} (h : n < 10 ^ 2) :
    ∃ d d', digitsPadded 2 n = [d, d'] ∧ isDigit d = true ∧ isDigit d' = true ∧ ofDigits [d, d'] = n := by
  obtain ⟨d, d', hpair⟩ := List.length_eq_two.1 (length_digitsPadded (by omega) h)
  have hdigit : ∀ c ∈ [d, d'], isDigit c = true := hpair ▸ fun c hc => isDigit_of_mem_digitsPadded hc
  exact ⟨d, d', hpair, hdigit d (by simp), hdigit d' (by simp), hpair ▸ ofDigits_digitsPadded 2 n⟩

lemma le_five_of_ofDigits_lt {d d' : Char} (hd : isDigit d = true) (h : ofDigits [d, d'] < 60) : d ≤ '5' := by
  have hge : '0' ≤ d := by
    unfold isDigit at hd
    simp only [Bool.and_eq_true, decide_eq_true_eq] at hd
    exact hd.1
  have hzero : '0'.toNat = 48 := rfl
  have hfive : '5'.toNat = 53 := rfl
  have hge' : '0'.toNat ≤ d.toNat := hge
  have hvalue : ofDigits [d, d'] = 10 * (d.toNat - '0'.toNat) + (d'.toNat - '0'.toNat) := by simp [ofDigits]
  have hle : d.toNat ≤ '5'.toNat := by omega
  exact hle

lemma readOffsetMinutes_append {n : Nat} (h : n < 1440) :
    readOffsetMinutes (digitsPadded 2 (n / 60) ++ ':' :: digitsPadded 2 (n % 60)) = some (n, []) := by
  obtain ⟨d, d', hhours, hd, hd', hhour⟩ := exists_two_digits (by omega : n / 60 < 10 ^ 2)
  obtain ⟨e, e', hminutes, he, he', hminute⟩ := exists_two_digits (by omega : n % 60 < 10 ^ 2)
  have hfive : e ≤ '5' := le_five_of_ofDigits_lt he (by omega : ofDigits [e, e'] < 60)
  have hcolon : (':' :: [e, e']).dropWhile (fun c => c == ':' || isBlank c) = [e, e'] := by
    have hne : (e == ':') = false := by
      rw [beq_eq_false_iff_ne]
      rintro rfl
      exact absurd he (by decide)
    simp [hne, isBlank_eq_false_of_isDigit he]
  have hsum : 60 * (n / 60) + n % 60 = n := Nat.div_add_mod n 60
  rw [hhours, hminutes]
  simp [readOffsetMinutes, hd, hd', hcolon, he, he', hfive, hhour, hminute, hsum, h]

lemma readOffset_offsetText {offset : Int} (h : offset.natAbs < 1440) :
    readOffset (offsetText offset) = some (offset, []) := by
  have hread := readOffsetMinutes_append h
  obtain ⟨d, d', hhours, -⟩ := exists_two_digits (by omega : offset.natAbs / 60 < 10 ^ 2)
  unfold offsetText
  rw [hhours] at hread ⊢
  by_cases hnegative : offset < 0
  · have hvalue : -|offset| = offset := by rw [abs_of_neg hnegative, Int.neg_neg]
    rw [if_pos hnegative]
    simp only [List.cons_append, List.nil_append] at hread ⊢
    simp [readOffset, readSignedOffset, hread, hvalue]
  · rw [if_neg hnegative]
    simp only [List.cons_append, List.nil_append] at hread ⊢
    simp [readOffset, readSignedOffset, hread, Int.not_lt.1 hnegative]

/-- A moment may be written with any offset from UTC that is shorter than a day. -/
theorem ofText?_of_offset (t : Timestamp) {offset : Int} (h : offset.natAbs < 1440) :
    ofText? (String.ofList (t.shownText ++ offsetText offset)) = t.toUtc? offset := by
  have hstart : ∀ c, (offsetText offset).head? = some c → isDigit c = false ∧ c ≠ '.' := by
    intro c hc
    have hsign : (if offset < 0 then '-' else '+') = c := Option.some.inj hc
    split at hsign <;> subst hsign <;> decide
  have htrim : trimStart (offsetText offset) = offsetText offset := by
    unfold offsetText
    split <;> rfl
  unfold ofText?
  rw [String.toList_ofList]
  refine read?_append t hstart ?_
  rw [htrim]
  exact readOffset_offsetText h

-- a clock five hours behind shows a leap second
example : (ofText? "2016-12-31 18:59:60.5-05:00").map text = some "2016-12-31T23:59:60.500Z" := by
  decide +kernel

/-! ### Local clocks -/

lemma parts_of_of? {date : Date} {hour minute second nano : Nat} {t : Timestamp}
    (h : of? date hour minute second nano = some t) : t.hour = hour ∧ t.minute = minute ∧ t.second = second := by
  unfold of? at h
  split_ifs at h
  obtain rfl := Option.some.inj h
  exact ⟨rfl, rfl, rfl⟩

/-- A clock goes round once a day: the offset that was taken off the hours and minutes comes back. -/
lemma shown_eq {hour minute second : Nat} (hhour : hour < 24) (hminute : minute < 60) (hsecond : second < 60)
    {offset : Int} {ofDay : Nat} (hofDay : ofDay = ((60 * hour + minute - offset : Int) % 1440).toNat) :
    (((3600 * (ofDay / 60) + 60 * (ofDay % 60) + second : Nat) : Int) + 60 * offset) % 86400 =
      (3600 * hour + 60 * minute + second : Nat) := by
  omega

lemma clock_parts (hour : Nat) {minute second : Nat} (hminute : minute < 60) (hsecond : second < 60) :
    (3600 * hour + 60 * minute + second) / 3600 = hour ∧ (3600 * hour + 60 * minute + second) / 60 % 60 = minute ∧
      (3600 * hour + 60 * minute + second) % 60 = second := by
  omega

/-- A moment that is written with an offset is shown, by clocks that are ahead by that much, as it is written. -/
theorem clockText_of_toUtc? {t u : Timestamp} {offset : Int} (h : t.toUtc? offset = some u) :
    Zone.clockText ⟨fun _ => 60 * offset⟩ u = t.clockText := by
  obtain ⟨date, -, hparts⟩ := Option.bind_eq_some_iff.1 h
  obtain ⟨hhour, hminute, hsecond⟩ := parts_of_of? hparts
  have hwithin : t.second - (if t.second = 60 then 1 else 0) < 60 ∧
      t.second - (if t.second = 60 then 1 else 0) + (if t.second = 60 then 1 else 0) = t.second := by
    have hle := t.second_le
    split <;> omega
  obtain ⟨hofHour, hofMinute, hofSecond⟩ := clock_parts t.hour t.minute_lt hwithin.1
  unfold Zone.clockText clockText
  simp only [hhour, hminute, hsecond]
  rw [shown_eq t.hour_lt t.minute_lt hwithin.1 rfl, Int.toNat_natCast, hofHour, hofMinute, hofSecond, hwithin.2]

lemma clockText_utc (t : Timestamp) : Zone.utc.clockText t = t.clockText := by
  have h := clockText_of_toUtc? t.toUtc?_zero
  rwa [Int.mul_zero] at h

end Timestamp

end PeerChat.Calendar
