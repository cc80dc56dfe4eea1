import PeerChat.Json.Printer
import PeerChat.Json.Reader
import PeerChat.Proofs.Text.Numeral

/-!
JSON texts, written and read. Every value that a text can write is read back from the text that it is written as,
whatever stands behind it.

* `readPiece_renderChar`, `readText_append`: characters and texts between quotes;
* `readNumeral_append`: numbers;
* `reads_of_plain`: values, nested as deep as they are;
* `ofText?_toText`: so a value is what its text writes.
-/

namespace PeerChat.Json

open PeerChat.Text

variable {cs rest : List Char} {fuel : Nat} {j : Json}

/-! ### Characters -/

lemma hexValue?_hexDigit {n : Nat} (h : n < 16) : hexValue? (hexDigit n) = some n := by
  have hall : ∀ n < 16, hexValue? (hexDigit n) = some n := by decide
  exact hall n h

lemma readUnit_control {c : Char} (h : c.toNat < 0x20) (rest : List Char) :
    readUnit ('0' :: '0' :: hexDigit (c.toNat / 16) :: hexDigit (c.toNat % 16) :: rest) = some (c.toNat, rest) := by
  have hzero : hexValue? '0' = some 0 := by decide
  have hhigh : hexValue? (hexDigit (c.toNat / 16)) = some (c.toNat / 16) := hexValue?_hexDigit (by omega)
  have hlow : hexValue? (hexDigit (c.toNat % 16)) = some (c.toNat % 16) := hexValue?_hexDigit (by omega)
  have hsum : 16 * (c.toNat / 16) + c.toNat % 16 = c.toNat := Nat.div_add_mod ..
  simp [readUnit, hzero, hhigh, hlow, hsum]

lemma readPiece_renderChar (c : Char) (rest : List Char) : readPiece (renderChar c ++ rest) = some (.char c, rest) := by
  unfold renderChar
  split_ifs with hquote hbackslash hb hf hn hr ht hcontrol
  · rw [hquote]; rfl
  · rw [hbackslash]; rfl
  · rw [hb]; rfl
  · rw [hf]; rfl
  · rw [hn]; rfl
  · rw [hr]; rfl
  · rw [ht]; rfl
  · have hunit : readEscapedUnit ('0' :: '0' :: hexDigit (c.toNat / 16) :: hexDigit (c.toNat % 16) :: rest) =
        some (.char c, rest) := by
      unfold readEscapedUnit
      rw [readUnit_control hcontrol]
      have hpair : ¬(0xDC00 ≤ c.toNat ∧ c.toNat ≤ 0xDFFF) ∧ ¬(0xD800 ≤ c.toNat ∧ c.toNat ≤ 0xDBFF) := by omega
      simp [hpair]
    exact hunit
  · simp [readPiece, hbackslash, hcontrol]

lemma renderChar_ne_nil (c : Char) : renderChar c ≠ [] := by
  unfold renderChar
  split_ifs <;> exact List.cons_ne_nil _ _

/-! ### Texts -/

lemma length_le_flatMap_renderChar (cs : List Char) : cs.length ≤ (cs.flatMap renderChar).length := by
  induction cs with
  | nil => exact Nat.le_refl _
  | cons c cs ih =>
    have hpos : 0 < (renderChar c).length := List.length_pos_iff.2 (renderChar_ne_nil c)
    rw [List.flatMap_cons, List.length_append, List.length_cons]
    omega

lemma readPieces_append (cs : List Char) (hfuel : cs.length < fuel) (rest : List Char) :
    readPieces fuel (cs.flatMap renderChar ++ '"' :: rest) = some (some cs, rest) := by
  induction cs generalizing fuel with
  | nil =>
    obtain ⟨fuel, rfl⟩ := Nat.exists_eq_add_one.2 hfuel
    rfl
  | cons c cs ih =>
    obtain ⟨fuel, rfl⟩ := Nat.exists_eq_add_one.2 (Nat.zero_lt_of_lt hfuel)
    have hrest := ih (Nat.lt_of_succ_lt_succ hfuel)
    rw [List.flatMap_cons, List.append_assoc, readPieces, readPiece_renderChar]
    simp [hrest]

lemma readText_append (s : String) (rest : List Char) :
    readText (s.toList.flatMap renderChar ++ '"' :: rest) = some (some s, rest) := by
  have hfuel : s.toList.length < (s.toList.flatMap renderChar ++ '"' :: rest).length + 1 := by
    have hle := length_le_flatMap_renderChar s.toList
    rw [List.length_append]
    omega
  unfold readText
  rw [readPieces_append _ hfuel]
  simp

/-! ### Numbers -/

/-- What follows a number is not a part of it. -/
def Stops (rest : List Char) : Prop :=
  ∀ c, rest.head? = some c → isDigit c = false ∧ c ≠ '.' ∧ c ≠ 'e' ∧ c ≠ 'E'

lemma readWhole_append (n : Nat) (hrest : ∀ c, rest.head? = some c → isDigit c = false) :
    readWhole (digits n ++ rest) = some (n, rest) := by
  have htake : (digits n ++ rest).takeWhile isDigit = digits n :=
    takeWhile_isDigit_append (fun _ hc => isDigit_of_mem_digits hc) hrest
  have hzero : ¬((digits n).head? = some '0' ∧ (digits n).length ≠ 1) := by
    rintro ⟨hhead, hlength⟩
    rcases Nat.eq_zero_or_pos n with rfl | hpos
    · exact hlength rfl
    · exact head?_digits_ne_zero hpos hhead
  unfold readWhole
  dsimp only
  rw [htake, if_neg (not_or.2 ⟨digits_ne_nil n, hzero⟩), ofDigits_digits, List.drop_left]

/-- The digits after a point, as they are written. -/
def fractionText (fraction : List Char) : List Char := if fraction.isEmpty then [] else '.' :: fraction

def exponentText : Option Int → List Char
  | none => []
  | some e => 'e' :: ((if e < 0 then ['-'] else []) ++ digits e.natAbs)

lemma renderNumeral_eq (n : Numeral) : renderNumeral n =
    (if n.negative then ['-'] else []) ++ (digits n.whole ++ (fractionText n.fraction ++ exponentText n.exponent)) := by
  unfold renderNumeral fractionText exponentText
  cases n.exponent <;> simp only [List.append_assoc]

lemma readFraction_append {fraction : List Char} (hfraction : ∀ c ∈ fraction, isDigit c = true)
    (hrest : ∀ c, rest.head? = some c → isDigit c = false ∧ c ≠ '.') :
    readFraction (fractionText fraction ++ rest) = some (fraction, rest) := by
  cases fraction with
  | nil =>
    show readFraction rest = _
    unfold readFraction
    split
    · next cs => exact absurd rfl (hrest '.' rfl).2
    · rfl
  | cons d fraction =>
    have htake : (d :: fraction ++ rest).takeWhile isDigit = d :: fraction :=
      takeWhile_isDigit_append hfraction fun c hc => (hrest c hc).1
    show readFraction ('.' :: (d :: fraction ++ rest)) = _
    simp only [readFraction, htake]
    rw [if_neg (List.cons_ne_nil _ _), List.drop_left]

lemma readExponent_append (exponent : Option Int) (hrest : Stops rest) :
    readExponent (exponentText exponent ++ rest) = some (exponent, rest) := by
  cases exponent with
  | none =>
    show readExponent rest = _
    cases rest with
    | nil => rfl
    | cons c rest =>
      obtain ⟨-, -, he, hE⟩ := hrest c rfl
      simp [readExponent, he, hE]
  | some e =>
    have htake (n : Nat) : (digits n ++ rest).takeWhile isDigit = digits n :=
      takeWhile_isDigit_append (fun _ hc => isDigit_of_mem_digits hc) fun c hc => (hrest c hc).1
    cases e with
    | ofNat n =>
      have htext : exponentText (some (Int.ofNat n)) = 'e' :: digits n := by simp [exponentText]
      obtain ⟨d, ds, hds, hminus, hplus⟩ := exists_digits_eq_cons n
      have hread := htake n
      have hvalue := ofDigits_digits n
      rw [hds] at htext hread hvalue
      rw [List.cons_append] at hread
      rw [htext]
      simp [readExponent, hminus, hplus, hread, hvalue]
    | negSucc n =>
      have htext : exponentText (some (Int.negSucc n)) = 'e' :: '-' :: digits (n + 1) := by
        simp [exponentText, Int.negSucc_lt_zero]
      have hvalue : -((n + 1 : Nat) : Int) = Int.negSucc n := rfl
      rw [htext]
      simp [readExponent, htake, digits_ne_nil, ofDigits_digits, -Nat.cast_add, -Int.natCast_add, hvalue]

lemma stops_exponentText (exponent : Option Int) (hrest : Stops rest) :
    ∀ c, (exponentText exponent ++ rest).head? = some c → isDigit c = false ∧ c ≠ '.' := by
  intro c hc
  cases exponent with
  | none => exact ⟨(hrest c hc).1, (hrest c hc).2.1⟩
  | some e =>
    obtain rfl : 'e' = c := Option.some.inj hc
    decide

lemma stops_fractionText (fraction : List Char) (hrest : ∀ c, rest.head? = some c → isDigit c = false) :
    ∀ c, (fractionText fraction ++ rest).head? = some c → isDigit c = false := by
  intro c hc
  cases fraction with
  | nil => exact hrest c hc
  | cons d fraction =>
    obtain rfl : '.' = c := Option.some.inj hc
    decide

lemma readNumeral_append {n : Numeral} (hfraction : ∀ c ∈ n.fraction, isDigit c = true) (hrest : Stops rest) :
    readNumeral (renderNumeral n ++ rest) = some (n, rest) := by
  have hexponent := stops_exponentText n.exponent hrest
  have hwhole := readWhole_append n.whole (stops_fractionText n.fraction fun c hc => (hexponent c hc).1)
  have hpoint := readFraction_append hfraction hexponent
  obtain ⟨negative, whole, fraction, exponent⟩ := n
  rw [renderNumeral_eq]
  cases negative with
  | true => simp [readNumeral, hwhole, hpoint, readExponent_append exponent hrest]
  | false =>
    obtain ⟨d, ds, hds, hminus, -⟩ := exists_digits_eq_cons whole
    simp only [hds, List.cons_append] at hwhole
    simp [readNumeral, hds, hminus, hwhole, hpoint, readExponent_append exponent hrest]

/-! ### Values -/

/-- A value that a text can write: all its texts and keys can be read, its fractions are made of digits, and nothing of
it broke off. -/
inductive Plain : Json → Prop
  | null : Plain null
  | flag (b : Bool) : Plain (flag b)
  | number {n : Numeral} (hfraction : ∀ c ∈ n.fraction, isDigit c = true) : Plain (number n)
  | text (s : String) : Plain (text (some s))
  | array {items : List Json} (hitems : ∀ item ∈ items, Plain item) : Plain (array items)
  | object {entries : List (Option String × Json)} (hkeys : ∀ e ∈ entries, e.1.isSome = true)
      (hvalues : ∀ e ∈ entries, Plain e.2) : Plain (object entries)

lemma skipGaps_cons {c : Char} (hc : isGap c = false) (cs : List Char) : skipGaps (c :: cs) = c :: cs :=
  List.dropWhile_cons_of_neg (by simp [hc])

/-- The text of a value begins with a character that is no blank and closes nothing. -/
def Opens (cs : List Char) : Prop := ∃ c rest, cs = c :: rest ∧ isGap c = false ∧ c ≠ ']'

lemma Opens.append (h : Opens cs) (rest : List Char) : Opens (cs ++ rest) := by
  obtain ⟨c, cs, rfl, hgap, hclose⟩ := h
  exact ⟨c, cs ++ rest, rfl, hgap, hclose⟩

/-- The characters with which numbers begin, and no other value does. -/
lemma exists_renderNumeral_eq_cons (n : Numeral) :
    ∃ c rest, renderNumeral n = c :: rest ∧ isGap c = false ∧ c ∉ ['n', 't', 'f', '"', '[', '{', ']'] := by
  rw [renderNumeral_eq]
  cases n.negative with
  | true => exact ⟨'-', _, rfl, by decide, by decide⟩
  | false =>
    obtain ⟨d, ds, hds⟩ := List.exists_cons_of_ne_nil (digits_ne_nil n.whole)
    have hd : isDigit d = true := isDigit_of_mem_digits (hds ▸ List.mem_cons_self ..)
    have hother : ∀ c ∈ [' ', '\t', '\n', '\r', 'n', 't', 'f', '"', '[', '{', ']'], c ≠ d := by
      have hnone : [' ', '\t', '\n', '\r', 'n', 't', 'f', '"', '[', '{', ']'].all (!isDigit ·) = true := by decide
      rintro c hc rfl
      simpa [hd] using List.all_eq_true.1 hnone c hc
    refine ⟨d, ds ++ (fractionText n.fraction ++ exponentText n.exponent), by rw [hds]; rfl, ?_, ?_⟩
    · simp only [List.forall_mem_cons] at hother
      simp [isGap, hother.1.symm, hother.2.1.symm, hother.2.2.1.symm, hother.2.2.2.1.symm]
    · exact fun hmem => hother d (by simp_all) rfl

lemma opens_render (h : Plain j) : Opens (render j) := by
  cases h with
  | null => exact ⟨'n', _, by rw [render], by decide, by decide⟩
  | flag b => cases b <;> exact ⟨_, _, by rw [render], by decide, by decide⟩
  | number =>
    obtain ⟨c, rest, hcons, hgap, hc⟩ := exists_renderNumeral_eq_cons _
    exact ⟨c, rest, by rw [render, hcons], hgap, by simp_all⟩
  | text s => exact ⟨'"', _, by rw [render]; rfl, by decide, by decide⟩
  | array => exact ⟨'[', _, by rw [render], by decide, by decide⟩
  | object => exact ⟨'{', _, by rw [render], by decide, by decide⟩

/-- A value is read from its text, whatever stands behind it. -/
def Reads (j : Json) : Prop :=
  ∀ (fuel : Nat) (rest : List Char), 2 * (render j).length ≤ fuel → Stops rest →
    readValue fuel (render j ++ rest) = (j, some rest)

lemma exists_fuel (h : Plain j) (hfuel : 2 * (render j).length ≤ fuel) : ∃ n, fuel = n + 1 := by
  obtain ⟨c, rest, hcons, -, -⟩ := opens_render h
  rw [hcons, List.length_cons] at hfuel
  exact ⟨fuel - 1, by omega⟩

lemma reads_number {n : Numeral} (hfraction : ∀ c ∈ n.fraction, isDigit c = true) : Reads (number n) := by
  intro fuel rest hfuel hrest
  obtain ⟨fuel, rfl⟩ := exists_fuel (.number hfraction) hfuel
  have hread := readNumeral_append hfraction hrest
  obtain ⟨c, cs, hcons, hgap, hc⟩ := exists_renderNumeral_eq_cons n
  rw [hcons, List.cons_append] at hread
  rw [render, hcons, List.cons_append, readValue, skipGaps_cons hgap]
  split
  -- a number begins with none of the characters that other values begin with
  all_goals first | (next heq => exact absurd (List.cons.inj heq).1 (by rintro rfl; simp at hc)) | rw [hread]

lemma readValue_quote (fuel : Nat) (rest : List Char) : readValue (fuel + 1) ('"' :: rest) =
    match readText rest with
    | some (read, rest) => (text read, some rest)
    | none => (cut, none) := rfl

lemma reads_text (s : String) : Reads (text (some s)) := by
  intro fuel rest hfuel _
  obtain ⟨fuel, rfl⟩ := exists_fuel (.text s) hfuel
  have htext : render (text (some s)) ++ rest = '"' :: (s.toList.flatMap renderChar ++ '"' :: rest) := by
    simp [render, renderText]
  rw [htext, readValue_quote, readText_append]

/-! ### Arrays -/

lemma renderItems_cons_cons (item next : Json) (items : List Json) :
    renderItems (item :: next :: items) = render item ++ ',' :: renderItems (next :: items) := by
  rw [renderItems]
  exact nofun

lemma readItems_of_close {item : Json} (h : readValue fuel cs = (item, some (']' :: rest))) :
    readItems (fuel + 1) cs = ([item], some rest) := by
  rw [readItems, h]
  rfl

lemma readItems_of_comma {item : Json} (h : readValue fuel cs = (item, some (',' :: rest))) :
    readItems (fuel + 1) cs = (item :: (readItems fuel rest).1, (readItems fuel rest).2) := by
  rw [readItems, h]
  rfl

lemma readItems_append {items : List Json} (hne : items ≠ []) (hreads : ∀ item ∈ items, Reads item)
    (hfuel : 2 * (renderItems items).length < fuel) (rest : List Char) :
    readItems fuel (renderItems items ++ ']' :: rest) = (items, some rest) := by
  induction items generalizing fuel with
  | nil => exact absurd rfl hne
  | cons item items ih =>
    obtain ⟨hitem, hitems⟩ := List.forall_mem_cons.1 hreads
    obtain ⟨fuel, rfl⟩ := Nat.exists_eq_add_one.2 (Nat.zero_lt_of_lt hfuel)
    cases items with
    | nil =>
      rw [renderItems] at hfuel ⊢
      exact readItems_of_close (hitem fuel _ (by omega) fun c hc => by cases hc; decide)
    | cons next items =>
      rw [renderItems_cons_cons] at hfuel ⊢
      rw [List.length_append, List.length_cons] at hfuel
      have hrest := ih (List.cons_ne_nil _ _) hitems (by omega : 2 * (renderItems (next :: items)).length < fuel)
      have hfirst := hitem fuel (',' :: (renderItems (next :: items) ++ ']' :: rest)) (by omega)
        fun c hc => by cases hc; decide
      rw [List.append_assoc, List.cons_append, readItems_of_comma hfirst, hrest]

lemma opens_renderItems {items : List Json} (hne : items ≠ []) (hitems : ∀ item ∈ items, Plain item) :
    Opens (renderItems items) := by
  cases items with
  | nil => exact absurd rfl hne
  | cons item items =>
    have hitem := opens_render (hitems item (List.mem_cons_self ..))
    cases items with
    | nil => rwa [renderItems]
    | cons next items => rw [renderItems_cons_cons]; exact hitem.append _

lemma readValue_bracket (fuel : Nat) (rest : List Char) : readValue (fuel + 1) ('[' :: rest) =
    match skipGaps rest with
    | ']' :: rest => (array [], some rest)
    | rest => (array (readItems fuel rest).1, (readItems fuel rest).2) := rfl

lemma readValue_of_items {items : List Json} (hopens : Opens cs) (h : readItems fuel cs = (items, some rest)) :
    readValue (fuel + 1) ('[' :: cs) = (array items, some rest) := by
  obtain ⟨c, cs, rfl, hgap, hc⟩ := hopens
  rw [readValue_bracket, skipGaps_cons hgap]
  split
  · next heq => exact absurd (List.cons.inj heq).1 hc
  · rw [h]

lemma reads_array {items : List Json} (hitems : ∀ item ∈ items, Plain item) (hreads : ∀ item ∈ items, Reads item) :
    Reads (array items) := by
  intro fuel rest hfuel _
  obtain ⟨fuel, rfl⟩ := exists_fuel (.array hitems) hfuel
  have htext : render (array items) ++ rest = '[' :: (renderItems items ++ ']' :: rest) := by simp [render]
  rw [htext]
  by_cases hne : items = []
  · rw [hne]
    rfl
  · rw [render, List.length_cons, List.length_append] at hfuel
    have hread := readItems_append hne hreads (by omega : 2 * (renderItems items).length < fuel) rest
    exact readValue_of_items ((opens_renderItems hne hitems).append _) hread

/-! ### Objects -/

def entryText (key : String) (value : Json) : List Char := renderText key ++ ':' :: render value

lemma renderEntries_singleton (key : String) (value : Json) :
    renderEntries [(some key, value)] = entryText key value := by
  rw [renderEntries]
  rfl

lemma renderEntries_cons_cons (key : String) (value : Json) (next : Option String × Json)
    (entries : List (Option String × Json)) : renderEntries ((some key, value) :: next :: entries) =
      entryText key value ++ ',' :: renderEntries (next :: entries) := by
  rw [renderEntries]
  · simp [entryText]
  · exact nofun

lemma entryText_append (key : String) (value : Json) (rest : List Char) : entryText key value ++ rest =
    '"' :: (key.toList.flatMap renderChar ++ '"' :: ':' :: (render value ++ rest)) := by
  simp [entryText, renderText]

lemma readEntries_of_close {key : Option String} {value : Json} {cs' : List Char}
    (hkey : readText cs = some (key, ':' :: cs')) (hvalue : readValue fuel cs' = (value, some ('}' :: rest))) :
    readEntries (fuel + 1) ('"' :: cs) = ([(key, value)], some rest) := by
  have hgap : skipGaps ('"' :: cs) = '"' :: cs := rfl
  have hcolon : skipGaps (':' :: cs') = ':' :: cs' := rfl
  simp only [readEntries, hgap, hkey, hcolon, hvalue]
  rfl

lemma readEntries_of_comma {key : Option String} {value : Json} {cs' : List Char}
    (hkey : readText cs = some (key, ':' :: cs')) (hvalue : readValue fuel cs' = (value, some (',' :: rest))) :
    readEntries (fuel + 1) ('"' :: cs) = ((key, value) :: (readEntries fuel rest).1, (readEntries fuel rest).2) := by
  have hgap : skipGaps ('"' :: cs) = '"' :: cs := rfl
  have hcolon : skipGaps (':' :: cs') = ':' :: cs' := rfl
  simp only [readEntries, hgap, hkey, hcolon, hvalue]
  rfl

lemma length_lt_entryText (key : String) (value : Json) : (render value).length < (entryText key value).length := by
  unfold entryText
  rw [List.length_append, List.length_cons]
  omega

lemma readEntries_append {entries : List (Option String × Json)} (hne : entries ≠ [])
    (hkeys : ∀ e ∈ entries, e.1.isSome = true) (hreads : ∀ e ∈ entries, Reads e.2)
    (hfuel : 2 * (renderEntries entries).length < fuel) (rest : List Char) :
    readEntries fuel (renderEntries entries ++ '}' :: rest) = (entries, some rest) := by
  induction entries generalizing fuel with
  | nil => exact absurd rfl hne
  | cons e entries ih =>
    obtain ⟨key, value⟩ := e
    obtain ⟨hkey, hothers⟩ := List.forall_mem_cons.1 hkeys
    obtain ⟨hvalue, hvalues⟩ : Reads value ∧ ∀ e ∈ entries, Reads e.2 := List.forall_mem_cons.1 hreads
    obtain ⟨key, rfl⟩ := Option.isSome_iff_exists.1 hkey
    obtain ⟨fuel, rfl⟩ := Nat.exists_eq_add_one.2 (Nat.zero_lt_of_lt hfuel)
    have hlength := length_lt_entryText key value
    cases entries with
    | nil =>
      rw [renderEntries_singleton] at hfuel ⊢
      have hfirst := hvalue fuel ('}' :: rest) (by omega) fun c hc => by cases hc; decide
      rw [entryText_append]
      exact readEntries_of_close (readText_append key _) hfirst
    | cons next entries =>
      rw [renderEntries_cons_cons] at hfuel ⊢
      rw [List.length_append, List.length_cons] at hfuel
      have hrest := ih (List.cons_ne_nil _ _) hothers hvalues
        (by omega : 2 * (renderEntries (next :: entries)).length < fuel)
      have hfirst := hvalue fuel (',' :: (renderEntries (next :: entries) ++ '}' :: rest)) (by omega)
        fun c hc => by cases hc; decide
      rw [List.append_assoc, List.cons_append, entryText_append, readEntries_of_comma (readText_append key _) hfirst,
        hrest]

lemma readValue_brace (fuel : Nat) (rest : List Char) : readValue (fuel + 1) ('{' :: rest) =
    match skipGaps rest with
    | '}' :: rest => (object [], some rest)
    | rest => (object (readEntries fuel rest).1, (readEntries fuel rest).2) := rfl

lemma exists_renderEntries {entries : List (Option String × Json)} (hne : entries ≠ [])
    (hkeys : ∀ e ∈ entries, e.1.isSome = true) : ∃ cs, renderEntries entries = '"' :: cs := by
  cases entries with
  | nil => exact absurd rfl hne
  | cons e entries =>
    obtain ⟨key, value⟩ := e
    obtain ⟨key, rfl⟩ := Option.isSome_iff_exists.1 (hkeys _ (List.mem_cons_self ..))
    cases entries with
    | nil => exact ⟨_, renderEntries_singleton key value⟩
    | cons next entries => exact ⟨_, renderEntries_cons_cons key value next entries⟩

lemma reads_object {entries : List (Option String × Json)} (hkeys : ∀ e ∈ entries, e.1.isSome = true)
    (hvalues : ∀ e ∈ entries, Plain e.2) (hreads : ∀ e ∈ entries, Reads e.2) : Reads (object entries) := by
  intro fuel rest hfuel _
  obtain ⟨fuel, rfl⟩ := exists_fuel (.object hkeys hvalues) hfuel
  have htext : render (object entries) ++ rest = '{' :: (renderEntries entries ++ '}' :: rest) := by simp [render]
  rw [htext]
  by_cases hne : entries = []
  · rw [hne]
    rfl
  · rw [render, List.length_cons, List.length_append] at hfuel
    have hread := readEntries_append hne hkeys hreads (by omega : 2 * (renderEntries entries).length < fuel) rest
    obtain ⟨cs, hcs⟩ := exists_renderEntries hne hkeys
    rw [hcs, List.cons_append] at hread ⊢
    rw [readValue_brace]
    show (object (readEntries fuel _).1, (readEntries fuel _).2) = _
    rw [hread]

/-! ### All values -/

/-- **Every value that a text can write is read from its text**, whatever stands behind it. -/
theorem reads_of_plain (h : Plain j) : Reads j := by
  induction h with
  | null =>
    intro fuel rest hfuel _
    obtain ⟨fuel, rfl⟩ := exists_fuel .null hfuel
    rfl
  | flag b =>
    intro fuel rest hfuel _
    obtain ⟨fuel, rfl⟩ := exists_fuel (.flag b) hfuel
    cases b <;> rfl
  | number hfraction => exact reads_number hfraction
  | text s => exact reads_text s
  | array hitems ih => exact reads_array hitems ih
  | object hkeys hvalues ih => exact reads_object hkeys hvalues ih

/-- A value is what its text writes. -/
theorem ofText?_toText (h : Plain j) : ofText? (toText j) = some j := by
  have hread : read (toText j).toList = (j, some []) := by
    have hvalue := reads_of_plain h (2 * (render j).length + 2) [] (by omega) nofun
    rw [List.append_nil] at hvalue
    unfold read toText
    rw [String.toList_ofList, hvalue]
  unfold ofText?
  rw [hread]
  rfl

end PeerChat.Json
