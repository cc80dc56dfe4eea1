import PeerChat.Text.Digits

/-!
Properties of characters as tables: ranges of code points in ascending order, each with the value that its characters
share. A table is written as text, its ranges in base 16 with a space between them, and searched by halving. Main
statement: what the search finds is the value of a range that holds the code point.
-/

namespace PeerChat.Unicode

/-- A range of code points, with the value of its characters. -/
structure Range (α : Type) where
  first : Nat
  last : Nat
  value : α
deriving Repr

namespace Range

/-- The range holds a code point. -/
def Holds (r : Range α) (n : Nat) : Prop := r.first ≤ n ∧ n ≤ r.last

/-- The number that digits of base 16 write. -/
def codePoint (cs : List Char) : Nat := cs.foldl (fun n c => 16 * n + (Text.hexValue? c).getD 0) 0

def isHexDigit (c : Char) : Bool := (Text.hexValue? c).isSome

/-- The range that a text writes: `first-last`, or one code point alone, and then the text of the value. -/
def ofChars (value : List Char → α) (cs : List Char) : Range α :=
  let first := codePoint (cs.takeWhile isHexDigit)
  match cs.dropWhile isHexDigit with
  | '-' :: rest => ⟨first, codePoint (rest.takeWhile isHexDigit), value (rest.dropWhile isHexDigit)⟩
  | rest => ⟨first, first, value rest⟩

end Range

/-- Ranges in ascending order. -/
abbrev Table (α : Type) := Array (Range α)

namespace Table

/-- The table that lines of ranges write; `value` reads what stands behind the code points. -/
def ofLines (value : List Char → α) (lines : List String) : Table α :=
  (lines.flatMap fun line => (line.splitOn " ").map fun range => Range.ofChars value range.toList).toArray

/-- The range that holds a code point, among those from `low` on and before `high`. -/
def search (t : Table α) (n low high : Nat) : Option (Range α) :=
  if low < high then
    let middle := (low + high) / 2
    match t[middle]? with
    | none => none
    | some r =>
      if n < r.first then search t n low middle
      else if r.last < n then search t n (middle + 1) high
      else some r
  else none
termination_by high - low

/-- The value of a character, if a range holds it. -/
def value? (t : Table α) (c : Char) : Option α := (t.search c.toNat 0 t.size).map (·.value)

theorem holds_of_search {t : Table α} {n low high : Nat} {r : Range α} (h : t.search n low high = some r) :
    r ∈ t ∧ r.Holds n := by
  fun_induction search t n low high with
  | case1 => simp at h
  | case2 _ _ _ _ _ _ _ ih => exact ih h
  | case3 _ _ _ _ _ _ _ _ ih => exact ih h
  | case4 low high _ middle r' hr' hFirst hLast =>
    obtain rfl : r' = r := by simpa using h
    exact ⟨Array.mem_of_getElem? hr', Nat.le_of_not_lt hFirst, Nat.le_of_not_lt hLast⟩
  | case5 => simp at h

/-- A value that is found belongs to a range with the character in it. -/
theorem holds_of_value? {t : Table α} {c : Char} {v : α} (h : t.value? c = some v) :
    ∃ r ∈ t, r.Holds c.toNat ∧ r.value = v := by
  obtain ⟨r, hr, rfl⟩ := Option.map_eq_some_iff.1 h
  exact ⟨r, (holds_of_search hr).1, (holds_of_search hr).2, rfl⟩

end Table

end PeerChat.Unicode
