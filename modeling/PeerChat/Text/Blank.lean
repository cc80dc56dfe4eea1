import PeerChat.Text.Digits

/-!
Blank characters, and texts without the blanks around them: the characters of Unicode's `White_Space`. Functions on
lists of characters carry the rules; those on `String` wrap them.
-/

namespace PeerChat.Text

/-! ### Blank characters -/

/-- The characters of Unicode's property `White_Space`. -/
def isBlank (c : Char) : Bool :=
  let n := c.toNat
  (0x09 ≤ n && n ≤ 0x0D) || n == 0x20 || n == 0x85 || n == 0xA0 || n == 0x1680 ||
    (0x2000 ≤ n && n ≤ 0x200A) || n == 0x2028 || n == 0x2029 || n == 0x202F || n == 0x205F || n == 0x3000

theorem isBlank_space : isBlank ' ' = true := by decide

theorem isBlank_eq_false_of_isDigit {c : Char} (h : isDigit c = true) : isBlank c = false := by
  have hc : 48 ≤ c.toNat ∧ c.toNat ≤ 57 := by
    simp only [isDigit, Bool.and_eq_true, decide_eq_true_eq] at h
    exact ⟨h.1, h.2⟩
  simp only [isBlank, Bool.or_eq_false_iff, Bool.and_eq_false_iff, beq_eq_false_iff_ne, decide_eq_false_iff_not]
  omega

/-! ### Trimming -/

/-- The characters without the blanks at their start. -/
def trimStart (cs : List Char) : List Char := cs.dropWhile isBlank

/-- The characters without those at their end that satisfy `p`. -/
def dropTrailing (p : Char → Bool) (cs : List Char) : List Char := (cs.reverse.dropWhile p).reverse

def trimChars (cs : List Char) : List Char := dropTrailing isBlank (trimStart cs)

def trim (s : String) : String := String.ofList (trimChars s.toList)

/-- Every character is a blank; true of the empty text. -/
def isAllBlank (s : String) : Bool := s.toList.all isBlank

theorem toList_trim (s : String) : (trim s).toList = trimChars s.toList := String.toList_ofList

end PeerChat.Text
