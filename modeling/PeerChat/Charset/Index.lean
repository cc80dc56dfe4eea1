import PeerChat.Unicode.Table

/-!
Characters by number: what encodings with several bytes for a character look their characters up in.
-/

namespace PeerChat.Charset

/-- Characters with numbers that follow each other. -/
structure Index where
  /-- The number of the first character. -/
  first : Nat
  /-- The characters; a point stands where there is none. -/
  chars : Array Char

namespace Index

/-- The index that lines of characters write. -/
def ofLines (first : Nat) (lines : List String) : Index := ⟨first, (lines.flatMap String.toList).toArray⟩

def char? (index : Index) (number : Nat) : Option Char :=
  if number < index.first then none else (index.chars[number - index.first]?).filter (· ≠ '.')

end Index

/-- The character with a number in a table of runs: each run has the code point of its first character, from which the
others count on. -/
def runChar? (runs : Unicode.Table Nat) (number : Nat) : Option Char :=
  (runs.search number 0 runs.size).map fun r => Char.ofNat (r.value + (number - r.first))

/-- The runs that lines write, each code point in base 16 after a colon. -/
def runsOfLines (lines : List String) : Unicode.Table Nat :=
  .ofLines (fun cs => Unicode.Range.codePoint (cs.drop 1)) lines

end PeerChat.Charset
