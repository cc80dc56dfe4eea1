import PeerChat.Unicode.CombiningClass
import PeerChat.Unicode.Decomposition

/-!
The canonical form of a text: texts that differ only in the order of marks, or in whether letters and marks are put
together, have the same one. Characters are taken apart, marks are ordered by their classes, and what can be put
together is put together.
-/

namespace PeerChat.Unicode

/-! ### The order of marks -/

/-- Puts a character before others, behind the marks at their start that belong before it. -/
def insertMark (c : Char) : List Char → List Char
  | [] => [c]
  | d :: ds =>
    if 0 < combiningClass d ∧ combiningClass d < combiningClass c then d :: insertMark c ds else c :: d :: ds

/-- The characters with each run of marks in the order of the classes; marks of one class keep their order. -/
def orderMarks (cs : List Char) : List Char := cs.foldr insertMark []

/-! ### Putting together -/

/-- Puts a character together with those of the following ones that nothing keeps apart from it; `marks` are the ones
that stay behind it. A mark keeps off marks of its own class and of smaller ones. -/
def composeFrom (head : Char) (marks : List Char) : List Char → List Char
  | [] => head :: marks
  | c :: cs =>
    match if marks.getLast?.all (combiningClass · < combiningClass c) then compose? head c else none with
    | some whole => composeFrom whole marks cs
    | none =>
      if combiningClass c = 0 then head :: marks ++ composeFrom c [] cs else composeFrom head (marks ++ [c]) cs

/-- Puts together what can be put together. -/
def composeAll : List Char → List Char
  | [] => []
  | c :: cs => if combiningClass c = 0 then composeFrom c [] cs else c :: composeAll cs

def canonical (cs : List Char) : List Char := composeAll (orderMarks (cs.flatMap decompose))

end PeerChat.Unicode
