import PeerChat.Text.Blank

/-!
Cutting texts: at a blank, at a chosen character, after a lead.
-/

namespace PeerChat.Text

/-- The characters before the first one that satisfies `p`, and those after it; none if there is no such
character. -/
def cutWhere (p : Char → Bool) (cs : List Char) : Option (List Char × List Char) :=
  match cs.dropWhile (fun c => !p c) with
  | [] => none
  | _ :: rest => some (cs.takeWhile (fun c => !p c), rest)

/-- The text before its first blank and the text after it. -/
def cutAtBlank (s : String) : Option (String × String) :=
  (cutWhere isBlank s.toList).map fun (a, b) => (String.ofList a, String.ofList b)

/-- The first run of characters that are not blank; none in a blank text. -/
def firstWord (s : String) : Option String :=
  match trimStart s.toList with
  | [] => none
  | cs => some (String.ofList (cs.takeWhile fun c => !isBlank c))

/-- The parts between the occurrences of `sep`, always at least one. -/
def splitAtChar (sep : Char) : List Char → List (List Char)
  | [] => [[]]
  | c :: cs =>
    if c = sep then [] :: splitAtChar sep cs
    else match splitAtChar sep cs with
      | [] => [[c]]
      | part :: parts => (c :: part) :: parts

/-- What follows `lead`, if the characters start with it. -/
def afterChars? : List Char → List Char → Option (List Char)
  | [], cs => some cs
  | l :: ls, c :: cs => if l = c then afterChars? ls cs else none
  | _ :: _, [] => none

def after? (lead s : String) : Option String := (afterChars? lead.toList s.toList).map String.ofList

def occursIn (word : List Char) : List Char → Bool
  | [] => word.isEmpty
  | c :: cs => word.isPrefixOf (c :: cs) || occursIn word cs

end PeerChat.Text
