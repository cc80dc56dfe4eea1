import PeerChat.Json.Basic

/-!
Writing JSON values, without blanks. Quotes, backslashes and control characters are escaped, the five with a short
escape by it; all other characters stand for themselves.
-/

namespace PeerChat.Json

open PeerChat.Text

def hexDigit (n : Nat) : Char := Char.ofNat (if n < 10 then '0'.toNat + n else 'a'.toNat + (n - 10))

/-- A character as it stands in a text. -/
def renderChar (c : Char) : List Char :=
  if c = '"' then ['\\', '"']
  else if c = '\\' then ['\\', '\\']
  else if c = '\x08' then ['\\', 'b']
  else if c = '\x0c' then ['\\', 'f']
  else if c = '\n' then ['\\', 'n']
  else if c = '\r' then ['\\', 'r']
  else if c = '\t' then ['\\', 't']
  else if c.toNat < 0x20 then ['\\', 'u', '0', '0', hexDigit (c.toNat / 16), hexDigit (c.toNat % 16)]
  else [c]

/-- A text between quotes. -/
def renderText (s : String) : List Char := '"' :: (s.toList.flatMap renderChar ++ ['"'])

def renderNumeral (n : Numeral) : List Char :=
  (if n.negative then ['-'] else []) ++ digits n.whole ++
    (if n.fraction.isEmpty then [] else '.' :: n.fraction) ++
    match n.exponent with
    | none => []
    | some e => 'e' :: ((if e < 0 then ['-'] else []) ++ digits e.natAbs)

mutual

/-- The text of a value; a text that holds half of a surrogate pair and a cut leave no trace. -/
def render : Json → List Char
  | null => ['n', 'u', 'l', 'l']
  | flag true => ['t', 'r', 'u', 'e']
  | flag false => ['f', 'a', 'l', 's', 'e']
  | number n => renderNumeral n
  | text s => renderText (s.getD "")
  | array items => '[' :: (renderItems items ++ [']'])
  | object entries => '{' :: (renderEntries entries ++ ['}'])
  | cut => []

def renderItems : List Json → List Char
  | [] => []
  | [item] => render item
  | item :: items => render item ++ ',' :: renderItems items

def renderEntries : List (Option String × Json) → List Char
  | [] => []
  | [(key, value)] => renderText (key.getD "") ++ ':' :: render value
  | (key, value) :: entries => renderText (key.getD "") ++ ':' :: (render value ++ ',' :: renderEntries entries)

end

def toText (j : Json) : String := String.ofList (render j)

end PeerChat.Json
