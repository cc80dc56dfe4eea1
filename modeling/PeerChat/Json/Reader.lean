import PeerChat.Charset.Utf8
import PeerChat.Json.Basic

/-!
Reading JSON texts. A value is read as far as the text is JSON; a text is read to its end, with nothing but blanks
(space, tab, line feed, carriage return) around the value.
-/

namespace PeerChat.Json

open PeerChat.Text

/-! ### Blanks and units -/

def isGap (c : Char) : Bool := c == ' ' || c == '\t' || c == '\n' || c == '\r'

def skipGaps (cs : List Char) : List Char := cs.dropWhile isGap

/-- The unit of 16 bits that four hexadecimal digits write, and what follows. -/
def readUnit : List Char → Option (Nat × List Char)
  | a :: b :: c :: d :: rest => do
    let (a, b, c, d) := (← hexValue? a, ← hexValue? b, ← hexValue? c, ← hexValue? d)
    return (4096 * a + 256 * b + 16 * c + d, rest)
  | _ => none

/-! ### Texts -/

/-- One piece of a text between quotes. -/
inductive Piece
  /-- A character, written as itself or escaped. -/
  | char (c : Char)
  /-- Half of a surrogate pair. -/
  | half
  /-- The closing quote. -/
  | close

/-- The piece that an escape of 16 bits begins: two of them may write one character. -/
def readEscapedUnit (cs : List Char) : Option (Piece × List Char) := do
  let (high, rest) ← readUnit cs
  if 0xDC00 ≤ high ∧ high ≤ 0xDFFF then return (.half, rest)
  else if 0xD800 ≤ high ∧ high ≤ 0xDBFF then
    match rest with
    | '\\' :: 'u' :: rest' =>
      match readUnit rest' with
      | some (low, rest'') =>
        if 0xDC00 ≤ low ∧ low ≤ 0xDFFF then
          return (.char (Char.ofNat (0x10000 + 0x400 * (high - 0xD800) + (low - 0xDC00))), rest'')
        else return (.half, rest)
      | none => return (.half, rest)
    | _ => return (.half, rest)
  else return (.char (Char.ofNat high), rest)

/-- The next piece of a text; none where it is not JSON. -/
def readPiece : List Char → Option (Piece × List Char)
  | [] => none
  | '"' :: rest => some (.close, rest)
  | '\\' :: c :: rest =>
    if c = '"' ∨ c = '\\' ∨ c = '/' then some (.char c, rest)
    else if c = 'b' then some (.char '\x08', rest)
    else if c = 'f' then some (.char '\x0c', rest)
    else if c = 'n' then some (.char '\n', rest)
    else if c = 'r' then some (.char '\r', rest)
    else if c = 't' then some (.char '\t', rest)
    else if c = 'u' then readEscapedUnit rest
    else none
  | c :: rest => if c.toNat < 0x20 ∨ c = '\\' then none else some (.char c, rest)

/-- The characters of a text up to its closing quote, and what follows. The characters are `none` if the text
holds half of a surrogate pair; the whole is `none` where it is not JSON. -/
def readPieces : Nat → List Char → Option (Option (List Char) × List Char)
  | 0, _ => none
  | fuel + 1, cs =>
    match readPiece cs with
    | none => none
    | some (.close, rest) => some (some [], rest)
    | some (.half, rest) => (readPieces fuel rest).map fun (_, rest) => (none, rest)
    | some (.char c, rest) => (readPieces fuel rest).map fun (read, rest) => (read.map (c :: ·), rest)

def readText (cs : List Char) : Option (Option String × List Char) :=
  (readPieces (cs.length + 1) cs).map fun (read, rest) => (read.map String.ofList, rest)

/-! ### Numbers -/

/-- The whole part of a number: a zero, or digits of which the first is not a zero. -/
def readWhole (cs : List Char) : Option (Nat × List Char) :=
  let ds := cs.takeWhile isDigit
  if ds = [] ∨ (ds.head? = some '0' ∧ ds.length ≠ 1) then none else some (ofDigits ds, cs.drop ds.length)

/-- The digits after a point, if there is one. -/
def readFraction : List Char → Option (List Char × List Char)
  | '.' :: cs =>
    let ds := cs.takeWhile isDigit
    if ds = [] then none else some (ds, cs.drop ds.length)
  | cs => some ([], cs)

def readExponent : List Char → Option (Option Int × List Char)
  | c :: cs =>
    if c = 'e' ∨ c = 'E' then
      let (negative, cs) := match cs with
        | '-' :: rest => (true, rest)
        | '+' :: rest => (false, rest)
        | _ => (false, cs)
      let ds := cs.takeWhile isDigit
      if ds = [] then none
      else some (some (if negative then -(ofDigits ds : Int) else ofDigits ds), cs.drop ds.length)
    else some (none, c :: cs)
  | [] => some (none, [])

def readNumeral (cs : List Char) : Option (Numeral × List Char) := do
  let (negative, cs) := match cs with
    | '-' :: rest => (true, rest)
    | _ => (false, cs)
  let (whole, cs) ← readWhole cs
  let (fraction, cs) ← readFraction cs
  let (exponent, cs) ← readExponent cs
  return (⟨negative, whole, fraction, exponent⟩, cs)

/-! ### Values -/

mutual

/-- A value and what follows it; nothing follows a value that broke off. -/
def readValue : Nat → List Char → Json × Option (List Char)
  | 0, _ => (cut, none)
  | fuel + 1, cs =>
    match skipGaps cs with
    | 'n' :: 'u' :: 'l' :: 'l' :: rest => (null, some rest)
    | 't' :: 'r' :: 'u' :: 'e' :: rest => (flag true, some rest)
    | 'f' :: 'a' :: 'l' :: 's' :: 'e' :: rest => (flag false, some rest)
    | '"' :: rest =>
      match readText rest with
      | some (read, rest) => (text read, some rest)
      | none => (cut, none)
    | '[' :: rest =>
      match skipGaps rest with
      | ']' :: rest => (array [], some rest)
      | rest =>
        let (items, rest) := readItems fuel rest
        (array items, rest)
    | '{' :: rest =>
      match skipGaps rest with
      | '}' :: rest => (object [], some rest)
      | rest =>
        let (entries, rest) := readEntries fuel rest
        (object entries, rest)
    | rest =>
      match readNumeral rest with
      | some (read, rest) => (number read, some rest)
      | none => (cut, none)

def readItems : Nat → List Char → List Json × Option (List Char)
  | 0, _ => ([cut], none)
  | fuel + 1, cs =>
    match readValue fuel cs with
    | (item, none) => ([item], none)
    | (item, some rest) =>
      match skipGaps rest with
      | ']' :: rest => ([item], some rest)
      | ',' :: rest =>
        let (items, rest) := readItems fuel rest
        (item :: items, rest)
      | _ => ([item, cut], none)

def readEntries : Nat → List Char → List (Option String × Json) × Option (List Char)
  | 0, _ => ([(none, cut)], none)
  | fuel + 1, cs =>
    match skipGaps cs with
    | '"' :: rest =>
      match readText rest with
      | none => ([(none, cut)], none)
      | some (key, rest) =>
        match skipGaps rest with
        | ':' :: rest =>
          match readValue fuel rest with
          | (value, none) => ([(key, value)], none)
          | (value, some rest) =>
            match skipGaps rest with
            | '}' :: rest => ([(key, value)], some rest)
            | ',' :: rest =>
              let (entries, rest) := readEntries fuel rest
              ((key, value) :: entries, rest)
            | _ => ([(key, value), (none, cut)], none)
        | _ => ([(key, cut)], none)
    | _ => ([(none, cut)], none)

end

/-- The value that a text begins with, and what follows it. -/
def read (cs : List Char) : Json × Option (List Char) := readValue (2 * cs.length + 2) cs

/-- The value of the wanted kind that a whole text writes, with the first fault of the text if there is none. -/
def decode (kind : Json → Except JsonFault α) (cs : List Char) : Except JsonFault α := do
  let (value, rest) := read cs
  let result ← kind value
  if (rest.map fun rest => (skipGaps rest).isEmpty) = some true then return result else .error .malformed

/-! ### Bytes -/

/-- The characters of a text that may be broken. What is broken is put as half of a surrogate pair: between quotes it
does no harm until it is read, anywhere else the text is not JSON. Behind a backslash it is put as an escape that is
none. -/
def mend (escaping : Bool) : List (Option Char) → List Char
  | [] => []
  | some c :: cs => c :: mend (c == '\\' && !escaping) cs
  | none :: cs => (if escaping then ['!'] else ['\\', 'u', 'd', '8', '0', '0']) ++ mend false cs

/-- The characters of bytes that write JSON. -/
def charsOf (bs : ByteArray) : List Char :=
  match String.fromUTF8? bs with
  | some read => read.toList
  | none => mend false (Charset.Utf8.chars bs)

/-- The value of the wanted kind that bytes write. -/
def decodeBytes (kind : Json → Except JsonFault α) (bs : ByteArray) : Except JsonFault α := decode kind (charsOf bs)

/-! ### Values by themselves -/

/-- The value that a whole text writes; none if the text is not JSON. -/
def ofText? (s : String) : Option Json :=
  match read s.toList with
  | (value, some rest) => if (skipGaps rest).isEmpty then some value else none
  | (_, none) => none

end PeerChat.Json
