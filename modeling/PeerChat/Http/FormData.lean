import PeerChat.Http.Exchange
import PeerChat.Http.MediaType

/-!
Forms as bytes: parts with a line between them, each with a head that tells its name, an empty line and its content.
-/

namespace PeerChat.Http

-- bytes are compared as the core library does
attribute [local instance (high)] ByteArray.instDecidableEq

/-- One part of a form. -/
structure Part where
  name : Option String
  /-- The name of the file that the part holds, if it holds one. -/
  fileName : Option String
  mediaType : Option String
  content : ByteArray
deriving DecidableEq

namespace FormData

/-! ### Places in bytes -/

def bytes (text : String) : List UInt8 := text.toUTF8.toList

def lineEnd : List UInt8 := [13, 10]

def isGap (b : UInt8) : Bool := b == 32 || b == 9

/-- The mark stands in the bytes at a place. -/
def standsAt (bs : ByteArray) : List UInt8 → Nat → Bool
  | [], _ => true
  | b :: mark, i => if h : i < bs.size then bs[i] == b && standsAt bs mark (i + 1) else false

/-- The first place from `i` on where the mark stands. -/
def find? (bs : ByteArray) (mark : List UInt8) (i : Nat) : Option Nat :=
  if standsAt bs mark i then some i
  else if i < bs.size then find? bs mark (i + 1)
  else none
termination_by bs.size - i

/-- The first place from `i` on without a gap. -/
def skipGaps (bs : ByteArray) (i : Nat) : Nat :=
  if h : i < bs.size then if isGap bs[i] then skipGaps bs (i + 1) else i else i
termination_by bs.size - i

/-! ### Heads -/

/-- The lines of bytes that end in a line feed, without the ends of the lines. What stands after the last line feed does
not count. -/
def lines (bs : List UInt8) : List (List UInt8) :=
  ((bs.splitOn 10).dropLast).map fun line => if line.getLast? = some 13 then line.dropLast else line

/-- The characters of bytes that stand for themselves. -/
def asciiOf (bs : List UInt8) : List Char := bs.map fun b => Char.ofNat b.toNat

/-- The bytes that a value can hold: all but control characters. -/
def isValueByte (b : UInt8) : Bool := b == 9 || (0x20 ≤ b && b ≠ 0x7F)

/-- A line of a head: a name and a colon, and the value with the gaps around it left out. The name is read in small
letters. -/
def headLine? (line : List UInt8) : Option (List Char × List UInt8) :=
  let name := asciiOf (line.takeWhile (· ≠ 58))
  match line.dropWhile (· ≠ 58) with
  | [] => none
  | _ :: value =>
    if name ≠ [] ∧ name.all MediaType.isToken ∧ value.all isValueByte then
      some (MediaType.small name, ((value.dropWhile isGap).reverse.dropWhile isGap).reverse)
    else none

def maxHeadLines : Nat := 32

/-- The lines of a head, up to the first empty one, the last line first. -/
def readHead? (bs : List UInt8) : Option (List (List Char × List UInt8)) :=
  let lines := (lines bs).takeWhile (· ≠ [])
  if maxHeadLines < lines.length then none else (lines.mapM headLine?).map List.reverse

/-! ### Attributes -/

/-- Blanks of ASCII. -/
def isBlankByte (b : UInt8) : Bool := b == 32 || (9 ≤ b && b ≤ 13 && b ≠ 11)

/-- What follows `lead`, if the bytes begin with it. -/
def after? : List UInt8 → List UInt8 → Option (List UInt8)
  | [], bs => some bs
  | l :: ls, b :: bs => if l = b then after? ls bs else none
  | _ :: _, [] => none

/-- The bytes up to the closing quote, with `read` before them in reverse order; a quote after a backslash closes
nothing. -/
def readQuoted? (read : List UInt8) : List UInt8 → Option (List UInt8)
  | [] => none
  | 34 :: rest => if read.head? = some 92 then readQuoted? (34 :: read) rest else some read.reverse
  | b :: rest => readQuoted? (b :: read) rest

/-- The text with a quote for each backslash and quote. -/
def unquoted : List Char → List Char
  | '\\' :: '"' :: rest => '"' :: unquoted rest
  | c :: rest => c :: unquoted rest
  | [] => []

/-- The value that stands behind the name of an attribute: after an equals sign, between quotes or up to a semicolon
or a space. -/
def attributeValue? (bs : List UInt8) : Option String := do
  let rest ← after? (bytes "=") (bs.dropWhile isBlankByte)
  match rest.dropWhile isBlankByte with
  | 34 :: rest =>
    let text ← String.fromUTF8? ⟨(← readQuoted? [] rest).toArray⟩
    return String.ofList (unquoted text.toList)
  | rest => String.fromUTF8? ⟨(rest.takeWhile fun b => b ≠ 59 ∧ b ≠ 32).toArray⟩

/-- The value of the first attribute of a name. The name counts at the start and behind a blank or a semicolon, and also
right behind a name that did not count. -/
def attribute? (name : List UInt8) : Nat → Bool → List UInt8 → Option String
  | 0, _, _ => none
  | _, _, [] => none
  | fuel + 1, fresh, b :: bs =>
    match after? name (b :: bs) with
    | some rest => if fresh then attributeValue? rest else attribute? name fuel true rest
    | none => attribute? name fuel (isBlankByte b || b == 59) bs

def attributeOf? (name : String) (value : List UInt8) : Option String :=
  attribute? (bytes name) (value.length + 1) true value

def partOf (head : List (List Char × List UInt8)) (content : ByteArray) : Part :=
  let disposition := (head.lookup "content-disposition".toList).getD []
  let mediaType := (head.lookup "content-type".toList).map fun value => String.ofList (asciiOf value)
  ⟨attributeOf? "name" disposition, attributeOf? "filename" disposition, mediaType, content⟩

/-! ### Forms -/

/-- What a line between two parts begins with. -/
def line (boundary : List Char) : List UInt8 := bytes ("--" ++ String.ofList boundary)

/-- The parts from a place inside a line between parts on; two hyphens there end the form. -/
def readParts? (line : List UInt8) (bs : ByteArray) : Nat → Nat → Option (List Part)
  | 0, _ => none
  | fuel + 1, i =>
    if standsAt bs (bytes "--") i then some []
    else do
      let i := skipGaps bs i
      if ¬standsAt bs lineEnd i then none
      let headEnd ← find? bs (lineEnd ++ lineEnd) (i + 2)
      let head ← readHead? (bs.extract (i + 2) (headEnd + 4)).toList
      let stop ← find? bs (lineEnd ++ line) (headEnd + 4)
      return partOf head (bs.extract (headEnd + 4) stop) :: (← readParts? line bs fuel (stop + 2 + line.length))

/-- Reads a form; what stands before its first line between parts and after its last one does not count. -/
def read? (boundary : List Char) (bs : ByteArray) : Option (List Part) := do
  let line := line boundary
  let first ← find? bs line 0
  readParts? line bs (bs.size + 1) (first + line.length)

/-! ### Writing -/

/-- A text between quotes: quotes and backslashes are escaped, and so are line ends. -/
def quoted (text : String) : String :=
  let escaped := text.toList.flatMap fun c => if ['"', '\\', '\r', '\n'].contains c then ['\\', c] else [c]
  "\"" ++ String.ofList escaped ++ "\""

/-- The line that tells what a part is. -/
def disposition (part : Part) : String :=
  let name := match part.name with
    | some name => "; name=\"" ++ name ++ "\""
    | none => ""
  let fileName := match part.fileName with
    | some fileName => "; filename=" ++ quoted fileName
    | none => ""
  "form-data" ++ name ++ fileName

def head (part : Part) : String :=
  let mediaType := match part.mediaType with
    | some mediaType => "Content-Type: " ++ mediaType ++ "\r\n"
    | none => ""
  "Content-Disposition: " ++ disposition part ++ "\r\n" ++ mediaType ++ "\r\n"

def write (boundary : List Char) (parts : List Part) : ByteArray :=
  let line := "--" ++ String.ofList boundary
  let one (part : Part) : ByteArray := (line ++ "\r\n" ++ head part).toUTF8 ++ part.content ++ "\r\n".toUTF8
  parts.foldl (fun written part => written ++ one part) .empty ++ (line ++ "--\r\n").toUTF8

/-- A boundary that does not occur in any of the parts: the first of the numbers. -/
def boundaryFor (parts : List Part) : List Char :=
  let bs := write [] parts
  let isFree (n : Nat) : Bool := (find? bs (bytes (String.ofList (Text.digitsPadded 16 n))) 0).isNone
  Text.digitsPadded 16 (((List.range (bs.size + 1)).find? isFree).getD 0)

end FormData

def Body.form (parts : List Part) : Body :=
  let boundary := FormData.boundaryFor parts
  ⟨some ("multipart/form-data; boundary=" ++ String.ofList boundary), FormData.write boundary parts⟩

end PeerChat.Http
