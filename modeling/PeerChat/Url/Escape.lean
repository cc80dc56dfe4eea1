import PeerChat.Text.Digits

/-!
Percent signs in URLs: which characters each part of a URL holds as they are, and how the others are written and read.
-/

namespace PeerChat.Url

/-- A set of characters that a part of a URL does not hold as they are. -/
abbrev Escaped := Char → Bool

namespace Escaped

/-- Control characters and everything beyond ASCII. -/
def control : Escaped := fun c => c.toNat < 0x20 || 0x7F ≤ c.toNat

/-- The set together with some more characters. -/
def also (set : Escaped) (more : List Char) : Escaped := fun c => set c || more.contains c

def fragment : Escaped := control.also [' ', '"', '<', '>', '\x60']

def path : Escaped := fragment.also ['#', '?', '\x7b', '\x7d']

def credentials : Escaped := path.also ['/', ':', ';', '=', '@', '[', '\\', ']', '^', '|']

def query : Escaped := control.also [' ', '"', '#', '<', '>']

def specialQuery : Escaped := query.also ['\x27']

end Escaped

/-- A digit of base 16, in upper case. -/
def hexDigit (n : Nat) : Char := Char.ofNat (if n < 10 then 0x30 + n else 0x37 + n)

def escapeByte (byte : UInt8) : List Char := ['%', hexDigit (byte.toNat / 16), hexDigit (byte.toNat % 16)]

/-- The characters with those of the set escaped, byte by byte. -/
def escape (set : Escaped) (cs : List Char) : List Char :=
  cs.flatMap fun c => if set c then (String.singleton c).toUTF8.toList.flatMap escapeByte else [c]

/-- The bytes that the characters stand for, with escapes read. -/
def unescape : List Char → List UInt8
  | '%' :: a :: b :: rest =>
    match Text.hexValue? a, Text.hexValue? b with
    | some x, some y => UInt8.ofNat (16 * x + y) :: unescape rest
    | _, _ => '%'.toUInt8 :: unescape (a :: b :: rest)
  | c :: rest => (String.singleton c).toUTF8.toList ++ unescape rest
  | [] => []

end PeerChat.Url
