import PeerChat.Url.Domain
import PeerChat.Url.Escape
import PeerChat.Url.Fault

/-!
Hosts: domain names and addresses, as they stand in a URL.
-/

namespace PeerChat.Url

/-- The host of a URL. -/
inductive Host
  /-- A name in its written form; empty where a URL names no host. -/
  | name (text : List Char)
  /-- An address of 32 bits. -/
  | ipv4 (address : Nat)
  /-- An address of eight pieces of 16 bits. -/
  | ipv6 (pieces : List Nat)
deriving DecidableEq, Repr

namespace Host

/-! ### Addresses of 32 bits -/

/-- The number that digits of a base write; none if one of them is no digit of the base. -/
def ofDigits? (base : Nat) (cs : List Char) : Option Nat :=
  cs.foldlM (fun n c => do
    let d ← Text.hexValue? c
    if d < base then return base * n + d else none) 0

/-- The number that a part of an address writes: of base 16 after `0x`, of base 8 after a zero, of base 10 otherwise. -/
def part? : List Char → Option Nat
  | [] => none
  | '0' :: 'x' :: rest => ofDigits? 16 rest
  | '0' :: 'X' :: rest => ofDigits? 16 rest
  | ['0'] => some 0
  | '0' :: rest => ofDigits? 8 rest
  | cs => ofDigits? 10 cs

/-- The parts of a name, without an empty one at the end. -/
def parts (cs : List Char) : List (List Char) :=
  let parts := Text.splitAtChar '.' cs
  if parts.getLast? = some [] ∧ 1 < parts.length then parts.dropLast else parts

/-- Names whose last part is a number are addresses. -/
def endsInNumber (cs : List Char) : Bool :=
  match (parts cs).getLast? with
  | some last => last ≠ [] ∧ (last.all Text.isDigit ∨ (part? last).isSome)
  | none => false

/-- The address that a name writes whose parts are numbers: the last one fills the bytes that the others leave. -/
def ipv4? (cs : List Char) : Option Nat := do
  let numbers ← (parts cs).mapM part?
  let last ← numbers.getLast?
  let others := numbers.dropLast
  if others.length ≤ 3 ∧ others.all (· < 256) ∧ last < Nat.pow 256 (4 - others.length) then
    return others.zipIdx.foldl (fun sum (n, i) => sum + n * Nat.pow 256 (3 - i)) last
  else none

/-- The four bytes of an address with points between them. -/
def ipv4Text (address : Nat) : List Char :=
  ['.'].intercalate ([3, 2, 1, 0].map fun i => Text.digits (address / Nat.pow 256 i % 256))

/-! ### Addresses of eight pieces -/

/-- A byte in decimal digits, without zeros in front. -/
def byte? (cs : List Char) : Option Nat :=
  if cs = [] ∨ 3 < cs.length ∨ (cs.head? = some '0' ∧ 1 < cs.length) ∨ ¬cs.all Text.isDigit then none
  else if Text.ofDigits cs < 256 then some (Text.ofDigits cs) else none

/-- Two pieces, written as an address of 32 bits. -/
def dottedPieces? (cs : List Char) : Option (List Nat) := do
  match ← (Text.splitAtChar '.' cs).mapM byte? with
  | [a, b, c, d] => return [256 * a + b, 256 * c + d]
  | _ => none

/-- One piece, of one to four digits of base 16. -/
def piece? (cs : List Char) : Option Nat := if cs = [] ∨ 4 < cs.length then none else ofDigits? 16 cs

/-- The values of the parts of an address; with `dotted` the last two pieces may be written as an address of 32 bits. -/
def partPieces? (dotted : Bool) : List (List Char) → Option (List Nat)
  | [] => some []
  | [last] => if dotted ∧ last.contains '.' then dottedPieces? last else (piece? last).map ([·])
  | part :: parts => do return (← piece? part) :: (← partPieces? dotted parts)

/-- Pieces with colons between them. -/
def pieces? (dotted : Bool) (cs : List Char) : Option (List Nat) :=
  if cs = [] then some [] else partPieces? dotted (Text.splitAtChar ':' cs)

/-- The characters before the first double colon, and those after it. -/
def cutAtGap : List Char → Option (List Char × List Char)
  | ':' :: ':' :: rest => some ([], rest)
  | c :: rest => (cutAtGap rest).map fun (before, after) => (c :: before, after)
  | [] => none

/-- The address that a text writes: eight pieces, or fewer with a double colon for the zeros that are left out. -/
def ipv6? (cs : List Char) : Option (List Nat) := do
  match cutAtGap cs with
  | none =>
    let pieces ← pieces? true cs
    if pieces.length = 8 then return pieces else none
  | some (before, after) =>
    let (before, after) := (← pieces? false before, ← pieces? true after)
    if before.length + after.length ≤ 7 then
      return before ++ List.replicate (8 - before.length - after.length) 0 ++ after
    else none

/-- The length of the run of zeros at each place. -/
def zeroRuns : List Nat → List Nat
  | [] => []
  | piece :: pieces =>
    let runs := zeroRuns pieces
    (if piece = 0 then runs.headD 0 + 1 else 0) :: runs

/-- The place and the length of the first of the longest runs of zeros, if it has two of them or more. -/
def longestGap? (pieces : List Nat) : Option (Nat × Nat) :=
  let runs := zeroRuns pieces
  let longest := runs.foldl max 0
  if 2 ≤ longest then some (runs.idxOf longest, longest) else none

/-- Pieces in base 16 with colons between them. -/
def piecesText (pieces : List Nat) : List Char := [':'].intercalate (pieces.map (Nat.toDigits 16))

/-- The shortest text of an address. -/
def ipv6Text (pieces : List Nat) : List Char :=
  match longestGap? pieces with
  | some (start, length) => piecesText (pieces.take start) ++ [':', ':'] ++ piecesText (pieces.drop (start + length))
  | none => piecesText pieces

/-! ### Hosts -/

def text : Host → List Char
  | name cs => cs
  | ipv4 address => ipv4Text address
  | ipv6 pieces => ['['] ++ ipv6Text pieces ++ [']']

/-- The address in brackets that a text writes, if it begins with one. -/
def bracketed? : List Char → Option (Except Fault Host)
  | '[' :: rest =>
    if rest.getLast? = some ']' then
      some (match ipv6? rest.dropLast with
        | some pieces => .ok (ipv6 pieces)
        | none => .error .badIpv6)
    else some (.error .badIpv6)
  | _ => none

/-- The host of a special scheme: a domain name or an address. -/
def ofSpecial (cs : List Char) : Except Fault Host :=
  match bracketed? cs with
  | some result => result
  | none =>
    match (String.fromUTF8? ⟨(unescape cs).toArray⟩).bind fun read => Domain.ofChars? read.toList with
    | none => .error .badDomainName
    | some [] => .error .emptyHost
    | some domain =>
      if endsInNumber domain then
        match ipv4? domain with
        | some address => .ok (ipv4 address)
        | none => .error .badIpv4
      else .ok (name domain)

/-- The characters that the host of another scheme does not hold. -/
def isBarred (c : Char) : Bool :=
  ['\x00', '\t', '\n', '\r', ' ', '#', '/', ':', '<', '>', '?', '@', '[', '\\', ']', '^', '|'].contains c

/-- The host of another scheme: any name, or an address in brackets. -/
def ofOther (cs : List Char) : Except Fault Host :=
  match bracketed? cs with
  | some result => result
  | none => if cs.any isBarred then .error .badHostCharacter else .ok (name (escape .control cs))

end Host

end PeerChat.Url
