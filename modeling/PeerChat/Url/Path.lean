import PeerChat.Text.Cut
import PeerChat.Url.Escape

/-!
Paths of URLs: the steps between the slashes, where a step of one dot stays and one of two dots goes up.
-/

namespace PeerChat.Url

/-- The path of a URL. -/
inductive Path
  /-- Steps from the root, each with a slash before it. -/
  | rooted (steps : List (List Char))
  /-- A text without steps, in a scheme that has no hierarchy. -/
  | bare (text : List Char)
deriving DecidableEq, Repr

namespace Path

def text : Path → List Char
  | rooted steps => steps.flatMap ('/' :: ·)
  | bare text => text

/-! ### Steps -/

/-- The step with escaped dots read, if it holds nothing else. -/
def dots? : List Char → Option Nat
  | [] => some 0
  | '.' :: rest => (dots? rest).map (· + 1)
  | '%' :: '2' :: 'e' :: rest => (dots? rest).map (· + 1)
  | '%' :: '2' :: 'E' :: rest => (dots? rest).map (· + 1)
  | _ => none

/-- A letter and a colon or a bar name a drive. -/
def isDrive : List Char → Bool
  | [letter, mark] => letter.isAlpha && (mark == ':' || mark == '|')
  | _ => false

/-- Nothing follows the name of a drive in the step, or a backslash does. -/
def beginsWithDrive (step : List Char) : Bool :=
  isDrive (step.take 2) && (step.drop 2).head?.all (· == '\\')

/-- One step up; a drive is not left. -/
def up (steps : List (List Char)) : List (List Char) :=
  match steps.getLast? with
  | some last => if beginsWithDrive last then steps else steps.dropLast
  | none => steps

/-- Goes one step on; dots at the end leave an empty step. -/
def step (steps : List (List Char)) (next : List Char) (isLast : Bool) : List (List Char) :=
  let closing := if isLast then [[]] else []
  match dots? next with
  | some 1 => steps ++ closing
  | some 2 => up steps ++ closing
  | _ => steps ++ [next]

def walk (steps : List (List Char)) : List (List Char) → List (List Char)
  | [] => steps
  | next :: rest => walk (step steps next rest.isEmpty) rest

/-! ### Paths -/

/-- The pieces between the slashes; in a special scheme a backslash is one too. -/
def pieces (special : Bool) (cs : List Char) : List (List Char) :=
  Text.splitAtChar '/' (if special then cs.map fun c => if c = '\\' then '/' else c else cs)

/-- The path after a host: in a special scheme there always is one. -/
def afterHost (special : Bool) (cs : List Char) : Path :=
  let escaped (cs : List Char) := (pieces special cs).map (escape .path)
  match cs with
  | [] => rooted (if special then [[]] else [])
  | '/' :: rest => rooted (walk [] (escaped rest))
  | '\\' :: rest => rooted (walk [] (escaped (if special then rest else cs)))
  | _ => rooted (walk [] (escaped cs))

/-! ### Paths of files -/

/-- Tabs and line ends, which do not count in a URL. -/
def isSkipped (c : Char) : Bool := c == '\t' || c == '\n' || c == '\r'

/-- The characters that count. -/
def counted (cs : List Char) : List Char := cs.filter (!isSkipped ·)

/-- The name of a drive and the rest of a piece that goes on after it. The two are told apart only where something that
does not count stands right after the colon. -/
def cutDrive? (piece : List Char) : Option (List Char × List Char) :=
  match Text.cutWhere (· == ':') piece with
  | some (letter, rest) =>
    if isDrive (counted letter ++ [':']) ∧ rest.head?.any isSkipped ∧ counted rest ≠ [] then
      some (counted letter ++ [':'], counted rest)
    else none
  | none => none

/-- Goes one step of a file's path on. The flag tells whether the file is on the host that its URL names: a path whose
first step is a drive is on no host. -/
def fileStep (steps : List (List Char)) (onHost : Bool) (piece : List Char) (isLast : Bool) :
    List (List Char) × Bool :=
  match if steps = [] then cutDrive? piece else none with
  | some (drive, rest) => ([drive, escape .path rest], onHost)
  | none =>
    let next := escape .path (counted piece)
    if steps = [] ∧ isDrive next then ([next.take 1 ++ [':']], false) else (step steps next isLast, onHost)

def walkFile (steps : List (List Char)) (onHost : Bool) : List (List Char) → List (List Char) × Bool
  | [] => (steps, onHost)
  | piece :: rest =>
    let (steps, onHost) := fileStep steps onHost piece rest.isEmpty
    walkFile steps onHost rest

/-- The path of a file, and whether the file is on the host that its URL names. Empty steps at the start are dropped in
the end. -/
def ofFile (cs : List Char) : Path × Bool :=
  let (steps, onHost) := walkFile [] true (pieces true cs)
  let steps := steps.dropWhile (·.isEmpty)
  (rooted (if steps.isEmpty then [[]] else steps), onHost)

end Path

end PeerChat.Url
