import PeerChat.Url.Basic

/-!
Reading URLs, with nothing that they could be relative to. Blanks and control characters around a text do not count, nor
do tabs and line ends anywhere in it.
-/

namespace PeerChat.Url

/-! ### Schemes -/

/-- Characters of a scheme after its first. -/
def isSchemeChar (c : Char) : Bool := c.isAlphanum || c == '+' || c == '-' || c == '.'

/-- The scheme in small letters, and what follows its colon. -/
def cutScheme? (cs : List Char) : Option (List Char × List Char) := do
  let (scheme, rest) ← Text.cutWhere (· == ':') cs
  let scheme := Path.counted scheme
  if scheme.head?.any Char.isAlpha && scheme.all isSchemeChar then return (scheme.map Char.toLower, rest) else none

/-- The schemes with a usual number to ask at. -/
def usualNumbers : List (String × Nat) := [("http", 80), ("https", 443), ("ws", 80), ("wss", 443), ("ftp", 21)]

/-- The usual number of a scheme. -/
def usualNumber? (scheme : List Char) : Option Nat := usualNumbers.lookup (String.ofList scheme)

/-- Files and the schemes with a usual number are special: a backslash counts as a slash there. -/
def isSpecial (scheme : List Char) : Bool := scheme == "file".toList || (usualNumber? scheme).isSome

/-! ### Authorities -/

/-- Ends the authority. -/
def endsAuthority (special : Bool) (c : Char) : Bool := c == '/' || c == '?' || c == '#' || (special && c == '\\')

/-- The characters before the last at sign, if there is one, and those after it. -/
def cutCredentials (cs : List Char) : Option (List Char) × List Char :=
  if cs.contains '@' then
    (some (cs.reverse.dropWhile (· ≠ '@')).tail.reverse, (cs.reverse.takeWhile (· ≠ '@')).reverse)
  else (none, cs)

/-- The user name and the password in credentials, escaped. -/
def readCredentials (cs : List Char) : List Char × List Char :=
  match Text.cutWhere (· == ':') cs with
  | some (username, password) => (escape .credentials username, escape .credentials password)
  | none => (escape .credentials cs, [])

/-- The host and what follows it: a colon outside of brackets ends it. -/
def cutHost (inBrackets : Bool) : List Char → List Char × List Char
  | [] => ([], [])
  | c :: cs =>
    if c = ':' ∧ ¬inBrackets then ([], c :: cs)
    else
      let (host, rest) := cutHost (if c = '[' then true else if c = ']' then false else inBrackets) cs
      (c :: host, rest)

/-- The number after the colon of a host, none if there is no digit, and what follows it. Nothing can follow but what
begins with a backslash, in a scheme that is not special. -/
def readPortNumber (cs : List Char) : Except Fault (Option Nat × List Char) :=
  let digits := cs.takeWhile Text.isDigit
  let rest := cs.dropWhile Text.isDigit
  if UInt16.size ≤ Text.ofDigits digits ∨ (rest ≠ [] ∧ rest.head? ≠ some '\\') then .error .badPort
  else .ok (if digits = [] then none else some (Text.ofDigits digits), rest)

/-- Reads the host of a URL and the number at it; what is left belongs to the path. -/
def readHost (scheme : List Char) (cs : List Char) : Except Fault (Host × Option Nat × List Char) := do
  let special := isSpecial scheme
  let (hostText, rest) := cutHost false cs
  if special ∧ hostText = [] then throw .emptyHost
  let host ← if special then Host.ofSpecial hostText else Host.ofOther hostText
  match rest with
  | [] => return (host, none, [])
  | _ :: rest =>
    if host = .name [] then throw .emptyHost
    let (number, rest) ← readPortNumber rest
    return (host, if number = usualNumber? scheme then none else number, rest)

/-- Reads an authority; what is left belongs to the path. With `atEnd`, nothing comes after it. -/
def readAuthority (scheme : List Char) (atEnd : Bool) (cs : List Char) : Except Fault (Authority × List Char) := do
  match cutCredentials cs with
  | (none, cs) =>
    let (host, number, rest) ← readHost scheme cs
    return (⟨[], [], host, number⟩, rest)
  | (some credentials, cs) =>
    if credentials = [] ∧ cs = [] ∧ ¬atEnd then throw .emptyHost
    let (username, password) := readCredentials credentials
    let (host, number, rest) ← readHost scheme cs
    if host = .name [] ∧ (username ≠ [] ∨ password ≠ []) then throw .emptyHost
    return (⟨username, password, host, number⟩, rest)

/-! ### Whole texts -/

/-- The characters before the query and the fragment, and the two of them. -/
def cutTail (cs : List Char) : List Char × Option (List Char) × Option (List Char) :=
  let (front, fragment) := match Text.cutWhere (· == '#') cs with
    | some (front, fragment) => (front, some fragment)
    | none => (cs, none)
  match Text.cutWhere (· == '?') front with
  | some (front, query) => (front, some query, fragment)
  | none => (front, none, fragment)

/-- Reads what follows the slashes of a URL with a host. With `atEnd`, no query and no fragment follow. -/
def readWithHost (scheme : List Char) (atEnd : Bool) (cs : List Char) : Except Fault (Option Authority × Path) := do
  let special := isSpecial scheme
  let path := cs.dropWhile (!endsAuthority special ·)
  let (authority, left) ← readAuthority scheme (atEnd && path.isEmpty) (cs.takeWhile (!endsAuthority special ·))
  return (some authority, .afterHost special (left ++ path))

/-- The authority of a file that is on this machine. -/
def noHost : Authority := ⟨[], [], .name [], none⟩

/-- What follows a slash of either kind, if the characters that count begin with one. -/
def afterSlash? (cs : List Char) : Option (List Char) :=
  match cs.dropWhile Path.isSkipped with
  | '/' :: rest => some rest
  | '\\' :: rest => some rest
  | _ => none

/-- Reads what follows two slashes in a file's URL: a host and the path on it, or a path alone. -/
def readFileOnHost (cs : List Char) : Except Fault (Option Authority × Path) := do
  let isSlash (c : Char) : Bool := c == '/' || c == '\\'
  let hostText := Path.counted (cs.takeWhile (!isSlash ·))
  let left := cs.dropWhile (!isSlash ·)
  if Path.isDrive hostText then return (some noHost, (Path.ofFile cs).1)
  else if hostText = [] then return (some noHost, (Path.ofFile left).1)
  else
    let host ← Host.ofSpecial hostText
    if host = .name "localhost".toList then return (some noHost, (Path.ofFile left).1)
    else
      let (path, onHost) := Path.ofFile (left.drop 1)
      return (some (if onHost then { noHost with host := host } else noHost), path)

/-- Reads what follows the colon of a file's URL; what does not count still stands in it. -/
def readFile (cs : List Char) : Except Fault (Option Authority × Path) :=
  match afterSlash? cs with
  | none => .ok (some noHost, (Path.ofFile cs).1)
  | some rest =>
    match afterSlash? rest with
    | none => .ok (some noHost, (Path.ofFile rest).1)
    | some rest => readFileOnHost rest

/-- Reads what follows the colon of the scheme, up to the query. -/
def readMain (scheme : List Char) (atEnd : Bool) (cs : List Char) : Except Fault (Option Authority × Path) :=
  if scheme = "file".toList then readFile cs
  else if isSpecial scheme then
    readWithHost scheme atEnd ((Path.counted cs).dropWhile fun c => c == '/' || c == '\\')
  else
    match Path.counted cs with
    | '/' :: '/' :: rest => readWithHost scheme atEnd rest
    | '/' :: rest => .ok (none, .afterHost false ('/' :: rest))
    | cs => .ok (none, .bare (escape .control cs))

/-- Characters around a text that do not count. -/
def isMargin (c : Char) : Bool := c.toNat ≤ 0x20

def ofText (s : String) : Except Fault Url := do
  let cs := Text.dropTrailing isMargin (s.toList.dropWhile isMargin)
  match cutScheme? cs with
  | none => throw .relativeWithoutBase
  | some (scheme, rest) =>
    let (front, query, fragment) := cutTail rest
    let (authority, path) ← readMain scheme (query.isNone && fragment.isNone) front
    return {
      scheme, authority, path
      query := query.map fun query => escape (if isSpecial scheme then .specialQuery else .query) (Path.counted query)
      fragment := fragment.map fun fragment => escape .fragment (Path.counted fragment) }

end PeerChat.Url
