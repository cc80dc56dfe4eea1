import PeerChat.Text.Cut

/-!
Media types: `type/subtype` or `type/subtype+suffix`, followed by parameters.
-/

namespace PeerChat.Http

/-- A media type; its names are in small letters. -/
structure MediaType where
  type : List Char
  subtype : List Char
  suffix : Option (List Char)
  parameters : List (List Char × List Char)
deriving DecidableEq, Repr

namespace MediaType

/-- The characters of names and of values without quotes. -/
def isToken (c : Char) : Bool :=
  c.isAlphanum || ['!', '#', '$', '%', '&', '\x27', '*', '+', '-', '.', '^', '_', '\x60', '|', '~'].contains c

/-- The characters of values between quotes; a quote is one at the start of the value alone. -/
def isQuotable (c : Char) : Bool := 0x20 ≤ c.toNat && c.toNat ≠ 0x7F

def small (cs : List Char) : List Char := cs.map Char.toLower

/-- The value between quotes that the characters after the opening one begin with, and what follows it. A value has at
least one character. -/
def readQuoted? : List Char → Option (List Char × List Char)
  | [] => none
  | first :: rest => do
    let (more, rest) ← Text.cutWhere (· == '"') rest
    if (first :: more).all isQuotable then return (first :: more, rest.dropWhile (· == ' ')) else none

/-- The value of a parameter, and what follows it. -/
def readValue? : List Char → Option (List Char × List Char)
  | '"' :: rest => readQuoted? rest
  | cs => some (cs.takeWhile isToken, cs.dropWhile isToken)

def readParameters? : Nat → List Char → Option (List (List Char × List Char))
  | 0, _ => none
  | fuel + 1, cs =>
    match cs.dropWhile (· == ' ') with
    | [] => some []
    | cs =>
      match cs.takeWhile isToken, cs.dropWhile isToken with
      | [], _ => none
      | name, '=' :: rest => do
        let (value, rest) ← readValue? rest
        match rest with
        | [] => return [(small name, value)]
        | ';' :: rest =>
          if value = [] then none else return (small name, value) :: (← readParameters? fuel rest)
        | _ => none
      | _, _ => none

/-- The subtype before the last plus sign, and the suffix after it. -/
def cutSuffix (cs : List Char) : List Char × Option (List Char) :=
  match Text.cutWhere (· == '+') cs.reverse with
  | some (suffix, subtype) => if subtype = [] then (cs, none) else (subtype.reverse, some suffix.reverse)
  | none => (cs, none)

/-- Characters that can stand in the head of a message and be read as text there. -/
def isVisible (c : Char) : Bool := c == '\t' || (0x20 ≤ c.toNat && c.toNat < 0x7F)

def ofText? (s : String) : Option MediaType :=
  let type := s.toList.takeWhile isToken
  match s.toList.dropWhile isToken with
  | '/' :: rest =>
    let name := rest.takeWhile isToken
    if type = [] ∨ name = [] ∨ ¬s.toList.all isVisible then none
    else
      let (subtype, suffix) := cutSuffix name
      let build (parameters : List (List Char × List Char)) : MediaType :=
        ⟨small type, small subtype, suffix.map small, parameters⟩
      match rest.dropWhile isToken with
      | [] => some (build [])
      | ';' :: rest => (readParameters? (rest.length + 1) rest).map build
      | _ => none
  | _ => none

/-- JSON, or a format built on it. -/
def isJson (m : MediaType) : Bool :=
  m.type == "application".toList && (m.subtype == "json".toList || m.suffix == some "json".toList)

/-- What the lines between the parts of a form hold, of the media type of forms. -/
def boundary? (m : MediaType) : Option (List Char) :=
  if m.type = "multipart".toList ∧ m.subtype = "form-data".toList then m.parameters.lookup "boundary".toList else none

def charset? (m : MediaType) : Option (List Char) := m.parameters.lookup "charset".toList

end MediaType

end PeerChat.Http
