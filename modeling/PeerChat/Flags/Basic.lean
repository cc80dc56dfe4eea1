import PeerChat.Text.Cut

/-!
Flags of a command line. A flag is written `--name value` or `--name=value`, and `--help` or `-h` asks for help; nothing
else is known. A flag is complete only when the next one or the end of the line is seen: what is wrong with it shows
then, and not at all if something unknown comes first.
-/

namespace PeerChat

namespace Flags

/-- Why a command line cannot be followed. -/
inductive Fault
  | unknownArgument
  /-- A flag stands without a value. -/
  | missingValue
  /-- A value is given to a flag that takes none. -/
  | needlessValue
  /-- A value is not of the kind that its flag takes. -/
  | badValue
  /-- A flag is given twice. -/
  | repeated
  /-- The overview of the flags is asked for. -/
  | helpWanted
deriving DecidableEq, Repr

/-- What a flag takes. -/
inductive Kind
  | text
  /-- A path is not empty. -/
  | path
  /-- A number of 64 bits. -/
  | word
deriving DecidableEq, Repr

/-- A flag that a program knows. -/
structure Flag where
  name : String
  kind : Kind
  /-- The flag may be given several times. -/
  repeatable : Bool
deriving DecidableEq, Repr

/-- The number of 64 bits that a text writes: decimal digits, after a plus sign or not. -/
def word? (text : String) : Option UInt64 :=
  let digits := match text.toList with
    | '+' :: rest => rest
    | cs => cs
  if digits ≠ [] ∧ digits.all Text.isDigit ∧ Text.ofDigits digits < UInt64.size then
    some (UInt64.ofNat (Text.ofDigits digits))
  else none

/-- What is wrong with a value of a kind, if anything. -/
def Kind.fault? (kind : Kind) (value : String) : Option Fault :=
  match kind with
  | text => none
  | path => if value = "" then some .missingValue else none
  | word => if (word? value).isNone then some .badValue else none

/-- The flags that are given, with their values, in the order of the line. -/
abbrev Given := List (String × String)

def add (given : Given) (flag : Flag) (value : String) : Except Fault Given :=
  if !flag.repeatable && given.any (·.1 == flag.name) then .error .repeated
  else
    match flag.kind.fault? value with
    | some fault => .error fault
    | none => .ok (given ++ [(flag.name, value)])

/-- A flag that is not complete yet, with its value if that was seen. -/
abbrev Pending := Option (Flag × Option String)

/-- Completes the flag that is open. -/
def settle (given : Given) : Pending → Except Fault Given
  | none => .ok given
  | some (_, none) => .error .missingValue
  | some (flag, some value) => add given flag value

/-- What one word of the line is, apart from its place. -/
inductive Shape
  /-- Two dashes: only plain words follow. -/
  | divider
  /-- A name after two dashes, with the value after an equals sign if there is one. -/
  | long (name : String) (value : Option String)
  /-- A letter after one dash. -/
  | short (letter : Char)
  | plain
deriving DecidableEq, Repr

def Shape.ofWord (word : String) : Shape :=
  match word.toList with
  | ['-', '-'] => divider
  | '-' :: '-' :: rest =>
    match Text.cutWhere (· == '=') rest with
    | some (name, value) => long (String.ofList name) (some (String.ofList value))
    | none => long (String.ofList rest) none
  | '-' :: letter :: _ => short letter
  | _ => plain

/-- Reads the words of a line after those that are given. -/
def readFrom (known : List Flag) (given : Given) (pending : Pending) : List String → Except Fault Given
  | [] => settle given pending
  | word :: words =>
    match Shape.ofWord word with
    | .divider => if words.isEmpty then settle given pending else .error .unknownArgument
    | .long name value =>
      if name = "help" then
        if value.isSome then .error .needlessValue
        else do
          discard (settle given pending)
          throw .helpWanted
      else
        match known.find? (·.name == name) with
        | none => .error .unknownArgument
        | some flag => do
          let given ← settle given pending
          match value with
          | some value => readFrom known (← add given flag value) none words
          | none => readFrom known given (some (flag, none)) words
    | .short letter =>
      if letter = 'h' then do
        discard (settle given pending)
        throw .helpWanted
      else .error .unknownArgument
    | .plain =>
      match pending with
      | some (flag, none) => readFrom known given (some (flag, some word)) words
      | _ => .error .unknownArgument

def read (known : List Flag) (words : List String) : Except Fault Given := readFrom known [] none words

/-- The value of a flag that is given once at most. -/
def Given.value? (given : Given) (name : String) : Option String := given.lookup name

def Given.values (given : Given) (name : String) : List String := (given.filter (·.1 == name)).map (·.2)

end Flags

end PeerChat
