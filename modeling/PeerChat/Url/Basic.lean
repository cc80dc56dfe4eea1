import PeerChat.Url.Host
import PeerChat.Url.Path

/-!
URLs: their parts, and the one text that each of them is written as.
-/

namespace PeerChat

/-- The part of a URL that says where to go: a host, with who asks and the number to ask at. -/
structure Url.Authority where
  username : List Char
  password : List Char
  host : Url.Host
  /-- The number at the host, where it is not the usual one of the scheme. -/
  portNumber : Option Nat
deriving DecidableEq, Repr

/-- A URL in its parts; everything that has to be escaped is. -/
structure Url where
  scheme : List Char
  authority : Option Url.Authority
  path : Url.Path
  query : Option (List Char)
  fragment : Option (List Char)
deriving DecidableEq, Repr

namespace Url

/-- Who asks, with an at sign after it. -/
def Authority.credentialsText (a : Authority) : List Char :=
  if a.username = [] ∧ a.password = [] then []
  else a.username ++ (if a.password = [] then [] else ':' :: a.password) ++ ['@']

def Authority.text (a : Authority) : List Char :=
  a.credentialsText ++ a.host.text ++
    match a.portNumber with
    | some number => ':' :: Text.digits number
    | none => []

/-- What stands between the scheme and the path. A path that begins with two slashes is set off from the scheme, so that
it is not taken for a host. -/
def middleText (u : Url) : List Char :=
  match u.authority, u.path with
  | some a, _ => ['/', '/'] ++ a.text
  | none, .rooted ([] :: _ :: _) => ['/', '.']
  | none, _ => []

/-- The text of a part after its mark. -/
def markedText (mark : Char) : Option (List Char) → List Char
  | some cs => mark :: cs
  | none => []

def text (u : Url) : String :=
  String.ofList
    (u.scheme ++ [':'] ++ u.middleText ++ u.path.text ++ markedText '?' u.query ++ markedText '#' u.fragment)

/-- The URL of a path on the same host. What the path of the URL was before does not matter, but it has to have one. -/
def withPath (u : Url) (path : String) : Except Fault Url :=
  match u.path with
  | .rooted _ => .ok { u with path := .afterHost true path.toList, query := none, fragment := none }
  | .bare _ => .error .relativeWithRootlessBase

end Url

end PeerChat
