import PeerChat.Json.Printer

/-!
Requests and replies of HTTP, as far as client and peer use them.
-/

namespace PeerChat.Http

-- bytes are compared as the core library does
attribute [local instance (high)] ByteArray.instDecidableEq

/-- What a request carries: bytes, and the media type that is given for them. -/
structure Body where
  mediaType : Option String
  content : ByteArray
deriving DecidableEq

namespace Body

def empty : Body := ⟨none, .empty⟩

def json (j : Json) : Body := ⟨some "application/json", j.toText.toUTF8⟩

end Body

/-- A request of a server. -/
structure Request where
  method : String
  /-- What is asked for: a path, which a query may follow, or a whole address with one in it. -/
  target : String
  body : Body
deriving DecidableEq

namespace Request

/-- What follows the host in a whole address; none for any other text. -/
def afterHost? : List Char → Option (List Char)
  | ':' :: '/' :: '/' :: rest => some (rest.dropWhile fun c => c ≠ '/' ∧ c ≠ '?' ∧ c ≠ '#')
  | c :: rest => if c = '/' ∨ c = '?' ∨ c = '#' then none else afterHost? rest
  | [] => none

/-- The path that is asked for. What follows a question mark or a number sign does not count; a target that neither
begins with a slash nor is a whole address has no path. -/
def path? (request : Request) : Option String :=
  let upToQuery (cs : List Char) : List Char := cs.takeWhile fun c => c ≠ '?' ∧ c ≠ '#'
  match request.target.toList with
  | '/' :: rest => some (String.ofList ('/' :: upToQuery rest))
  | cs => (afterHost? cs).map fun rest => String.ofList (if upToQuery rest = [] then ['/'] else upToQuery rest)

end Request

/-- The reply of a server. -/
structure Reply where
  status : Nat
  body : ByteArray
deriving DecidableEq

namespace Reply

def bare (status : Nat) : Reply := ⟨status, .empty⟩

def text (status : Nat) (text : String) : Reply := ⟨status, text.toUTF8⟩

def json (j : Json) : Reply := ⟨200, j.toText.toUTF8⟩

/-- Whether the request was carried out. -/
def isSuccess (reply : Reply) : Bool := 200 ≤ reply.status && reply.status < 300

end Reply

end PeerChat.Http
