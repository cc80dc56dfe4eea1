/-!
The draft: the text that the user has begun and not sent.
-/

namespace PeerChat

/-- The text that waits to be sent. -/
structure Draft where
  text : String
deriving DecidableEq, Repr, Inhabited

namespace Draft

def empty : Draft := ⟨""⟩

def set (_ : Draft) (text : String) : Draft := ⟨text⟩

/-- The text that was there, and the empty draft that is left. -/
def take (d : Draft) : String × Draft := (d.text, empty)

end Draft

end PeerChat
