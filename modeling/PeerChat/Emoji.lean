/-!
The emoji a user can pick: a fixed catalogue of ids, each with a glyph and a name.
-/

namespace PeerChat

/-- An emoji of the catalogue. -/
structure Emoji where
  id : String
  glyph : String
  name : String
deriving DecidableEq, Repr

namespace Emoji

/-- All emoji, in the order in which they are listed. -/
def catalogue : List Emoji := [
  ⟨"smile", "😊", "smile"⟩,
  ⟨"love", "😍", "heart eyes"⟩,
  ⟨"laugh", "😂", "laugh"⟩,
  ⟨"wow", "😮", "surprised"⟩,
  ⟨"cry", "😢", "cry"⟩,
  ⟨"angry", "😠", "angry"⟩,
  ⟨"cool", "😎", "cool"⟩,
  ⟨"wink", "😉", "wink"⟩,
  ⟨"kiss", "😘", "kiss"⟩,
  ⟨"thinking", "🤔", "thinking"⟩,
  ⟨"thumbsup", "👍", "thumbs up"⟩,
  ⟨"thumbsdown", "👎", "thumbs down"⟩,
  ⟨"clap", "👏", "clap"⟩,
  ⟨"fire", "🔥", "fire"⟩,
  ⟨"heart", "❤️", "red heart"⟩,
  ⟨"party", "🎉", "party"⟩,
  ⟨"rocket", "🚀", "rocket"⟩,
  ⟨"star", "⭐", "star"⟩]

def find? (id : String) : Option Emoji := catalogue.find? (·.id == id)

/-- The catalogue for the console: a line per emoji, the ids padded to ten columns. -/
def listing : String :=
  "\n".intercalate (catalogue.map fun e =>
    "  " ++ e.glyph ++ " " ++ e.id ++ "".pushn ' ' (10 - e.id.length) ++ " " ++ e.name)

end Emoji

end PeerChat
