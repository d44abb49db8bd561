import Planroom.Uuid

/-!
# Prompts

A prompt is a text under a name. The content of the active one is what a client is told when it
connects.
-/

namespace Planroom

/-- **A prompt.** Several may be marked as active; the first one of them counts. -/
structure Prompt where
  id : Uuid
  name : String
  title : String
  description : Option String
  content : String
  active : Bool
  deriving DecidableEq, Repr

end Planroom
