import Planroom.Store.Basic
import Planroom.Text.Blank

/-!
# Users and prompts

A user is found by identifier or by name, a prompt by name. Neither ever changes.
-/

namespace Planroom.Store

/-- **Find a user.** A text that is an identifier is one, and no name: a user who is called so is
not found by it. -/
def findUser (store : Store) (text : String) : Except Failure User :=
  let wanted := Text.trim text
  let found := match Uuid.canonical? wanted with
    | some id => store.users.get? id
    | none => store.users.values.find? (·.name == wanted)
  match found with
  | some user => .ok user
  | none => .error (.notFound .user wanted)

/-- **The active prompt**, the first one of several. That there is none is no failure. -/
def activePrompt (store : Store) : Option Prompt :=
  store.prompts.find? (·.active)

/-- **Find a prompt** by its exact name. -/
def findPrompt (store : Store) (name : String) : Except Failure Prompt :=
  match store.prompts.find? (·.name == name) with
  | some prompt => .ok prompt
  | none => .error (.notFound .prompt name)

end Planroom.Store
