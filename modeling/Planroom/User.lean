import Planroom.Artifact.Vocabulary
import Planroom.Uuid

/-!
# Users

Administrators and users may change artifacts; commenters may read and comment.
-/

namespace Planroom

/-- **What a user may do.** Commenters may read everything and write comments; the other two may
change artifacts, and administrators may also change what others have written. -/
inductive Role where
  | administrator
  | user
  | commenter
  deriving DecidableEq, Repr

namespace Role

/-- How the role is written. -/
def name : Role → String
  | .administrator => "administrator"
  | .user => "user"
  | .commenter => "commenter"

/-- Read a role. An administrator may be written short. -/
def parse? (s : String) : Option Role :=
  match nameKey s with
  | "administrator" | "admin" => some .administrator
  | "user" => some .user
  | "commenter" => some .commenter
  | _ => none

/-- May the role change artifacts? -/
def canEdit : Role → Bool
  | .administrator | .user => true
  | .commenter => false

end Role

/-- **A user.** There is no way to make one at run time: users are configured, and stay as they are.
-/
structure User where
  id : Uuid
  name : String
  role : Role
  deriving DecidableEq, Repr

namespace User

/-- Fails unless the user may change artifacts. It is asked before anything is looked up, so that a
caller who may not learns nothing of what there is. -/
def requireEditor (user : User) : Except Failure Unit :=
  if user.role.canEdit then .ok () else .error (.forbidden .notEditor)

/-- May the user change what `owner` made, where only its maker and administrators may? A maker
keeps this right whatever the role. -/
def mayActFor (user : User) (owner : Uuid) : Bool :=
  owner == user.id || user.role == .administrator

end User

end Planroom
