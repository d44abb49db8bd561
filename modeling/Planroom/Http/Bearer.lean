import Planroom.Http.Refusal
import Planroom.Settings.Basic

/-!
# Bearer tokens

Who makes a request is told by the token in its `Authorization` header: `Bearer` in any case, a space,
and the token, which may have blanks in front of it.
-/

namespace Planroom.Http

/-- The scheme, in lower case and with the space after it, which must be a single space and no tab.
-/
def bearerScheme : String := "bearer "

/-- The token of an authorization. Blanks in front of it are left out, those behind it are not. -/
def bearerToken? (authorization : String) : Option String :=
  let scheme := authorization.toList.take bearerScheme.length
  if authorization.toList.all isPrintable &&
      Text.asciiLower (String.ofList scheme) == bearerScheme then
    some (String.ofList
      ((authorization.toList.drop bearerScheme.length).dropWhile fun c => c == ' ' || c == '\t'))
  else none

/-- **The user who makes a request.** A header that is missing, one that cannot be read, and a token
that is not known are three different faults. -/
def authenticate (credentials : List Credential) (request : Request) : Except Fault User :=
  match request.header? "authorization" with
  | none =>
    .error (.problem (.unauthorized "missing_token" "missing authorization header"))
  | some authorization =>
    match bearerToken? authorization with
    | none => .error (.refused .unreadableCredentials)
    | some token =>
      match Credential.owner? credentials token with
      | none => .error (.problem (.unauthorized "invalid_token" "invalid bearer token"))
      | some user => .ok user

end Planroom.Http
