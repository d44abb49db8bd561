import Planroom.Context
import Planroom.Prompt
import Planroom.Settings.Socket
import Planroom.Text.HiddenTables
import Planroom.Text.Lowercase
import Planroom.User

/-!
# Settings

The program is set up from a table of texts, such as the environment of its process. A text counts
without the blanks around it, and a blank one counts as absent.

* **Credentials** — a token of its own for an administrator, and a list of entries
  `token:username:role`. No token and no username may be there twice.
* **Secrecy** — the description of a credential has a mark in the place of the token.
-/

namespace Planroom

/-- **How the log is written.** What is logged does not depend on it. -/
inductive LogFormat where
  | compact
  | json
  deriving DecidableEq, Repr

namespace LogFormat

/-- How the format is written. -/
def name : LogFormat → String
  | .compact => "compact"
  | .json => "json"

/-- Read a format. Unlike a token or a name it may be written in either case. -/
def parse? (s : String) : Option LogFormat :=
  match nameKey s with
  | "compact" => some .compact
  | "json" => some .json
  | _ => none

end LogFormat

/-- **A bearer token and whom it stands for.** It has no `Repr`, lest a token be shown by the way.
-/
structure Credential where
  token : String
  user : User
  deriving DecidableEq

/-- **The user whom a token stands for.** Of several credentials with one token the last one counts,
though settings that are accepted have no such two. -/
def Credential.owner? (credentials : List Credential) (token : String) : Option User :=
  (credentials.reverse.find? (·.token == token)).map (·.user)

/-- **What the program is set up with.** Spans of time are in the units of their settings, so that
nothing is rounded on the way. -/
structure Settings where
  credentials : List Credential
  address : String
  port : Nat
  slowOperationMillis : Nat
  requestTimeoutSeconds : Nat
  resourcesListTimeoutSeconds : Nat
  systemPrompt : Option String
  logFormat : LogFormat
  deriving DecidableEq

/-- **Why the program cannot be set up.** One is enough: reading stops at the first. -/
inductive SettingsError where
  | missingToken
  | invalidCredential (entry : String)
  | duplicateToken
  | duplicateUser (name : String)
  | invalidPort
  | invalidDuration (key : String)
  | invalidLogFormat
  | invalidSocket
  deriving DecidableEq, Repr

/-- The wording of the error. Some of them quote what was set, so that it can be found. -/
def SettingsError.message : SettingsError → String
  | .missingToken => "SPEXUS_API_TOKEN or SPEXUS_API_TOKENS is required and must not be empty"
  | .invalidCredential entry =>
    "SPEXUS_API_TOKENS entries must be token:username:role, got '" ++ entry ++ "'"
  | .duplicateToken => "the same bearer token is configured twice"
  | .duplicateUser name => "user '" ++ name ++ "' is configured twice"
  | .invalidPort => "BIND_PORT must be a valid u16"
  | .invalidDuration key => key ++ " must be a positive integer"
  | .invalidLogFormat => "SPEXUS_LOG_FORMAT must be 'compact' or 'json'"
  | .invalidSocket => "invalid bind address or port"

namespace Settings

/-- The value under a key: what is there without the blanks around it, unless it is blank. A key set
to nothing is as good as none. -/
def value (table : String → Option String) (key : String) : Option String :=
  ((table key).map Text.trim).filter fun s => !s.isEmpty

/-- The user of the token that stands alone, where no other name is set. -/
def defaultUserName : String := "mcp-agent"

/-- **An entry** `token:username:role`, with blanks around its parts. It has exactly three, so
neither a token nor a name can hold a colon. -/
def parseEntry (id : Uuid) (entry : String) : Except SettingsError Credential :=
  match (Text.split ':' entry).map Text.trim with
  | [token, name, role] =>
    if token.isEmpty ∨ name.isEmpty then .error (.invalidCredential entry)
    else match Role.parse? role with
      | some role => .ok ⟨token, ⟨id, name, role⟩⟩
      | none => .error (.invalidCredential entry)
  | _ => .error (.invalidCredential entry)

/-- The entries of a list: its parts between the commas that are not blank. So a comma too many at
the end does not matter. -/
def entriesOf (list : String) : List String :=
  ((Text.split ',' list).map Text.trim).filter fun entry => !entry.isEmpty

/-- The credentials of a list of entries; `ids` are the identifiers of their users. Each user has
the identifier of its position, counted from the given one. -/
def parseEntries (ids : Nat → Uuid) (position : Nat) :
    List String → Except SettingsError (List Credential)
  | [] => .ok []
  | entry :: entries => do
    let credential ← parseEntry (ids position) entry
    let credentials ← parseEntries ids (position + 1) entries
    return credential :: credentials

/-- The credential of the token that stands alone. A name without a token makes no user. -/
def ownCredential (table : String → Option String) (id : Uuid) : List Credential :=
  match value table "SPEXUS_API_TOKEN" with
  | none => []
  | some token =>
    let name := (value table "SPEXUS_API_USER").getD defaultUserName
    [⟨token, ⟨id, name, .administrator⟩⟩]

/-- **All credentials**: the token that stands alone, then the entries of the list. There may be
none of them, which is an error only of the settings as a whole. -/
def credentialsOf (table : String → Option String) (ids : Nat → Uuid) :
    Except SettingsError (List Credential) := do
  let own := ownCredential table (ids 0)
  match value table "SPEXUS_API_TOKENS" with
  | none => return own
  | some list => return own ++ (← parseEntries ids own.length (entriesOf list))

/-- Fails at the first credential whose token, or else whose user, is among the earlier ones. A name
is told in the error, a token is not. -/
def checkUnique (tokens names : List String) : List Credential → Except SettingsError Unit
  | [] => .ok ()
  | credential :: rest =>
    if tokens.contains credential.token then .error .duplicateToken
    else if names.contains credential.user.name then
      .error (.duplicateUser credential.user.name)
    else checkUnique (credential.token :: tokens) (credential.user.name :: names) rest

/-- The greatest span of time, that of an unsigned 64-bit number. -/
def maxSpan : Nat := Nat.pow 2 64 - 1

/-- A span of time: a positive number, or the default where none is set. Zero is refused like a text
that is no number. -/
def span (table : String → Option String) (key : String) (default : Nat) :
    Except SettingsError Nat :=
  match value table key with
  | none => .ok default
  | some s =>
    match Text.readUnsigned maxSpan s with
    | some n => if 0 < n then .ok n else .error (.invalidDuration key)
    | none => .error (.invalidDuration key)

/-- The greatest port. -/
def maxPort : Nat := 65535

/-- The port to listen on. Zero is a port: the system then chooses one. -/
def portOf (table : String → Option String) : Except SettingsError Nat :=
  match value table "BIND_PORT" with
  | none => .ok 8080
  | some s =>
    match Text.readUnsigned maxPort s with
    | some n => .ok n
    | none => .error .invalidPort

/-- The format of the log, the compact one unless another is set. -/
def logFormatOf (table : String → Option String) : Except SettingsError LogFormat :=
  match value table "SPEXUS_LOG_FORMAT" with
  | none => .ok .compact
  | some s =>
    match LogFormat.parse? s with
    | some format => .ok format
    | none => .error .invalidLogFormat

/-- The text of the socket to listen on, if the address is one. A host name is none, since nothing
is looked up here. -/
def socket? (settings : Settings) : Option String :=
  (Address.parse? settings.address).map fun address => address.socketText settings.port

/-- **Read the settings.** `ids` are the identifiers of the configured users. The order of the lines
is the order in which errors are noticed. -/
def ofTable (ids : Nat → Uuid) (table : String → Option String) :
    Except SettingsError Settings := do
  let credentials ← credentialsOf table ids
  -- Without a credential nobody could ever be let in.
  if credentials.isEmpty then throw .missingToken
  checkUnique [] [] credentials
  let port ← portOf table
  let logFormat ← logFormatOf table
  let slow ← span table "SPEXUS_SLOW_OPERATION_MS" 100
  let request ← span table "SPEXUS_REQUEST_TIMEOUT_SECS" 60
  let resources ← span table "SPEXUS_RESOURCES_LIST_TIMEOUT_SECS" 30
  let settings : Settings :=
    { credentials := credentials
      address := (value table "BIND_ADDR").getD "127.0.0.1"
      port := port
      slowOperationMillis := slow
      requestTimeoutSeconds := request
      resourcesListTimeoutSeconds := resources
      systemPrompt := value table "SPEXUS_SYSTEM_PROMPT"
      logFormat := logFormat }
  -- The address is not checked until everything else is known to be right.
  if settings.socket?.isNone then throw .invalidSocket
  return settings

/-- The configured users, which are all that the program will ever know. -/
def users (settings : Settings) : List User :=
  settings.credentials.map (·.user)

/-- The prompt that holds the configured instructions, if there are any. It is active, since nobody
could activate it later. -/
def prompts (settings : Settings) (id : Uuid) : List Prompt :=
  match settings.systemPrompt with
  | none => []
  | some content =>
    [{ id := id
       name := "system"
       title := "System instructions"
       description := some "Instructions returned by initialize"
       content := content
       active := true }]

end Settings

/-! ## Descriptions without secrets -/

/-- Is the character not seen by itself? All that ASCII prints is, which the table need not be asked
about. -/
def isHidden (c : Char) : Bool :=
  !(0x20 ≤ c.toNat && c.toNat < 0x7F) && Text.inRanges Text.hiddenRanges c

/-- **A character inside a quoted text** of a description. One that would not be seen is told by its
number. -/
def describeChar (c : Char) : List Char :=
  if c = '"' ∨ c = '\\' then ['\\', c]
  else if c = '\n' then ['\\', 'n']
  else if c = '\r' then ['\\', 'r']
  else if c = '\t' then ['\\', 't']
  else if c.toNat = 0 then ['\\', '0']
  else if isHidden c then ['\\', 'u', '\x7b'] ++ Address.hexDigits 6 c.toNat ++ ['\x7d']
  else [c]

/-- A quoted text in a description. Quotes inside it are escaped, so its end can be told. -/
def describeText (s : String) : String :=
  String.ofList ('"' :: s.toList.flatMap describeChar ++ ['"'])

/-- **How a description is written** where that is not said by what it describes: texts, which are quoted,
and identifiers. -/
structure Manner where
  quote : String → String
  identify : Uuid → String

/-- Texts between quotation marks, and identifiers as they are written everywhere. This is the
manner in which the program itself describes things. -/
def Manner.plain : Manner := ⟨describeText, Uuid.text⟩

/-- An optional text in a description. -/
def Manner.quote? (manner : Manner) : Option String → String
  | none => "None"
  | some s => "Some(" ++ manner.quote s ++ ")"

/-- The name of a role in a description, with a capital letter, which the name that is read has not.
-/
def Role.describe : Role → String
  | .administrator => "Administrator"
  | .user => "User"
  | .commenter => "Commenter"

/-- A user in a description. There is nothing secret in a user. -/
def User.describeIn (manner : Manner) (user : User) : String :=
  "AuthenticatedUser \x7b id: " ++ manner.identify user.id ++ ", username: " ++
    manner.quote user.name ++ ", role: " ++ user.role.describe ++ " \x7d"

/-- **The description of a credential**, in which a mark stands for the token. It is the same for
all tokens of one user. -/
def Credential.describeIn (manner : Manner) (credential : Credential) : String :=
  "Credential \x7b token: " ++ manner.quote "[REDACTED]" ++ ", user: " ++
    credential.user.describeIn manner ++ " \x7d"

/-- The description of a credential, as it is written in plain. -/
def Credential.describe (credential : Credential) : String :=
  credential.describeIn .plain

/-- The name of a log format in a description. -/
def LogFormat.describe : LogFormat → String
  | .compact => "Compact"
  | .json => "Json"

/-- The thousandths after a whole number: a point and no more digits than are needed, or nothing at
all. -/
def describeThousandths (n : Nat) : String :=
  if n = 0 then ""
  else "." ++ String.ofList ((Text.padded 3 n).toList.reverse.dropWhile (· == '0')).reverse

/-- A span of time in a description, given in milliseconds: from one second on it is told in
seconds. No span that is set is finer than that. -/
def describeMillis (n : Nat) : String :=
  if n = 0 then "0ns"
  else if n < 1000 then Text.decimal n ++ "ms"
  else Text.decimal (n / 1000) ++ describeThousandths (n % 1000) ++ "s"

/-- **The description of the settings**, in which there are the descriptions of their credentials.
No token gets into it by another way. -/
def Settings.describeIn (manner : Manner) (settings : Settings) : String :=
  "Config \x7b credentials: [" ++
    Text.join ", " (settings.credentials.map fun credential => credential.describeIn manner) ++
    "], bind_addr: " ++ manner.quote settings.address ++
    ", bind_port: " ++ Text.decimal settings.port ++
    ", slow_operation_threshold: " ++ describeMillis settings.slowOperationMillis ++
    ", request_timeout: " ++ describeMillis (settings.requestTimeoutSeconds * 1000) ++
    ", resources_list_timeout: " ++ describeMillis (settings.resourcesListTimeoutSeconds * 1000) ++
    ", system_prompt: " ++ manner.quote? settings.systemPrompt ++
    ", log_format: " ++ settings.logFormat.describe ++ " \x7d"

/-- The description of the settings, as it is written in plain. -/
def Settings.describe (settings : Settings) : String :=
  settings.describeIn .plain

end Planroom
