import Planroom.Proofs.Store.Effect
import Planroom.Proofs.Text.Split
import Planroom.Settings.Basic

/-!
# Reading credentials

Credentials are written as a list of entries, with blanks around the parts of each and blank entries in
between, and are read again as they were meant.

* **Written** — `Entry.WrittenAs` is how an entry may be written, and `Entry.Listed` how several may.
* **Read** — `exists_settings_of_listed`: what is written so is read, each entry in its place.
* **Unique** — `checkUnique_eq_ok_iff`: credentials are accepted exactly if no token and no name comes
  twice.
* **Accepted** — `Accepted`: what holds of all settings that were read, however they were written; and an
  example with blanks, a blank entry and a role in another spelling.
-/

namespace Planroom

open Text

/-- **What an entry says**: a token, and the name and the role of its user. -/
structure Entry where
  token : String
  name : String
  role : Role
  deriving DecidableEq, Repr

/-- What a credential says, apart from the identifier of its user, which is not written anywhere. -/
def Credential.entry (credential : Credential) : Entry :=
  ⟨credential.token, credential.user.name, credential.user.role⟩

namespace Entry

/-! ## Written -/

/-- **Can a text be a part of an entry?** It is not empty, there is no blank around it, and no
separator is in it. There is no way to quote a separator. -/
structure IsPart (s : String) : Prop where
  trimmed : Trimmed s
  noComma : ',' ∉ s.toList
  noColon : ':' ∉ s.toList

instance (s : String) : Decidable (IsPart s) :=
  decidable_of_iff ((trim s ≠ "" ∧ trim s = s) ∧ ',' ∉ s.toList ∧ ':' ∉ s.toList)
    ⟨fun ⟨⟨hne, htrim⟩, hcomma, hcolon⟩ => ⟨htrim ▸ trimmed_trim hne, hcomma, hcolon⟩,
      fun h => ⟨⟨h.trimmed.trim_eq.symm ▸ h.trimmed.ne_empty, h.trimmed.trim_eq⟩, h.noComma, h.noColon⟩⟩

/-- **Can an entry be written at all?** Every role has a spelling, so it is the token and the name
that matter. -/
structure Writable (entry : Entry) : Prop where
  token : IsPart entry.token
  name : IsPart entry.name

/-- **Is the entry written so**, with blanks around its parts and its role in any spelling? The
token and the name are there as they are. -/
inductive WrittenAs (entry : Entry) : String → Prop where
  | mk {token name role spelling : String} (hwritable : entry.Writable) (htoken : Padded entry.token token)
      (hname : Padded entry.name name) (hrole : Padded spelling role) (hpart : IsPart spelling)
      (hspelling : Role.parse? spelling = some entry.role) :
      WrittenAs entry (join ":" [token, name, role])

/-- **Are these the entries of a list?** Blank ones may stand anywhere, so a comma too many does no
harm. -/
def Listed (entries : List Entry) (list : String) : Prop :=
  ∃ pieces, list = join "," pieces ∧
    List.Forall₂ WrittenAs entries (pieces.filter fun piece => !isBlankText piece)

/-- The credentials that are made of entries, from a position on. The position decides which
identifier the user is given. -/
def issue (ids : Nat → Uuid) (position : Nat) : List Entry → List Credential
  | [] => []
  | entry :: rest =>
    ⟨entry.token, ⟨ids position, entry.name, entry.role⟩⟩ :: issue ids (position + 1) rest

theorem map_entry_issue (ids : Nat → Uuid) (position : Nat) (entries : List Entry) :
    (issue ids position entries).map Credential.entry = entries := by
  induction entries generalizing position with
  | nil => rfl
  | cons entry rest ih => exact congrArg (entry :: ·) (ih (position + 1))

/-- A separator that is in none of the parts is not in the entry. -/
theorem WrittenAs.noComma {entry : Entry} {piece : String} (h : entry.WrittenAs piece) :
    ',' ∉ piece.toList := by
  obtain ⟨hwritable, htoken, hname, hrole, hpart, -⟩ := h
  have hblank : isBlank ',' = false := by decide
  have htoken := htoken.not_mem hblank hwritable.token.noComma
  have hname := hname.not_mem hblank hwritable.name.noComma
  have hrole := hrole.not_mem hblank hpart.noComma
  simp [join, htoken, hname, hrole]

theorem noComma_of_written {entries : List Entry} {pieces : List String}
    (h : List.Forall₂ WrittenAs entries pieces) : ∀ piece ∈ pieces, ',' ∉ piece.toList := by
  induction h with
  | nil => exact List.forall_mem_nil _
  | cons hwritten _ ih => exact List.forall_mem_cons.2 ⟨hwritten.noComma, ih⟩

end Entry

namespace Settings

open Entry

variable {ids : Nat → Uuid} {table : String → Option String}

/-! ## Read -/

/-- **An entry is read as it was meant.** There are two separators in it and no more, so its parts
are those that were written. -/
theorem parseEntry_of_written {entry : Entry} {piece : String} (h : entry.WrittenAs piece)
    (id : Uuid) :
    parseEntry id (trim piece) = .ok ⟨entry.token, ⟨id, entry.name, entry.role⟩⟩ := by
  obtain @⟨token, name, role, spelling, hwritable, htoken, hname, hrole, hpart, hspelling⟩ := h
  have hblank : isBlank ':' = false := by decide
  have hparts : ∀ part ∈ [token, name, role], ':' ∉ part.toList :=
    List.forall_mem_cons.2 ⟨htoken.not_mem hblank hwritable.token.noColon,
      List.forall_mem_cons.2 ⟨hname.not_mem hblank hwritable.name.noColon,
        List.forall_mem_singleton.2 (hrole.not_mem hblank hpart.noColon)⟩⟩
  rw [parseEntry, ← (padded_trim _).map_trim_split hblank,
    split_join rfl (List.cons_ne_nil _ _) hparts]
  simp only [List.map_cons, List.map_nil, htoken.trim_eq, hname.trim_eq, hrole.trim_eq,
    hwritable.token.trimmed.trim_eq, hwritable.name.trimmed.trim_eq, hpart.trimmed.trim_eq,
    String.isEmpty_iff, hwritable.token.trimmed.ne_empty, hwritable.name.trimmed.ne_empty,
    or_self, if_false, hspelling]

/-- Several entries, one after the other. -/
theorem parseEntries_of_written {entries : List Entry} {pieces : List String}
    (h : List.Forall₂ WrittenAs entries pieces) (position : Nat) :
    parseEntries ids position (pieces.map trim) = .ok (issue ids position entries) := by
  induction h generalizing position with
  | nil => rfl
  | cons hwritten _ ih =>
    rw [List.map_cons, parseEntries, parseEntry_of_written hwritten, ih]
    rfl

/-- **The entries of a list** are its pieces that are not blank. Blanks around the whole list belong
to the first and the last piece and are trimmed with them. -/
theorem entriesOf_join {pieces : List String} (hne : pieces ≠ [])
    (hcommas : ∀ piece ∈ pieces, ',' ∉ piece.toList) :
    entriesOf (trim (join "," pieces)) =
      (pieces.filter fun piece => !isBlankText piece).map trim := by
  have hempty (piece : String) : (!(trim piece).isEmpty) = !isBlankText piece := by
    rw [Bool.not_inj_iff, Bool.eq_iff_iff, String.isEmpty_iff, isBlankText_iff_trim]
  rw [entriesOf, ← (padded_trim _).map_trim_split (by decide), split_join rfl hne hcommas,
    List.filter_map]
  simp only [Function.comp_def, hempty]

/-- **A list of entries is read as it was meant**, in the order in which they stand. -/
theorem parseEntries_of_listed {entries : List Entry} (hne : entries ≠ []) {list : String}
    (h : Listed entries list) (position : Nat) :
    parseEntries ids position (entriesOf (trim list)) = .ok (issue ids position entries) := by
  obtain ⟨pieces, rfl, hwritten⟩ := h
  rw [entriesOf_join, parseEntries_of_written hwritten]
  · rintro rfl
    cases hwritten
    exact hne rfl
  · intro piece hmem
    cases hpiece : isBlankText piece with
    | true => exact not_mem_of_isBlankText hpiece (by decide)
    | false =>
      exact noComma_of_written hwritten piece (List.mem_filter.2 ⟨hmem, by rw [hpiece]; rfl⟩)

/-- What is there is the value, without the blanks around it. -/
theorem value_of_some {key text : String} (hthere : table key = some text) (hne : trim text ≠ "") :
    value table key = some (trim text) := by
  rw [value, hthere, Option.map_some, Option.filter_some, if_pos]
  rw [Bool.not_eq_true', Bool.eq_false_iff, ne_eq, String.isEmpty_iff]
  exact hne

/-- **The credentials of a list**, where no token stands alone. Otherwise the token alone would come
first and all positions would move by one. -/
theorem credentialsOf_of_listed {entries : List Entry} (hne : entries ≠ []) {list : String}
    (hlisted : Listed entries list) (halone : value table "SPEXUS_API_TOKEN" = none)
    (hthere : table "SPEXUS_API_TOKENS" = some list) :
    credentialsOf table ids = .ok (issue ids 0 entries) := by
  have hread : parseEntries ids 0 (entriesOf (trim list)) = .ok (issue ids 0 entries) :=
    parseEntries_of_listed hne hlisted 0
  have hnotBlank : trim list ≠ "" := by
    intro hblank
    rw [hblank] at hread
    cases entries with
    | nil => exact hne rfl
    | cons entry rest => cases hread
  simp only [credentialsOf, ownCredential, halone, value_of_some hthere hnotBlank, List.length_nil,
    hread]
  rfl

/-! ## Unique -/

/-- **Are the texts new**, no two of them the same and none of them among those that were there? It
is what a loop with a list of seen texts checks. -/
def New (seen texts : List String) : Prop :=
  texts.Nodup ∧ texts.Disjoint seen

theorem new_cons {seen texts : List String} {text : String} :
    New seen (text :: texts) ↔ text ∉ seen ∧ New (text :: seen) texts := by
  rw [New, New, List.nodup_cons, List.disjoint_cons_left, List.disjoint_cons_right]
  tauto

/-- **Credentials are unique** exactly if their tokens and their names are new. The two lists of
what was seen grow together, one credential at a time. -/
theorem checkUnique_eq_ok_iff {tokens names : List String} {credentials : List Credential} :
    checkUnique tokens names credentials = .ok () ↔
      New tokens (credentials.map Credential.token) ∧
        New names (credentials.map fun credential => credential.user.name) := by
  induction credentials generalizing tokens names with
  | nil =>
    exact iff_of_true rfl ⟨⟨List.nodup_nil, List.disjoint_nil_left _⟩,
      ⟨List.nodup_nil, List.disjoint_nil_left _⟩⟩
  | cons credential rest ih =>
    rw [checkUnique, List.map_cons, List.map_cons, new_cons, new_cons]
    by_cases htoken : credential.token ∈ tokens
    · rw [if_pos (List.contains_iff_mem.2 htoken)]
      exact iff_of_false nofun fun h => h.1.1 htoken
    · rw [if_neg fun h => htoken (List.contains_iff_mem.1 h)]
      by_cases hname : credential.user.name ∈ names
      · rw [if_pos (List.contains_iff_mem.2 hname)]
        exact iff_of_false nofun fun h => h.2.1 hname
      · -- both are new, and are among what was seen for the rest
        rw [if_neg fun h => hname (List.contains_iff_mem.1 h), ih]
        exact ⟨fun h => ⟨⟨htoken, h.1⟩, ⟨hname, h.2⟩⟩, fun h => ⟨h.1.2, h.2.2⟩⟩

/-! ## Settings -/

/-- **Are the other settings valid**, apart from the credentials? Where one is not there, its
default is valid. -/
structure OthersValid (table : String → Option String) : Prop where
  port : ∃ port, portOf table = .ok port
  logFormat : ∃ format, logFormatOf table = .ok format
  slow : ∃ span, Settings.span table "SPEXUS_SLOW_OPERATION_MS" 100 = .ok span
  request : ∃ span, Settings.span table "SPEXUS_REQUEST_TIMEOUT_SECS" 60 = .ok span
  resources : ∃ span, Settings.span table "SPEXUS_RESOURCES_LIST_TIMEOUT_SECS" 30 = .ok span
  address : ∃ address, Address.parse? ((value table "BIND_ADDR").getD "127.0.0.1") = some address

/-- **A span of time** is positive, and not greater than the greatest one. It need not be reached by
the clock. -/
theorem span_bounds {key : String} {default n : Nat} (hdefault : 0 < default ∧ default ≤ maxSpan)
    (h : span table key default = .ok n) : 0 < n ∧ n ≤ maxSpan := by
  unfold span at h
  split at h
  · cases h
    exact hdefault
  · next s =>
    split at h
    · next m hread =>
      split at h
      · next hpositive =>
        cases h
        have hbound := (Option.filter_eq_some_iff.1 hread).2
        exact ⟨hpositive, of_decide_eq_true hbound⟩
      · cases h
    · cases h

/-- After something that succeeds the next thing is done. -/
theorem bind_of_ok {α β : Type} {first : Except SettingsError α} {next : α → Except SettingsError β}
    {a : α} (h : first = .ok a) : first >>= next = next a := by
  rw [h]
  rfl

/-- **Settings are read** where the credentials are unique and the others valid. Nothing else can
make the reading fail. -/
theorem exists_ofTable {credentials : List Credential}
    (hread : credentialsOf table ids = .ok credentials) (hne : credentials ≠ [])
    (hunique : checkUnique [] [] credentials = .ok ()) (hothers : OthersValid table) :
    ∃ settings, ofTable ids table = .ok settings ∧ settings.credentials = credentials := by
  obtain ⟨port, hport⟩ := hothers.port
  obtain ⟨logFormat, hlogFormat⟩ := hothers.logFormat
  obtain ⟨slow, hslow⟩ := hothers.slow
  obtain ⟨request, hrequest⟩ := hothers.request
  obtain ⟨resources, hresources⟩ := hothers.resources
  obtain ⟨address, haddress⟩ := hothers.address
  have hsome : credentials.isEmpty = false := List.isEmpty_eq_false_iff.2 hne
  let settings : Settings :=
    { credentials := credentials
      address := (value table "BIND_ADDR").getD "127.0.0.1"
      port := port
      slowOperationMillis := slow
      requestTimeoutSeconds := request
      resourcesListTimeoutSeconds := resources
      systemPrompt := value table "SPEXUS_SYSTEM_PROMPT"
      logFormat := logFormat }
  -- the last check puts the address and the port together, and each of them is valid alone
  have hsocket : settings.socket? = some (address.socketText port) := by
    rw [socket?, show Address.parse? settings.address = some address from haddress]
    rfl
  refine ⟨settings, ?_, rfl⟩
  dsimp only [ofTable]
  rw [bind_of_ok hread, hsome, if_neg Bool.false_ne_true, bind_of_ok hunique, bind_of_ok hport,
    bind_of_ok hlogFormat, bind_of_ok hslow, bind_of_ok hrequest, bind_of_ok hresources,
    show Settings.socket? _ = _ from hsocket]
  rfl

/-- **Have the settings been read from this table**, each of them from where it is written? It is
what can be relied on in settings without knowing in which order they were read. -/
structure ReadFrom (ids : Nat → Uuid) (table : String → Option String) (settings : Settings) : Prop where
  credentials : credentialsOf table ids = .ok settings.credentials
  unique : checkUnique [] [] settings.credentials = .ok ()
  port : portOf table = .ok settings.port
  logFormat : logFormatOf table = .ok settings.logFormat
  slow : span table "SPEXUS_SLOW_OPERATION_MS" 100 = .ok settings.slowOperationMillis
  request : span table "SPEXUS_REQUEST_TIMEOUT_SECS" 60 = .ok settings.requestTimeoutSeconds
  resources :
    span table "SPEXUS_RESOURCES_LIST_TIMEOUT_SECS" 30 = .ok settings.resourcesListTimeoutSeconds

/-- **What was read** was read from the table, each part by the reader that it has. -/
theorem of_ofTable {settings : Settings} (h : ofTable ids table = .ok settings) :
    settings.ReadFrom ids table := by
  dsimp only [ofTable] at h
  obtain ⟨credentials, hread, h⟩ := Store.ok_of_bind h
  obtain ⟨-, h⟩ := Store.ok_of_unless h
  obtain ⟨_, hunique, h⟩ := Store.ok_of_bind h
  obtain ⟨port, hport, h⟩ := Store.ok_of_bind h
  obtain ⟨logFormat, hlogFormat, h⟩ := Store.ok_of_bind h
  obtain ⟨slow, hslow, h⟩ := Store.ok_of_bind h
  obtain ⟨request, hrequest, h⟩ := Store.ok_of_bind h
  obtain ⟨resources, hresources, h⟩ := Store.ok_of_bind h
  obtain ⟨-, h⟩ := Store.ok_of_unless h
  cases h
  exact ⟨hread, hunique, hport, hlogFormat, hslow, hrequest, hresources⟩

/-! ## Accepted -/

/-- **Are the token and the name of a credential trimmed?** -/
structure TrimmedParts (credential : Credential) : Prop where
  token : Trimmed credential.token
  name : Trimmed credential.user.name

/-- A credential that was read has the identifier that it was to have, and its parts are trimmed,
since every part is trimmed before it is looked at. -/
theorem of_parseEntry {id : Uuid} {entry : String} {credential : Credential}
    (h : parseEntry id entry = .ok credential) :
    credential.user.id = id ∧ TrimmedParts credential := by
  unfold parseEntry at h
  split at h
  · next token name role hparts =>
    split at h
    · cases h
    · next hnotEmpty =>
      split at h
      · cases h
        have hpart {part : String} (hmem : part ∈ [token, name, role]) (hne : part ≠ "") :
            Trimmed part := by
          obtain ⟨piece, -, rfl⟩ := List.mem_map.1 (hparts ▸ hmem)
          exact trimmed_trim hne
        rw [not_or, String.isEmpty_iff, String.isEmpty_iff] at hnotEmpty
        exact ⟨rfl, hpart List.mem_cons_self hnotEmpty.1,
          hpart (List.mem_cons_of_mem _ List.mem_cons_self) hnotEmpty.2⟩
      · cases h
  · cases h

theorem of_parseEntries {position : Nat} {entries : List String} {credentials : List Credential}
    (h : parseEntries ids position entries = .ok credentials) :
    credentials.map (fun credential => credential.user.id) =
        (List.range' position credentials.length).map ids ∧
      ∀ credential ∈ credentials, TrimmedParts credential := by
  induction entries generalizing position credentials with
  | nil =>
    cases h
    exact ⟨rfl, List.forall_mem_nil _⟩
  | cons entry rest ih =>
    obtain ⟨credential, hfirst, h⟩ := Store.ok_of_bind h
    obtain ⟨others, hothers, h⟩ := Store.ok_of_bind h
    cases h
    obtain ⟨hid, hparts⟩ := of_parseEntry hfirst
    obtain ⟨hids, hrest⟩ := ih hothers
    refine ⟨?_, List.forall_mem_cons.2 ⟨hparts, hrest⟩⟩
    rw [List.map_cons, hid, hids, List.length_cons, List.range'_succ, List.map_cons]

/-- A value is trimmed. -/
theorem trimmed_of_value {key s : String} (h : value table key = some s) : Trimmed s := by
  obtain ⟨hvalue, hne⟩ := Option.filter_eq_some_iff.1 h
  obtain ⟨text, -, rfl⟩ := Option.map_eq_some_iff.1 hvalue
  refine trimmed_trim fun hempty => ?_
  rw [hempty] at hne
  cases hne

/-- The name of the user of the token that stands alone is trimmed, given or not. -/
theorem trimmed_ownName (table : String → Option String) :
    Trimmed ((value table "SPEXUS_API_USER").getD defaultUserName) := by
  cases hname : value table "SPEXUS_API_USER" with
  | none =>
    have hsame : trim defaultUserName = defaultUserName := by decide +kernel
    rw [Option.getD_none, ← hsame]
    exact trimmed_trim (by decide +kernel)
  | some name => exact trimmed_of_value hname

/-- The token that stands alone is at the first position, if it is there. -/
theorem of_ownCredential (ids : Nat → Uuid) (table : String → Option String) :
    (ownCredential table (ids 0)).map (fun credential => credential.user.id) =
        (List.range' 0 (ownCredential table (ids 0)).length).map ids ∧
      ∀ credential ∈ ownCredential table (ids 0), TrimmedParts credential := by
  unfold ownCredential
  split
  · exact ⟨rfl, List.forall_mem_nil _⟩
  · next token htoken =>
    exact ⟨rfl, List.forall_mem_singleton.2 ⟨trimmed_of_value htoken, trimmed_ownName table⟩⟩

theorem of_credentialsOf {credentials : List Credential}
    (h : credentialsOf table ids = .ok credentials) :
    credentials.map (fun credential => credential.user.id) =
        (List.range' 0 credentials.length).map ids ∧
      ∀ credential ∈ credentials, TrimmedParts credential := by
  obtain ⟨hid, hown⟩ := of_ownCredential ids table
  dsimp only [credentialsOf] at h
  split at h
  · cases h
    exact ⟨hid, hown⟩
  · obtain ⟨listed, hlisted, h⟩ := Store.ok_of_bind h
    cases h
    obtain ⟨hids, hparts⟩ := of_parseEntries hlisted
    refine ⟨?_, List.forall_mem_append.2 ⟨hown, hparts⟩⟩
    rw [List.map_append, hid, hids, List.length_append, ← List.range'_append_1, Nat.zero_add,
      List.map_append]

/-- **What holds of all settings that were read**: no token and no name comes twice, there are no
blanks around a token, and the users have the identifiers that they were to have. It does not matter
how they were written. -/
structure Accepted (ids : Nat → Uuid) (settings : Settings) : Prop where
  tokens : (settings.credentials.map Credential.token).Nodup
  names : (settings.credentials.map fun credential => credential.user.name).Nodup
  trimmed : ∀ credential ∈ settings.credentials, Trimmed credential.token
  users : settings.users.map (·.id) = (List.range settings.credentials.length).map ids

theorem accepted_of_ofTable {settings : Settings} (h : ofTable ids table = .ok settings) :
    settings.Accepted ids := by
  have hfrom := of_ofTable h
  obtain ⟨⟨htokens, -⟩, hnames, -⟩ := checkUnique_eq_ok_iff.1 hfrom.unique
  obtain ⟨hids, hparts⟩ := of_credentialsOf hfrom.credentials
  refine ⟨htokens, hnames, fun credential hmem => (hparts credential hmem).token, ?_⟩
  rw [users, List.map_map, List.range_eq_range']
  exact hids

/-- **Credentials that are written as they may be are accepted**, each in its place, if the other
settings are valid. Nothing more is asked of the entries than that no token and no name comes twice.
-/
theorem exists_settings_of_listed {entries : List Entry} (hne : entries ≠ [])
    (htokens : (entries.map Entry.token).Nodup) (hnames : (entries.map Entry.name).Nodup)
    {list : String} (hlisted : Listed entries list) (halone : value table "SPEXUS_API_TOKEN" = none)
    (hthere : table "SPEXUS_API_TOKENS" = some list) (hothers : OthersValid table) :
    ∃ settings, ofTable ids table = .ok settings ∧
      settings.credentials.map Credential.entry = entries := by
  have hentries := map_entry_issue ids 0 entries
  rw [← hentries, List.map_map] at htokens hnames
  have hunique : checkUnique [] [] (issue ids 0 entries) = .ok () :=
    checkUnique_eq_ok_iff.2
      ⟨⟨htokens, List.disjoint_nil_right _⟩, ⟨hnames, List.disjoint_nil_right _⟩⟩
  have hnotEmpty : issue ids 0 entries ≠ [] := by
    intro hempty
    rw [hempty] at hentries
    exact hne hentries.symm
  obtain ⟨settings, hsettings, hcredentials⟩ :=
    exists_ofTable (credentialsOf_of_listed hne hlisted halone hthere) hnotEmpty hunique hothers
  exact ⟨settings, hsettings, hcredentials ▸ hentries⟩

/-! ### Two users -/

/-- The identifiers of the users. -/
def sharedIds (n : Nat) : Uuid := (Stamp.nth n).id

/-- What their credentials say. -/
def sharedEntries : List Entry :=
  [⟨"a", "alice", .user⟩, ⟨"b", "bob", .commenter⟩]

/-- Their credentials as they are written, with blanks and a blank entry. -/
def sharedList : String := "a: alice :user , ,b:bob:Commenter"

theorem listed_shared : Listed sharedEntries sharedList := by
  have hself (s : String) : Padded s s := ⟨"", "", by decide, by decide, by
    rw [String.append_empty, String.empty_append]⟩
  have hname : Padded "alice" " alice " := ⟨" ", " ", by decide, by decide, by decide⟩
  have hrole : Padded "user" "user " := ⟨"", " ", by decide, by decide, by decide⟩
  have halice : WrittenAs ⟨"a", "alice", .user⟩ (join ":" ["a", " alice ", "user "]) :=
    .mk ⟨by decide, by decide⟩ (hself "a") hname hrole (by decide) (by decide)
  have hbob : WrittenAs ⟨"b", "bob", .commenter⟩ (join ":" ["b", "bob", "Commenter"]) :=
    .mk ⟨by decide, by decide⟩ (hself "b") (hself "bob") (hself "Commenter") (by decide) (by decide)
  exact ⟨["a: alice :user ", " ", "b:bob:Commenter"], by decide, .cons halice (.cons hbob .nil)⟩

/-- A table with nothing else. -/
def sharedTable (key : String) : Option String :=
  if key = "SPEXUS_API_TOKENS" then some sharedList else none

theorem othersValid_shared : OthersValid sharedTable where
  port := ⟨8080, by decide +kernel⟩
  logFormat := ⟨.compact, by decide +kernel⟩
  slow := ⟨100, by decide +kernel⟩
  request := ⟨60, by decide +kernel⟩
  resources := ⟨30, by decide +kernel⟩
  address := ⟨.v4 [127, 0, 0, 1], by decide +kernel⟩

/-- Two users, of whom one may only comment. -/
def shared : Settings :=
  { credentials :=
      [⟨"a", ⟨sharedIds 0, "alice", .user⟩⟩, ⟨"b", ⟨sharedIds 1, "bob", .commenter⟩⟩]
    address := "127.0.0.1"
    port := 8080
    slowOperationMillis := 100
    requestTimeoutSeconds := 60
    resourcesListTimeoutSeconds := 30
    systemPrompt := none
    logFormat := .compact }

theorem ofTable_shared : ofTable sharedIds sharedTable = .ok shared := by
  decide +kernel

end Settings

end Planroom
