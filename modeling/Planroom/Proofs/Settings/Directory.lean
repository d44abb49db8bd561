import Planroom.Http.Site
import Planroom.Proofs.Settings.Credentials
import Planroom.Proofs.Store.Named
import Planroom.Proofs.Tool.Meaning

/-!
# Finding the configured users

A user may be named by its identifier or by its name, and it depends on the text alone which of the two
it is taken for. But any text without a separator in it may be the name of a user.

* **Found** — by which texts a store with its users finds them (`Manned.findUser_eq_ok_iff`). Of those
  that name a user, this leaves out a name that could be an identifier.
* **Accepted** — names in accepted settings are trimmed, as tokens are (`trimmed_names_of_ofTable`).
* **Assigned** — what an argument that names a user comes to.
* **A name like an identifier** — `identifier_as_name_is_lost`: its user is not found by it.
-/

namespace Planroom

open Text

namespace Store

variable {store : Store} {users : List User} {prompts : List Prompt} {user : User} {s : String}

/-- **The users of a store are these**: each is filed under its identifier; no two of them have the
same identifier or the same name, and there are no blanks around a name. No operation of the store
touches its users. -/
structure Manned (store : Store) (users : List User) : Prop where
  ids : (users.map (·.id)).Nodup
  names : (users.map (·.name)).Nodup
  trimmed : ∀ user ∈ users, Trimmed user.name
  entries : store.users.entries = users.map fun user => (user.id, user)

theorem Manned.initial (hids : (users.map (·.id)).Nodup) (hnames : (users.map (·.name)).Nodup)
    (htrimmed : ∀ user ∈ users, Trimmed user.name) : (Store.initial users prompts).Manned users :=
  ⟨hids, hnames, htrimmed, entries_users_initial hids⟩

/-- Users stay. -/
theorem Manned.run (h : store.Manned users) (steps : List Step) : (store.run steps).Manned users :=
  { h with entries := by rw [users_run, h.entries] }

/-- That nobody is found is told of without the blanks around the text. -/
theorem eq_notFound_of_findUser {failure : Failure} (h : store.findUser s = .error failure) :
    failure = .notFound .user (trim s) := by
  dsimp only [findUser] at h
  split at h
  · cases h
  · exact (Except.error.inj h).symm

namespace Manned

/-- **By which texts a user is found**, and who is. A text that reads as an identifier is looked up
as one and not as a name, whether anybody has it or not. -/
theorem findUser_eq_ok_iff (h : store.Manned users) :
    store.findUser s = .ok user ↔ user ∈ users ∧ user.FoundBy s := by
  cases hread : Uuid.canonical? (trim s) with
  | some id =>
    rw [findUser_of_id hread, get?_users_eq_some_iff h.ids h.entries]
    refine and_congr_right fun hmem => ?_
    rw [User.FoundBy, User.namedById_iff, User.padded_name_iff (h.trimmed user hmem), hread,
      Option.some.injEq, eq_comm, or_iff_left]
    -- a name that reads as an identifier is no text to be found by
    rintro ⟨hname, hplain⟩
    rw [← hname, hread] at hplain
    cases hplain
  | none =>
    have hvalues : store.users.values = users := by
      rw [Table.values, h.entries, List.map_map]
      exact List.map_id' users
    rw [findUser_of_name hread, hvalues, find?_key_eq_some_iff h.names]
    refine and_congr_right fun hmem => ?_
    rw [User.FoundBy, User.namedById_iff, User.padded_name_iff (h.trimmed user hmem), hread,
      or_iff_right (by rintro ⟨⟩), eq_comm]
    exact ⟨fun hname => ⟨hname, hname ▸ hread⟩, And.left⟩

/-- **Any other text** finds nobody, and is told without the blanks around it. -/
theorem findUser_eq_error (h : store.Manned users) (hnone : ∀ user ∈ users, ¬ user.FoundBy s) :
    store.findUser s = .error (.notFound .user (trim s)) := by
  cases hfound : store.findUser s with
  | ok user =>
    obtain ⟨hmem, hby⟩ := h.findUser_eq_ok_iff.1 hfound
    exact absurd hby (hnone user hmem)
  | error failure => rw [eq_notFound_of_findUser hfound]

/-- **By its name** a user is found unless the name reads as an identifier that is not its own.
Nothing keeps such a name out of the settings. -/
theorem findUser_name_iff (h : store.Manned users) (hmem : user ∈ users)
    (hs : Padded user.name s) :
    store.findUser s = .ok user ↔
      ∀ id, Uuid.canonical? user.name = some id → id = user.id := by
  rw [h.findUser_eq_ok_iff, and_iff_right hmem, User.FoundBy, User.namedById_iff,
    (User.padded_name_iff (h.trimmed user hmem)).1 hs]
  cases hread : Uuid.canonical? user.name with
  | none => exact iff_of_true (.inr ⟨hs, rfl⟩) nofun
  | some id =>
    rw [Option.some.injEq, or_iff_left (by rintro ⟨-, ⟨⟩⟩)]
    exact ⟨fun hid other hother => (Option.some.inj hother).symm.trans hid, fun hall => hall id rfl⟩

end Manned

end Store

/-! ## Accepted -/

namespace Settings

variable {ids : Nat → Uuid} {table : String → Option String} {settings : Settings}

/-- **The names in accepted settings** are trimmed. Otherwise nobody would be found by them, as what
is looked up is trimmed. -/
theorem trimmed_names_of_ofTable (h : ofTable ids table = .ok settings) :
    ∀ user ∈ settings.users, Trimmed user.name := by
  have hread := (of_ofTable h).credentials
  exact List.forall_mem_map.2 fun credential hmem =>
    ((of_credentialsOf hread).2 credential hmem).name

/-- **The store that is set up with accepted settings** has their users, and keeps them, whatever is
done to it. -/
theorem manned_of_ofTable (h : ofTable ids table = .ok settings)
    (hids : ((List.range settings.credentials.length).map ids).Nodup) (prompts : List Prompt)
    (steps : List Step) :
    ((Store.initial settings.users prompts).run steps).Manned settings.users := by
  have haccepted := accepted_of_ofTable h
  have hnames : (settings.users.map (·.name)).Nodup := by
    rw [users, List.map_map]
    exact haccepted.names
  exact (Store.Manned.initial (haccepted.users ▸ hids) hnames (trimmed_names_of_ofTable h)).run steps

end Settings

/-! ## Assigned -/

namespace Tool

open Job

variable {users : List User} {user : User} {arguments others : Arguments} {key s : String}
  {world : World} {stamp : Nat → Stamp}

/-- **Do two sets of arguments name the same users?** Every argument is the same in both, or names
one user by texts by which it is found. Only arguments that are looked up as users may differ. -/
def UserSame (users : List User) (arguments others : Arguments) : Prop :=
  ∀ key, Argument.given arguments key = Argument.given others key ∨
    NamesUser key ∧ ∃ user ∈ users, ∃ s t, Argument.given arguments key = some (.string s) ∧
      user.FoundBy s ∧ Argument.given others key = some (.string t) ∧ user.FoundBy t

/-- **Another text that names the same user**, in the place of one argument. The other arguments
stay. -/
theorem UserSame.of_replaced {t : String} (hkey : NamesUser key) (hmem : user ∈ users)
    (hs : user.FoundBy s) (ht : user.FoundBy t) (before after : Arguments) :
    UserSame users (before ++ (key, .string s) :: after) (before ++ (key, .string t) :: after) := by
  intro other
  obtain hsame | ⟨rfl, hfirst, hsecond⟩ := given_replaced key s t before after other
  · exact .inl hsame
  · exact .inr ⟨hkey, user, hmem, s, t, hfirst, hs, hsecond, ht⟩

/-- **Arguments that name the same users** mean the same, since every argument comes to the same
value. -/
theorem UserSame.meanSame {store : Store} (hmanned : store.Manned users)
    (h : UserSame users arguments others) : MeanSame store arguments others := by
  intro key
  obtain hsame | ⟨hkey, user, hmem, s, t, hs, hfirst, ht, hsecond⟩ := h key
  · rw [hsame]
    exact .same _
  · have hname := hmanned.trimmed user hmem
    rw [hs, ht]
    exact .user hkey (hfirst.namedBy.not_blank hname) (hsecond.namedBy.not_blank hname)
      (hmanned.findUser_eq_ok_iff.2 ⟨hmem, hfirst⟩) (hmanned.findUser_eq_ok_iff.2 ⟨hmem, hsecond⟩)

/-- What is kept of a user who is found. -/
theorem ask_findUser_value {α : Type} (hfound : world.store.findUser s = .ok user) (keep : User → α) :
    (((ask (.findUser s)).bind fun user => done (keep user)).exec (.ofStore stamp) world).value =
      .returned (.ok (keep user)) := by
  have hanswer : (world.store.perform (stamp world.served) (.findUser s)).answer = .ok user := by
    rw [Store.answer_findUser]
    exact hfound
  change ((access (.findUser s) fun answer => ((ofExcept answer).mapError CallError.failed).bind
    fun user => done (keep user)).exec (.ofStore stamp) world).value = _
  rw [exec_access_eq]
  dsimp only [World.answered, Ended.afterLog]
  rw [hanswer]
  rfl

/-- What is kept of the user whom an argument names. -/
theorem userOr_value {α : Type} (hmanned : world.store.Manned users) (hmem : user ∈ users)
    (hs : user.FoundBy s) (hgiven : Argument.given arguments key = some (.string s))
    (absent blank : α) (keep : User → α) :
    ((userOr arguments key absent blank keep).exec (.ofStore stamp) world).value =
      .returned (.ok (keep user)) := by
  have hblank := hs.namedBy.not_blank (hmanned.trimmed user hmem)
  have htext : Argument.optionalText arguments key = .ok (some s) := by
    rw [Argument.optionalText, hgiven]
  rw [userOr, htext]
  simp only [argument, done_bind, hblank, Bool.false_eq_true, if_false]
  exact ask_findUser_value (hmanned.findUser_eq_ok_iff.2 ⟨hmem, hs⟩) keep

/-- **An argument that names a user** comes to the identifier of the user, by whichever of its
texts. So none of the texts gets any further into the tool. -/
theorem user_argument_value (hmanned : world.store.Manned users) (hmem : user ∈ users)
    (hs : user.FoundBy s) (hgiven : Argument.given arguments key = some (.string s)) :
    ((userId? arguments key).exec (.ofStore stamp) world).value =
        .returned (.ok (some user.id)) ∧
      (key = "assignee_id" → ((assigneeChange arguments).exec (.ofStore stamp) world).value =
        .returned (.ok (.assign user.id))) := by
  refine ⟨userOr_value hmanned hmem hs hgiven none none fun user => some user.id, ?_⟩
  rintro rfl
  exact userOr_value hmanned hmem hs hgiven AssigneeChange.keep .unassign fun user =>
    .assign user.id

end Tool

/-! ## Found -/

/-- **Are users found in a store** as they are named, and only so? A user whose name reads as an
identifier is not found by it, unless the identifier is its own. No other text finds anybody. -/
structure Store.Finds (store : Store) (users : List User) : Prop where
  byId : ∀ user ∈ users, ∀ s, user.NamedById s → store.findUser s = .ok user
  byName : ∀ user ∈ users, ∀ s, Padded user.name s →
    (store.findUser s = .ok user ↔ ∀ id, Uuid.canonical? user.name = some id → id = user.id)
  nobody : ∀ s, (∀ user ∈ users, ¬ user.NamedBy s) →
    store.findUser s = .error (.notFound .user (trim s))

theorem Store.Manned.finds {store : Store} {users : List User} (h : store.Manned users) :
    store.Finds users where
  byId := fun _ hmem _ hs => h.findUser_eq_ok_iff.2 ⟨hmem, .inl hs⟩
  byName := fun _ hmem _ hs => h.findUser_name_iff hmem hs
  nobody := fun _ hnone => h.findUser_eq_error fun user hmem hs => hnone user hmem hs.namedBy

namespace Settings

/-- **Configured users are found.** Let settings be accepted, with different identifiers for the users,
and let anything be done to the store that is set up with them. Every user is found by its identifier,
in whatever case and with blanks around it; by its name, with blanks around it, exactly if the name does
not read as the identifier of another; and no other text finds anybody. An argument of a tool that names
a user comes to the user's identifier by any text by which the user is found, and the call comes to the
same by all of them. -/
theorem configured_users_are_found {ids : Nat → Uuid} {table : String → Option String}
    {settings : Settings} (hsettings : ofTable ids table = .ok settings)
    (hids : ((List.range settings.credentials.length).map ids).Nodup) (promptId : Uuid) (now : Instant)
    (steps : List Step) :
    let store := (Http.Site.firstWorld settings promptId now).store.run steps
    store.Finds settings.users ∧
      ∀ (world : World) (stamp : Nat → Stamp), world.store = store →
        (∀ arguments key s, Tool.Argument.given arguments key = some (.string s) →
          ∀ user ∈ settings.users, user.FoundBy s →
            ((Tool.userId? arguments key).exec (.ofStore stamp) world).value =
                .returned (.ok (some user.id)) ∧
              (key = "assignee_id" →
                ((Tool.assigneeChange arguments).exec (.ofStore stamp) world).value =
                  .returned (.ok (.assign user.id)))) ∧
        ∀ context name arguments others params again,
          Tool.Params.toolCall? params = some ⟨name, arguments⟩ →
          Tool.Params.toolCall? again = some ⟨name, others⟩ →
          Tool.UserSame settings.users arguments others →
          (Server.callTool context params).exec (.ofStore stamp) world =
            (Server.callTool context again).exec (.ofStore stamp) world := by
  intro store
  have hmanned : store.Manned settings.users :=
    manned_of_ofTable hsettings hids (settings.prompts promptId) steps
  refine ⟨hmanned.finds, ?_⟩
  rintro world stamp hworld
  rw [← hworld] at hmanned
  exact ⟨fun arguments key s hgiven user hmem hs =>
      Tool.user_argument_value hmanned hmem hs hgiven,
    fun context _ _ _ _ _ hparams hagain h =>
      Server.callTool_of_meanSame hparams hagain (h.meanSame hmanned) context stamp⟩

/-- The parameters of a call that creates an epic for the user with this name. -/
def assigning (name : String) : Option Json :=
  some (.object [("arguments", .object [("assignee_id", .string name), ("priority", .ofNat 2),
    ("title", .string "Search")]), ("name", .string "create_epic")])

/-- Of two users one is found by the name and by the identifier, and nobody by another name; and an epic
is created for the one by either. -/
theorem configured_users_are_found_shared :
    let world := Http.Site.firstWorld shared (Stamp.nth 8).id 0
    let bob : User := ⟨sharedIds 1, "bob", .commenter⟩
    let call (name : String) := (Server.callTool ⟨"c", some ⟨sharedIds 0, "alice", .user⟩, .none⟩
      (assigning name)).exec (.ofStore .nth) world
    world.store.findUser " bob" = .ok bob ∧
      world.store.findUser "00000000-0000-0000-0000-000000000001\t" = .ok bob ∧
      world.store.findUser "carol " = .error (.notFound .user "carol") ∧
      (call " bob").value.isOk = true ∧
      call " bob" = call "00000000-0000-0000-0000-000000000001\t" := by
  intro world bob call
  have hmem : bob ∈ shared.users := by decide +kernel
  have hname : Padded bob.name " bob" := ⟨" ", "", by decide +kernel, by decide +kernel, rfl⟩
  have hid : bob.NamedById "00000000-0000-0000-0000-000000000001\t" :=
    ⟨"00000000-0000-0000-0000-000000000001", by decide +kernel, "", "\t", by decide +kernel,
      by decide +kernel, by decide +kernel⟩
  have hplain : Uuid.canonical? bob.name = none := by decide +kernel
  obtain ⟨hfinds, hcalls⟩ := configured_users_are_found ofTable_shared (by decide +kernel)
    (Stamp.nth 8).id 0 []
  have hnobody : ∀ user ∈ shared.users, Uuid.canonical? (trim "carol ") ≠ some user.id ∧
      trim "carol " ≠ trim user.name := by decide +kernel
  refine ⟨(hfinds.byName bob hmem _ hname).2 (by rw [hplain]; nofun), hfinds.byId bob hmem _ hid,
    hfinds.nobody "carol " ?_, by decide +kernel, ?_⟩
  · rintro user huser (hisId | hisName)
    · exact (hnobody user huser).1 (User.namedById_iff.1 hisId)
    · exact (hnobody user huser).2 hisName.trim_eq
  · exact (hcalls world .nth rfl).2 _ _ _ _ _ _ rfl rfl
      (.of_replaced (.inl rfl) hmem (.inr ⟨hname, hplain⟩) (.inl hid) [] _)

/-- A name without a separator, which reads as an identifier. Nobody has that identifier. -/
def lookalike : String := "12345678-1234-4234-8234-123456789abc"

/-- **A name like an identifier is lost.** The settings are accepted; their user is named by the name,
and the store does not find anybody by it. -/
theorem identifier_as_name_is_lost :
    let table (key : String) : Option String :=
      if key = "SPEXUS_API_TOKENS" then some ("t:" ++ lookalike ++ ":user") else none
    ∃ settings, ofTable sharedIds table = .ok settings ∧
      ∃ user ∈ settings.users, user.name = lookalike ∧
        (Http.Site.firstWorld settings (Stamp.nth 8).id 0).store.findUser user.name =
          .error (.notFound .user user.name) := by
  intro table
  refine ⟨{ shared with credentials := [⟨"t", ⟨sharedIds 0, lookalike, .user⟩⟩] },
    by decide +kernel, ⟨sharedIds 0, lookalike, .user⟩, by decide +kernel, rfl, by decide +kernel⟩

end Settings

end Planroom
