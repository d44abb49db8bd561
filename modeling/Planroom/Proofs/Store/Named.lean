import Planroom.Proofs.Artifact.Lookup
import Planroom.Proofs.Store.Identifiers
import Planroom.Proofs.Store.Users

/-!
# Texts that name an artifact or a user

An artifact may be named by its reference or by its identifier, in whatever case, and with blanks around
either. Wherever the program is given such a text, it reads a look-up from it and looks that up. A user
is named in much the same way, by identifier or by name; but names are chosen freely, so that a text may
be the name of one user and the identifier of another one.

* **Artifacts** — `Artifact.NamedBy`: the texts that name an artifact. In a reachable store each of them
  is read as a look-up that finds it (`Reachable.exists_lookup`), and nothing is found under any other
  text (`Reachable.named_of_fetch`).
* **Users** — `User.NamedById` and `User.NamedBy`: the texts that name a user; and `User.FoundBy`, those
  by which a user is found. Nobody is found by any other text (`Reachable.named_of_findUser`).
-/

namespace Planroom

open Text

/-! ## Artifacts -/

/-- **The texts that name an artifact**: its reference, or its identifier in whatever case, with
blanks around it. It is said without any look-up, so that the look-ups can be measured by it. -/
inductive Artifact.NamedBy (artifact : Artifact) : String → Prop where
  | reference {s : String} (h : Padded artifact.reference s) : artifact.NamedBy s
  | id {spelling s : String} (hid : asciiLower spelling = artifact.id.text) (h : Padded spelling s) :
      artifact.NamedBy s

namespace Store

variable {store : Store} {kind : Kind} {artifact : Artifact} {lookup : Lookup} {s : String}

/-- **A text that names an artifact** is read as a look-up that finds it. A reference never reads as
an identifier, so that the two ways of naming do not get into each other's way. -/
theorem Reachable.exists_lookup (hstore : Reachable store)
    (hmem : artifact ∈ (store.shelf kind).values) (h : artifact.NamedBy s) :
    ∃ lookup, Lookup.parse? s = some lookup ∧ store.fetch kind lookup = .ok artifact := by
  have hnumbered := hstore.numbered kind
  cases h with
  | reference hpadded =>
    obtain ⟨n, hn⟩ := hnumbered.exists_number hmem
    have hspelled : (Lookup.byReference artifact.reference).SpelledBy artifact.reference :=
      .byReference (hn ▸ Reference.isReference_ofNumber kind n)
    exact ⟨_, Lookup.parse?_of_padded hspelled hpadded,
      fetch_eq_ok_iff.2 (hnumbered.find?_reference hmem)⟩
  | id hid hpadded =>
    exact ⟨_, Lookup.parse?_of_padded (.byId hid) hpadded, fetch_eq_ok_iff.2 (hnumbered.find?_id hmem)⟩

/-- **What is found under a text** is an artifact of the store that the text names. It is found by what
the text spells, and that is its own identifier or its own reference, since nothing else is filed under
either. -/
theorem Reachable.named_of_fetch (hstore : Reachable store) (hparse : Lookup.parse? s = some lookup)
    (hfetch : store.fetch kind lookup = .ok artifact) :
    artifact ∈ (store.shelf kind).values ∧ artifact.NamedBy s := by
  obtain ⟨hmem, hlookup⟩ := (hstore.numbered kind).of_find? (fetch_eq_ok_iff.1 hfetch)
  refine ⟨hmem, ?_⟩
  rw [Lookup.parse?_padded (padded_trim s)] at hparse
  have hspelled : lookup.SpelledBy (trim s) :=
    (Lookup.parse?_eq_some_iff (padded_trim s).trim_eq.symm).1 hparse
  rcases hlookup with rfl | rfl
  · cases hspelled with
    | byId hid => exact .id hid (padded_trim s)
  · generalize hreference : artifact.reference = reference at hspelled
    cases hspelled with
    | byReference h => exact .reference (hreference ▸ padded_trim s)

end Store

/-! ## Users -/

namespace User

/-- **The texts that are the identifier of a user**, in whatever case, with blanks around it. An
identifier is kept in lower case. -/
def NamedById (user : User) (s : String) : Prop :=
  ∃ spelling, asciiLower spelling = user.id.text ∧ Padded spelling s

/-- **The texts that name a user**: its identifier, or its name, with blanks around it. The case of
a name counts. -/
def NamedBy (user : User) (s : String) : Prop :=
  user.NamedById s ∨ Padded user.name s

/-- **The texts by which a user is found.** A name that reads like an identifier is none of them: what
could be an identifier is looked up as one, and as nothing else. -/
def FoundBy (user : User) (s : String) : Prop :=
  user.NamedById s ∨ Padded user.name s ∧ Uuid.canonical? user.name = none

variable {user : User} {s : String}

/-- A text is the identifier of a user if it reads as it, but for the blanks around it. -/
theorem namedById_iff : user.NamedById s ↔ Uuid.canonical? (trim s) = some user.id := by
  rw [Uuid.canonical?_eq_some_iff]
  constructor
  · rintro ⟨spelling, hspelling, hpadded⟩
    rwa [hpadded.trim_eq, (Lookup.SpelledBy.byId hspelling).trim_eq]
  · exact fun h => ⟨trim s, h, padded_trim s⟩

/-- What is left of a padded text is the text, if there are no blanks at its own ends. -/
theorem padded_name_iff (hname : Trimmed user.name) : Padded user.name s ↔ trim s = user.name :=
  ⟨fun h => h.trim_eq.trans hname.trim_eq, fun h => h ▸ padded_trim s⟩

/-- By what a user is found, it is named. The converse fails for names that read like identifiers.
-/
theorem FoundBy.namedBy (h : user.FoundBy s) : user.NamedBy s :=
  h.imp_right And.left

/-- What names a user is not blank, as neither an identifier nor a name is; blank texts are refused
before anybody is looked for. -/
theorem NamedBy.not_blank (hname : Trimmed user.name) (h : user.NamedBy s) :
    isBlankText s = false := by
  cases hblank : isBlankText s with
  | false => rfl
  | true =>
    rw [isBlankText_iff_trim] at hblank
    rcases h with hid | hpadded
    · rw [namedById_iff, hblank] at hid
      cases hid
    · rw [padded_name_iff hname, hblank] at hpadded
      exact absurd hpadded.symm hname.ne_empty

end User

namespace Store

variable {store : Store} {user : User} {s : String}

/-- A text that reads as an identifier is looked up as one, and any other as a name. -/
theorem findUser_of_id {id : Uuid} (hread : Uuid.canonical? (trim s) = some id) :
    store.findUser s = .ok user ↔ store.users.get? id = some user := by
  rw [findUser, hread]
  dsimp only
  cases store.users.get? id <;> simp

/-- What does not read as an identifier is compared with the names, and the first user that has it
is found. -/
theorem findUser_of_name (hread : Uuid.canonical? (trim s) = none) :
    store.findUser s = .ok user ↔
      store.users.values.find? (·.name == trim s) = some user := by
  rw [findUser, hread]
  dsimp only
  cases store.users.values.find? (·.name == trim s) <;> simp

/-- **Who is found under a text** is a user of the store whom the text names. It is stated for
reachable stores because only there every user is filed under its own identifier. -/
theorem Reachable.named_of_findUser (hstore : Reachable store) (h : store.findUser s = .ok user) :
    user ∈ store.users.values ∧ user.FoundBy s := by
  cases hread : Uuid.canonical? (trim s) with
  | some id =>
    rw [findUser_of_id hread] at h
    obtain rfl := hstore.id_of_get?_users h
    exact ⟨List.mem_map_of_mem (Table.mem_of_get? h), .inl (User.namedById_iff.2 hread)⟩
  | none =>
    rw [findUser_of_name hread] at h
    -- the name is what is left of the text, whatever blanks the name itself may have at its ends
    have hname := List.find?_some h
    rw [beq_iff_eq] at hname
    exact ⟨List.mem_of_find?_eq_some h, .inr ⟨hname ▸ padded_trim s, hname ▸ hread⟩⟩

end Store

end Planroom
