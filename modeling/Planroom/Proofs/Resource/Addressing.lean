import Planroom.Proofs.Artifact.Address
import Planroom.Proofs.Store.Encoding
import Planroom.Proofs.Store.Identifiers
import Planroom.Proofs.Work.Result
import Planroom.Resource.Reading

/-!
# Addresses lead to artifacts

An artifact of the hierarchy has three kinds of addresses: two external ones, by its identifier and
by its reference, and the canonical one. They are read by two different readers and looked up in two
different ways.

* **Held** — `Store.Holds`: the store has this artifact on the shelf of its kind.
* **Addressed** — `Entity.AddressedBy`: one of the addresses of an artifact.
* **One address after the other** — what comes of resolving and reading an address of each form, as
  a look-up in the store: `resolve_artifact`, `read_artifact`, `read_canonical`, `read_collection`.
* **Addressing** — `Addressing`: an address leads to the artifact that it belongs to, or to nothing,
  and never to another one. It is so in every reachable store.
-/

namespace Planroom

/-! ## What is held -/

namespace Store

variable {store : Store} {kind : Kind} {lookup : Lookup} {entity : Entity}

/-- **Does the store hold this artifact** of the hierarchy? It is said by membership on the shelf
and not by a look-up, so that looking up can be measured against it. -/
def Holds (store : Store) (entity : Entity) : Prop :=
  .entity entity ∈ (store.shelf entity.kind).values

/-- Looking up in the hierarchy finds an artifact, or says that it is missing, and under which text
it was asked for. A steering document is left out for a reason: it has a shelf, but asking the
hierarchy for one is refused before any shelf is looked at, and that is another failure. -/
theorem findEntity_or_missing (hkind : kind ∈ Kind.resources) (store : Store) (lookup : Lookup) :
    (∃ entity, store.findEntity kind lookup = .ok entity) ∨
      store.findEntity kind lookup = .error (.missing kind lookup.text) := by
  cases kind with
  -- each of the four kinds has a shelf of its own type, so the look-ups are the same argument four
  -- times
  | epic => cases hfound : store.epics.find? lookup <;> simp [findEntity, hfound]
  | userStory => cases hfound : store.stories.find? lookup <;> simp [findEntity, hfound]
  | acceptanceCriteria => cases hfound : store.criteria.find? lookup <;> simp [findEntity, hfound]
  | requirement => cases hfound : store.requirements.find? lookup <;> simp [findEntity, hfound]
  | steeringDocument => exact absurd hkind (by decide)

/-- The artifacts of a kind of the hierarchy can be listed. -/
theorem entities_isOk (hkind : kind ∈ Kind.resources) (store : Store) :
    ∃ entities, store.entities kind = .ok entities := by
  cases kind with
  | steeringDocument => exact absurd hkind (by decide)
  | _ => exact ⟨_, rfl⟩

/-- **What is found is held**, and it has the identifier or the reference that was asked for. So a
look-up never leads to an artifact that merely is on the same shelf. -/
theorem Reachable.holds_of_findEntity (hstore : Reachable store)
    (hfound : store.findEntity kind lookup = .ok entity) :
    store.Holds entity ∧ entity.kind = kind ∧
      (lookup = .byId entity.id ∨ lookup = .byReference entity.reference) := by
  have hnumbered := hstore.numbered kind
  obtain ⟨hmem, hlookup⟩ := hnumbered.of_find? (findEntity_eq_ok_iff.1 hfound)
  obtain rfl := (Artifact.kind_entity entity).symm.trans (kind_of_mem_values store hmem)
  refine ⟨hmem, rfl, ?_⟩
  rw [← entity.identity_id, ← entity.identity_reference]
  exact hlookup

/-- **What is held is found**, under its identifier and under its reference. A store in which two
artifacts shared one of them would find only the first; no such store is reached. -/
theorem Reachable.findEntity_of_holds (hstore : Reachable store) (hholds : store.Holds entity) :
    store.findEntity entity.kind (.byId entity.id) = .ok entity ∧
      store.findEntity entity.kind (.byReference entity.reference) = .ok entity := by
  have hnumbered := hstore.numbered entity.kind
  rw [findEntity_eq_ok_iff, findEntity_eq_ok_iff, ← entity.identity_id,
    ← entity.identity_reference]
  exact ⟨hnumbered.find?_id hholds, hnumbered.find?_reference hholds⟩

/-- An artifact that is held has a reference of its kind. -/
theorem Reachable.exists_number (hstore : Reachable store) (hholds : store.Holds entity) :
    ∃ n, entity.reference = Reference.ofNumber entity.kind n := by
  obtain ⟨n, hn⟩ := (hstore.numbered entity.kind).exists_number hholds
  rw [← entity.identity_reference]
  exact ⟨n, hn⟩

/-- **Of what is on the shelf of another kind** nothing is found. Identifiers are drawn from one
source for all kinds and references begin with the letters of their kind, so neither can come up on
two shelves. -/
theorem Reachable.findEntity_elsewhere (hstore : Reachable store) (hkind : kind ∈ Kind.resources)
    {artifact : Artifact} (hmem : artifact ∈ (store.shelf artifact.kind).values)
    (hother : kind ≠ artifact.kind) :
    store.findEntity kind (.byId artifact.id) = .error (.missing kind artifact.id.text) ∧
      store.findEntity kind (.byReference artifact.reference) =
        .error (.missing kind artifact.reference) := by
  obtain ⟨hid, hreference⟩ := hstore.find?_elsewhere hmem hother
  have hmissing : ∀ lookup, (store.shelf kind).find? lookup = none →
      store.findEntity kind lookup = .error (.missing kind lookup.text) := by
    intro lookup hnone
    refine (findEntity_or_missing hkind store lookup).resolve_left ?_
    rintro ⟨entity, hfound⟩
    rw [findEntity_eq_ok_iff, hnone] at hfound
    cases hfound
  exact ⟨hmissing _ hid, hmissing _ hreference⟩

end Store

/-! ## The addresses of an artifact -/

namespace Entity

/-- The canonical address of an artifact. -/
def address (entity : Entity) : CanonicalUri :=
  ⟨entity.kind, entity.reference⟩

theorem kind_mem_resources (entity : Entity) : entity.kind ∈ Kind.resources := by
  cases entity <;> simp [kind, Kind.resources]

/-- **The external addresses of an artifact**: by its identifier, in whatever case it is written,
and by its reference, which is written in one way only. -/
inductive ExternallyAddressedBy (entity : Entity) : String → Prop where
  | byId {s : String} (h : Text.asciiLower s = entity.id.text) :
      entity.ExternallyAddressedBy (ResourceUri.inCollection entity.kind s)
  | byReference :
      entity.ExternallyAddressedBy (ResourceUri.inCollection entity.kind entity.reference)

/-- **The addresses of an artifact**, external and canonical. It is what a client may have at hand
when it asks for the artifact. -/
inductive AddressedBy (entity : Entity) : String → Prop where
  | external {uri : String} (h : entity.ExternallyAddressedBy uri) : entity.AddressedBy uri
  | canonical : entity.AddressedBy entity.uri

end Entity

namespace Resource

open Job

variable {store : Store} {uri : String} {kind : Kind} {lookup : Lookup} {entity : Entity}
  {canonical : CanonicalUri} {contents : Contents}

/-- **What is read of an artifact**: its canonical address, under whichever one it was asked for,
and its text. -/
def Contents.ofEntity (entity : Entity) : Contents :=
  ⟨entity.uri, entity.toJson.compact⟩

/-- What is read of a collection. -/
def Contents.ofPage (kind : Kind) (page : Page Entity) : Contents :=
  ⟨ResourceUri.ofCollection kind, (page.toJson Entity.toJson).compact⟩

/-! ## One address after the other -/

/-- An external address is resolved, and not read as a canonical one. The two forms begin with
different schemes, so the first test decides between them. -/
theorem locate_external {address : ResourceUri} (h : address.WrittenAs uri) :
    locate uri = resolve uri := by
  have hscheme : (Text.dropStart? ResourceUri.scheme uri).isSome = true := by
    cases h with
    | collection => rw [ResourceUri.ofCollection, Text.dropStart?_append]; rfl
    | _ => rw [ResourceUri.inCollection_eq, Text.dropStart?_append]; rfl
  rw [locate, if_pos hscheme]

/-- A canonical address stands for itself. -/
theorem locate_canonical (h : canonical.Proper) :
    locate canonical.text = done (.canonical canonical) := by
  have hparsed : CanonicalUri.parse canonical.text = .ok canonical :=
    CanonicalUri.parse_eq_ok_iff.2 ⟨rfl, h⟩
  rw [locate, canonical.dropStart?_scheme_text, hparsed]
  rfl

/-- **A collection** is resolved to itself. -/
theorem resolve_collection (store : Store) (h : (ResourceUri.collection kind).WrittenAs uri) :
    (resolve uri).Gives store (.ok (.collection kind)) := by
  rw [resolve, ResourceUri.parse_eq_ok_iff.2 h]
  exact gives_done _

/-- **An artifact in a collection** is looked up, and all that is kept of it is its reference. What
fails here fails with the text that stood in the address. -/
theorem resolve_artifact (store : Store) (h : (ResourceUri.artifact kind lookup).WrittenAs uri) :
    (resolve uri).Gives store
      ((store.findEntity kind lookup).map fun entity => .canonical ⟨kind, entity.reference⟩) := by
  have hasked : (ask (.getEntity kind lookup)).Gives store (store.findEntity kind lookup) :=
    gives_ask rfl fun _ => rfl
  rw [resolve, ResourceUri.parse_eq_ok_iff.2 h]
  exact hasked.map _

/-- **A collection** is read as its first page. Nothing in the address can ask for another one. -/
theorem read_collection (hkind : kind ∈ Kind.resources) (store : Store)
    (h : (ResourceUri.collection kind).WrittenAs uri) :
    ∃ entities, store.entities kind = .ok entities ∧
      (read uri).Gives store (.ok (.ofPage kind (defaultWindow.apply entities))) := by
  obtain ⟨entities, hentities⟩ := Store.entities_isOk hkind store
  have hasked : (ask (.listEntities kind defaultWindow)).Gives store
      (.ok (defaultWindow.apply entities)) :=
    gives_ask rfl fun _ => by
      rw [Store.perform, hentities]
      rfl
  have hlocated := resolve_collection store h
  rw [← locate_external h] at hlocated
  exact ⟨entities, hentities, hlocated.bind (hasked.bind (gives_done _))⟩

/-- **An artifact in a collection** is read as what is found there. It takes two look-ups, one to
resolve the address and one to read, and in a reachable store the second finds what the first has
found. -/
theorem read_artifact (hstore : Store.Reachable store)
    (h : (ResourceUri.artifact kind lookup).WrittenAs uri) :
    (read uri).Gives store ((store.findEntity kind lookup).map .ofEntity) := by
  have hlocated := resolve_artifact store h
  rw [← locate_external h] at hlocated
  cases hfound : store.findEntity kind lookup with
  | error failure =>
    rw [hfound] at hlocated
    exact hlocated.bind_error
  | ok entity =>
    rw [hfound] at hlocated
    obtain ⟨hholds, rfl, -⟩ := hstore.holds_of_findEntity hfound
    -- what was found in whatever way is found again by its reference
    have hasked : (ask (.getEntity entity.kind (.byReference entity.reference))).Gives store
        (.ok entity) := gives_ask rfl fun _ => (hstore.findEntity_of_holds hholds).2
    exact hlocated.bind (hasked.bind (gives_done _))

/-- **A canonical address** is read as what is found by its reference. The text told is made of the
artifact and the address told is the one asked for; that these two belong together has to be proved.
-/
theorem read_canonical (hstore : Store.Reachable store) (h : canonical.Proper) :
    (read canonical.text).Gives store
      ((store.findEntity canonical.kind canonical.lookup).map .ofEntity) := by
  have hlocated : (locate canonical.text).Gives store (.ok (.canonical canonical)) := by
    rw [locate_canonical h]
    exact gives_done _
  have hasked : (ask (.getEntity canonical.kind canonical.lookup)).Gives store
      (store.findEntity canonical.kind canonical.lookup) := gives_ask rfl fun _ => rfl
  have hread : (read canonical.text).Gives store
      ((store.findEntity canonical.kind canonical.lookup).map fun entity =>
        ⟨canonical.text, entity.toJson.compact⟩) := hlocated.bind (hasked.map _)
  cases hfound : store.findEntity canonical.kind canonical.lookup with
  | error failure =>
    rw [hfound] at hread
    exact hread
  | ok entity =>
    obtain ⟨-, hkind, hlookup⟩ := hstore.holds_of_findEntity hfound
    -- a canonical address has no identifier, so it was by the reference that the artifact was found
    have hreference : canonical.reference = entity.reference := by
      rcases hlookup with hid | hreference
      · cases hid
      · exact Lookup.byReference.inj hreference
    have haddress : canonical.text = entity.uri := by
      rw [CanonicalUri.text, hreference, ← hkind]
      rfl
    rw [hfound, haddress] at hread
    rw [haddress]
    exact hread

/-- **What is an address of neither form** is refused, whatever is in the store. The failure is
fixed before the store is asked anything. -/
theorem read_refused (hexternal : ∀ address : ResourceUri, ¬ address.WrittenAs uri)
    (hcanonical : ∀ canonical : CanonicalUri, canonical.Proper → uri ≠ canonical.text) :
    ∃ failure, ∀ store, (read uri).Gives store (.error failure) := by
  -- each reader accepts exactly what is written in its form, so here both have to fail
  have hlocated : ∃ failure, ∀ store, (locate uri).Gives store (.error failure) := by
    rw [locate]
    split
    · cases hparsed : ResourceUri.parse uri with
      | ok address => exact absurd (ResourceUri.parse_eq_ok_iff.1 hparsed) (hexternal address)
      | error failure =>
        rw [resolve, hparsed]
        exact ⟨failure, fun store => gives_fail failure⟩
    · cases hparsed : CanonicalUri.parse uri with
      | ok canonical =>
        obtain ⟨htext, hproper⟩ := CanonicalUri.parse_eq_ok_iff.1 hparsed
        exact absurd htext (hcanonical canonical hproper)
      | error failure => exact ⟨failure, fun store => gives_fail failure⟩
  obtain ⟨failure, hfailure⟩ := hlocated
  exact ⟨failure, fun store => (hfailure store).bind_error⟩

/-! ## Where addresses lead -/

/-- What an artifact is named by stands in its external addresses. -/
theorem externallyAddressedBy (h : (ResourceUri.artifact entity.kind lookup).WrittenAs uri)
    (hlookup : lookup = .byId entity.id ∨ lookup = .byReference entity.reference) :
    entity.ExternallyAddressedBy uri := by
  cases h with
  | artifact _ hspelled =>
    rcases hlookup with rfl | rfl
    · cases hspelled with
      | byId h => exact .byId h
    · cases hspelled with
      | byReference => exact .byReference

/-- **Under an external address** of its own an artifact is found. The identifier is read from any
case, and the look-up is made with what was read. -/
theorem exists_lookup (hstore : Store.Reachable store) (hholds : store.Holds entity)
    (h : entity.ExternallyAddressedBy uri) :
    ∃ lookup, (ResourceUri.artifact entity.kind lookup).WrittenAs uri ∧
      store.findEntity entity.kind lookup = .ok entity := by
  have hfound := hstore.findEntity_of_holds hholds
  cases h with
  | byId h => exact ⟨.byId entity.id, .artifact entity.kind_mem_resources (.byId h), hfound.1⟩
  | byReference =>
    obtain ⟨n, hn⟩ := hstore.exists_number hholds
    refine ⟨.byReference entity.reference, .artifact entity.kind_mem_resources (.byReference ?_),
      hfound.2⟩
    rw [hn]
    exact Reference.isReference_ofNumber entity.kind n

/-- The canonical address of an artifact that is held is read. -/
theorem proper_address (hstore : Store.Reachable store) (hholds : store.Holds entity) :
    entity.address.Proper := by
  obtain ⟨n, hn⟩ := hstore.exists_number hholds
  rw [Entity.address, hn]
  exact CanonicalUri.proper_ofNumber entity.kind_mem_resources n

/-- **An external address** of an artifact is resolved to its canonical one. Both external addresses
lead to the same one, so resolving is a way to tell whether two addresses mean the same artifact. -/
theorem resolve_gives (hstore : Store.Reachable store) (hholds : store.Holds entity)
    (h : entity.ExternallyAddressedBy uri) :
    (resolve uri).Gives store (.ok (.canonical entity.address)) := by
  obtain ⟨lookup, hwritten, hfound⟩ := exists_lookup hstore hholds h
  have hresolved := resolve_artifact store hwritten
  rw [hfound] at hresolved
  exact hresolved

/-- **Under each of its addresses** an artifact is read, and what is told does not show under which
one. -/
theorem read_gives (hstore : Store.Reachable store) (hholds : store.Holds entity)
    (h : entity.AddressedBy uri) : (read uri).Gives store (.ok (.ofEntity entity)) := by
  cases h with
  | external h =>
    obtain ⟨lookup, hwritten, hfound⟩ := exists_lookup hstore hholds h
    have hread := read_artifact hstore hwritten
    rw [hfound] at hread
    exact hread
  | canonical =>
    -- the reference is a proper one because every reachable store numbers its artifacts
    have hread := read_canonical hstore (proper_address hstore hholds)
    have hfound : store.findEntity entity.address.kind entity.address.lookup = .ok entity :=
      (hstore.findEntity_of_holds hholds).2
    rw [hfound] at hread
    exact hread

/-- **What comes of reading an address**: a collection, an artifact that it belongs to, or an error
where it is no collection's and nobody's. -/
inductive Reading (store : Store) : String → Except Failure Contents → Prop where
  | collection {kind : Kind} {entities : List Entity} {uri : String}
      (hwritten : (ResourceUri.collection kind).WrittenAs uri)
      (hentities : store.entities kind = .ok entities) :
      Reading store uri (.ok (.ofPage kind (defaultWindow.apply entities)))
  | artifact {entity : Entity} {uri : String} (hholds : store.Holds entity)
      (haddressed : entity.AddressedBy uri) : Reading store uri (.ok (.ofEntity entity))
  | nobody {uri : String} (failure : Failure)
      (hcollection : ∀ kind, ¬ (ResourceUri.collection kind).WrittenAs uri)
      (hholds : ∀ entity, store.Holds entity → ¬ entity.AddressedBy uri) :
      Reading store uri (.error failure)

/-- Where reading fails, the address is no collection's and nobody's. -/
theorem Reading.of_error (hstore : Store.Reachable store) {failure : Failure}
    (h : (read uri).Gives store (.error failure)) : Reading store uri (.error failure) := by
  refine .nobody failure (fun kind hwritten => ?_) fun entity hholds haddressed => ?_
  · obtain ⟨entities, -, hread⟩ :=
      read_collection (hwritten.kind_mem) store hwritten
    cases h.unique hread
  · cases h.unique (read_gives hstore hholds haddressed)

/-- What is looked up under an address of some artifact. -/
theorem Reading.of_findEntity (hstore : Store.Reachable store)
    (hread : (read uri).Gives store ((store.findEntity kind lookup).map .ofEntity))
    (haddressed : ∀ entity : Entity, entity.kind = kind →
      lookup = .byId entity.id ∨ lookup = .byReference entity.reference →
        entity.AddressedBy uri) :
    ∃ result, (read uri).Gives store result ∧ Reading store uri result := by
  refine ⟨_, hread, ?_⟩
  cases hfound : store.findEntity kind lookup with
  | ok entity =>
    obtain ⟨hholds, hkind, hlookup⟩ := hstore.holds_of_findEntity hfound
    exact .artifact hholds (haddressed entity hkind hlookup)
  | error failure =>
    rw [hfound] at hread
    exact .of_error hstore hread

/-- **Reading any address** comes to an end. Whatever the text is, it is a collection, an artifact
or a failure that comes of it, and which one it is depends on the form of the address and on the
store. -/
theorem exists_reading (hstore : Store.Reachable store) (uri : String) :
    ∃ result, (read uri).Gives store result ∧ Reading store uri result := by
  -- an address is of the one form, of the other, or of none, and no form says who has it
  by_cases hexternal : ∃ address : ResourceUri, address.WrittenAs uri
  · obtain ⟨address, hwritten⟩ := hexternal
    cases address with
    | collection kind =>
      obtain ⟨entities, hentities, hread⟩ :=
        read_collection (hwritten.kind_mem) store hwritten
      exact ⟨_, hread, .collection hwritten hentities⟩
    | artifact kind lookup =>
      refine Reading.of_findEntity hstore (read_artifact hstore hwritten) ?_
      rintro entity rfl hlookup
      exact .external (externallyAddressedBy hwritten hlookup)
  · by_cases hcanonical : ∃ canonical : CanonicalUri, canonical.Proper ∧ uri = canonical.text
    · obtain ⟨canonical, hproper, rfl⟩ := hcanonical
      refine Reading.of_findEntity hstore (read_canonical hstore hproper) ?_
      rintro entity hkind (hid | hreference)
      · cases hid
      · have haddress : canonical = entity.address :=
          congr (congrArg CanonicalUri.mk hkind.symm) (Lookup.byReference.inj hreference)
        rw [haddress]
        exact .canonical
    · obtain ⟨failure, hread⟩ := read_refused (not_exists.1 hexternal)
        fun canonical hproper htext => hcanonical ⟨canonical, hproper, htext⟩
      exact ⟨_, hread store, .of_error hstore (hread store)⟩

/-- **What is read is settled**: read again under the address that was told, it is the same. An
artifact may have been asked for by its identifier in capitals, but the address that is told with it
is the canonical one, and this leads back to it; a collection is told under an address of its own.
So a client may keep the address that it was told and forget the one that it used. -/
theorem read_settled (hstore : Store.Reachable store) (h : (read uri).Gives store (.ok contents)) :
    (read contents.uri).Gives store (.ok contents) := by
  -- what was read came from a collection or an artifact, and either can be read under its own
  obtain ⟨result, hread, hreading⟩ := exists_reading hstore uri
  obtain rfl := h.unique hread
  cases hreading with
  | @collection kind entities _ hwritten hentities =>
    have hkind := hwritten.kind_mem
    obtain ⟨others, hothers, hagain⟩ := read_collection hkind store (.collection hkind)
    obtain rfl := Except.ok.inj (hentities.symm.trans hothers)
    exact hagain
  | artifact hholds _ => exact read_gives hstore hholds .canonical

/-- **A well-formed address of nobody** is not found, and the failure names the kind and the text
that was looked for. It is not mistaken for an address that cannot be read. -/
theorem read_missing (hstore : Store.Reachable store)
    (hwritten : (ResourceUri.artifact kind lookup).WrittenAs uri)
    (hmissing : store.findEntity kind lookup = .error (.missing kind lookup.text)) :
    (resolve uri).Gives store (.error (.missing kind lookup.text)) ∧
      (read uri).Gives store (.error (.missing kind lookup.text)) := by
  have hresolved := resolve_artifact store hwritten
  have hread := read_artifact hstore hwritten
  rw [hmissing] at hresolved hread
  exact ⟨hresolved, hread⟩

/-- The reference of one kind after the scheme of another is no address. It is refused for its form,
before anything is looked up. -/
theorem read_otherScheme {reference : String} (h : Reference.kind? reference ≠ some kind) :
    ∃ failure, ∀ store,
      (read (CanonicalUri.mk kind reference).text).Gives store (.error failure) := by
  refine read_refused (fun address hwritten => ?_) fun canonical hproper htext => ?_
  · have hparsed := ResourceUri.parse_eq_ok_iff.2 hwritten
    rw [ResourceUri.parse, CanonicalUri.dropStart?_scheme_text] at hparsed
    cases hparsed
  · obtain rfl := CanonicalUri.text_inj htext
    exact h hproper.2.2

theorem plain_reference (hstore : Store.Reachable store) (hholds : store.Holds entity) :
    Json.Plain (Artifact.entity entity).reference := by
  obtain ⟨n, hn⟩ := (hstore.numbered entity.kind).exists_number hholds
  rw [hn]
  exact Reference.plain_ofNumber entity.kind n

/-- What is read of an artifact that is held begins with its identifier and its reference. -/
theorem exists_rest (hstore : Store.Reachable store) (hholds : store.Holds entity) :
    ∃ rest, (Contents.ofEntity entity).text = "\x7b\"id\":\"" ++ entity.id.text ++
      "\",\"reference_id\":\"" ++ entity.reference ++ "\"" ++ rest := by
  rw [← entity.identity_id, ← entity.identity_reference]
  exact Artifact.exists_compact (plain_reference hstore hholds)

/-- **No two artifacts that are held** are read as the same text. The text begins with the
identifier, and an identifier belongs to one artifact only, whatever the kinds. -/
theorem eq_of_text (hstore : Store.Reachable store) (hholds : store.Holds entity) {other : Entity}
    (hother : store.Holds other)
    (hsame : (Contents.ofEntity entity).text = (Contents.ofEntity other).text) : entity = other := by
  have hid : (Artifact.entity entity).id = (Artifact.entity other).id :=
    Artifact.id_eq_of_compact (plain_reference hstore hholds) (plain_reference hstore hother) hsame
  have hfound := (hstore.findEntity_of_holds hholds).1
  rw [← entity.identity_id, show entity.identity.id = other.identity.id from hid] at hfound
  by_cases hkind : entity.kind = other.kind
  · -- of one kind: what has the identifier is found under it
    have hagain := (hstore.findEntity_of_holds hother).1
    rw [hkind, other.identity_id, hagain] at hfound
    exact (Except.ok.inj hfound).symm
  · -- of two kinds: nothing is found under the identifier of the other one
    rw [Store.Holds, ← Artifact.kind_entity] at hother
    rw [← Artifact.kind_entity other] at hkind
    have helsewhere := hstore.findEntity_elsewhere entity.kind_mem_resources hother hkind
    rw [show other.identity.id = (Artifact.entity other).id from rfl, helsewhere.1] at hfound
    cases hfound

/-- **Where addresses lead** in a store. The fields go from the addresses of an artifact that is
there to those of nobody, and the last one covers every text. -/
structure Addressing (store : Store) : Prop where
  /-- Both external addresses of an artifact stand for its canonical one. -/
  resolved : ∀ entity uri, store.Holds entity → entity.ExternallyAddressedBy uri →
    (resolve uri).Gives store (.ok (.canonical entity.address))
  /-- Under each of its addresses an artifact is read, and told under the canonical one. -/
  told : ∀ entity uri, store.Holds entity → entity.AddressedBy uri →
    (read uri).Gives store (.ok (.ofEntity entity))
  /-- The text that is told begins with the identifier and the reference of the artifact. -/
  named : ∀ entity, store.Holds entity → ∃ rest, (Contents.ofEntity entity).text =
    "\x7b\"id\":\"" ++ entity.id.text ++ "\",\"reference_id\":\"" ++ entity.reference ++ "\"" ++
      rest
  /-- No two artifacts are told in the same text. -/
  apart : ∀ entity other, store.Holds entity → store.Holds other →
    (Contents.ofEntity entity).text = (Contents.ofEntity other).text → entity = other
  /-- What is told is read again under the address that is told with it. -/
  settled : ∀ uri contents, (read uri).Gives store (.ok contents) →
    (read contents.uri).Gives store (.ok contents)
  /-- A well-formed external address that is nobody's is not found. -/
  absent : ∀ kind lookup uri, (ResourceUri.artifact kind lookup).WrittenAs uri →
    (∀ entity, store.Holds entity → ¬ entity.AddressedBy uri) →
    (resolve uri).Gives store (.error (.missing kind lookup.text)) ∧
      (read uri).Gives store (.error (.missing kind lookup.text))
  /-- Nothing is found in one collection under what names something of another kind. -/
  elsewhere : ∀ artifact kind lookup uri, artifact ∈ (store.shelf artifact.kind).values →
    kind ≠ artifact.kind → lookup = .byId artifact.id ∨ lookup = .byReference artifact.reference →
    (ResourceUri.artifact kind lookup).WrittenAs uri →
    (resolve uri).Gives store (.error (.missing kind lookup.text)) ∧
      (read uri).Gives store (.error (.missing kind lookup.text))
  /-- The scheme of one kind does not go with the reference of another. -/
  otherScheme : ∀ artifact kind, artifact ∈ (store.shelf artifact.kind).values →
    kind ≠ artifact.kind → ∃ failure,
      (read (CanonicalUri.mk kind artifact.reference).text).Gives store (.error failure)
  /-- Every address is read as a collection, as an artifact that it belongs to, or not at all. -/
  outcome : ∀ uri, ∃ result, (read uri).Gives store result ∧ Reading store uri result

/-- **In every reachable store addresses lead to the artifacts that they belong to**, and to no
others. Nothing is assumed of the text of an address, nor of what has been done to the store besides
that it was done by its operations. -/
theorem reachable_addressing (hstore : Store.Reachable store) : Addressing store where
  resolved entity uri hholds h := resolve_gives hstore hholds h
  told entity uri hholds h := read_gives hstore hholds h
  named entity hholds := exists_rest hstore hholds
  apart entity other hholds hother hsame := eq_of_text hstore hholds hother hsame
  settled uri contents h := read_settled hstore h
  absent kind lookup uri hwritten hnobody := by
    have hkind : kind ∈ Kind.resources := hwritten.kind_mem
    refine read_missing hstore hwritten
      ((Store.findEntity_or_missing hkind store lookup).resolve_left ?_)
    rintro ⟨entity, hfound⟩
    obtain ⟨hholds, rfl, hlookup⟩ := hstore.holds_of_findEntity hfound
    exact hnobody entity hholds (.external (externallyAddressedBy hwritten hlookup))
  elsewhere artifact kind lookup uri hmem hother hlookup hwritten := by
    have hkind : kind ∈ Kind.resources := hwritten.kind_mem
    obtain ⟨hid, hreference⟩ := hstore.findEntity_elsewhere hkind hmem hother
    refine read_missing hstore hwritten ?_
    rcases hlookup with rfl | rfl
    · exact hid
    · exact hreference
  otherScheme artifact kind hmem hother := by
    obtain ⟨n, hn⟩ := (hstore.numbered artifact.kind).exists_number hmem
    have hreference : Reference.kind? artifact.reference ≠ some kind := by
      rw [hn, Reference.kind?_ofNumber]
      exact fun hsame => hother (Option.some.inj hsame).symm
    obtain ⟨failure, hread⟩ := read_otherScheme hreference
    exact ⟨failure, hread store⟩
  outcome uri := exists_reading hstore uri

/-- An epic whose identifier has letters in it. -/
def lettered : Epic :=
  { card :=
      { id := (Stamp.nth 171).id
        reference := "EP-001"
        title := "Search"
        description := none
        priority := .high
        creator := (Stamp.nth 0).id
        assignee := none
        createdAt := ⟨171⟩
        modifiedAt := ⟨171⟩ }
    status := .backlog }

/-- Where it is created. -/
def creatingLettered : List Step :=
  [⟨.createEpic ⟨"Search", none, .high, (Stamp.nth 0).id, none⟩, .nth 171⟩]

/-- The letters may be capitals, but the collection must be the right one. -/
theorem reachable_addressing_capitals :
    let store := (Store.initial [] []).run creatingLettered
    (read "requirements://epics/00000000-0000-0000-0000-0000000000AB").Gives store
        (.ok ⟨"epic://EP-001", (Entity.epic lettered).toJson.compact⟩) ∧
      (read "requirements://user-stories/00000000-0000-0000-0000-0000000000AB").Gives store
        (.error (.missing .userStory "00000000-0000-0000-0000-0000000000ab")) := by
  intro store
  have hfresh : (Store.initial [] []).FreshRun creatingLettered := by decide +kernel
  have haddressing : Addressing store :=
    reachable_addressing ((Store.Reachable.initial [] []).run hfresh)
  have hshelf : (store.shelf .epic).values = [.entity (.epic lettered)] := by decide +kernel
  have hholds : store.Holds (.epic lettered) := by
    rw [Store.Holds, Entity.kind, hshelf]
    exact .head _
  let capitals := "00000000-0000-0000-0000-0000000000AB"
  have hid : Text.asciiLower capitals = lettered.card.id.text := by decide +kernel
  have htext : lettered.card.id.text = "00000000-0000-0000-0000-0000000000ab" := by decide +kernel
  have hepics : ResourceUri.inCollection .epic capitals =
      "requirements://epics/00000000-0000-0000-0000-0000000000AB" := by decide +kernel
  have hstories : ResourceUri.inCollection .userStory capitals =
      "requirements://user-stories/00000000-0000-0000-0000-0000000000AB" := by decide +kernel
  rw [← hepics, ← hstories, ← htext]
  constructor
  · exact haddressing.told (.epic lettered) _ hholds (.external (.byId hid))
  · exact (haddressing.elsewhere (.entity (.epic lettered)) .userStory (.byId lettered.card.id) _
      hholds nofun (.inl rfl) (.artifact (by decide) (.byId hid))).2

end Resource

end Planroom
