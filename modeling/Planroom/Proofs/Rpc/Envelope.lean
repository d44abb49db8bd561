import Planroom.Proofs.Json.Members
import Planroom.Rpc.Envelope

/-!
# What a request says

A message is read as a value and as written, and the two readings have to agree. Where the message is
a request, all that is known of the request is said by its members as written, each of which is there
once.

* **Inversion** — `ofTree_eq_ok_iff`: what a message that is a request has passed.
* **Members** — `exists_members`: such a message has members of its own, and they have the same names
  as those of the object that it stands for.
* **Said** — `Says`: the version is there once, under the name that is kept for the reply; the
  identifier is the value of its member, and missing exactly where the member is (`says_of_ofTree`).
* **Rejections** — `rejection_of_decode`: what the rejection of a message carries is known from the value
  of the message.
-/

namespace Planroom.Rpc

/-! ## Names -/

namespace EnvelopeMember

theorem ofName?_eq_version_iff {name : String} :
    ofName? name = some .version ↔ name = "jsonrpc" ∨ name = "version" := by
  unfold ofName?
  split <;> simp_all

end EnvelopeMember

theorem RequestId.toJson_of_ofJson? {value : Json} {id : RequestId} (h : ofJson? value = some id) :
    id.toJson = value := by
  cases value with
  | null | string =>
    cases h
    rfl
  | number n =>
    rw [ofJson?] at h
    split at h
    · cases h
      rfl
    · cases h
  | bool | array | object => cases h

namespace Request

open EnvelopeMember

variable {tree : Json.Tree} {request : Request} {members stated : Json.Members} {written : Json}

/-! ## Inversion -/

/-- What the members of a request have passed. -/
theorem ofStated_eq_ok_iff :
    ofStated members stated = .ok request ↔
      (versionOf stated).bind Json.text? = some protocolVersion ∧ idOf stated = some request.id ∧
        methodOf stated = some request.method ∧ paramsOf stated = some request.params ∧
        request.spelling = spellingOf members := by
  constructor
  · intro h
    rw [ofStated] at h
    split at h
    · cases h
    · next hversion =>
      rw [ne_eq, not_not] at hversion
      split at h
      · cases h
      · next id hid =>
        split at h
        · cases h
        · next method hmethod =>
          split at h
          · cases h
          · next params hparams =>
            cases h
            exact ⟨hversion, hid, hmethod, hparams, rfl⟩
  · rintro ⟨hversion, hid, hmethod, hparams, hspelling⟩
    rw [ofStated, if_neg (not_not_intro hversion), hid, hmethod, hparams, ← hspelling]

theorem repeatsMember_eq_false_iff :
    repeatsMember members = false ↔ (members.filterMap fun member => ofName? member.1).Nodup := by
  rw [repeatsMember, Bool.not_eq_false', decide_eq_true_iff]

/-- **What a message that is a request has passed**: it can be read as written, it stands for an
object, no member of the envelope is repeated, and its parts are in order. -/
theorem ofTree_eq_ok_iff :
    ofTree tree = .ok request ↔
      ∃ written members, tree.written = some written ∧ written.expand = some (.object members) ∧
        ((membersOf written).filterMap fun member => ofName? member.1).Nodup ∧
        ofStated members (statedMembers (membersOf written)) = .ok request := by
  constructor
  · intro h
    rw [ofTree] at h
    split at h
    · cases h
    · next written hwritten =>
      rw [ofWritten] at h
      split at h
      · cases h
      · next members hexpand =>
        split at h
        · cases h
        · next honce =>
          rw [Bool.not_eq_true, repeatsMember_eq_false_iff] at honce
          exact ⟨written, members, hwritten, hexpand, honce, h⟩
      · cases h
  · rintro ⟨written, members, hwritten, hexpand, honce, hstated⟩
    rw [ofTree, hwritten]
    simp only [ofWritten, hexpand, repeatsMember_eq_false_iff.2 honce, Bool.false_eq_true, if_false]
    exact hstated

/-! ## Members -/

/-- **What is said** is the value of a member of the envelope that is not silent. A member is silent
when it is the word null, but for the identifier, where null says something. -/
theorem mem_statedMembers_iff {name : String} {value : Json} :
    (name, value) ∈ statedMembers members ↔ ∃ item, (name, item) ∈ members ∧
      (ofName? name).isSome = true ∧ isSilent name item = false ∧ item.expand = some value := by
  rw [statedMembers, List.mem_filterMap]
  constructor
  · rintro ⟨⟨other, item⟩, hmember, hsaid⟩
    split at hsaid
    · cases hsaid
    · next hkept =>
      obtain ⟨found, hexpand, hsame⟩ := Option.map_eq_some_iff.1 hsaid
      cases hsame
      rw [Bool.or_eq_true, not_or, Bool.not_eq_true, Bool.not_eq_true] at hkept
      exact ⟨item, hmember, by simpa using hkept.1, hkept.2, hexpand⟩
  · rintro ⟨item, hmember, hname, hsilent, hexpand⟩
    refine ⟨(name, item), hmember, ?_⟩
    have hkept : ((ofName? name).isNone || isSilent name item) = false := by
      rw [hsilent, Bool.or_false]
      simpa using hname
    rw [if_neg (by rw [hkept]; exact Bool.false_ne_true), hexpand]
    rfl

/-- **A message that says something has members of its own**, and the object that it stands for has
members of the same names. A message that is an embedded document as a whole says nothing. -/
theorem exists_members (hexpand : written.expand = some (.object members)) {said : String × Json}
    (hsaid : said ∈ statedMembers (membersOf written)) :
    ∃ own, written = .object own ∧ Json.isEmbedding own = false ∧
      (∀ name, name ∈ members.map (·.1) ↔ name ∈ own.map (·.1)) ∧
      ∀ member ∈ own, ∃ value, member.2.expand = some value := by
  obtain ⟨item, hmember, hname, -, -⟩ := mem_statedMembers_iff.1 hsaid
  cases written with
  | object own =>
    by_cases hembedding : Json.isEmbedding own = true
    · -- an embedded document would be the only member, and it is none of the envelope
      rw [Json.expand, Json.expandWith, if_pos hembedding] at hexpand
      obtain ⟨text, htext, -⟩ := Option.bind_eq_some_iff.1 hexpand
      cases own with
      | nil => cases hmember
      | cons first rest =>
        cases rest with
        | nil =>
          obtain rfl := List.mem_singleton.1 hmember
          have hreserved : said.1 = Json.embeddedName := by
            simpa [Json.isEmbedding] using hembedding
          rw [hreserved] at hname
          cases hname
        | cons second rest => simp [Json.soleText?] at htext
    · rw [Bool.not_eq_true] at hembedding
      obtain ⟨fields, hfields, hnames, hvalues⟩ :=
        Json.exists_of_expand_object hembedding hexpand
      obtain rfl := Json.object.inj hfields
      exact ⟨own, rfl, hembedding, hnames, hvalues⟩
  | null | bool | number | string | array => cases hmember

/-! ## Said -/

/-- **What a request says** by its members as written. It is what a client can have meant by them.
-/
structure Says (members : Json.Members) (request : Request) : Prop where
  /-- There is one version, under the name that is kept for the reply. -/
  version : ∃ item, item.expand = some (.string protocolVersion) ∧
    members.filter (fun member => ofName? member.1 == some .version) =
      [(request.spelling.name, item)]
  /-- A request without an identifier is a notification. -/
  notification : "id" ∉ members.map (·.1) → request.id = none
  /-- The identifier of any other request is the value of its member. -/
  identified : ∀ item, ("id", item) ∈ members →
    ∃ id, request.id = some id ∧ item.expand = some id.toJson

/-- The version of a request is said by one of its members. -/
theorem exists_version (h : (versionOf stated).bind Json.text? = some protocolVersion) :
    ∃ name, (name = "jsonrpc" ∨ name = "version") ∧ (name, .string protocolVersion) ∈ stated := by
  obtain ⟨value, hvalue, htext⟩ := Option.bind_eq_some_iff.1 h
  obtain rfl := Json.text?_eq_some_iff.1 htext
  rw [versionOf, Option.or_eq_some_iff] at hvalue
  rcases hvalue with hfound | ⟨-, hfound⟩
  · exact ⟨"jsonrpc", .inl rfl, Json.mem_of_lookup hfound⟩
  · exact ⟨"version", .inr rfl, Json.mem_of_lookup hfound⟩

/-- The spelling of a reply is the one that the only version has. It is found by looking for names
in the object, and these are the names of the members as written. -/
theorem spellingOf_eq {own : Json.Members} {name : String}
    (hnames : ∀ name, name ∈ members.map (·.1) ↔ name ∈ own.map (·.1))
    (hversion : name = "jsonrpc" ∨ name = "version") {item : Json}
    (honly : own.filter (fun member => ofName? member.1 == some .version) = [(name, item)]) :
    (spellingOf members).name = name := by
  have hthere : ∀ other, (other = "jsonrpc" ∨ other = "version") →
      (other ∈ own.map (·.1) ↔ other = name) := by
    intro other hother
    have hkind : ofName? other = some .version := ofName?_eq_version_iff.2 hother
    constructor
    · intro hmem
      obtain ⟨member, hmember, rfl⟩ := List.mem_map.1 hmem
      have hkept : member ∈ own.filter (fun member => ofName? member.1 == some .version) :=
        List.mem_filter.2 ⟨hmember, beq_iff_eq.2 hkind⟩
      rw [honly, List.mem_singleton] at hkept
      rw [hkept]
    · rintro rfl
      have hkept : (other, item) ∈ own.filter (fun member => ofName? member.1 == some .version) := by
        rw [honly]
        exact List.mem_singleton_self _
      exact List.mem_map_of_mem (List.mem_filter.1 hkept).1
  -- of the two names exactly one is there, and the test for the newer one looks at both
  have hlookup : ∀ other, (other = "jsonrpc" ∨ other = "version") →
      ((Json.lookup other members).isSome = true ↔ other = name) := fun other hother => by
    rw [Json.lookup_isSome_iff, hnames, hthere other hother]
  have hjsonrpc := hlookup "jsonrpc" (.inl rfl)
  have hother := hlookup "version" (.inr rfl)
  rw [spellingOf]
  rcases hversion with rfl | rfl
  · have hnone : (Json.lookup "version" members).isNone = true := by
      rw [← Option.not_isSome, Bool.not_eq_true', ← Bool.not_eq_true, hother]
      decide
    rw [if_pos ⟨hjsonrpc.2 rfl, hnone⟩]
    rfl
  · rw [if_neg fun h => absurd (hjsonrpc.1 h.1) (by decide)]
    rfl

/-- An identifier is never silent. -/
theorem mem_stated_id_iff {value : Json} :
    ("id", value) ∈ statedMembers members ↔
      ∃ item, ("id", item) ∈ members ∧ item.expand = some value := by
  rw [mem_statedMembers_iff]
  constructor
  · rintro ⟨item, hmember, -, -, hvalue⟩
    exact ⟨item, hmember, hvalue⟩
  · rintro ⟨item, hmember, hvalue⟩
    exact ⟨item, hmember, rfl, Bool.and_false _, hvalue⟩

/-- Where there is no identifier, the message is a notification. -/
theorem idOf_of_missing (h : "id" ∉ members.map (·.1)) :
    idOf (statedMembers members) = some none := by
  rw [idOf]
  cases hfound : Json.lookup "id" (statedMembers members) with
  | none => rfl
  | some value =>
    obtain ⟨item, hitem, -⟩ := mem_stated_id_iff.1 (Json.mem_of_lookup hfound)
    exact absurd (List.mem_map_of_mem hitem) h

/-- **Where each member of the envelope is there once**, what is found of them is what is said.
Otherwise the last member of a name would hide the ones before. -/
theorem lookup_stated_iff (honce : (members.filterMap fun member => ofName? member.1).Nodup)
    {name : String} {kind : EnvelopeMember} (hname : ofName? name = some kind) {value : Json} :
    Json.lookup name (statedMembers members) = some value ↔
      (name, value) ∈ statedMembers members := by
  refine ⟨Json.mem_of_lookup, fun hsaid => ?_⟩
  obtain ⟨found, hfound⟩ := Option.isSome_iff_exists.1
    (Json.lookup_isSome_iff.2 (List.mem_map_of_mem hsaid))
  obtain ⟨item, hmember, -, -, hvalue⟩ := mem_statedMembers_iff.1 hsaid
  obtain ⟨other, hother, -, -, hexpand⟩ := mem_statedMembers_iff.1 (Json.mem_of_lookup hfound)
  have hsame : (name, other) ∈ [(name, item)] := by
    rw [← filter_key_eq_singleton honce hmember hname]
    exact List.mem_filter.2 ⟨hother, beq_iff_eq.2 hname⟩
  obtain rfl : other = item := (Prod.mk.inj (List.mem_singleton.1 hsame)).2
  rw [hfound, ← hexpand, hvalue]

/-- Where there is one identifier, it is the one that is found. -/
theorem lookup_stated_id (honce : (members.filterMap fun member => ofName? member.1).Nodup)
    {item value : Json} (hmember : ("id", item) ∈ members) (hvalue : item.expand = some value) :
    Json.lookup "id" (statedMembers members) = some value :=
  (lookup_stated_iff honce rfl).2 (mem_stated_id_iff.2 ⟨item, hmember, hvalue⟩)

/-- **What a message that is a request says.** Everything that the reply repeats of it can be seen
in the message as written. -/
theorem says_of_ofTree (h : ofTree tree = .ok request) :
    ∃ own, tree.written = some (.object own) ∧ Says own request := by
  obtain ⟨written, members, hwritten, hexpand, honce, hstated⟩ := ofTree_eq_ok_iff.1 h
  obtain ⟨hversion, hid, -, -, hspelling⟩ := ofStated_eq_ok_iff.1 hstated
  obtain ⟨name, hname, hsaid⟩ := exists_version hversion
  obtain ⟨own, rfl, -, hnames, hvalues⟩ := exists_members hexpand hsaid
  rw [membersOf] at honce hsaid hid
  obtain ⟨item, hmember, -, -, hvalue⟩ := mem_statedMembers_iff.1 hsaid
  have honly := filter_key_eq_singleton honce hmember (ofName?_eq_version_iff.2 hname)
  refine ⟨own, hwritten, ⟨item, hvalue, ?_⟩, fun hmissing => ?_, fun identifier hmember => ?_⟩
  · rw [honly, hspelling, spellingOf_eq hnames hname honly]
  · rw [idOf_of_missing hmissing] at hid
    exact (Option.some.inj hid).symm
  · obtain ⟨value, hvalue⟩ := hvalues _ hmember
    rw [idOf, lookup_stated_id honce hmember hvalue] at hid
    obtain ⟨id, hread, hrequest⟩ := Option.map_eq_some_iff.1 hid
    rw [← RequestId.toJson_of_ofJson? hread] at hvalue
    exact ⟨id, hrequest.symm, hvalue⟩

/-! ## Rejections -/

/-- A member of the envelope that is there once is the last one of its name. -/
theorem notMem_after_of_once {before after : Json.Members} {name : String} {item : Json}
    {kind : EnvelopeMember}
    (honce : ((before ++ (name, item) :: after).filterMap fun member => ofName? member.1).Nodup)
    (hname : ofName? name = some kind) : name ∉ after.map (·.1) := by
  intro hmem
  obtain ⟨member, hafter, hsame⟩ := List.mem_map.1 hmem
  have hkind : ofName? member.1 = some kind := by rw [hsame, hname]
  simp only [List.filterMap_append, List.filterMap_cons, hname] at honce
  exact (List.nodup_cons.1 (List.nodup_append.1 honce).2.1).1
    (List.mem_filterMap.2 ⟨member, hafter, hkind⟩)

/-- An identifier that is refused is none that a rejection could carry. The two are read from
different readings of the message, and where the member is there once they agree. -/
theorem echoOf_of_refused (hexpand : written.expand = some (.object members))
    (honce : ((membersOf written).filterMap fun member => ofName? member.1).Nodup)
    (hid : idOf (statedMembers (membersOf written)) = none) : echoOf members = .null := by
  rw [idOf] at hid
  split at hid
  · cases hid
  · next value hfound =>
    rw [Option.map_eq_none_iff] at hid
    have hsaid := Json.mem_of_lookup hfound
    obtain ⟨own, rfl, hplain, -, -⟩ := exists_members hexpand hsaid
    obtain ⟨item, hmember, -, -, hvalue⟩ := mem_statedMembers_iff.1 hsaid
    rw [membersOf] at hmember honce
    obtain ⟨before, after, rfl⟩ := List.append_of_mem hmember
    have hget : Json.lookup "id" members = item.expand := Json.get?_of_last hplain hexpand
      (notMem_after_of_once honce rfl)
    rw [echoOf, hget, hvalue, Option.bind_some, hid]
    rfl

/-- The value under a name is that of a member. -/
theorem get?_eq_lookup (name : String) (value : Json) :
    value.get? name = Json.lookup name (membersOf value) := by
  cases value <;> rfl

/-- **A message that has a value** but is no request is an invalid request, and its rejection
carries the identifier and the spelling that the value has. Only the detail depends on what was
wrong. -/
theorem rejection_of_decode {value : Json} (hdecode : tree.decode = some value)
    {rejection : Response} (h : ofTree tree = .error rejection) :
    ∃ detail, rejection =
      .invalidRequest (spellingOf (membersOf value)) (echoOf (membersOf value)) detail := by
  obtain ⟨written, hwritten, hexpand⟩ := Option.bind_eq_some_iff.1 hdecode
  rw [ofTree, hwritten] at h
  cases value with
  | object members =>
    simp only [ofWritten, hexpand] at h
    split at h
    · exact ⟨_, (Except.error.inj h).symm⟩
    · next honce =>
      rw [Bool.not_eq_true, repeatsMember_eq_false_iff] at honce
      rw [ofStated] at h
      split at h
      · exact ⟨_, (Except.error.inj h).symm⟩
      · split at h
        · next hid =>
          rw [membersOf, echoOf_of_refused hexpand honce hid]
          exact ⟨_, (Except.error.inj h).symm⟩
        · split at h
          · exact ⟨_, (Except.error.inj h).symm⟩
          · split at h
            · exact ⟨_, (Except.error.inj h).symm⟩
            · cases h
  | _ =>
    simp only [ofWritten, hexpand] at h
    exact ⟨_, (Except.error.inj h).symm⟩

end Request

end Planroom.Rpc
