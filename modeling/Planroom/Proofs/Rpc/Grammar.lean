import Planroom.Proofs.Rpc.ParseErrors

/-!
# The grammar of requests

Which messages are requests is said by their members as written, and what a rejection carries is said by
the value that was rejected.

* **Readings** — `RequestId.IsFor`, `IsStructured`: the values that an identifier and parameters are
  read from.
* **The grammar** — `Composes`: the members of which a request is made up. A message is a request
  exactly when its own members compose one (`ofTree_eq_ok_iff_composes`). A message that is an embedded
  document has no members of its own, and an embedded null is not the word null.
* **Rejections** — `Rejects`: every rejection of a message that has a value carries the identifier and
  the spelling of this value (`rejects_of_decode`).
-/

namespace Planroom.Rpc

/-! ## Readings -/

/-- **The identifier that a value is read as.** A number that is no integer of the 64-bit ranges is
one when its denominator divides its numerator. A number with a fraction, a truth value, an array
and an object are read as none. -/
inductive RequestId.IsFor : Json → RequestId → Prop where
  | text (value : String) : IsFor (.string value) (.text value)
  | null : IsFor .null .null
  | int (value : Int) : IsFor (.number (.int value)) (.number (.int value))
  | real {value : Binary64} (hwhole : value.ratio.2 ∣ value.ratio.1) :
      IsFor (.number (.real value)) (.number (.real value))

theorem RequestId.isIntegral_real_iff {value : Binary64} :
    isIntegral (.real value) = true ↔ value.ratio.2 ∣ value.ratio.1 := by
  rw [isIntegral, Binary64.toInt?, Nat.dvd_iff_mod_eq_zero]
  dsimp only
  split
  · next hwhole => exact iff_of_true rfl hwhole
  · next hbroken => exact iff_of_false Bool.false_ne_true hbroken

/-- The reader of identifiers reads these values and no others. -/
theorem RequestId.ofJson?_eq_some_iff {value : Json} {id : RequestId} :
    ofJson? value = some id ↔ IsFor value id := by
  constructor
  · intro h
    cases value with
    | null =>
      cases h
      exact .null
    | string text =>
      cases h
      exact .text text
    | number n =>
      rw [ofJson?] at h
      split at h
      · next hintegral =>
        cases h
        cases n with
        | int value => exact .int value
        | real value => exact .real (isIntegral_real_iff.1 hintegral)
      · cases h
    | bool | array | object => cases h
  · intro h
    cases h with
    | text | null | int => rfl
    | real hwhole => rw [ofJson?, if_pos (isIntegral_real_iff.2 hwhole)]

/-- **The values that parameters are read from.** Null is not among them; whether it is passed over
is decided before, by how it is written. -/
inductive IsStructured : Json → Prop where
  | object (members : Json.Members) : IsStructured (.object members)
  | array (items : List Json) : IsStructured (.array items)

theorem Spelling.ofName?_name (spelling : Spelling) :
    EnvelopeMember.ofName? spelling.name = some .version := by
  cases spelling <;> rfl

theorem Spelling.name_inj {spelling other : Spelling} :
    spelling.name = other.name ↔ spelling = other := by
  cases spelling <;> cases other <;> decide

namespace Request

open EnvelopeMember

variable {tree : Json.Tree} {request : Request} {members stated own : Json.Members}
  {value item : Json} {name : String} {kind : EnvelopeMember}

theorem methodOf_eq_some_iff {method : String} :
    methodOf stated = some method ↔
      Json.lookup "method" stated = some (.string method) ∧ Text.trim method ≠ "" := by
  rw [methodOf]
  constructor
  · intro h
    split at h
    · next found hfound =>
      split at h
      · cases h
      · next hfilled =>
        cases h
        exact ⟨hfound, fun hempty => hfilled (Text.isBlankText_iff_trim.2 hempty)⟩
    · cases h
  · rintro ⟨hfound, hfilled⟩
    rw [hfound]
    exact if_neg fun hblank => hfilled (Text.isBlankText_iff_trim.1 hblank)

theorem paramsOf_eq_none_iff : paramsOf stated = some none ↔ Json.lookup "params" stated = none := by
  rw [paramsOf]
  constructor
  · intro h
    split at h
    · assumption
    all_goals cases h
  · intro h
    rw [h]

theorem paramsOf_eq_some_iff {params : Json} :
    paramsOf stated = some (some params) ↔
      Json.lookup "params" stated = some params ∧ IsStructured params := by
  rw [paramsOf]
  constructor
  · intro h
    split at h
    · cases h
    · next fields hfound =>
      cases h
      exact ⟨hfound, .object fields⟩
    · next items hfound =>
      cases h
      exact ⟨hfound, .array items⟩
    · cases h
  · rintro ⟨hfound, hstructured⟩
    rw [hfound]
    cases hstructured <;> rfl

/-! ## The grammar -/

/-- **The members of which a request is made up.** They are members as written: it is said of each
part which member it comes from, and of each member that may be missing when it is. -/
structure Composes (own : Json.Members) (request : Request) : Prop where
  /-- Each member is there once at most, the version under one of its names. -/
  once : (own.filterMap fun member => ofName? member.1).Nodup
  /-- The version is there, under the name that is kept for the reply. -/
  version : ∃ item, (request.spelling.name, item) ∈ own ∧
    item.expand = some (.string protocolVersion)
  /-- There is no identifier exactly where no member says one, be it null. -/
  notification : request.id = none ↔ "id" ∉ own.map (·.1)
  /-- An identifier is what its member is read as. -/
  identified : ∀ id, request.id = some id →
    ∃ item value, ("id", item) ∈ own ∧ item.expand = some value ∧ RequestId.IsFor value id
  /-- The method is the text of its member. -/
  method : ∃ item, ("method", item) ∈ own ∧ item.expand = some (.string request.method)
  /-- The method is not blank. -/
  filled : Text.trim request.method ≠ ""
  /-- There are no parameters where no member says more than the word null. -/
  bare : request.params = none ↔ ∀ item, ("params", item) ∈ own → item = .null
  /-- Parameters are an object or an array, and the value of their member. -/
  structured : ∀ params, request.params = some params →
    IsStructured params ∧ ∃ item, ("params", item) ∈ own ∧ item.expand = some params

/-! Each of the parts, where every member of the envelope is there once. -/

section Parts

variable (honce : (own.filterMap fun member => ofName? member.1).Nodup)
  (hvalues : ∀ member ∈ own, ∃ value, member.2.expand = some value)

/-- What is found under a name is the value of a member. -/
theorem exists_member_of_lookup (h : Json.lookup name (statedMembers own) = some value) :
    ∃ item, (name, item) ∈ own ∧ item.expand = some value := by
  obtain ⟨item, hmember, -, -, hvalue⟩ := mem_statedMembers_iff.1 (Json.mem_of_lookup h)
  exact ⟨item, hmember, hvalue⟩

include honce in
/-- **The value of a member** is found under its name, unless it is null. A null may be silent, and
then there is nothing to be found. -/
theorem lookup_stated_eq_some_iff (hname : ofName? name = some kind) (hvalue : value ≠ .null) :
    Json.lookup name (statedMembers own) = some value ↔
      ∃ item, (name, item) ∈ own ∧ item.expand = some value := by
  refine ⟨exists_member_of_lookup, ?_⟩
  rintro ⟨item, hmember, hexpand⟩
  refine (lookup_stated_iff honce hname).2
    (mem_statedMembers_iff.2 ⟨item, hmember, by rw [hname]; rfl, ?_, hexpand⟩)
  rw [isSilent, Bool.and_eq_false_iff]
  left
  cases item with
  | null =>
    cases hexpand
    exact absurd rfl hvalue
  | _ => rfl

include honce in
/-- There is one version, under whichever of its names. Both names count as the same member, so
there cannot be one under each. -/
theorem versionOf_stated (hname : ofName? name = some .version) (hmember : (name, item) ∈ own)
    (hvalue : value ≠ .null) (hexpand : item.expand = some value) :
    versionOf (statedMembers own) = some value := by
  have hfound := (lookup_stated_eq_some_iff honce hname hvalue).2 ⟨item, hmember, hexpand⟩
  rw [versionOf]
  cases hjsonrpc : Json.lookup "jsonrpc" (statedMembers own) with
  | none =>
    rcases ofName?_eq_version_iff.1 hname with rfl | rfl
    · rw [hjsonrpc] at hfound
      cases hfound
    · exact hfound
  | some found =>
    obtain ⟨other, hother, hvalue⟩ := exists_member_of_lookup hjsonrpc
    have hsame : ("jsonrpc", other) ∈ [(name, item)] := by
      rw [← filter_key_eq_singleton honce hmember hname]
      exact List.mem_filter.2 ⟨hother, rfl⟩
    obtain rfl : other = item := (Prod.mk.inj (List.mem_singleton.1 hsame)).2
    rw [hvalue] at hexpand
    rw [Option.some_inj.1 hexpand]
    rfl

include honce in
theorem version_iff (hnames : ∀ name, name ∈ members.map (·.1) ↔ name ∈ own.map (·.1)) :
    (versionOf (statedMembers own)).bind Json.text? = some protocolVersion ∧
        request.spelling = spellingOf members ↔
      ∃ item, (request.spelling.name, item) ∈ own ∧
        item.expand = some (.string protocolVersion) := by
  have hspelled {name : String} {item : Json} (hname : ofName? name = some .version)
      (hmember : (name, item) ∈ own) : (spellingOf members).name = name :=
    spellingOf_eq hnames (ofName?_eq_version_iff.1 hname)
      (filter_key_eq_singleton honce hmember hname)
  constructor
  · rintro ⟨hversion, hspelling⟩
    obtain ⟨name, hname, hsaid⟩ := exists_version hversion
    obtain ⟨item, hmember, -, -, hvalue⟩ := mem_statedMembers_iff.1 hsaid
    refine ⟨item, ?_, hvalue⟩
    rwa [hspelling, hspelled (ofName?_eq_version_iff.2 hname) hmember]
  · rintro ⟨item, hmember, hvalue⟩
    have hname := Spelling.ofName?_name request.spelling
    rw [versionOf_stated honce hname hmember (by exact nofun) hvalue]
    exact ⟨rfl, Spelling.name_inj.1 (hspelled hname hmember).symm⟩

include honce hvalues in
theorem idOf_eq_none_iff : idOf (statedMembers own) = some none ↔ "id" ∉ own.map (·.1) := by
  refine ⟨fun hid hmem => ?_, idOf_of_missing⟩
  obtain ⟨member, hmember, hname⟩ := List.mem_map.1 hmem
  obtain ⟨value, hvalue⟩ := hvalues member hmember
  rw [idOf, lookup_stated_id honce (hname ▸ hmember) hvalue] at hid
  obtain ⟨id, -, hsome⟩ := Option.map_eq_some_iff.1 hid
  cases hsome

include honce in
theorem idOf_eq_some_iff {id : RequestId} :
    idOf (statedMembers own) = some (some id) ↔
      ∃ item value, ("id", item) ∈ own ∧ item.expand = some value ∧ RequestId.IsFor value id := by
  constructor
  · intro hid
    rw [idOf] at hid
    split at hid
    · cases hid
    · next value hfound =>
      obtain ⟨item, hmember, hvalue⟩ := exists_member_of_lookup hfound
      obtain ⟨read, hread, hsame⟩ := Option.map_eq_some_iff.1 hid
      cases hsame
      exact ⟨item, value, hmember, hvalue, RequestId.ofJson?_eq_some_iff.1 hread⟩
  · rintro ⟨item, value, hmember, hvalue, hread⟩
    rw [idOf, lookup_stated_id honce hmember hvalue]
    exact Option.map_eq_some_iff.2 ⟨id, RequestId.ofJson?_eq_some_iff.2 hread, rfl⟩

include honce hvalues in
/-- There are no parameters exactly where every member for them is the word null. An embedded null
has a value that is null and is still not passed over. -/
theorem params_missing_iff : Json.lookup "params" (statedMembers own) = none ↔
    ∀ item, ("params", item) ∈ own → item = .null := by
  constructor
  · intro hnone item hmember
    -- what is not the word null is not silent, whatever its value is
    by_contra hitem
    obtain ⟨value, hvalue⟩ := hvalues _ hmember
    have hsaid : ("params", value) ∈ statedMembers own := by
      refine mem_statedMembers_iff.2 ⟨item, hmember, rfl, ?_, hvalue⟩
      cases item with
      | null => exact absurd rfl hitem
      | _ => rfl
    rw [(lookup_stated_iff honce rfl).2 hsaid] at hnone
    cases hnone
  · intro hnull
    refine Option.eq_none_iff_forall_ne_some.2 fun value hfound => ?_
    obtain ⟨item, hmember, -, hsilent, -⟩ := mem_statedMembers_iff.1 (Json.mem_of_lookup hfound)
    rw [hnull item hmember] at hsilent
    cases hsilent

include honce hvalues in
/-- **The parts of a request** are read from members that compose it. Each part of the reader is
turned into the field that speaks of it, and back. -/
theorem ofStated_eq_ok_iff_composes
    (hnames : ∀ name, name ∈ members.map (·.1) ↔ name ∈ own.map (·.1)) :
    ofStated members (statedMembers own) = .ok request ↔ Composes own request := by
  rw [ofStated_eq_ok_iff]
  constructor
  · rintro ⟨hversion, hid, hmethod, hparams, hspelling⟩
    obtain ⟨hmethod, hfilled⟩ := methodOf_eq_some_iff.1 hmethod
    refine
      { once := honce
        version := (version_iff honce hnames).1 ⟨hversion, hspelling⟩
        notification := ?_
        identified := ?_
        method := exists_member_of_lookup hmethod
        filled := hfilled
        bare := ?_
        structured := ?_ }
    · rw [← idOf_eq_none_iff honce hvalues, hid, Option.some_inj]
    · intro id hidentified
      rw [hidentified] at hid
      exact (idOf_eq_some_iff honce).1 hid
    · rw [← params_missing_iff honce hvalues, ← paramsOf_eq_none_iff, hparams, Option.some_inj]
    · intro params hstructured
      rw [hstructured] at hparams
      obtain ⟨hfound, hkind⟩ := paramsOf_eq_some_iff.1 hparams
      exact ⟨hkind, exists_member_of_lookup hfound⟩
  · intro h
    obtain ⟨hversion, hspelling⟩ := (version_iff honce hnames).2 h.version
    refine ⟨hversion, ?_, methodOf_eq_some_iff.2 ⟨?_, h.filled⟩, ?_, hspelling⟩
    · cases hid : request.id with
      | none => exact (idOf_eq_none_iff honce hvalues).2 (h.notification.1 hid)
      | some id => exact (idOf_eq_some_iff honce).2 (h.identified id hid)
    · exact (lookup_stated_eq_some_iff honce rfl (by exact nofun)).2 h.method
    · cases hparams : request.params with
      | none => exact paramsOf_eq_none_iff.2 ((params_missing_iff honce hvalues).2 (h.bare.1 hparams))
      | some params =>
        obtain ⟨hkind, hmember⟩ := h.structured params hparams
        refine paramsOf_eq_some_iff.2 ⟨(lookup_stated_eq_some_iff honce rfl ?_).2 hmember, hkind⟩
        rintro rfl
        cases hkind

end Parts

/-- **A message is a request** exactly when its own members compose one. The grammar speaks of the
members alone, and the reader of two readings of the message that have to agree. -/
theorem ofTree_eq_ok_iff_composes (hdecode : tree.decode = some value) :
    ofTree tree = .ok request ↔
      ∃ own, tree.written = some (.object own) ∧ Json.isEmbedding own = false ∧
        Composes own request := by
  constructor
  · intro h
    obtain ⟨written, members, hwritten, hexpand, honce, hstated⟩ := ofTree_eq_ok_iff.1 h
    obtain ⟨name, -, hsaid⟩ := exists_version (ofStated_eq_ok_iff.1 hstated).1
    obtain ⟨own, rfl, hplain, hnames, hvalues⟩ := exists_members hexpand hsaid
    exact ⟨own, hwritten, hplain, (ofStated_eq_ok_iff_composes honce hvalues hnames).1 hstated⟩
  · rintro ⟨own, hwritten, hplain, h⟩
    rw [Json.Tree.decode, hwritten, Option.bind_some] at hdecode
    obtain ⟨members, rfl, hnames, hvalues⟩ := Json.exists_of_expand_object hplain hdecode
    exact ofTree_eq_ok_iff.2 ⟨.object own, members, hwritten, hdecode, h.once,
      (ofStated_eq_ok_iff_composes h.once hvalues hnames).2 h⟩

/-! ## Rejections -/

/-- **What a rejection says** of the value that was rejected. It is said of the value, as that is
all that is left of a message when its members are in disorder. -/
structure Rejects (value : Json) (rejection : Response) : Prop where
  /-- The value is an invalid request. -/
  code : rejection.errorCode? = some (-32600)
  /-- An identifier that can be read is echoed. -/
  echoed : ∀ item id, value.get? "id" = some item → RequestId.IsFor item id → rejection.id = id
  /-- Where none can be read, there is none. -/
  unread : (∀ item id, value.get? "id" = some item → ¬ RequestId.IsFor item id) →
    rejection.id = .null
  /-- The version is spelled in the newer way where the value has it in that way only. -/
  spelled : rejection.spelling = .jsonrpc ↔
    (value.get? "jsonrpc").isSome = true ∧ value.get? "version" = none

/-- What is no request is rejected. -/
theorem exists_rejection (h : (ofTree tree).toOption.isNone = true) :
    ∃ rejection, ofTree tree = .error rejection := by
  cases htree : ofTree tree with
  | ok request =>
    rw [htree] at h
    cases h
  | error rejection => exact ⟨rejection, rfl⟩

/-- **Every rejection of a message that has a value** says the same of this value, whichever part of
the message was at fault. -/
theorem rejects_of_decode (hdecode : tree.decode = some value) {rejection : Response}
    (h : ofTree tree = .error rejection) : Rejects value rejection := by
  obtain ⟨detail, rfl⟩ := rejection_of_decode hdecode h
  refine ⟨rfl, fun item id hitem hread => ?_, fun hunread => ?_, ?_⟩
  · change echoOf (membersOf value) = id
    rw [echoOf, ← get?_eq_lookup, hitem, Option.bind_some, RequestId.ofJson?_eq_some_iff.2 hread]
    rfl
  · change echoOf (membersOf value) = .null
    rw [echoOf, ← get?_eq_lookup]
    cases hread : (value.get? "id").bind RequestId.ofJson? with
    | none => rfl
    | some id =>
      obtain ⟨item, hitem, hid⟩ := Option.bind_eq_some_iff.1 hread
      exact absurd (RequestId.ofJson?_eq_some_iff.1 hid) (hunread item id hitem)
  · change spellingOf (membersOf value) = .jsonrpc ↔ _
    rw [spellingOf, ← get?_eq_lookup, ← get?_eq_lookup, ← Option.isNone_iff_eq_none]
    split
    · next hspelled => exact iff_of_true rfl hspelled
    · next hother => exact iff_of_false (by decide) hother

end Request

open Request

variable {tree : Json.Tree} {value : Json}

/-- **The grammar of requests.** A message that has a value is a request exactly when its own members
compose one, and it is this request. Any other is rejected as an invalid request, under the identifier
and in the spelling that its value has; under each name the value has what the last member of this name
stands for. -/
theorem requests_follow_grammar (hdecode : tree.decode = some value) :
    (∀ request, Request.ofTree tree = .ok request ↔
      ∃ own, tree.written = some (.object own) ∧ Json.isEmbedding own = false ∧
        Composes own request) ∧
    (∀ rejection, Request.ofTree tree = .error rejection → Rejects value rejection) ∧
    ∀ before after name item, tree.written = some (.object (before ++ (name, item) :: after)) →
      Json.isEmbedding (before ++ (name, item) :: after) = false → name ∉ after.map (·.1) →
      value.get? name = item.expand := by
  refine ⟨fun request => ofTree_eq_ok_iff_composes hdecode,
    fun rejection => rejects_of_decode hdecode, fun before after name item hwritten hplain => ?_⟩
  rw [Json.Tree.decode, hwritten, Option.bind_some] at hdecode
  exact Json.get?_of_last hplain hdecode

/-- A message with two identifiers, which differ. -/
def twiceIdentified : String :=
  "\x7b\"jsonrpc\":\"2.0\",\"id\":7,\"id\":8,\"method\":\"ping\"\x7d"

/-- A message in which an identifier comes twice is rejected under the later one. -/
theorem requests_follow_grammar_twice :
    ∃ tree value rejection, Json.Tree.parse twiceIdentified.toList = some tree ∧
      tree.decode = some value ∧ Request.ofTree tree = .error rejection ∧
      rejection.errorCode? = some (-32600) ∧ rejection.id = .number (.int 8) ∧
      rejection.spelling = .jsonrpc := by
  have hread : ((Json.Tree.parse twiceIdentified.toList).bind fun tree =>
      tree.decode.map fun value =>
        ((value.get? "id").bind RequestId.ofJson?, (value.get? "jsonrpc").isSome,
          (value.get? "version").isNone, (Request.ofTree tree).toOption.isNone)) =
      some (some (.number (.int 8)), true, true, true) := by decide +kernel
  obtain ⟨tree, hparse, hvalue⟩ := Option.bind_eq_some_iff.1 hread
  obtain ⟨value, hdecode, hparts⟩ := Option.map_eq_some_iff.1 hvalue
  simp only [Prod.mk.injEq] at hparts
  obtain ⟨hid, hjsonrpc, hversion, hrejected⟩ := hparts
  obtain ⟨rejection, h⟩ := exists_rejection hrejected
  have hrejects := (requests_follow_grammar hdecode).2.1 rejection h
  obtain ⟨item, hitem, hread⟩ := Option.bind_eq_some_iff.1 hid
  exact ⟨tree, value, rejection, hparse, hdecode, h, hrejects.code,
    hrejects.echoed item _ hitem (RequestId.ofJson?_eq_some_iff.1 hread),
    hrejects.spelled.2 ⟨hjsonrpc, Option.isNone_iff_eq_none.1 hversion⟩⟩

/-- A message whose parameters are an embedded document, the word null. -/
def embeddedNull : String :=
  "\x7b\"jsonrpc\":\"2.0\",\"id\":1,\"method\":\"ping\"," ++
    "\"params\":\x7b\"$serde_json::private::RawValue\":\"null\"\x7d\x7d"

/-- **An embedded null is not read as nothing**: a message whose members are each there once, and whose
value is that of a request without parameters, is rejected for them. -/
theorem embedded_null_is_refused :
    ∃ tree own value rejection, Json.Tree.parse embeddedNull.toList = some tree ∧
      tree.written = some (.object own) ∧
      own.map (·.1) = ["jsonrpc", "id", "method", "params"] ∧
      tree.decode = some value ∧
      value.get? "jsonrpc" = some (.string "2.0") ∧
      value.get? "id" = some (.number (.int 1)) ∧
      value.get? "method" = some (.string "ping") ∧
      value.get? "params" = some .null ∧
      Request.ofTree tree = .error rejection := by
  have hread : ((Json.Tree.parse embeddedNull.toList).bind fun tree =>
      tree.written.bind fun written => written.expand.map fun value =>
        (((membersOf written).map (·.1), (value.get? "params").map Json.isNull,
          (Request.ofTree tree).toOption.isNone),
          (value.get? "jsonrpc").bind Json.text?, (value.get? "id").bind RequestId.ofJson?,
          (value.get? "method").bind Json.text?)) =
      some ((["jsonrpc", "id", "method", "params"], some true, true),
        some "2.0", some (.number (.int 1)), some "ping") := by decide +kernel
  obtain ⟨tree, hparse, hwritten⟩ := Option.bind_eq_some_iff.1 hread
  obtain ⟨written, hwritten, hvalue⟩ := Option.bind_eq_some_iff.1 hwritten
  obtain ⟨value, hexpand, hparts⟩ := Option.map_eq_some_iff.1 hvalue
  simp only [Prod.mk.injEq] at hparts
  obtain ⟨⟨hnames, hparams, hrejected⟩, hversion, hid, hmethod⟩ := hparts
  obtain ⟨version, hversion, htext⟩ := Option.bind_eq_some_iff.1 hversion
  obtain rfl := Json.text?_eq_some_iff.1 htext
  obtain ⟨id, hid, hread⟩ := Option.bind_eq_some_iff.1 hid
  obtain rfl := RequestId.toJson_of_ofJson? hread
  obtain ⟨method, hmethod, hname⟩ := Option.bind_eq_some_iff.1 hmethod
  obtain rfl := Json.text?_eq_some_iff.1 hname
  obtain ⟨params, hparams, hnull⟩ := Option.map_eq_some_iff.1 hparams
  cases params with
  | null =>
    cases written with
    | object own =>
      have hdecode : tree.decode = some value := by
        rw [Json.Tree.decode, hwritten, Option.bind_some, hexpand]
      obtain ⟨rejection, h⟩ := exists_rejection hrejected
      exact ⟨tree, own, value, rejection, hparse, hwritten, hnames, hdecode, hversion, hid, hmethod,
        hparams, h⟩
    | _ => cases hnames
  | _ => cases hnull

end Planroom.Rpc
