import Planroom.Proofs.Store.Identifiers
import Planroom.Proofs.Store.Listing

/-!
# Listings page by page

Three accesses answer a page at a time: that to the artifacts of a kind, the search, and that to the
steering documents. Whoever asks for one page after another, by whatever limit, puts the listing
together without losing anything.

* **Pages** — the windows that are gone through show all items, each of them once (`flatMap_apply`).
  `Paged` says what it is to be read page by page.
* **Kept** — `Store.kept`: everything that is kept, kind by kind and in the order of the creations. No
  two artifacts in it have the same identifier.
* **Listed** — `Listed`: each listing is what is to be listed of all that is kept, in this order, in
  whatever order the tables keep it.
-/

namespace Planroom

/-! ## Pages -/

namespace Window

variable {α : Type} {limit : Nat}

/-- **The windows that are gone through**: one after another, as long as they begin within the total.
-/
def through (limit total : Nat) : List Window :=
  (List.range (total / limit + 1)).map fun k => ⟨limit, k * limit⟩

/-- They have the limit that was asked for, and begin within the total. So an offset never gets
larger than the number of the records. -/
theorem of_mem_through {total : Nat} {window : Window} (hlimit : 1 ≤ limit)
    (h : window ∈ through limit total) : window.limit = limit ∧ window.offset ≤ total := by
  obtain ⟨k, hk, rfl⟩ := List.mem_map.1 h
  rw [List.mem_range, Nat.lt_succ_iff, Nat.le_div_iff_mul_le hlimit] at hk
  exact ⟨rfl, hk⟩

/-- The first so many windows show the first so many items. -/
theorem flatMap_range (limit : Nat) (items : List α) (n : Nat) :
    ((List.range n).flatMap fun k => ((mk limit (k * limit)).apply items).data) =
      items.take (n * limit) := by
  induction n with
  | zero => rw [Nat.zero_mul, List.take_zero, List.range_zero, List.flatMap_nil]
  | succ n ih =>
    rw [List.range_succ, List.flatMap_append, ih, List.flatMap_singleton, Nat.succ_mul,
      List.take_add]
    rfl

/-- **All windows show all items**, each of them once. The last window begins within the total as
well, though it may show nothing. -/
theorem flatMap_apply (hlimit : 1 ≤ limit) (items : List α) :
    ((through limit items.length).map fun window => window.apply items).flatMap Page.data =
      items := by
  have hall : items.length ≤ (items.length / limit + 1) * limit := by
    rw [Nat.succ_mul]
    exact (Nat.lt_div_mul_add hlimit).le
  rw [through, List.map_map, List.flatMap_map]
  exact (flatMap_range limit items _).trans (List.take_of_length_le hall)

/-- A window with a limit within the bounds may be asked for. -/
theorem make_eq_ok {window : Window} (hlimit : 1 ≤ window.limit) (hmax : window.limit ≤ maxLimit) :
    make (some window.limit) (some window.offset) = .ok window := by
  simp only [make, Option.getD_some]
  rw [if_neg]
  omega

end Window

/-- **Is a listing read page by page?** `ask` gives a page, and `items` are what is listed. Nothing
is assumed of `ask` but what it answers, so that each page may be asked of another store. -/
structure Paged {α : Type} (ask : Window → Except Failure (Page α)) (id : α → Uuid) (limit : Nat)
    (items : List α) : Prop where
  /-- Every page tells how many items there are. -/
  counted : ∀ window, ∃ page, ask window = .ok page ∧ page.total = items.length ∧
    page.limit = window.limit ∧ page.offset = window.offset
  /-- The windows that are needed may be asked for. -/
  accepted : ∀ window ∈ Window.through limit items.length,
    Window.make (some window.limit) (some window.offset) = .ok window ∧ window.offset < Nat.pow 2 32
  /-- Their pages are the listing. -/
  joined : ∃ pages, (Window.through limit items.length).mapM ask = .ok pages ∧
    pages.flatMap Page.data = items
  /-- Nothing comes twice. -/
  once : (items.map id).Nodup

section Paged

variable {α : Type} {ask : Window → Except Failure (Page α)} {id : α → Uuid} {limit : Nat}
  {items : List α}

/-- **A listing is read page by page** if the pages are cut out of it. There have to be fewer items
than an offset can count, which is a number of 32 bits. -/
theorem Paged.of_apply (hlimit : 1 ≤ limit) (hmax : limit ≤ Window.maxLimit)
    (hfew : items.length < Nat.pow 2 32) (hask : ∀ window, ask window = .ok (window.apply items))
    (honce : (items.map id).Nodup) : Paged ask id limit items where
  counted window := ⟨window.apply items, hask window, rfl, rfl, rfl⟩
  accepted window hwindow := by
    obtain ⟨rfl, hoffset⟩ := Window.of_mem_through hlimit hwindow
    exact ⟨Window.make_eq_ok hlimit hmax, Nat.lt_of_le_of_lt hoffset hfew⟩
  joined := by
    obtain rfl : ask = fun window => pure (window.apply items) := funext hask
    exact ⟨_, List.mapM_pure, Window.flatMap_apply hlimit items⟩
  once := honce

end Paged

/-! ## What is found -/

/-- An artifact as a hit. The search makes its hits table by table; here they are made in one place.
-/
def Artifact.toHit : Artifact → SearchHit
  | .entity (.epic e) => e.card.toHit .epic
  | .entity (.story s) => s.card.toHit .userStory
  | .entity (.criteria c) => c.toHit
  | .entity (.requirement r) => r.card.toHit .requirement
  | .document d => d.toHit

/-- **Is an artifact found by a search?** It is of a kind that is asked for, unless none is, and the
query stands in it. This is said of one artifact, whatever else is in the store. -/
def Artifact.foundBy (query : String) (kinds : List Kind) (artifact : Artifact) : Bool :=
  (kinds.isEmpty || kinds.contains artifact.kind) && artifact.toHit.matches (needleOf query)

/-- A hit has the identifier of its artifact. -/
theorem Artifact.id_toHit (artifact : Artifact) : artifact.toHit.id = artifact.id := by
  rcases artifact with (_ | _ | _ | _) | _ <;> rfl

/-- Where only some are let through, nothing comes of the others. -/
theorem flatMap_filter_eq {α β : Type} (p : α → Bool) (f : α → List β) (l : List α) :
    (l.filter p).flatMap f = l.flatMap fun a => if p a then f a else [] := by
  induction l with
  | nil => rfl
  | cons a rest ih =>
    rw [List.filter_cons, List.flatMap_cons]
    split
    · rw [List.flatMap_cons, ih]
    · rw [ih, List.nil_append]

namespace Store

variable {store other : Store} {kind : Kind}

/-- **Everything that is kept**, kind by kind. Of what a listing should show, this is the measure.
-/
def kept (store : Store) : List Artifact :=
  Kind.all.flatMap fun kind => (store.shelf kind).values

/-- The artifacts of a kind are among those that are kept. -/
theorem sublist_kept (store : Store) (kind : Kind) :
    ((store.shelf kind).values).Sublist store.kept :=
  List.sublist_flatten_of_mem (List.mem_map_of_mem (Kind.mem_all kind))

/-- **What is let through** of all that is kept: of some kinds, and of each of them what is let
through of its shelf. A search goes through the shelves in just this way. -/
theorem filter_kept (store : Store) (wanted : Kind → Bool) (p : Artifact → Bool) :
    store.kept.filter (fun artifact => wanted artifact.kind && p artifact) =
      (Kind.all.filter wanted).flatMap fun kind => (store.shelf kind).values.filter p := by
  rw [kept, List.filter_flatMap, flatMap_filter_eq]
  refine List.flatMap_congr fun kind _ => ?_
  have hsame : ∀ artifact ∈ (store.shelf kind).values,
      (wanted artifact.kind && p artifact) = (wanted kind && p artifact) := by
    intro artifact hartifact
    rw [store.kind_of_mem_values hartifact]
  rw [List.filter_congr hsame]
  split
  · next hwanted => simp only [hwanted, Bool.true_and]
  · next hunwanted =>
    rw [Bool.not_eq_true] at hunwanted
    simp only [hunwanted, Bool.false_and, List.filter_false]

/-- **What is kept of a kind** is what is on its shelf. -/
theorem filter_kind_kept (store : Store) (kind : Kind) :
    store.kept.filter (·.kind == kind) = (store.shelf kind).values := by
  have hall := store.filter_kept (· == kind) fun _ => true
  have honly : Kind.all.filter (· == kind) = [kind] := by
    cases kind <;> rfl
  simp only [Bool.and_true, List.filter_true, honly, List.flatMap_singleton] at hall
  exact hall

/-- The identifiers on a shelf are those of its artifacts. -/
theorem Numbered.map_id_values (h : store.Numbered kind) :
    (store.shelf kind).values.map Artifact.id = (store.shelf kind).entries.map (·.1) := by
  rw [Table.values, List.map_map]
  exact List.map_congr_left fun entry hentry => h.id_eq hentry

/-- **No two artifacts that are kept** have the same identifier, not even two of different kinds,
since every identifier was new when it was drawn. -/
theorem Reachable.nodup_kept (hstore : Reachable store) : (store.kept.map Artifact.id).Nodup := by
  rw [kept, List.map_flatMap, List.nodup_flatMap]
  constructor
  · intro kind _
    rw [(hstore.numbered kind).map_id_values]
    exact (hstore.numbered kind).nodup_ids
  · have hall : Kind.all.Nodup := by decide
    refine hall.pairwise_of_forall_ne fun kind _ other _ hne id hid hother => ?_
    obtain ⟨artifact, hartifact, rfl⟩ := List.mem_map.1 hid
    obtain ⟨same, hsame, hsameId⟩ := List.mem_map.1 hother
    have hregister := (hstore.numbered other).mem_register hsame
    rw [hsameId] at hregister
    exact hne (hstore.apart kind other _ ((hstore.numbered kind).mem_register hartifact) hregister)

/-- **What is kept after a run** from the beginning is what was created, kind by kind and in the order
of the creations. -/
theorem map_identity_kept {users : List User} {prompts : List Prompt} {steps : List Step}
    (hrun : (initial users prompts).FreshRun steps) :
    ((initial users prompts).run steps).kept.map Artifact.identity =
      Kind.all.flatMap fun kind =>
        ((initial users prompts).creationsOf kind steps).map Artifact.identity := by
  rw [kept, List.map_flatMap]
  refine List.flatMap_congr fun kind _ => ?_
  have hregister := congrArg (List.map (·.2)) (register_run_initial hrun kind)
  rw [register, newEntries, List.map_map, List.map_map] at hregister
  rw [Table.values, List.map_map]
  exact hregister

/-! ## Whatever the order of the records -/

/-- Records told as artifacts are sorted by the same references. -/
theorem map_toHit_sorted {α : Type} [Referenced α] (table : Table α) (tell : α → Artifact)
    (htell : ∀ a, (tell a).reference = Referenced.reference a) :
    (table.map tell).sorted.map Artifact.toHit = table.sorted.map fun a => (tell a).toHit := by
  rw [Table.sorted_map tell htell, List.map_map]
  rfl

/-- **The candidates of a search** are a shelf, sorted. The proof goes through the kinds, each of
which has its own table. -/
theorem candidates_eq (store : Store) (kind : Kind) :
    store.candidates kind = (store.shelf kind).sorted.map Artifact.toHit := by
  cases kind with
  | epic =>
    exact (map_toHit_sorted store.epics (fun e => .entity (.epic e)) fun _ => rfl).symm
  | userStory =>
    exact (map_toHit_sorted store.stories (fun s => .entity (.story s)) fun _ => rfl).symm
  | acceptanceCriteria =>
    exact (map_toHit_sorted store.criteria (fun c => .entity (.criteria c)) fun _ => rfl).symm
  | requirement =>
    exact (map_toHit_sorted store.requirements (fun r => .entity (.requirement r)) fun _ => rfl).symm
  | steeringDocument =>
    exact (map_toHit_sorted store.documents .document fun _ => rfl).symm

/-- What is on the shelf of the steering documents. -/
theorem map_document_values (store : Store) :
    store.documents.values.map Artifact.document = (store.shelf .steeringDocument).values := by
  rw [shelf, Table.values, Table.values, Table.map, List.map_map, List.map_map]
  rfl

/-- **The steering documents** are listed in the order in which they are kept. -/
theorem Numbered.documents_of_perm (h : store.Numbered .steeringDocument)
    (hissued : store.issued.get .steeringDocument ≤ Reference.maxNumber)
    (hperm : (other.shelf .steeringDocument).entries.Perm (store.shelf .steeringDocument).entries) :
    other.documents.sorted = store.documents.values := by
  have hsorted := h.sorted_of_perm hissued hperm
  rw [shelf, Table.sorted_map Artifact.document fun _ => rfl, ← map_document_values] at hsorted
  exact List.map_injective_iff.2 (fun _ _ h => Artifact.document.inj h) hsorted

/-- **The hits of a search** are what it finds of all that is kept, in this order and in no other
one. -/
theorem hits_of_perm (hnumbered : ∀ kind, store.Numbered kind)
    (hissued : ∀ kind, store.issued.get kind ≤ Reference.maxNumber)
    (hperm : ∀ kind, (other.shelf kind).entries.Perm (store.shelf kind).entries)
    (query : String) (kinds : List Kind) :
    other.hits query kinds = (store.kept.filter (·.foundBy query kinds)).map Artifact.toHit := by
  have hfound := store.filter_kept (fun kind => kinds.isEmpty || kinds.contains kind)
    fun artifact => artifact.toHit.matches (needleOf query)
  change store.kept.filter (·.foundBy query kinds) = _ at hfound
  rw [hfound, List.map_flatMap, hits, searchedKinds]
  refine List.flatMap_congr fun kind _ => ?_
  rw [candidates_eq, (hnumbered kind).sorted_of_perm (hissued kind) (hperm kind), List.filter_map]
  rfl

/-- **In which order kinds are asked for**, and how often each of them, does not matter, since the
search goes through all kinds in its own order. -/
theorem searchedKinds_congr {kinds others : List Kind} (h : ∀ kind, kind ∈ kinds ↔ kind ∈ others) :
    searchedKinds kinds = searchedKinds others := by
  have hempty : kinds.isEmpty = others.isEmpty := by
    rw [Bool.eq_iff_iff, List.isEmpty_iff, List.isEmpty_iff, List.eq_nil_iff_forall_not_mem,
      List.eq_nil_iff_forall_not_mem]
    exact forall_congr' fun kind => not_congr (h kind)
  refine List.filter_congr fun kind _ => ?_
  simp only [hempty, List.contains_eq_mem, h kind]

/-! ## Listed -/

/-- **Is a store listed** completely, when `asked` is asked for each of the pages? The stores that
are asked may keep their records in other orders, one for each page. -/
structure Listed (store : Store) (asked : Window → Store) (stamps : Window → Stamp) (limit : Nat) :
    Prop where
  /-- The artifacts of a kind are listed. -/
  entities : ∀ kind ∈ Kind.resources,
    (store.artifacts kind).map Artifact.entity = store.kept.filter (·.kind == kind) ∧
      Paged (fun window => ((asked window).perform (stamps window) (.listEntities kind window)).answer)
        Entity.id limit (store.artifacts kind)
  /-- What is found is listed, of whatever kinds. -/
  hits : ∀ query kinds,
    Paged (fun window => ((asked window).perform (stamps window) (.search query kinds window)).answer)
      SearchHit.id limit ((store.kept.filter (·.foundBy query kinds)).map Artifact.toHit)
  /-- The steering documents are listed, by whatever query and creator. -/
  documents : store.documents.values.map Artifact.document =
      store.kept.filter (·.kind == .steeringDocument) ∧
    ∀ query creator, Paged
      (fun window =>
        ((asked window).perform (stamps window) (.listDocuments query creator window)).answer)
      SteeringDocument.id limit
      (store.documents.values.filter (listsDocument (needleOf query) creator))
  /-- The order of the kinds and how often they come make no difference. -/
  anyKinds : ∀ query kinds others, (∀ kind, kind ∈ kinds ↔ kind ∈ others) → ∀ window,
    ((asked window).perform (stamps window) (.search query kinds window)).answer =
      ((asked window).perform (stamps window) (.search query others window)).answer

/-- What is listed of a store that is reachable and not too large is read page by page. -/
theorem Reachable.paged (hstore : Reachable store) (hfew : store.kept.length < Nat.pow 2 32)
    {limit : Nat} (hlimit : 1 ≤ limit) (hmax : limit ≤ Window.maxLimit) {α : Type}
    {ask : Window → Except Failure (Page α)} {id : α → Uuid} {items : List α}
    (hask : ∀ window, ask window = .ok (window.apply items))
    (hids : (items.map id).Sublist (store.kept.map Artifact.id)) : Paged ask id limit items := by
  have hlength := hids.length_le
  rw [List.length_map, List.length_map] at hlength
  exact .of_apply hlimit hmax (Nat.lt_of_le_of_lt hlength hfew) hask (hids.nodup hstore.nodup_kept)

/-- **A store is listed completely** if it is reachable and not too large, in whatever order its
records are kept. Each of the three listings is cut out of a part of `kept`. -/
theorem Reachable.listed (hstore : Reachable store) (hfew : store.kept.length < Nat.pow 2 32)
    {limit : Nat} (hlimit : 1 ≤ limit) (hmax : limit ≤ Window.maxLimit) {asked : Window → Store}
    (hasked : ∀ window kind, ((asked window).shelf kind).entries.Perm (store.shelf kind).entries)
    (stamps : Window → Stamp) : store.Listed asked stamps limit := by
  have hissued : ∀ kind, store.issued.get kind ≤ Reference.maxNumber := by
    intro kind
    -- a shelf has no more artifacts than the whole store, so that all its numbers can be read
    have hbound : Nat.pow 2 32 ≤ Reference.maxNumber := by decide
    rw [← (hstore.numbered kind).length_values]
    exact ((store.sublist_kept kind).length_le.trans_lt hfew).le.trans hbound
  have hdocuments : store.documents.values.map Artifact.document =
      (store.shelf .steeringDocument).values := store.map_document_values
  refine ⟨?_, ?_, ⟨?_, ?_⟩, ?_⟩
  · intro kind hkind
    have hartifacts := store.map_artifacts hkind
    refine ⟨hartifacts.trans (store.filter_kind_kept kind).symm, ?_⟩
    apply hstore.paged hfew hlimit hmax
    · intro window
      have hentities := (hstore.numbered kind).entities_of_perm hkind (hissued kind)
        (hasked window kind)
      rw [perform, hentities]
      rfl
    · have hids := (store.sublist_kept kind).map Artifact.id
      rw [← hartifacts, List.map_map] at hids
      rwa [← List.map_congr_left fun entity _ => entity.identity_id]
  · intro query kinds
    apply hstore.paged hfew hlimit hmax
    · intro window
      rw [perform, search, hits_of_perm hstore.numbered hissued (hasked window)]
      rfl
    · rw [List.map_map, List.map_congr_left fun artifact _ => artifact.id_toHit]
      exact List.filter_sublist.map Artifact.id
  · rw [hdocuments, filter_kind_kept]
  · intro query creator
    apply hstore.paged hfew hlimit hmax
    · intro window
      rw [perform, listDocuments,
        (hstore.numbered _).documents_of_perm (hissued _) (hasked window _)]
      rfl
    · have hids := (store.sublist_kept .steeringDocument).map Artifact.id
      rw [← hdocuments, List.map_map] at hids
      exact (List.filter_sublist.map SteeringDocument.id).trans hids
  · intro query kinds others hsame window
    rw [perform, perform, search, search, hits, hits, searchedKinds_congr hsame]

/-- **Listings are complete.** After any run from the beginning that leaves fewer records than offsets
can count, and for every limit that may be asked for, the pages of the artifacts of a kind, of a
search and of the steering documents give all that is to be listed, each of it once: kind by kind, and
within a kind in the order of the creations. Every page tells how many there are in all. Neither the
order in which the records are kept, which may be another one for each of the pages, nor the order of
the kinds makes any difference. -/
theorem listings_are_complete (users : List User) (prompts : List Prompt) {steps : List Step}
    (hrun : (initial users prompts).FreshRun steps)
    (hfew : ((initial users prompts).run steps).kept.length < Nat.pow 2 32)
    {limit : Nat} (hlimit : 1 ≤ limit) (hmax : limit ≤ 100) {asked : Window → Store}
    (hasked : ∀ window kind, ((asked window).shelf kind).entries.Perm
      (((initial users prompts).run steps).shelf kind).entries)
    (stamps : Window → Stamp) :
    ((initial users prompts).run steps).Listed asked stamps limit ∧
      (((initial users prompts).run steps).kept.map Artifact.id).Nodup ∧
      ((initial users prompts).run steps).kept.map Artifact.identity =
        Kind.all.flatMap fun kind =>
          ((initial users prompts).creationsOf kind steps).map Artifact.identity := by
  have hstore := (Reachable.initial users prompts).run hrun
  exact ⟨hstore.listed hfew hlimit hmax hasked stamps, hstore.nodup_kept, map_identity_kept hrun⟩

/-- The two epics of `twoEpics` and a steering document, so that a search finds more than one kind.
-/
def mixedRun : List Step :=
  twoEpics ++ [⟨.createDocument "Search terms" none (Stamp.nth 0).id, .nth 4⟩]

/-- A search is put together from pages with one hit each, all but the first of which come from a
store that keeps its epics the other way round. -/
theorem listings_are_complete_mixed :
    let store := (initial [] []).run mixedRun
    let turned : Store := { store with epics := ⟨store.epics.entries.reverse⟩ }
    let asked : Window → Store := fun window => if window.offset = 0 then store else turned
    turned ≠ store ∧ store.kept.map Artifact.reference = ["EP-001", "EP-002", "STD-001"] ∧
      store.Listed asked (fun _ => .nth 9) 1 ∧
      ∃ pages : List (Page SearchHit),
        (Window.through 1 2).mapM (fun window => ((asked window).perform (.nth 9)
          (.search " SEARCH " [.steeringDocument, .epic, .epic] window)).answer) = .ok pages ∧
        (pages.flatMap Page.data).map SearchHit.reference = ["EP-001", "STD-001"] := by
  intro store turned asked
  have hrun : (initial [] []).FreshRun mixedRun := by decide +kernel
  have hfew : store.kept.length < Nat.pow 2 32 := by decide +kernel
  have hturned : ∀ kind, (turned.shelf kind).entries.Perm (store.shelf kind).entries := by
    intro kind
    cases kind with
    | epic =>
      exact (List.reverse_perm store.epics.entries).map fun entry =>
        (entry.1, Artifact.entity (.epic entry.2))
    | _ => exact .refl _
  have hasked : ∀ window kind,
      ((asked window).shelf kind).entries.Perm (store.shelf kind).entries := by
    intro window kind
    dsimp only [asked]
    split
    · exact .refl _
    · exact hturned kind
  obtain ⟨hlisted, -, -⟩ := listings_are_complete [] [] hrun hfew (Nat.le_refl 1)
    (by decide : 1 ≤ 100) hasked fun _ => .nth 9
  obtain ⟨pages, hpages, hdata⟩ :=
    (hlisted.hits " SEARCH " [.steeringDocument, .epic, .epic]).joined
  have hcount : ((store.kept.filter (·.foundBy " SEARCH "
      [.steeringDocument, .epic, .epic])).map Artifact.toHit).length = 2 := by decide +kernel
  rw [hcount] at hpages
  refine ⟨by decide +kernel, by decide +kernel, hlisted, pages, hpages, ?_⟩
  rw [hdata]
  decide +kernel

end Store

end Planroom
