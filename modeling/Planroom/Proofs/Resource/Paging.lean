import Planroom.Proofs.Resource.Listing
import Planroom.Proofs.Work.Course

/-!
# A listing among others

Between the pages of a listing others have their turns, so that each page is one of another store.
Nothing is lost or told twice for that, since artifacts are only added, and those that are added come
after all others of their kind.

* **A page** — `page_course`: a page is fetched in a store that others have left, or waiting for it is
  given up.
* **A kind** — `listFrom_course`: the pages of a kind together tell what there is of it at the turn in
  which the last one is fetched. What the pages before had to tell has not moved since then.
* **Cut short** — `CutShort`: there is no result when the listing is told to stop, or when there are
  more artifacts of a kind than offsets can reach.
* **All kinds** — `Faithful`: what was there at the beginning is told once, and what has been added in
  between comes in its place.
-/

namespace Planroom.Resource

open Job

variable {β : Type} {guarding : Option (Guard Failure)} {world : World} {moments rest : List Moment}
  {fate : Fate Failure β} {kind : Kind} {moves offset : Nat} {entities : List Entity} {store : Store}

/-- **How a listing is cut short.** Either way there is no result at all; what had been told of the
pages before is not handed out. -/
inductive CutShort (guarding : Option (Guard Failure)) (moments : List Moment) :
    Fate Failure β → Prop where
  | stopped {g : Guard Failure} (hguard : guarding = some g) (stop : Stop) :
      CutShort guarding moments (.returned (.error (g.stopped stop)))
  | overflow {kind : Kind} {moment : Moment} (hmoment : moment ∈ moments)
      (hmany : maxListed < (moment.world.store.identities kind).length) :
      CutShort guarding moments (.aborted .listingOverflow)

theorem CutShort.of_suffix (h : CutShort guarding rest fate) (hrest : rest <:+ moments) :
    CutShort guarding moments fate := by
  cases h with
  | stopped hguard stop => exact .stopped hguard stop
  | overflow hmoment hmany => exact .overflow (hrest.subset hmoment) hmany

/-! ## One page -/

/-- **A page is fetched**, or waiting for it is given up. The store that the page is cut out of is
the one that the turn has met, which is a later one than the listing had begun with. -/
theorem page_course (hkind : kind ∈ Kind.resources) {next : Page Entity → Job Failure β}
    (hcourse : Course (((ask (.listEntities kind ⟨pageSize, offset⟩)).bind next).under guarding)
      world moments fate) :
    (∃ moment later rest entities, moments = moment :: rest ∧ world.Meanwhile later ∧
      moment.world.store = later.store ∧ later.store.entities kind = .ok entities ∧
      Course ((next (pageAt entities offset)).under guarding) later rest fate) ∨
    CutShort guarding moments fate := by
  obtain ⟨later, stamp, rest, htime, rfl, -, hrest⟩ | ⟨later, stop, g, -, rfl, hguard, rfl⟩ :=
    Course.of_access_under hcourse
  · obtain ⟨entities, hentities, -⟩ := Store.exists_entities hkind later.store
    have hread : (Access.listEntities kind ⟨pageSize, offset⟩).isWrite = false := rfl
    have hanswer : (later.answered stamp (.listEntities kind ⟨pageSize, offset⟩)).answer =
        .ok (pageAt entities offset) := answer_listEntities hentities offset stamp
    rw [hanswer] at hrest
    have hstore : (later.answered stamp (.listEntities kind ⟨pageSize, offset⟩)).world.store =
        later.store := World.answered_of_read hread
    refine .inl ⟨_, _, rest, entities, rfl, htime.answered hread stamp, hstore.symm, ?_, hrest⟩
    rw [hstore]
    exact hentities
  · exact .inr (.stopped hguard stop)

/-- As many artifacts are listed as there are. -/
theorem length_of_entities (hkind : kind ∈ Kind.resources)
    (hentities : store.entities kind = .ok entities) :
    entities.length = (store.identities kind).length := by
  obtain ⟨found, hfound, hsorted⟩ := store.exists_entities hkind
  obtain rfl := Except.ok.inj (hentities.symm.trans hfound)
  rw [← List.length_map, hsorted, Table.sorted, List.length_mergeSort, Store.length_identities]

/-- They come in the order of the register, if there are not too many. They are sorted by the
numbers in their references, and a number that is too large to be read would lose its place. -/
theorem identity_of_entities (hkind : kind ∈ Kind.resources) (hstore : Store.Reachable store)
    (hentities : store.entities kind = .ok entities)
    (hcount : (store.identities kind).length ≤ maxListed) :
    entities.map Entity.identity = store.identities kind := by
  rw [Store.length_identities] at hcount
  obtain ⟨hfound, -⟩ := entities_of_perm hkind (hstore.numbered kind) hcount (.refl _)
  obtain rfl := Except.ok.inj (hentities.symm.trans hfound)
  exact Store.map_identity_artifacts hkind store

/-- Registers only grow, and only at their end. This is why a page that has been told need not be
told again. -/
theorem identities_grow {later : World} (h : world.Meanwhile later) (kind : Kind) :
    world.store.identities kind <+: later.store.identities kind :=
  (h.extends.registers kind).map _

/-- What was on a full page stays there, when more is added at the end. -/
theorem take_drop_of_prefix {α : Type} {before after : List α} (h : before <+: after) {k n : Nat}
    (hlength : k + n ≤ before.length) : (after.drop k).take n = (before.drop k).take n := by
  obtain ⟨added, rfl⟩ := h
  rw [List.drop_append_of_le_length (by omega), List.take_append_of_le_length]
  rw [List.length_drop]
  omega

/-- What a page tells of the artifacts of a kind. -/
theorem identity_pageAt (h : entities.map Entity.identity = store.identities kind) :
    (pageAt entities offset).data.map Entity.identity =
      ((store.identities kind).drop offset).take pageSize := by
  rw [data_pageAt, List.map_take, List.map_drop, h]

/-! ## One kind -/

/-- **All pages of a kind were fetched**, from the offset on, and `later` is how the world was left
when the last of them came. Together they tell what a single look at that last turn would have told.
-/
structure Fetched (kind : Kind) (offset : Nat) (world : World) (moments : List Moment)
    (listed : List Entity) (later : World) (rest : List Moment) : Prop where
  remaining : rest <:+ moments
  time : world.Meanwhile later
  last : ∃ moment ∈ moments, moment.world.store = later.store
  fits : (later.store.identities kind).length ≤ maxListed
  told : listed.map Entity.identity = (later.store.identities kind).drop offset

/-- **The last page** tells all that is left, at its own turn. -/
theorem Fetched.of_last {moment : Moment} {later : World} (hkind : kind ∈ Kind.resources)
    (hstore : Store.Reachable world.store) (htime : world.Meanwhile later)
    (hmoment : moment.world.store = later.store)
    (hentities : later.store.entities kind = .ok entities)
    (hlast : entities.length ≤ offset + pageSize) (hfits : offset + pageSize ≤ maxListed) :
    Fetched kind offset world (moment :: rest) (pageAt entities offset).data later rest := by
  have hcount : (later.store.identities kind).length ≤ maxListed := by
    rw [← length_of_entities hkind hentities]
    exact Nat.le_trans hlast hfits
  have hidentity := identity_of_entities hkind (htime.reachable hstore) hentities hcount
  refine ⟨List.suffix_cons _ _, htime, ⟨moment, List.mem_cons_self, hmoment⟩, hcount, ?_⟩
  rw [data_of_last hlast, List.map_drop, hidentity]

/-- **A full page** comes before what the other pages tell. It was cut out of an earlier store, but
what it had to tell has kept its place in the later one. -/
theorem Fetched.cons {moment : Moment} {here later : World} {listed : List Entity}
    {others : List Moment} (hkind : kind ∈ Kind.resources)
    (hstore : Store.Reachable world.store) (htime : world.Meanwhile here)
    (hentities : here.store.entities kind = .ok entities)
    (hmore : offset + pageSize ≤ entities.length)
    (h : Fetched kind (offset + pageSize) here others listed later rest) :
    Fetched kind offset world (moment :: others) ((pageAt entities offset).data ++ listed) later
      rest := by
  have hprefix := identities_grow h.time kind
  have hcount := Nat.le_trans hprefix.length_le h.fits
  have hidentity := identity_of_entities hkind (htime.reachable hstore) hentities hcount
  rw [length_of_entities hkind hentities] at hmore
  obtain ⟨last, hlast, hsame⟩ := h.last
  refine ⟨h.remaining.trans (List.suffix_cons _ _), htime.trans h.time,
    ⟨last, List.mem_cons_of_mem _ hlast, hsame⟩, h.fits, ?_⟩
  -- the page is the same when it is cut out of what there is in the end
  rw [List.map_append, h.told, identity_pageAt hidentity, ← take_drop_of_prefix hprefix hmore,
    ← List.drop_drop, List.take_append_drop]

/-- **The pages of a kind among others** are fetched to the end, unless the listing is cut short.
Where the offset cannot be moved on any more, there are more artifacts than it can reach. The
induction is on the moves that are left, and the world and the turns change with every page. -/
theorem listFrom_course (hkind : kind ∈ Kind.resources) {next : List Descriptor → Job Failure β}
    (hstore : Store.Reachable world.store) (hmoves : offset + pageSize * moves = maxListed)
    (hpassed : moves = 0 → offset < (world.store.identities kind).length)
    (hcourse : Course (((listFrom kind moves offset).bind next).under guarding) world moments fate) :
    (∃ listed later rest, Fetched kind offset world moments listed later rest ∧
      Course ((next (listed.map Descriptor.ofEntity)).under guarding) later rest fate) ∨
    CutShort guarding moments fate := by
  induction moves generalizing world moments offset next with
  | zero =>
    rw [listFrom, bind_eq, Job.bind_assoc] at hcourse
    obtain ⟨moment, later, rest, entities, rfl, htime, hmoment, -, hrest⟩ | hcut :=
      page_course hkind hcourse
    · -- the offset stands at the limit, and the page before this one has told of more
      rw [abort_bind, under_abort] at hrest
      obtain ⟨rfl, rfl⟩ := hrest.of_abort
      have hlength := (identities_grow htime kind).length_le
      have hmany : maxListed < (moment.world.store.identities kind).length := by
        rw [hmoment, ← hmoves]
        exact Nat.lt_of_lt_of_le (hpassed rfl) hlength
      exact .inr (.overflow List.mem_cons_self hmany)
    · exact .inr hcut
  | succ moves ih =>
    rw [Nat.mul_add, Nat.mul_one] at hmoves
    rw [listFrom_bind] at hcourse
    obtain ⟨moment, here, rest, entities, rfl, htime, hmoment, hentities, hrest⟩ | hcut :=
      page_course hkind hcourse
    · by_cases hlast : entities.length ≤ offset + pageSize
      · rw [if_pos ((isLast_iff rfl).2 hlast)] at hrest
        exact .inl ⟨_, here, rest,
          .of_last hkind hstore htime hmoment hentities hlast (by omega), hrest⟩
      · rw [if_neg fun h => hlast ((isLast_iff rfl).1 h)] at hrest
        have hpassed' : moves = 0 → offset + pageSize < (here.store.identities kind).length := by
          intro _
          rw [← length_of_entities hkind hentities]
          exact Nat.lt_of_not_le hlast
        obtain ⟨listed, later, others, hfetched, hothers⟩ | hcut :=
          ih (htime.reachable hstore) (by omega) hpassed' hrest
        · refine .inl ⟨_, later, others,
            hfetched.cons hkind hstore htime hentities (Nat.le_of_not_le hlast), ?_⟩
          rw [List.map_append]
          exact hothers
        · exact .inr (hcut.of_suffix (List.suffix_cons _ _))
    · exact .inr hcut

/-! ## All kinds -/

/-- **A turn at which all of a kind was there** that the listing tells of it. Each kind has a turn
of its own, and there need not be one at which the whole listing was true. -/
def ToldAt (kind : Kind) (start : Store) (moments : List Moment) (listed : List Entity) : Prop :=
  ∃ moment ∈ moments, ∃ others, start.FreshRun others ∧ moment.world.store = start.run others ∧
    listed.map Entity.identity = (start.run others).identities kind

theorem Fetched.toldAt {listed : List Entity} {later : World}
    (h : Fetched kind 0 world moments listed later rest) :
    ToldAt kind world.store moments listed := by
  obtain ⟨others, hothers, hlater⟩ := h.time.others
  obtain ⟨moment, hmoment, hsame⟩ := h.last
  refine ⟨moment, hmoment, others, hothers, hsame.trans hlater, ?_⟩
  rw [h.told, List.drop_zero, hlater]

/-- What is told later was also told in the course of the whole listing. -/
theorem ToldAt.earlier {listed : List Entity} {later : World}
    (h : ToldAt kind later.store rest listed) (htime : world.Meanwhile later)
    (hrest : rest <:+ moments) : ToldAt kind world.store moments listed := by
  obtain ⟨before, hbefore, hlater⟩ := htime.others
  obtain ⟨moment, hmoment, others, hothers, hstore, htold⟩ := h
  rw [hlater] at hothers hstore htold
  rw [← Store.run_append] at hstore htold
  exact ⟨moment, hrest.subset hmoment, before ++ others, hbefore.append hothers, hstore, htold⟩

/-- **Kind after kind.** Each kind is told as of the end of its own pages, and the next kind starts
from there. -/
theorem listKinds_course {kinds : List Kind} (hkinds : ∀ kind ∈ kinds, kind ∈ Kind.resources)
    (hnodup : kinds.Nodup) {next : List Descriptor → Job Failure β}
    (hstore : Store.Reachable world.store)
    (hcourse : Course (((listKinds kinds).bind next).under guarding) world moments fate) :
    (∃ listed : Kind → List Entity, ∃ later rest,
      (∀ kind ∈ kinds, ToldAt kind world.store moments (listed kind)) ∧
      Course ((next (kinds.flatMap fun kind => (listed kind).map Descriptor.ofEntity)).under
        guarding) later rest fate) ∨
    CutShort guarding moments fate := by
  induction kinds generalizing world moments next with
  | nil => exact .inl ⟨fun _ => [], world, moments, List.forall_mem_nil _, hcourse⟩
  | cons kind kinds ih =>
    rw [List.forall_mem_cons] at hkinds
    rw [List.nodup_cons] at hnodup
    rw [listKinds, bind_eq, Job.bind_assoc] at hcourse
    have hmoves : 0 + pageSize * maxMoves = maxListed := Nat.zero_add _
    have hpassed : maxMoves = 0 → 0 < (world.store.identities kind).length :=
      fun h => absurd h (by decide)
    obtain ⟨here, later, rest, hfetched, hrest⟩ | hcut :=
      listFrom_course hkinds.1 hstore hmoves hpassed hcourse
    · rw [bind_eq, Job.bind_assoc] at hrest
      obtain ⟨listed, last, others, htold, hothers⟩ | hcut :=
        ih hkinds.2 hnodup.2 (hfetched.time.reachable hstore) hrest
      · -- what is told of this kind goes before what is told of the others
        have hother : ∀ other ∈ kinds, Function.update listed kind here other = listed other := by
          rintro other hother
          refine Function.update_of_ne ?_ _ _
          rintro rfl
          exact hnodup.1 hother
        refine .inl ⟨Function.update listed kind here, last, others, ?_, ?_⟩
        · rw [List.forall_mem_cons, Function.update_self]
          refine ⟨hfetched.toldAt, fun other hmem => ?_⟩
          rw [hother other hmem]
          exact (htold other hmem).earlier hfetched.time hfetched.remaining
        · rw [List.flatMap_cons, Function.update_self,
            List.flatMap_congr fun other hmem => by rw [hother other hmem]]
          exact hothers
      · exact .inr (hcut.of_suffix hfetched.remaining)
    · exact .inr hcut

/-! ## The result -/

section Result

variable {users : List User} {prompts : List Prompt} {steps : List Step}

/-- **Is this a faithful listing** of a store that a run from the beginning has led to, with turns of
others in between? -/
structure Faithful (users : List User) (prompts : List Prompt) (steps : List Step)
    (moments : List Moment) (listed : Kind → List Entity) : Prop where
  /-- Of each kind it tells what was created before and until one of its turns, in order. -/
  created : ∀ kind ∈ Kind.resources, ∃ moment ∈ moments, ∃ others,
    ((Store.initial users prompts).run steps).FreshRun others ∧
    moment.world.store = ((Store.initial users prompts).run steps).run others ∧
    Created kind ((Store.initial users prompts).creationsOf kind (steps ++ others)) (listed kind)
  /-- What was there at the beginning it tells once. -/
  once : ∀ entity, ((Store.initial users prompts).run steps).Holds entity →
    ((listed entity.kind).map Entity.identity).count entity.identity = 1 ∧
      ((descriptors listed).map Descriptor.uri).count (Descriptor.ofEntity entity).uri = 1
  /-- It tells nothing twice. -/
  distinct : ((descriptors listed).map Descriptor.uri).Nodup

/-- What is told at a turn was created until then, by the run that led to the start or by those who
had turns in between. -/
theorem ToldAt.created {listed : List Entity} (hrun : (Store.initial users prompts).FreshRun steps)
    (h : ToldAt kind ((Store.initial users prompts).run steps) moments listed) :
    ∃ moment ∈ moments, ∃ others, ((Store.initial users prompts).run steps).FreshRun others ∧
      moment.world.store = ((Store.initial users prompts).run steps).run others ∧
      Created kind ((Store.initial users prompts).creationsOf kind (steps ++ others)) listed := by
  obtain ⟨moment, hmoment, others, hothers, hstore, htold⟩ := h
  rw [← Store.run_append] at htold
  exact ⟨moment, hmoment, others, hothers, hstore,
    .of_register (hrun.append hothers) htold⟩

/-- What was there at the beginning is still told. Artifacts are never taken away. -/
theorem ToldAt.mem {listed : List Entity} {entity : Entity}
    (h : ToldAt entity.kind store moments listed) (hholds : store.Holds entity) :
    entity.identity ∈ listed.map Entity.identity := by
  obtain ⟨moment, -, others, hothers, -, htold⟩ := h
  have hprefix := (Store.Extends.of_run hothers).registers entity.kind |>.map Prod.snd
  rw [htold]
  refine hprefix.subset ?_
  have hmem : entity ∈ store.artifacts entity.kind := Store.mem_artifacts_iff.2 hholds
  have hidentity := Store.map_identity_artifacts entity.kind_mem_resources store
  rw [Store.identities] at hidentity
  rw [← hidentity]
  exact List.mem_map_of_mem hmem

/-- The address of what is told of a kind is in the listing. -/
theorem uri_mem {listed : Kind → List Entity} {entity : Entity}
    (h : entity.identity ∈ (listed entity.kind).map Entity.identity) :
    (Descriptor.ofEntity entity).uri ∈ (descriptors listed).map Descriptor.uri := by
  obtain ⟨told, htold, hsame⟩ := List.mem_map.1 h
  have hkind : told.kind = entity.kind := by
    rw [← told.identity_kind, hsame, entity.identity_kind]
  have huri : (Descriptor.ofEntity told).uri = (Descriptor.ofEntity entity).uri := by
    rw [Descriptor.ofEntity, Descriptor.ofEntity, hkind, Entity.reference_of_identity hsame]
  rw [← huri]
  refine List.mem_map_of_mem (List.mem_append_right _ ?_)
  exact List.mem_flatMap.2 ⟨entity.kind, entity.kind_mem_resources, List.mem_map_of_mem htold⟩

/-- **Nothing is lost or told twice when others have turns between the pages.** A listing that starts
in a store to which a run from the beginning has led, and takes its turns among those of others, ends
with a faithful listing, unless it is cut short. -/
theorem list_among_others (users : List User) (prompts : List Prompt) {steps : List Step}
    {guarding : Option (Guard Failure)} {world : World} {moments : List Moment}
    {fate : Fate Failure (List Descriptor)}
    (hrun : (Store.initial users prompts).FreshRun steps)
    (hworld : world.store = (Store.initial users prompts).run steps)
    (hcourse : Course (list.under guarding) world moments fate) :
    (∃ listed, fate = .returned (.ok (descriptors listed)) ∧
      Faithful users prompts steps moments listed) ∨
    CutShort guarding moments fate := by
  have hstore : Store.Reachable world.store := by
    rw [hworld]
    exact (Store.Reachable.initial users prompts).run hrun
  have hresources : Kind.resources.Nodup := by decide
  rw [list, bind_eq] at hcourse
  obtain ⟨listed, later, rest, htold, hrest⟩ | hcut :=
    listKinds_course (fun _ hkind => hkind) hresources hstore hcourse
  · rw [pure_eq, under_done] at hrest
    obtain ⟨-, rfl⟩ := hrest.of_done
    rw [hworld] at htold
    have hcreated := fun kind hkind => (htold kind hkind).created hrun
    have hmade : ∀ kind ∈ Kind.resources, ∃ made, Created kind made (listed kind) := by
      intro kind hkind
      obtain ⟨-, -, others, -, -, h⟩ := hcreated kind hkind
      exact ⟨_, h⟩
    have hdistinct := nodup_uris hmade
    refine .inl ⟨listed, rfl, hcreated, fun entity hholds => ?_, hdistinct⟩
    have hmem := (htold entity.kind entity.kind_mem_resources).mem hholds
    obtain ⟨made, hkind⟩ := hmade entity.kind entity.kind_mem_resources
    have hids : ((listed entity.kind).map Entity.identity).Nodup := by
      refine List.Nodup.of_map Identity.id ?_
      rw [List.map_map, List.map_congr_left fun entity _ => entity.identity_id]
      exact hkind.distinct
    exact ⟨List.count_eq_one_of_mem hids hmem, List.count_eq_one_of_mem hdistinct (uri_mem hmem)⟩
  · exact .inr hcut

/-- **A kind that fits on one page** takes one turn. It is what the example of a listing is put
together from. -/
theorem course_listKinds_cons {kinds : List Kind} {next : List Descriptor → Job Failure β}
    {later : World} (stamp : Stamp) (htime : world.Meanwhile later)
    (hentities : later.store.entities kind = .ok entities) (hlength : entities.length ≤ pageSize)
    (hrest : Course ((listKinds kinds).bind fun others =>
      next (entities.map Descriptor.ofEntity ++ others))
      (later.answered stamp (.listEntities kind ⟨pageSize, 0⟩)).world rest fate) :
    Course ((listKinds (kind :: kinds)).bind next) world
      (.served (.listEntities kind ⟨pageSize, 0⟩) stamp later :: rest) fate := by
  have hpositive : maxMoves ≠ 0 := by decide
  obtain ⟨moves, hmoves⟩ := Nat.exists_eq_succ_of_ne_zero hpositive
  have hanswer : (later.answered stamp (.listEntities kind ⟨pageSize, 0⟩)).answer =
      .ok (pageAt entities 0) := answer_listEntities hentities 0 stamp
  have hlast : entities.length ≤ 0 + pageSize := by rwa [Nat.zero_add]
  rw [listKinds, bind_eq, Job.bind_assoc, hmoves, listFrom_bind]
  refine .access htime ?_
  rw [hanswer]
  change Course (if _ then _ else _) _ rest fate
  rw [if_pos ((isLast_iff rfl).2 hlast), data_of_last hlast,
    List.drop_zero, bind_eq, Job.bind_assoc]
  exact hrest

/-- What others do after the first page: an epic comes too late to be told, a story does not. -/
def meanwhile : List Step :=
  [⟨.createEpic ⟨"Index", none, .high, (Stamp.nth 0).id, none⟩, .nth 4⟩,
    ⟨.createStory (Stamp.nth 1).id ⟨"Find a page", none, .high, (Stamp.nth 0).id, none⟩, .nth 5⟩]

/-- A listing of two epics during which others create a third one and a story. -/
theorem list_among_others_meanwhile :
    let start := (Store.initial [] []).run Store.twoEpics
    let turn (kind : Kind) (store : Store) (n : Nat) : Moment :=
      .served (.listEntities kind ⟨pageSize, 0⟩) (.nth 9) ⟨store, 0, n⟩
    ∃ listed, (descriptors listed).map Descriptor.uri =
        ["requirements://epics", "requirements://user-stories",
          "requirements://acceptance-criteria", "requirements://requirements",
          "requirements://epics/EP-001", "requirements://epics/EP-002",
          "requirements://user-stories/US-001"] ∧
      Faithful [] [] Store.twoEpics
        [turn .epic start 0, turn .userStory (start.run meanwhile) 1,
          turn .acceptanceCriteria (start.run meanwhile) 2,
          turn .requirement (start.run meanwhile) 3] listed := by
  intro start turn
  have hfresh : (Store.initial [] []).FreshRun Store.twoEpics := by decide +kernel
  have hmeanwhile : start.FreshRun meanwhile := by decide +kernel
  have hstart : Store.Reachable start := (Store.Reachable.initial [] []).run hfresh
  have hepics := (entities_of_perm (by decide) (hstart.numbered .epic) (by decide +kernel)
    (.refl _)).1
  have hothers : ∀ kind ∈ Kind.resources, (start.run meanwhile).entities kind =
      .ok ((start.run meanwhile).artifacts kind) := by
    intro kind hkind
    have hfew : ∀ kind ∈ Kind.resources,
        ((start.run meanwhile).shelf kind).values.length ≤ maxListed := by decide +kernel
    exact (entities_of_perm hkind ((hstart.run hmeanwhile).numbered kind) (hfew kind hkind)
      (.refl _)).1
  let told (kind : Kind) := (if kind = .epic then start else start.run meanwhile).artifacts kind
  have hcourse : Course (list.under none) ⟨start, 0, 0⟩
      [turn .epic start 0, turn .userStory (start.run meanwhile) 1,
        turn .acceptanceCriteria (start.run meanwhile) 2,
        turn .requirement (start.run meanwhile) 3] (.returned (.ok (descriptors told))) := by
    rw [list, bind_eq]
    refine course_listKinds_cons _ (.refl _) hepics (by decide +kernel) ?_
    refine course_listKinds_cons _ ⟨Nat.le_refl _, meanwhile, hmeanwhile, rfl⟩
      (hothers .userStory (by decide)) (by decide +kernel) ?_
    refine course_listKinds_cons _ (.refl _) (hothers .acceptanceCriteria (by decide))
      (by decide +kernel) ?_
    refine course_listKinds_cons _ (.refl _) (hothers .requirement (by decide))
      (by decide +kernel) ?_
    exact .done _ _
  obtain ⟨listed, hlisted, hfaithful⟩ | hcut := list_among_others [] [] hfresh rfl hcourse
  · refine ⟨listed, ?_, hfaithful⟩
    rw [← Except.ok.inj (Fate.returned.inj hlisted)]
    decide +kernel
  · cases hcut

end Result

end Planroom.Resource
