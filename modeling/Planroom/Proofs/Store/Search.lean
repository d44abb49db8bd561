import Planroom.Proofs.Store.Pages
import Planroom.Proofs.Text.Lowercase

/-!
# What a search finds

A query is compared in lower case with the texts of an artifact, which are put into lower case each
by itself.

* **Matching** — `matches_iff`: an artifact matches when the query stands in one of its texts, and
  it is a hit when it matches and is of a kind that is looked at (`mem_hits_iff`).
* **Shown** — `Shown`: an item has a place in a listing, and every page that goes over this place
  shows it.
* **Literally** — a query that stands in a text as it is written is found there, unless a capital
  sigma of it takes another form there. The same query is not found in a longer word.
* **Documents** — the search for steering documents and the listing of them are two ways of asking
  the same (`document_search_is_listing`).
-/

namespace Planroom

/-! ## Matching -/

/-- The texts of a card. What it has beside them, such as its state, is not searched. -/
def Card.texts (card : Card) : List String :=
  card.reference :: card.title :: card.description.toList

/-- **The texts of an artifact**: its reference, its title and its description, as far as it has
them. It is told without the hits, which have some texts twice. -/
def Artifact.texts : Artifact → List String
  | .entity (.epic e) => e.card.texts
  | .entity (.story s) => s.card.texts
  | .entity (.criteria c) => [c.reference, c.description]
  | .entity (.requirement r) => r.card.texts
  | .document d => d.reference :: d.title :: d.description.toList

/-- A hit matches by one of its texts. -/
theorem SearchHit.matches_iff {needle : String} {hit : SearchHit} :
    hit.matches needle = true ↔
      ∃ text ∈ hit.reference :: hit.title :: hit.description.toList,
        standsIn needle text = true := by
  rw [SearchHit.matches]
  cases hit.description with
  | none => simp [standsIn?]
  | some description => simp [standsIn?, or_assoc]

/-- **An artifact matches** by one of its texts. Acceptance criteria show their reference as their
title as well, which adds no text. -/
theorem Artifact.matches_iff {needle : String} {artifact : Artifact} :
    artifact.toHit.matches needle = true ↔
      ∃ text ∈ artifact.texts, standsIn needle text = true := by
  rw [SearchHit.matches_iff]
  rcases artifact with (e | s | c | r) | d
  · exact Iff.rfl
  · exact Iff.rfl
  · -- criteria go by their reference
    simp [toHit, Criteria.toHit, texts]
  · exact Iff.rfl
  · exact Iff.rfl

/-- **A text in which the query stands literally** is one in which it is found, if the sigmas agree.
The condition cannot be left out, as `beginning_of_word_is_missed` shows. -/
theorem standsIn_of_literal {query text : String} {before after : List Char}
    (hstands : text.toList = before ++ (Text.trim query).toList ++ after)
    (hagree : Text.SigmasAgree before (Text.trim query).toList after) :
    standsIn (needleOf query) text = true := by
  rw [standsIn, Text.containsText_iff, needleOf, Text.lowercase, Text.lowercase,
    String.toList_ofList, String.toList_ofList, hstands]
  exact Text.lowercase_infix hagree

/-! ## Shown -/

/-- **Is an item shown?** It has a place, and every page that goes over this place shows it. The
place is the same for all windows. -/
def Shown {α : Type} (ask : Window → Except Failure (Page α)) (item : α) : Prop :=
  ∃ place, ∀ window : Window, ∃ page, ask window = .ok page ∧ place < page.total ∧
    (window.offset ≤ place → place < window.offset + window.limit → item ∈ page.data)

/-- What is shown is what is listed, whatever the windows that somebody asks for. -/
theorem shown_iff {α : Type} {ask : Window → Except Failure (Page α)} {items : List α} {item : α}
    (hask : ∀ window, ask window = .ok (window.apply items)) : Shown ask item ↔ item ∈ items := by
  constructor
  · rintro ⟨place, hshown⟩
    -- the page that has one item, and this is the one in the place
    obtain ⟨page, hpage, -, hitem⟩ := hshown ⟨1, place⟩
    rw [hask] at hpage
    cases hpage
    exact List.mem_of_mem_drop (List.mem_of_mem_take (hitem (Nat.le_refl _) (Nat.lt_succ_self _)))
  · intro h
    obtain ⟨place, hplace, rfl⟩ := List.mem_iff_getElem.1 h
    refine ⟨place, fun window => ⟨_, hask window, hplace, fun hfrom hto => ?_⟩⟩
    refine List.mem_iff_getElem.2 ⟨place - window.offset, ?_, ?_⟩
    · simp only [Window.apply, List.length_take, List.length_drop]
      omega
    · simp only [Window.apply, List.getElem_take, List.getElem_drop]
      congr 1
      omega

/-- A page of told items is a page of items, told. -/
theorem Window.apply_map {α β : Type} (window : Window) (tell : α → β) (items : List α) :
    window.apply (items.map tell) = (window.apply items).map tell := by
  simp only [apply, Page.map, List.map_take, List.map_drop, List.length_map]

namespace Store

variable {store : Store} {artifact : Artifact} {query : String} {kinds : List Kind}

/-- **The hits** are the artifacts that are kept, are of a kind that is looked at, and match. It
holds of any store, since here the order of the hits does not matter. -/
theorem mem_hits_iff {hit : SearchHit} :
    hit ∈ store.hits query kinds ↔
      ∃ artifact ∈ store.kept, artifact.foundBy query kinds = true ∧ artifact.toHit = hit := by
  constructor
  · intro h
    obtain ⟨kind, hkind, h⟩ := List.mem_flatMap.1 h
    obtain ⟨h, hmatches⟩ := List.mem_filter.1 h
    rw [candidates_eq] at h
    obtain ⟨artifact, hartifact, rfl⟩ := List.mem_map.1 h
    rw [Table.sorted, List.mem_mergeSort] at hartifact
    obtain rfl : artifact.kind = kind := store.kind_of_mem_values hartifact
    refine ⟨artifact, (store.sublist_kept _).mem hartifact, ?_, rfl⟩
    rw [Artifact.foundBy, (List.mem_filter.1 hkind).2, hmatches]
    rfl
  · rintro ⟨artifact, hkept, hfound, rfl⟩
    obtain ⟨kind, -, hartifact⟩ := List.mem_flatMap.1 hkept
    obtain rfl : artifact.kind = kind := store.kind_of_mem_values hartifact
    rw [Artifact.foundBy, Bool.and_eq_true] at hfound
    refine List.mem_flatMap.2 ⟨artifact.kind, ?_, List.mem_filter.2 ⟨?_, hfound.2⟩⟩
    · exact List.mem_filter.2 ⟨Kind.mem_all _, hfound.1⟩
    · rw [candidates_eq]
      exact List.mem_map_of_mem (List.mem_mergeSort.2 hartifact)

/-- A document is kept if it is in the table of the documents, since it stands on no other shelf. -/
theorem mem_documents_iff {document : SteeringDocument} :
    document ∈ store.documents.values ↔ Artifact.document document ∈ store.kept := by
  have hshelf : Artifact.document document ∈ store.kept ↔
      Artifact.document document ∈ (store.shelf .steeringDocument).values := by
    rw [← filter_kind_kept, List.mem_filter]
    exact ⟨fun h => ⟨h, rfl⟩, fun h => h.1⟩
  rw [hshelf, ← map_document_values]
  exact (List.mem_map_of_injective fun _ _ h => Artifact.document.inj h).symm

/-- **The documents that are listed** whoever made them are those that match. A blank query stands
in every reference. Where the listing lets everything through for it, the search has nothing to look
for. -/
theorem listsDocument_none (needle : String) (document : SteeringDocument) :
    listsDocument needle none document = document.toHit.matches needle := by
  rw [listsDocument, Bool.true_and]
  cases hempty : needle.isEmpty with
  | false => rw [Bool.false_or]
  | true =>
    obtain rfl : needle = "" := String.isEmpty_iff.1 hempty
    have hstands : standsIn "" document.reference = true :=
      Text.containsText_iff.2 List.nil_infix
    have hmatches : document.toHit.matches "" = true :=
      SearchHit.matches_iff.2 ⟨document.reference, List.mem_cons_self, hstands⟩
    rw [hmatches, Bool.true_or]

/-- **What is listed** by whomever are the documents that are kept and match. The sorting neither
adds nor drops any. -/
theorem mem_listed_iff {document : SteeringDocument} :
    document ∈ store.documents.sorted.filter (listsDocument (needleOf query) none) ↔
      Artifact.document document ∈ store.kept ∧
        (Artifact.document document).toHit.matches (needleOf query) = true := by
  rw [List.mem_filter, Table.sorted, List.mem_mergeSort, mem_documents_iff, listsDocument_none]
  exact Iff.rfl

/-- **A search shows** what is found of all that is kept, and this on every page that goes over its
place. -/
theorem shown_search_iff {hit : SearchHit} {stamp : Stamp} :
    Shown (fun window => (store.perform stamp (.search query kinds window)).answer) hit ↔
      ∃ artifact ∈ store.kept, artifact.foundBy query kinds = true ∧ artifact.toHit = hit :=
  (shown_iff fun _ => rfl).trans mem_hits_iff

/-- **A listing shows** the documents that are kept and match, likewise. -/
theorem shown_documents_iff {document : SteeringDocument} {stamp : Stamp} :
    Shown (fun window => (store.perform stamp (.listDocuments query none window)).answer) document ↔
      Artifact.document document ∈ store.kept ∧
        (Artifact.document document).toHit.matches (needleOf query) = true :=
  (shown_iff fun _ => rfl).trans mem_listed_iff

/-! ## Literally -/

/-- **What is literally there is found**, sigmas apart. The query, without the blanks around it,
stands as it is written in the reference, the title or the description of something that is kept,
and a capital sigma of it is the end of a word there exactly if it is one in the query. Then the
search shows it, if it is of a kind that is asked for or no kind is; and if it is a steering
document, the listing of all documents shows it too. -/
theorem literal_text_is_found (store : Store) (hkept : artifact ∈ store.kept) {text : String}
    (htext : text ∈ artifact.texts) {before after : List Char}
    (hstands : text.toList = before ++ (Text.trim query).toList ++ after)
    (hagree : Text.SigmasAgree before (Text.trim query).toList after) (stamp : Stamp) :
    (∀ kinds : List Kind, kinds = [] ∨ artifact.kind ∈ kinds →
      Shown (fun window => (store.perform stamp (.search query kinds window)).answer)
        artifact.toHit) ∧
    ∀ document, artifact = .document document →
      Shown (fun window => (store.perform stamp (.listDocuments query none window)).answer)
        document := by
  have hmatches : artifact.toHit.matches (needleOf query) = true :=
    Artifact.matches_iff.2 ⟨text, htext, standsIn_of_literal hstands hagree⟩
  constructor
  · intro kinds hkinds
    have hwanted : (kinds.isEmpty || kinds.contains artifact.kind) = true := by
      rw [Bool.or_eq_true, List.isEmpty_iff, List.contains_iff_mem]
      exact hkinds
    have hfound : artifact.foundBy query kinds = true := by
      rw [Artifact.foundBy, hwanted, hmatches]
      rfl
    exact shown_search_iff.2 ⟨artifact, hkept, hfound, rfl⟩
  · rintro document rfl
    exact shown_documents_iff.2 ⟨hkept, hmatches⟩

/-- An epic that is called by two words, the second of which ends with a sigma. -/
def roadRun : List Step :=
  [⟨.createEpic ⟨"Η ΟΔΟΣ", none, .high, (Stamp.nth 0).id, none⟩, .nth 1⟩]

/-- The epic after the run. -/
def roadEpic : Epic :=
  { card :=
      { id := (Stamp.nth 1).id
        reference := "EP-001"
        title := "Η ΟΔΟΣ"
        description := none
        priority := .high
        creator := (Stamp.nth 0).id
        assignee := none
        createdAt := (Stamp.nth 1).now
        modifiedAt := (Stamp.nth 1).now }
    status := .backlog }

/-- The second word is found, which ends with a sigma in the title and by itself. -/
theorem literal_text_is_found_word :
    let store := (initial [] []).run roadRun
    let epic := Artifact.entity (.epic roadEpic)
    epic ∈ store.kept ∧ "Η ΟΔΟΣ" ∈ epic.texts ∧ (Text.trim " ΟΔΟΣ ").toList = "ΟΔΟΣ".toList ∧
      Shown (fun window => (store.perform (.nth 9) (.search " ΟΔΟΣ " [.epic] window)).answer)
        epic.toHit := by
  intro store epic
  have hkept : epic ∈ store.kept := by decide +kernel
  have htext : "Η ΟΔΟΣ" ∈ epic.texts := List.mem_cons_of_mem _ List.mem_cons_self
  have htrim : (Text.trim " ΟΔΟΣ ").toList = "ΟΔΟΣ".toList := by decide +kernel
  have hstands : "Η ΟΔΟΣ".toList = ['Η', ' '] ++ (Text.trim " ΟΔΟΣ ").toList ++ [] := by
    decide +kernel
  have hapart : Text.touchesWord ['Η', ' '].reverse = false := by decide +kernel
  have hagree : Text.SigmasAgree ['Η', ' '] (Text.trim " ΟΔΟΣ ").toList [] :=
    Text.sigmasAgree_of_apart hapart rfl _
  obtain ⟨hshown, -⟩ := literal_text_is_found store hkept htext hstands hagree (.nth 9)
  exact ⟨hkept, htext, htrim, hshown [.epic] (.inr List.mem_cons_self)⟩

/-- An epic and a steering document that are called by one word. It begins with the second word of
the epic in `roadRun`. -/
def signpostRun : List Step :=
  [⟨.createEpic ⟨"ΟΔΟΣΗΜΑΝΣΗ", none, .high, (Stamp.nth 0).id, none⟩, .nth 1⟩,
    ⟨.createDocument "ΟΔΟΣΗΜΑΝΣΗ" none (Stamp.nth 0).id, .nth 2⟩]

/-- **A word that begins with another one** is not found by it, neither by the search nor by the
listing of the documents: its sigma is not the end of the word there. -/
theorem beginning_of_word_is_missed :
    let store := (initial [] []).run signpostRun
    Reachable store ∧
      store.kept.map Artifact.texts = [["EP-001", "ΟΔΟΣΗΜΑΝΣΗ"], ["STD-001", "ΟΔΟΣΗΜΑΝΣΗ"]] ∧
      Text.trim "ΟΔΟΣ" = "ΟΔΟΣ" ∧ "ΟΔΟΣ".toList <:+: "ΟΔΟΣΗΜΑΝΣΗ".toList ∧
      (∀ artifact ∈ store.kept, ∀ stamp, ¬ Shown
        (fun window => (store.perform stamp (.search "ΟΔΟΣ" [] window)).answer) artifact.toHit) ∧
      ∀ document stamp, ¬ Shown
        (fun window => (store.perform stamp (.listDocuments "ΟΔΟΣ" none window)).answer)
        document := by
  intro store
  have hfresh : (initial [] []).FreshRun signpostRun := by decide +kernel
  have hmissed : ∀ artifact ∈ store.kept, artifact.toHit.matches (needleOf "ΟΔΟΣ") = false := by
    decide +kernel
  refine ⟨(Reachable.initial [] []).run hfresh, by decide +kernel, by decide +kernel,
    ⟨[], "ΗΜΑΝΣΗ".toList, by decide +kernel⟩, fun artifact _ stamp hshown => ?_,
    fun document stamp hshown => ?_⟩
  · obtain ⟨same, hsame, hfound, -⟩ := shown_search_iff.1 hshown
    rw [Artifact.foundBy, hmissed same hsame, Bool.and_false] at hfound
    cases hfound
  · obtain ⟨hkept, hfound⟩ := shown_documents_iff.1 hshown
    cases (hmissed _ hkept).symm.trans hfound

/-! ## Documents -/

/-- **The hits among the documents** are the documents that are listed, in the same order, as hits.
-/
theorem hits_documents (store : Store) (query : String) :
    store.hits query [.steeringDocument] =
      (store.documents.sorted.filter (listsDocument (needleOf query) none)).map
        SteeringDocument.toHit := by
  have hlists : listsDocument (needleOf query) none =
      (·.matches (needleOf query)) ∘ SteeringDocument.toHit :=
    funext fun document => listsDocument_none _ document
  have honly : searchedKinds [.steeringDocument] = [.steeringDocument] := by decide
  rw [hits, honly, List.flatMap_singleton, candidates, List.filter_map, hlists]

/-- **Searching for documents is listing them.** For every query there is a list of the documents
that are kept and match it, whatever the window: the listing of the documents, whoever made them,
and the search for documents alone, however often this kind is named, answer with the same part of
this list, and tell how long it is. The listing by one creator is that of those documents in it that
this creator has made. -/
theorem document_search_is_listing (store : Store) (query : String) :
    ∃ found : List SteeringDocument,
      (∀ document, document ∈ found ↔ Artifact.document document ∈ store.kept ∧
        (Artifact.document document).toHit.matches (needleOf query) = true) ∧
      ∀ (window : Window) (stamp : Stamp),
        (store.perform stamp (.listDocuments query none window)).answer =
          .ok (window.apply found) ∧
        (∀ times, (store.perform stamp
          (.search query (List.replicate (times + 1) .steeringDocument) window)).answer =
            .ok ((window.apply found).map SteeringDocument.toHit)) ∧
        ∀ creator, (store.perform stamp (.listDocuments query (some creator) window)).answer =
          .ok (window.apply (found.filter (·.creator == creator))) := by
  refine ⟨store.documents.sorted.filter (listsDocument (needleOf query) none),
    fun _ => mem_listed_iff, fun window stamp => ⟨rfl, fun times => ?_, fun creator => ?_⟩⟩
  · have honce : searchedKinds (List.replicate (times + 1) .steeringDocument) =
        searchedKinds [.steeringDocument] :=
      searchedKinds_congr fun kind => by simp
    have hhits := store.hits_documents query
    rw [hits, ← honce, ← hits] at hhits
    rw [perform, search, hhits, window.apply_map]
    rfl
  · have hcreator : listsDocument (needleOf query) (some creator) = fun document =>
        document.creator == creator && listsDocument (needleOf query) none document := by
      funext document
      rw [listsDocument, listsDocument, Bool.true_and]
    rw [perform, listDocuments, hcreator, ← List.filter_filter]
    rfl

end Store

end Planroom
