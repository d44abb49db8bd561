import Planroom.Page
import Planroom.Store.Basic
import Planroom.Text.Blank
import Planroom.Text.Cut
import Planroom.Text.Lowercase

/-!
# Searching

A query is found where its lower-case form, without the blanks around it, stands inside the lower-case
form of a reference, a title or a description. Hits come kind by kind, and by number within a kind.
-/

namespace Planroom

/-- A query as it is compared. It may come out empty, and then it stands in every text. -/
def needleOf (query : String) : String :=
  Text.lowercase (Text.trim query)

/-- Does the needle stand in the text, whatever the case? The needle is in lower case already. -/
def standsIn (needle text : String) : Bool :=
  Text.containsText needle (Text.lowercase text)

/-- Does the needle stand in the text, where there is one? What has no description is not found by
it. -/
def standsIn? (needle : String) : Option String → Bool
  | some text => standsIn needle text
  | none => false

/-- **Is this a hit?** It is enough that the needle stands in one of the texts; it may not run from
one into the next. -/
def SearchHit.matches (needle : String) (hit : SearchHit) : Bool :=
  standsIn needle hit.reference || standsIn needle hit.title || standsIn? needle hit.description

/-- A card as a hit. -/
def Card.toHit (kind : Kind) (card : Card) : SearchHit :=
  ⟨kind, card.id, card.reference, card.title, card.description⟩

/-- Acceptance criteria as a hit. They go by their reference, for want of a title. -/
def Criteria.toHit (criteria : Criteria) : SearchHit :=
  ⟨.acceptanceCriteria, criteria.id, criteria.reference, criteria.reference,
    some criteria.description⟩

/-- A steering document as a hit. -/
def SteeringDocument.toHit (document : SteeringDocument) : SearchHit :=
  ⟨.steeringDocument, document.id, document.reference, document.title, document.description⟩

namespace Store

/-- Everything of a kind that can be found, in order. The order is that of the listings. -/
def candidates (store : Store) : Kind → List SearchHit
  | .epic => store.epics.sorted.map fun e => e.card.toHit .epic
  | .userStory => store.stories.sorted.map fun s => s.card.toHit .userStory
  | .acceptanceCriteria => store.criteria.sorted.map Criteria.toHit
  | .requirement => store.requirements.sorted.map fun r => r.card.toHit .requirement
  | .steeringDocument => store.documents.sorted.map SteeringDocument.toHit

/-- The kinds that a search looks at: those asked for, or all if none is. They come in the order of
`Kind.all`, and each once, however they were asked for. -/
def searchedKinds (kinds : List Kind) : List Kind :=
  Kind.all.filter fun kind => kinds.isEmpty || kinds.contains kind

/-- All hits of a search, in order. A window is put over them only at the end, so the total counts
them all. -/
def hits (store : Store) (query : String) (kinds : List Kind) : List SearchHit :=
  (searchedKinds kinds).flatMap fun kind =>
    (store.candidates kind).filter (·.matches (needleOf query))

/-- **Search.** It is a look at the store, which stays as it is. -/
def search (store : Store) (query : String) (kinds : List Kind) (window : Window) :
    Page SearchHit :=
  window.apply (store.hits query kinds)

end Store

end Planroom
