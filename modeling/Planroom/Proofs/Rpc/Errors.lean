import Planroom.Proofs.Text.Lowercase
import Planroom.Rpc.Message

/-!
# Errors as a client reads them

An error reaches the client as an object in the reply, and all that the client has to go by is what
this object holds: a number that a program can act on, and a sentence for people. It is said here which
number and which sentence go with which failure, apart from the functions that choose them.

* **Told** — `Failure.ToldBy` and `CallError.ToldBy`: the number and the sentence for each failure. What
  went wrong inside is never in the sentence; only whether it is about a lost connection shows in it.
* **In data** — `errorObject`: an object with these two members and no others. Every failure of a call is
  told by such an object (`exists_toldBy`).
-/

namespace Planroom

/-! ## Told -/

/-- **Does the text speak of a lost connection?** One of these words stands somewhere in it, in
whatever case. The text is that of a failure from inside, which has no other mark of its cause. -/
def SpeaksOfOutage (text : String) : Prop :=
  ∃ word ∈ ["database", "connection", "sql", "driver", "network", "timeout", "connection refused",
      "connection reset", "broken pipe", "no such host"],
    word.toList <:+: text.toList.map Char.toLower

/-- **The number and the sentence for a failure.** A client that could have known better is told what is
wrong with its parameters. To anybody else it is said that something went wrong, in a sentence that is
the same whatever it was. -/
inductive Failure.ToldBy : Failure → Int → String → Prop where
  | invalid (reason : Reason) : ToldBy (.invalid reason) (-32602) reason.message
  | conflict (clash : Clash) : ToldBy (.conflict clash) (-32602) clash.message
  | notFound (subject : Subject) (identifier : String) :
      ToldBy (.notFound subject identifier) (-32602) (subject.name ++ " not found: " ++ identifier)
  | incompleteSelection : ToldBy .incompleteSelection (-32602)
      "inline comment data must include linked_text, text_position_start and text_position_end"
  | positionMismatch :
      ToldBy .positionMismatch (-32602) "text position does not match the entity body"
  | emptySelection : ToldBy .emptySelection (-32602) "linked text must not be empty"
  | parentElsewhere :
      ToldBy .parentElsewhere (-32602) "parent comment belongs to a different entity"
  | unauthorized (text : String) : ToldBy (.unauthorized text) (-32603) "Unauthorized access"
  | forbidden (denial : Denial) : ToldBy (.forbidden denial) (-32603) "Unauthorized access"
  | timeout : ToldBy .timeout (-32603) "Operation timeout"
  | canceled : ToldBy .canceled (-32603) "Operation canceled"
  | unavailable (text : String) :
      ToldBy (.unavailable text) (-32603) "Service temporarily unavailable"
  | outage {text : String} (h : SpeaksOfOutage text) :
      ToldBy (.internal text) (-32603) "Service temporarily unavailable"
  | internal {text : String} (h : ¬ SpeaksOfOutage text) :
      ToldBy (.internal text) (-32603) "Internal server error"

/-- **The number and the sentence for a call that failed.** Where the failure is about the call itself,
its own text is the sentence. -/
inductive CallError.ToldBy : CallError → Int → String → Prop where
  | invalidRequest (text : String) : ToldBy (.invalidRequest text) (-32600) text
  | methodNotFound (text : String) : ToldBy (.methodNotFound text) (-32601) text
  | invalidParams (text : String) : ToldBy (.invalidParams text) (-32602) text
  | failed {failure : Failure} {code : Int} {sentence : String} (h : failure.ToldBy code sentence) :
      ToldBy (.failed failure) code sentence

namespace Rpc

/-! ## In data -/

/-- **An error in data** that has nothing but a number and a sentence. -/
def errorObject (code : Int) (sentence : String) : Json :=
  .object [("code", .number (.int code)), ("message", .string sentence)]

theorem isConnectivityFailure_iff {text : String} :
    Error.isConnectivityFailure text = true ↔ SpeaksOfOutage text := by
  rw [Error.isConnectivityFailure, List.any_eq_true, SpeaksOfOutage]
  simp only [Text.containsText_iff, Text.asciiLower, String.toList_ofList, Error.connectivityWords]

/-- What is told of a failure stands in the object under the names that the protocol gives them, and
nothing else stands there. -/
theorem exists_toldBy_failure (failure : Failure) :
    ∃ code sentence, failure.ToldBy code sentence ∧
      (Error.ofFailure failure).toJson = errorObject code sentence := by
  cases failure with
  | invalid reason => exact ⟨_, _, .invalid reason, rfl⟩
  | notFound subject identifier => exact ⟨_, _, .notFound subject identifier, rfl⟩
  | conflict clash => exact ⟨_, _, .conflict clash, rfl⟩
  | unauthorized text => exact ⟨_, _, .unauthorized text, rfl⟩
  | forbidden denial => exact ⟨_, _, .forbidden denial, rfl⟩
  | timeout => exact ⟨_, _, .timeout, rfl⟩
  | canceled => exact ⟨_, _, .canceled, rfl⟩
  | unavailable text => exact ⟨_, _, .unavailable text, rfl⟩
  | incompleteSelection => exact ⟨_, _, .incompleteSelection, rfl⟩
  | positionMismatch => exact ⟨_, _, .positionMismatch, rfl⟩
  | emptySelection => exact ⟨_, _, .emptySelection, rfl⟩
  | parentElsewhere => exact ⟨_, _, .parentElsewhere, rfl⟩
  | internal text =>
    -- the only failure whose sentence depends on its text
    by_cases houtage : SpeaksOfOutage text
    · refine ⟨_, _, .outage houtage, ?_⟩
      rw [Error.ofFailure, if_pos (isConnectivityFailure_iff.2 houtage)]
      rfl
    · refine ⟨_, _, .internal houtage, ?_⟩
      rw [Error.ofFailure, if_neg fun hfailure => houtage (isConnectivityFailure_iff.1 hfailure)]
      rfl

/-- **Every failure of a call** is told by an object with its number and its sentence. So a client
never finds an error without them. -/
theorem exists_toldBy (error : CallError) :
    ∃ code sentence, error.ToldBy code sentence ∧
      (Error.ofCallError error).toJson = errorObject code sentence := by
  cases error with
  | invalidRequest text => exact ⟨_, _, .invalidRequest text, rfl⟩
  | methodNotFound text => exact ⟨_, _, .methodNotFound text, rfl⟩
  | invalidParams text => exact ⟨_, _, .invalidParams text, rfl⟩
  | failed failure =>
    obtain ⟨code, sentence, htold, hdata⟩ := exists_toldBy_failure failure
    exact ⟨code, sentence, .failed htold, hdata⟩

end Rpc

end Planroom
