import Planroom.Http.Bearer
import Planroom.Proofs.Keys
import Planroom.Proofs.Text.Cut

/-!
# Who a token stands for

A request is made by the owner of the token in its first `Authorization` header, and by nobody where
there is none.

* **Owners** — `Credential.owner?_eq_some_iff`: where no token comes twice, a token stands for the user
  of the one credential that has it.
* **Requests** — `Request.Brings`: the token that a request brings, if its header can be read. One that
  is sent as it is arrives as it is (`bearerToken?_of_trimmed`).
* **Users** — `authenticate_eq_ok_iff`: what it takes to be known.
-/

namespace Planroom

namespace Credential

variable {credentials : List Credential} {token : String} {user : User}

/-- **The owner of a token** is the user of a credential with this token. Which one it is where
there are several does not matter here. -/
theorem of_owner? (h : owner? credentials token = some user) :
    ∃ credential ∈ credentials, credential.token = token ∧ credential.user = user := by
  obtain ⟨credential, hfound, huser⟩ := Option.map_eq_some_iff.1 h
  obtain ⟨hmem, htoken⟩ := of_find?_key hfound
  exact ⟨credential, List.mem_reverse.1 hmem, htoken, huser⟩

/-- **Where no token comes twice** there is one such credential at most. It is then the one that is
found, from whichever end they are looked at. -/
theorem owner?_eq_some_iff (htokens : (credentials.map Credential.token).Nodup) :
    owner? credentials token = some user ↔
      ∃ credential ∈ credentials, credential.token = token ∧ credential.user = user := by
  refine ⟨of_owner?, ?_⟩
  rintro ⟨credential, hmem, rfl, rfl⟩
  have hreversed : (credentials.reverse.map Credential.token).Nodup := by
    rw [List.map_reverse]
    exact List.nodup_reverse.2 htokens
  have hfound := (find?_key_eq_some_iff hreversed).2 ⟨List.mem_reverse.2 hmem, rfl⟩
  exact congrArg (Option.map Credential.user) hfound

end Credential

namespace Http

variable {credentials : List Credential} {request : Request} {token : String} {user : User}

/-- **Does the request bring this token?** Nothing is said of whether anybody knows it. -/
def Request.Brings (request : Request) (token : String) : Prop :=
  ∃ authorization, request.header? "authorization" = some authorization ∧
    bearerToken? authorization = some token

/-- **Is there a header that holds no token?** It has another scheme, or is not printable. This is
not the same as having no header. -/
def Request.BringsOther (request : Request) : Prop :=
  ∃ authorization, request.header? "authorization" = some authorization ∧
    bearerToken? authorization = none

/-- **A token arrives as it was sent**, if it is printable and there are no blanks around it. Blanks
in front would be taken for some of those after the scheme. -/
theorem bearerToken?_of_trimmed (htrimmed : Text.Trimmed token)
    (hprintable : token.toList.all isPrintable = true) :
    bearerToken? ("Bearer " ++ token) = some token := by
  have hfront : token.toList.dropWhile (fun c => c == ' ' || c == '\t') = token.toList := by
    refine Text.dropWhile_eq_self_of_head fun c hc => ?_
    rw [Bool.or_eq_false_iff, beq_eq_false_iff_ne, beq_eq_false_iff_ne]
    constructor <;> rintro rfl <;> cases htrimmed.front _ hc
  have hchars : ("Bearer " ++ token).toList = "Bearer ".toList ++ token.toList :=
    String.toList_append
  have hlength : bearerScheme.length = "Bearer ".toList.length := by decide
  have hscheme : (Text.asciiLower (String.ofList "Bearer ".toList) == bearerScheme) = true := by
    decide
  have hall : "Bearer ".toList.all isPrintable = true := by decide
  dsimp only [bearerToken?]
  rw [hchars, hlength, List.take_left, List.drop_left, hfront, hscheme, List.all_append, hall,
    hprintable, String.ofList_toList]
  rfl

/-- **To be known** takes a token that stands for somebody. Nothing else of the request is looked
at. -/
theorem authenticate_eq_ok_iff :
    authenticate credentials request = .ok user ↔
      ∃ token, request.Brings token ∧ Credential.owner? credentials token = some user := by
  unfold authenticate
  constructor
  · intro h
    split at h
    · cases h
    · next authorization hheader =>
      split at h
      · cases h
      · next token htoken =>
        split at h
        · cases h
        · next found hfound =>
          cases h
          exact ⟨token, ⟨authorization, hheader, htoken⟩, hfound⟩
  · rintro ⟨token, ⟨authorization, hheader, htoken⟩, hfound⟩
    simp only [hheader, htoken, hfound]

/-- No request brings two tokens. -/
theorem Request.Brings.unique {other : String} (h : request.Brings token)
    (hother : request.Brings other) : token = other := by
  obtain ⟨authorization, hheader, htoken⟩ := h
  obtain ⟨again, hagain, hsame⟩ := hother
  obtain rfl := Option.some.inj (hheader.symm.trans hagain)
  exact Option.some.inj (htoken.symm.trans hsame)

/-- A request that posts a body, with a token. -/
def sharedRequest (token target body : String) : Request :=
  ⟨.post, target, [("authorization", "Bearer " ++ token), ("content-type", "application/json")],
    body.toUTF8⟩

theorem sharedRequest_brings {target body : String}
    (h : bearerToken? ("Bearer " ++ token) = some token) :
    (sharedRequest token target body).Brings token := by
  have hname : (Text.asciiLower "authorization" == "authorization") = true := by decide +kernel
  refine ⟨"Bearer " ++ token, ?_, h⟩
  simp only [Request.header?, sharedRequest, List.find?_cons, hname, Option.map_some]

end Http

end Planroom
