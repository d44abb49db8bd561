import Mathlib.Data.List.Forall2
import Planroom.Proofs.Settings.Credentials

/-!
# Tokens as secrets

Two tables that differ in nothing but their tokens are read side by side. What can be seen of the reading
is the description of the settings, or the message of the error, and the tokens should not matter to it.

* **Replaced** — `Replacement`: which token is in the place of which, and `TableRetokened`: what the two
  tables have in common.
* **Side by side** — `EndAlike`: the two readings come to the same, step by step.
* **Seen** — `tokens_are_not_seen_unless_refused`: the descriptions are the same, and so are the messages,
  but for one: an entry that is refused is quoted as it is, with its token.
-/

namespace Planroom

open Text

/-! ## Replaced -/

/-- **A replacement of tokens** by others that can be parts of an entry. Equal tokens stay equal,
and different ones different; otherwise the check that no token comes twice could tell the two
tables apart. -/
structure Replacement (R : String → String → Prop) : Prop where
  trimmed : ∀ {old new}, R old new → Trimmed old
  isPart : ∀ {old new}, R old new → Entry.IsPart new
  unique : Relator.BiUnique R

/-- **A text with its token replaced**, if it has one, and with the blanks that it had around it.
The blanks are seen in a message where an entry is refused. -/
inductive TextRetokened (R : String → String → Prop) : String → String → Prop where
  | token {front back old new : String} (hreplaced : R old new) (hfront : isBlankText front = true)
      (hback : isBlankText back = true) :
      TextRetokened R (front ++ old ++ back) (front ++ new ++ back)
  | blank {s : String} (h : isBlankText s = true) : TextRetokened R s s

/-- **An entry with its token replaced.** The token is what is in front of the first colon; there
may be any number of other parts, so it need not be an entry that is accepted. -/
inductive EntryRetokened (R : String → String → Prop) : String → String → Prop where
  | mk {token token' : String} {others : List String} (htoken : TextRetokened R token token')
      (hcommas : ∀ part ∈ token :: others, ',' ∉ part.toList)
      (hcolons : ∀ part ∈ token :: others, ':' ∉ part.toList) :
      EntryRetokened R (join ":" (token :: others)) (join ":" (token' :: others))

/-- **A list of entries with their tokens replaced**, piece by piece. -/
inductive ListRetokened (R : String → String → Prop) : String → String → Prop where
  | mk {pieces pieces' : List String} (h : List.Forall₂ (EntryRetokened R) pieces pieces') :
      ListRetokened R (join "," pieces) (join "," pieces')

/-- **A table with its tokens replaced**, and with nothing else changed. These are the only two keys
under which tokens are written. -/
structure TableRetokened (R : String → String → Prop) (table other : String → Option String) :
    Prop where
  alone : Option.Rel (TextRetokened R) (table "SPEXUS_API_TOKEN") (other "SPEXUS_API_TOKEN")
  listed : Option.Rel (ListRetokened R) (table "SPEXUS_API_TOKENS") (other "SPEXUS_API_TOKENS")
  rest : ∀ key, key ≠ "SPEXUS_API_TOKEN" → key ≠ "SPEXUS_API_TOKENS" → table key = other key

section Replaced

variable {R : String → String → Prop} {s s' : String}

/-- What is left of a text without the blanks around it is a token again, or nothing. -/
theorem TextRetokened.trim (hR : Replacement R) (h : TextRetokened R s s') :
    R (trim s) (trim s') ∨ (Text.trim s = "" ∧ Text.trim s' = "") := by
  cases h with
  | @token front back old new hreplaced hfront hback =>
    have hpadded (token : String) : Padded token (front ++ token ++ back) :=
      ⟨front, back, hfront, hback, rfl⟩
    rw [(hpadded old).trim_eq, (hpadded new).trim_eq, (hR.trimmed hreplaced).trim_eq,
      (hR.isPart hreplaced).trimmed.trim_eq]
    exact .inl hreplaced
  | blank hblank =>
    have hempty := isBlankText_iff_trim.1 hblank
    exact .inr ⟨hempty, hempty⟩

/-- One is blank exactly if the other is. -/
theorem TextRetokened.isBlankText_eq (hR : Replacement R) (h : TextRetokened R s s') :
    isBlankText s = isBlankText s' := by
  rw [Bool.eq_iff_iff, isBlankText_iff_trim, isBlankText_iff_trim]
  rcases h.trim hR with hreplaced | ⟨hempty, hempty'⟩
  · exact iff_of_false (hR.trimmed hreplaced).ne_empty (hR.isPart hreplaced).trimmed.ne_empty
  · exact iff_of_true hempty hempty'

/-- A separator that was not there is not there either afterwards. -/
theorem TextRetokened.not_mem {c : Char} (hblank : isBlank c = false)
    (hnew : ∀ {old new}, R old new → c ∉ new.toList) (h : TextRetokened R s s')
    (hs : c ∉ s.toList) : c ∉ s'.toList := by
  cases h with
  | @token front back old new hreplaced hfront hback =>
    have hpadded : Padded new (front ++ new ++ back) := ⟨front, back, hfront, hback, rfl⟩
    exact hpadded.not_mem hblank (hnew hreplaced)
  | blank => exact hs

/-- The parts of an entry, before and after, without the blanks around them. -/
theorem EntryRetokened.parts (hR : Replacement R) (h : EntryRetokened R s s') :
    ∃ token token' others, TextRetokened R token token' ∧
      (split ':' (Text.trim s)).map Text.trim = Text.trim token :: others ∧
      (split ':' (Text.trim s')).map Text.trim = Text.trim token' :: others := by
  obtain @⟨token, token', others, htoken, -, hcolons⟩ := h
  obtain ⟨hcolon, hothers⟩ := List.forall_mem_cons.1 hcolons
  have hcolon' : ':' ∉ token'.toList :=
    htoken.not_mem (by decide) (fun h => (hR.isPart h).noColon) hcolon
  have hsplit {first : String} (hfirst : ':' ∉ first.toList) :
      (split ':' (Text.trim (join ":" (first :: others)))).map Text.trim =
        Text.trim first :: others.map Text.trim := by
    rw [← (padded_trim _).map_trim_split (by decide),
      split_join rfl (List.cons_ne_nil _ _) (List.forall_mem_cons.2 ⟨hfirst, hothers⟩), List.map_cons]
  exact ⟨token, token', others.map Text.trim, htoken, hsplit hcolon, hsplit hcolon'⟩

/-- There is no comma in an entry, before or after. -/
theorem EntryRetokened.noComma (hR : Replacement R) (h : EntryRetokened R s s') :
    ',' ∉ s.toList ∧ ',' ∉ s'.toList := by
  obtain @⟨token, token', others, htoken, hcommas, -⟩ := h
  obtain ⟨hcomma, hothers⟩ := List.forall_mem_cons.1 hcommas
  have hcomma' : ',' ∉ token'.toList :=
    htoken.not_mem (by decide) (fun h => (hR.isPart h).noComma) hcomma
  exact ⟨not_mem_join (by decide) hcommas,
    not_mem_join (by decide) (List.forall_mem_cons.2 ⟨hcomma', hothers⟩)⟩

/-- An entry is blank exactly if it was. Blank entries are passed over, so the others keep their
positions. -/
theorem EntryRetokened.isBlankText_eq (hR : Replacement R) (h : EntryRetokened R s s') :
    isBlankText s = isBlankText s' := by
  obtain @⟨token, token', others, htoken, -, -⟩ := h
  cases others with
  | nil =>
    rw [join, join, String.intercalate_singleton, String.intercalate_singleton]
    exact htoken.isBlankText_eq hR
  | cons part others =>
    -- there is a colon in either of them
    have hcolon (first : String) : isBlankText (join ":" (first :: part :: others)) = false := by
      rw [Bool.eq_false_iff]
      intro hblank
      refine not_mem_of_isBlankText hblank (show isBlank ':' = false by decide) ?_
      rw [join_cons_cons, String.toList_append, String.toList_append]
      exact List.mem_append_left _ (List.mem_append_right _ List.mem_cons_self)
    rw [hcolon, hcolon]

theorem noCommas_of_retokened (hR : Replacement R) {pieces pieces' : List String}
    (h : List.Forall₂ (EntryRetokened R) pieces pieces') :
    (∀ piece ∈ pieces, ',' ∉ piece.toList) ∧ ∀ piece ∈ pieces', ',' ∉ piece.toList := by
  induction h with
  | nil => exact ⟨List.forall_mem_nil _, List.forall_mem_nil _⟩
  | cons hpiece _ ih =>
    obtain ⟨hcomma, hcomma'⟩ := hpiece.noComma hR
    exact ⟨List.forall_mem_cons.2 ⟨hcomma, ih.1⟩, List.forall_mem_cons.2 ⟨hcomma', ih.2⟩⟩

/-- **The entries of a list**, before and after: they are in the same places. -/
theorem ListRetokened.entriesOf (hR : Replacement R) (h : ListRetokened R s s') :
    ∃ pieces pieces', List.Forall₂ (EntryRetokened R) pieces pieces' ∧
      Settings.entriesOf (Text.trim s) = pieces.map Text.trim ∧
      Settings.entriesOf (Text.trim s') = pieces'.map Text.trim := by
  obtain @⟨pieces, pieces', hpieces⟩ := h
  let isEntry (piece : String) : Bool := !isBlankText piece
  cases hpieces with
  | nil => exact ⟨[], [], .nil, by decide +kernel, by decide +kernel⟩
  | @cons piece piece' rest rest' hpiece hrest =>
    have hall := List.Forall₂.cons hpiece hrest
    obtain ⟨hcommas, hcommas'⟩ := noCommas_of_retokened hR hall
    have hsame (piece piece' : String) (h : EntryRetokened R piece piece') :
        isEntry piece = true ↔ isEntry piece' = true := by
      rw [show isEntry piece = isEntry piece' from congrArg (!·) (h.isBlankText_eq hR)]
    exact ⟨(piece :: rest).filter isEntry, (piece' :: rest').filter isEntry,
      List.rel_filter hsame hall, Settings.entriesOf_join (List.cons_ne_nil _ _) hcommas,
      Settings.entriesOf_join (List.cons_ne_nil _ _) hcommas'⟩

end Replaced

/-! ## Side by side -/

/-- **Do two readings end alike?** Both end with a value or both with an error, and these are
related. Readings are put together of steps, and this relation goes from each step to the next. -/
inductive EndAlike {α β ε : Type} (onValue : α → β → Prop) (onError : ε → ε → Prop) :
    Except ε α → Except ε β → Prop where
  | value {a : α} {b : β} (h : onValue a b) : EndAlike onValue onError (.ok a) (.ok b)
  | error {e f : ε} (h : onError e f) : EndAlike onValue onError (.error e) (.error f)

namespace EndAlike

variable {α β γ δ ε : Type} {P : α → β → Prop} {Q : γ → δ → Prop} {E : ε → ε → Prop}

/-- One thing after the other. Where the first one fails, the second is not tried on either side. -/
theorem bind {first : Except ε α} {first' : Except ε β} {next : α → Except ε γ}
    {next' : β → Except ε δ} (h : EndAlike P E first first')
    (hnext : ∀ a b, P a b → EndAlike Q E (next a) (next' b)) :
    EndAlike Q E (first >>= next) (first' >>= next') := by
  cases h with
  | value h => exact hnext _ _ h
  | error h => exact .error h

/-- What is alike in one way is so in another. -/
theorem imp {P' : α → β → Prop} {E' : ε → ε → Prop} {first : Except ε α} {first' : Except ε β}
    (h : EndAlike P E first first') (hvalue : ∀ a b, P a b → P' a b) (herror : ∀ e f, E e f → E' e f) :
    EndAlike P' E' first first' := by
  cases h with
  | value h => exact .value (hvalue _ _ h)
  | error h => exact .error (herror _ _ h)

/-- The same thing, and then what comes of it. -/
theorem bind_same (hE : ∀ e, E e e) (first : Except ε α) {next : α → Except ε γ}
    {next' : α → Except ε δ} (hnext : ∀ a, EndAlike Q E (next a) (next' a)) :
    EndAlike Q E (first >>= next) (first >>= next') := by
  cases first with
  | ok a => exact hnext a
  | error e => exact .error (hE e)

/-- A test with the same result, and then what comes after it. -/
theorem guarded {test test' : Prop} [Decidable test] [Decidable test'] (hsame : test ↔ test')
    {failure : ε} (hfailure : E failure failure) {next : Unit → Except ε γ}
    {next' : Unit → Except ε δ} (hnext : EndAlike Q E (next ()) (next' ())) :
    EndAlike Q E (if test then throw failure >>= next else next ())
      (if test' then throw failure >>= next' else next' ()) := by
  by_cases htest : test
  · rw [if_pos htest, if_pos (hsame.1 htest)]
    exact .error hfailure
  · rw [if_neg htest, if_neg fun h => htest (hsame.2 h)]
    exact hnext

end EndAlike

/-- **Credentials that differ in their tokens** and, maybe, in the identifiers that their users were given.
-/
structure CredentialAlike (R : String → String → Prop) (ids ids' : Nat → Uuid)
    (credential credential' : Credential) : Prop where
  token : R credential.token credential'.token
  id : ∃ n, credential.user.id = ids n ∧ credential'.user.id = ids' n
  name : credential.user.name = credential'.user.name
  role : credential.user.role = credential'.user.role

/-- **Settings that differ in nothing but that.** The others are the same down to the last field, as
an equation of records says. -/
structure SettingsAlike (R : String → String → Prop) (ids ids' : Nat → Uuid)
    (settings settings' : Settings) : Prop where
  credentials :
    List.Forall₂ (CredentialAlike R ids ids') settings.credentials settings'.credentials
  others : settings' = { settings with credentials := settings'.credentials }

/-- **Errors that are alike.** They are the same, but an entry that is refused is in the error as it
was written, and so it is there with its token. No other error has a part of the credentials in it
but names. -/
inductive ErrorAlike (R : String → String → Prop) : SettingsError → SettingsError → Prop where
  | same (error : SettingsError) : ErrorAlike R error error
  | entry {piece piece' : String} (h : EntryRetokened R piece piece') :
      ErrorAlike R (.invalidCredential (trim piece)) (.invalidCredential (trim piece'))

namespace Settings

variable {R : String → String → Prop} {ids ids' : Nat → Uuid} {table other : String → Option String}

/-- **An entry is read alike** with another token. Whether it is refused depends on the number of
its parts, on whether they are empty, and on the role. -/
theorem parseEntry_alike (hR : Replacement R) {piece piece' : String}
    (h : EntryRetokened R piece piece') (n : Nat) :
    EndAlike (CredentialAlike R ids ids') (ErrorAlike R)
      (parseEntry (ids n) (trim piece)) (parseEntry (ids' n) (trim piece')) := by
  have hrefused : EndAlike (CredentialAlike R ids ids') (ErrorAlike R)
      (.error (.invalidCredential (trim piece))) (.error (.invalidCredential (trim piece'))) :=
    .error (.entry h)
  obtain ⟨token, token', others, htoken, hparts, hparts'⟩ := h.parts hR
  rw [parseEntry, parseEntry, hparts, hparts']
  -- there have to be two parts behind the token, no more and no less
  rcases others with _ | ⟨name, _ | ⟨role, _ | ⟨extra, rest⟩⟩⟩
  · exact hrefused
  · exact hrefused
  · dsimp only
    rcases htoken.trim hR with hreplaced | ⟨hempty, hempty'⟩
    · have hsome := (hR.trimmed hreplaced).ne_empty
      have hsome' := (hR.isPart hreplaced).trimmed.ne_empty
      simp only [String.isEmpty_iff, hsome, hsome', false_or]
      split
      · exact hrefused
      · cases Role.parse? role with
        | none => exact hrefused
        | some role => exact .value ⟨hreplaced, ⟨n, rfl, rfl⟩, rfl, rfl⟩
    · simp only [String.isEmpty_iff, hempty, hempty', true_or, if_true]
      exact hrefused
  · exact hrefused

/-- Several entries, one after the other. -/
theorem parseEntries_alike (hR : Replacement R) {pieces pieces' : List String}
    (h : List.Forall₂ (EntryRetokened R) pieces pieces') (position : Nat) :
    EndAlike (List.Forall₂ (CredentialAlike R ids ids')) (ErrorAlike R)
      (parseEntries ids position (pieces.map trim)) (parseEntries ids' position (pieces'.map trim)) := by
  induction h generalizing position with
  | nil => exact .value .nil
  | cons hpiece _ ih =>
    refine (parseEntry_alike hR hpiece position).bind fun credential credential' hcredential => ?_
    refine (ih (position + 1)).bind fun credentials credentials' hcredentials => ?_
    exact .value (.cons hcredential hcredentials)

/-- What is under a key, without the blanks around it, is the value unless it is empty. -/
theorem value_getD (table : String → Option String) (key : String) :
    (value table key).getD "" = trim ((table key).getD "") := by
  rw [value]
  cases table key with
  | none => decide
  | some s =>
    rw [Option.map_some, Option.filter_some, Option.getD_some]
    split
    · rfl
    · next hempty =>
      rw [Bool.not_eq_true', Bool.not_eq_false, String.isEmpty_iff] at hempty
      rw [hempty]
      rfl

/-- **All credentials** are the one of the token that stands alone and those of the list, which is
empty where there is none. In this form both sources are read by one equation. -/
theorem credentialsOf_eq (table : String → Option String) (ids : Nat → Uuid) :
    credentialsOf table ids =
      parseEntries ids (ownCredential table (ids 0)).length
        (entriesOf (trim ((table "SPEXUS_API_TOKENS").getD ""))) >>= fun listed =>
          pure (ownCredential table (ids 0) ++ listed) := by
  rw [credentialsOf, ← value_getD]
  cases value table "SPEXUS_API_TOKENS" with
  | none =>
    have hnone : entriesOf "" = [] := by decide +kernel
    rw [Option.getD_none, hnone]
    exact congrArg Except.ok (List.append_nil _).symm
  | some list => rfl

/-- Values other than the tokens are the same. -/
theorem value_eq (h : TableRetokened R table other) {key : String} (halone : key ≠ "SPEXUS_API_TOKEN")
    (hlisted : key ≠ "SPEXUS_API_TOKENS") : value table key = value other key := by
  rw [value, h.rest key halone hlisted, ← value]

/-- The value of the token that stands alone is the other token, if there is one. -/
theorem alone_alike (hR : Replacement R) (h : TableRetokened R table other) :
    Option.Rel R (value table "SPEXUS_API_TOKEN") (value other "SPEXUS_API_TOKEN") := by
  have halone := h.alone
  rw [value, value]
  generalize table "SPEXUS_API_TOKEN" = own, other "SPEXUS_API_TOKEN" = own' at halone ⊢
  cases halone with
  | none => exact .none
  | some htext =>
    simp only [Option.map_some, Option.filter_some, Bool.not_eq_true', Bool.eq_false_iff, ne_eq,
      String.isEmpty_iff]
    rcases htext.trim hR with hreplaced | ⟨hempty, hempty'⟩
    · rw [if_pos (hR.trimmed hreplaced).ne_empty, if_pos (hR.isPart hreplaced).trimmed.ne_empty]
      exact .some hreplaced
    · rw [if_neg (not_not_intro hempty), if_neg (not_not_intro hempty')]
      exact .none

/-- The credential of the token that stands alone. -/
theorem ownCredential_alike (hR : Replacement R) (h : TableRetokened R table other) :
    List.Forall₂ (CredentialAlike R ids ids') (ownCredential table (ids 0))
      (ownCredential other (ids' 0)) := by
  have halone := alone_alike hR h
  have hname : value table "SPEXUS_API_USER" = value other "SPEXUS_API_USER" :=
    value_eq h (by decide) (by decide)
  rw [ownCredential, ownCredential, hname]
  generalize value table "SPEXUS_API_TOKEN" = own, value other "SPEXUS_API_TOKEN" = own' at halone ⊢
  cases halone with
  | none => exact .nil
  | some hreplaced => exact .cons ⟨hreplaced, ⟨0, rfl, rfl⟩, rfl, rfl⟩ .nil

/-- **All credentials are read alike.** -/
theorem credentialsOf_alike (hR : Replacement R) (h : TableRetokened R table other) :
    EndAlike (List.Forall₂ (CredentialAlike R ids ids')) (ErrorAlike R)
      (credentialsOf table ids) (credentialsOf other ids') := by
  have hown : List.Forall₂ (CredentialAlike R ids ids') (ownCredential table (ids 0))
    (ownCredential other (ids' 0)) := ownCredential_alike hR h
  have hlist : ListRetokened R ((table "SPEXUS_API_TOKENS").getD "")
      ((other "SPEXUS_API_TOKENS").getD "") := by
    have hlisted := h.listed
    generalize table "SPEXUS_API_TOKENS" = list, other "SPEXUS_API_TOKENS" = list' at hlisted ⊢
    cases hlisted with
    | none => exact .mk .nil
    | some hlist => exact hlist
  obtain ⟨pieces, pieces', hpieces, hentries, hentries'⟩ := hlist.entriesOf hR
  rw [credentialsOf_eq, credentialsOf_eq, hentries, hentries', ← hown.length_eq]
  refine (parseEntries_alike hR hpieces _).bind fun listed listed' hlisted => ?_
  exact .value (List.rel_append hown hlisted)

/-- **Credentials are unique alike**: the same name is found to be there twice, or some token is.
The error does not say which token. -/
theorem checkUnique_eq (hR : Replacement R) {tokens tokens' names : List String}
    (htokens : List.Forall₂ R tokens tokens') {credentials credentials' : List Credential}
    (h : List.Forall₂ (CredentialAlike R ids ids') credentials credentials') :
    checkUnique tokens names credentials = checkUnique tokens' names credentials' := by
  induction h generalizing tokens tokens' names with
  | nil => rfl
  | @cons credential credential' _ _ hcredential _ ih =>
    have hseen : tokens.contains credential.token = tokens'.contains credential'.token := by
      rw [Bool.eq_iff_iff, List.contains_iff_mem, List.contains_iff_mem]
      exact List.rel_mem hR.unique hcredential.token htokens
    rw [checkUnique, checkUnique, hseen, hcredential.name, ih (.cons hcredential.token htokens)]

/-- **Settings are read alike.** Everything that is no token is read from the same texts, so it is
only the credentials that have to be followed. -/
theorem ofTable_alike (hR : Replacement R) (h : TableRetokened R table other) :
    EndAlike (SettingsAlike R ids ids') (ErrorAlike R) (ofTable ids table) (ofTable ids' other) := by
  have hvalue {key : String} (halone : key ≠ "SPEXUS_API_TOKEN") (hlisted : key ≠ "SPEXUS_API_TOKENS") :
      value other key = value table key := (value_eq h halone hlisted).symm
  have hspan {key : String} (default : Nat) (halone : key ≠ "SPEXUS_API_TOKEN")
      (hlisted : key ≠ "SPEXUS_API_TOKENS") : span other key default = span table key default := by
    rw [span, hvalue halone hlisted, ← span]
  have hport : portOf other = portOf table := by
    rw [portOf, hvalue (by decide) (by decide), ← portOf]
  have hformat : logFormatOf other = logFormatOf table := by
    rw [logFormatOf, hvalue (by decide) (by decide), ← logFormatOf]
  have hprompt : value other "SPEXUS_SYSTEM_PROMPT" = value table "SPEXUS_SYSTEM_PROMPT" :=
    hvalue (by decide) (by decide)
  have haddress : value other "BIND_ADDR" = value table "BIND_ADDR" := hvalue (by decide) (by decide)
  dsimp only [ofTable]
  rw [hport, hformat, hspan 100 (by decide) (by decide), hspan 60 (by decide) (by decide),
    hspan 30 (by decide) (by decide), hprompt, haddress]
  refine (credentialsOf_alike hR h).bind fun credentials credentials' hcredentials => ?_
  have hnone : credentials.isEmpty = true ↔ credentials'.isEmpty = true := by
    rw [List.isEmpty_iff_length_eq_zero, List.isEmpty_iff_length_eq_zero, hcredentials.length_eq]
  refine .guarded hnone (.same _) ?_
  rw [checkUnique_eq hR .nil hcredentials]
  refine .bind_same .same _ fun _ => ?_
  refine .bind_same .same _ fun port => ?_
  refine .bind_same .same _ fun logFormat => ?_
  refine .bind_same .same _ fun slow => ?_
  refine .bind_same .same _ fun request => ?_
  refine .bind_same .same _ fun resources => ?_
  -- the socket is that of the address and the port
  refine .guarded Iff.rfl (.same _) ?_
  exact .value ⟨hcredentials, rfl⟩

/-! ## Seen -/

/-- A credential is described alike with another token. -/
theorem credential_describeIn_eq {manner : Manner}
    (hids : ∀ n, manner.identify (ids n) = manner.identify (ids' n)) {credential credential' : Credential}
    (h : CredentialAlike R ids ids' credential credential') :
    credential.describeIn manner = credential'.describeIn manner := by
  obtain ⟨n, hid, hid'⟩ := h.id
  have huser : credential.user.describeIn manner = credential'.user.describeIn manner := by
    unfold User.describeIn
    rw [hid, hid', hids n, h.name, h.role]
  unfold Credential.describeIn
  rw [huser]

/-- Credentials that are alike are described alike. -/
theorem map_describeIn_eq {manner : Manner}
    (hids : ∀ n, manner.identify (ids n) = manner.identify (ids' n))
    {credentials credentials' : List Credential}
    (h : List.Forall₂ (CredentialAlike R ids ids') credentials credentials') :
    (credentials.map fun credential => credential.describeIn manner) =
      credentials'.map fun credential => credential.describeIn manner := by
  induction h with
  | nil => rfl
  | cons hcredential _ ih =>
    rw [List.map_cons, List.map_cons, credential_describeIn_eq hids hcredential, ih]

/-- **Settings that are alike are described alike**, for a description writes something else in the
place of a token. -/
theorem describeIn_eq {settings settings' : Settings} (h : SettingsAlike R ids ids' settings settings')
    {manner : Manner} (hids : ∀ n, manner.identify (ids n) = manner.identify (ids' n)) :
    settings.describeIn manner = settings'.describeIn manner := by
  have hcredentials := map_describeIn_eq hids h.credentials
  rw [h.others]
  unfold describeIn
  rw [hcredentials]

/-- **Tokens are not seen, unless an entry is refused.** Let two tables differ in their tokens only, equal
tokens being replaced by equal ones and different tokens by different ones; they are read with whatever
identifiers for the users. Either both are accepted, and the settings differ only in these tokens and
identifiers: they are described by the same text, however texts are quoted in it, and identifiers written
in any manner that does not tell them apart. Or both are refused, and with the same error, so that the
message is the same, too. The one exception is an entry that is refused itself: it is in the error as it
was written, with its token. -/
theorem tokens_are_not_seen_unless_refused (hR : Replacement R) (h : TableRetokened R table other)
    (ids ids' : Nat → Uuid) :
    EndAlike
      (fun settings settings' => SettingsAlike R ids ids' settings settings' ∧
        ∀ manner : Manner, (∀ n, manner.identify (ids n) = manner.identify (ids' n)) →
          settings.describeIn manner = settings'.describeIn manner)
      (fun error error' => error.message = error'.message ∨ ∃ piece piece',
        EntryRetokened R piece piece' ∧ error = .invalidCredential (trim piece) ∧
          error' = .invalidCredential (trim piece'))
      (ofTable ids table) (ofTable ids' other) := by
  have halike : EndAlike (SettingsAlike R ids ids') (ErrorAlike R) (ofTable ids table)
    (ofTable ids' other) := ofTable_alike hR h
  refine halike.imp (fun settings settings' hsettings => ⟨hsettings, ?_⟩) fun error error' herror => ?_
  · exact fun manner hids => describeIn_eq hsettings hids
  · cases herror with
    | same => exact .inl rfl
    | entry hentry => exact .inr ⟨_, _, hentry, rfl, rfl⟩

/-! ### Longer tokens -/

/-- A longer token for each of the two users that there are. -/
def Lengthened (old new : String) : Prop :=
  (old = "a" ∧ new = "aaaa") ∨ (old = "b" ∧ new = "bbbb")

theorem replacement_lengthened : Replacement Lengthened where
  trimmed := by
    rintro _ _ (⟨rfl, rfl⟩ | ⟨rfl, rfl⟩)
    · exact (show Entry.IsPart "a" by decide).trimmed
    · exact (show Entry.IsPart "b" by decide).trimmed
  isPart := by
    rintro _ _ (⟨rfl, rfl⟩ | ⟨rfl, rfl⟩)
    · decide
    · decide
  unique := by
    constructor
    · rintro _ _ _ (⟨rfl, rfl⟩ | ⟨rfl, rfl⟩) (⟨rfl, h⟩ | ⟨rfl, h⟩)
      · rfl
      · exact absurd h (by decide)
      · exact absurd h (by decide)
      · rfl
    · rintro _ _ _ (⟨rfl, rfl⟩ | ⟨rfl, rfl⟩) (⟨h, rfl⟩ | ⟨h, rfl⟩)
      · rfl
      · exact absurd h (by decide)
      · exact absurd h (by decide)
      · rfl

/-- An entry with no blanks around its token. -/
theorem entry_lengthened {token token' : String} (h : Lengthened token token') (others : List String)
    (hcommas : ∀ part ∈ token :: others, ',' ∉ part.toList)
    (hcolons : ∀ part ∈ token :: others, ':' ∉ part.toList) :
    EntryRetokened Lengthened (join ":" (token :: others)) (join ":" (token' :: others)) := by
  have htoken : TextRetokened Lengthened ("" ++ token ++ "") ("" ++ token' ++ "") :=
    .token h (by decide) (by decide)
  simp only [String.empty_append, String.append_empty] at htoken
  exact .mk htoken hcommas hcolons

/-- A table with a list of entries and nothing else. -/
def listing (list : String) (key : String) : Option String :=
  if key = "SPEXUS_API_TOKENS" then some list else none

theorem listing_retokened {list list' : String} (h : ListRetokened R list list') :
    TableRetokened R (listing list) (listing list') where
  alone := .none
  listed := .some h
  rest key _ hlisted := by rw [listing, listing, if_neg hlisted, if_neg hlisted]

/-- The two users and their longer tokens. -/
def lengthenedList : String := "aaaa: alice :user , ,bbbb:bob:Commenter"

theorem list_lengthened : ListRetokened Lengthened sharedList lengthenedList := by
  have halice : EntryRetokened Lengthened "a: alice :user " "aaaa: alice :user " :=
    entry_lengthened (.inl ⟨rfl, rfl⟩) [" alice ", "user "] (by decide) (by decide)
  have hblank : EntryRetokened Lengthened " " " " :=
    @EntryRetokened.mk Lengthened " " " " [] (.blank (by decide)) (by decide) (by decide)
  have hbob : EntryRetokened Lengthened "b:bob:Commenter" "bbbb:bob:Commenter" :=
    entry_lengthened (.inr ⟨rfl, rfl⟩) ["bob", "Commenter"] (by decide) (by decide)
  exact .mk (.cons halice (.cons hblank (.cons hbob .nil)))

/-- The two users with longer tokens are described by the same text. -/
theorem tokens_are_not_seen_unless_refused_lengthened :
    Replacement Lengthened ∧ TableRetokened Lengthened sharedTable (listing lengthenedList) ∧
      ∃ settings, ofTable sharedIds (listing lengthenedList) = .ok settings ∧
        settings.describe = shared.describe := by
  have htables : TableRetokened Lengthened sharedTable (listing lengthenedList) :=
    listing_retokened list_lengthened
  have halike :=
    tokens_are_not_seen_unless_refused replacement_lengthened htables sharedIds sharedIds
  refine ⟨replacement_lengthened, htables, ?_⟩
  rw [ofTable_shared] at halike
  generalize ofTable sharedIds (listing lengthenedList) = read at halike ⊢
  cases halike with
  | value h => exact ⟨_, rfl, (h.2 .plain fun _ => rfl).symm⟩

/-- **A token is told to whoever sees the message**, where the entry that it is in is refused. -/
theorem refused_entry_tells_token :
    Replacement Lengthened ∧
      TableRetokened Lengthened (listing "a:alice:owner") (listing "aaaa:alice:owner") ∧
      (ofTable sharedIds (listing "a:alice:owner")).mapError SettingsError.message =
        .error "SPEXUS_API_TOKENS entries must be token:username:role, got 'a:alice:owner'" ∧
      (ofTable sharedIds (listing "aaaa:alice:owner")).mapError SettingsError.message =
        .error "SPEXUS_API_TOKENS entries must be token:username:role, got 'aaaa:alice:owner'" := by
  have hentry : EntryRetokened Lengthened "a:alice:owner" "aaaa:alice:owner" :=
    entry_lengthened (.inl ⟨rfl, rfl⟩) ["alice", "owner"] (by decide) (by decide)
  have hlist : ListRetokened Lengthened "a:alice:owner" "aaaa:alice:owner" := .mk (.cons hentry .nil)
  exact ⟨replacement_lengthened, listing_retokened hlist, by decide +kernel, by decide +kernel⟩

end Settings

end Planroom
