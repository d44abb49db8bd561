import Mathlib.Data.List.Forall2
import Planroom.Proofs.Work.Interleaving

/-!
# Work that goes on alike

Two pieces of work go on alike when they leave the same states, wait for the same instants, and go on
alike from whatever state they find then. They may log different things, and they may end with
different values, of which only a relation is known.

* **Turns** — `Turn.Alike R`: the values at the end are related by `R`. Whatever turns are put
  together with preserves this, `Turn.all` included (`all_alike`), so that work that goes on alike can
  be exchanged wherever it is done.
* **Side by side** — `SideBySide.alike`: strands that go on alike can take the same turns, in any order.
-/

namespace Planroom

variable {σ α β γ δ : Type} {R : α → β → Prop} {S : γ → δ → Prop}

/-! ## Turns -/

namespace Turn

/-- **Do two pieces of work go on alike?** The states have to be the same and not only related,
since others see them. -/
inductive Alike (R : α → β → Prop) : Turn σ α → Turn σ β → Prop where
  | done (state : σ) (events others : List Audit.Event) {value : α} {other : β} (h : R value other) :
      Alike R (.done state events value) (.done state others other)
  | wait (state : σ) (events others : List Audit.Event) (till : Instant) {resume : σ → Turn σ α}
      {again : σ → Turn σ β} (h : ∀ later, Alike R (resume later) (again later)) :
      Alike R (.wait state events till resume) (.wait state others till again)

namespace Alike

variable {turn : Turn σ α} {other : Turn σ β}

/-- Whatever they have come to, they have left the same state. -/
theorem state_eq (h : turn.Alike R other) : turn.state = other.state := by
  cases h <;> rfl

/-- Work goes on like work that goes on like it, if the values can be turned round as well. -/
theorem symm {R : α → α → Prop} {turn other : Turn σ α} (h : turn.Alike R other)
    (hsymm : ∀ value other, R value other → R other value) : other.Alike R turn := by
  induction h with
  | done state _ _ h => exact .done state _ _ (hsymm _ _ h)
  | wait state _ _ till _ ih => exact .wait state _ _ till ih

/-- What is logged in front makes no difference. -/
theorem log (h : turn.Alike R other) (before instead : List Audit.Event) :
    (turn.log before).Alike R (other.log instead) := by
  cases h with
  | done state _ _ h => exact .done state _ _ h
  | wait state _ _ till h => exact .wait state _ _ till h

/-- The values may be told in other ways, as long as these are related. -/
theorem map (h : turn.Alike R other) {f : α → γ} {g : β → δ}
    (hmap : ∀ value other, R value other → S (f value) (g other)) :
    (turn.map f).Alike S (other.map g) := by
  induction h with
  | done state _ _ h => exact .done state _ _ (hmap _ _ h)
  | wait state _ _ till _ ih => exact .wait state _ _ till ih

/-- Something may be made of the values and the states at the end, where what is logged then is left
out of account. -/
theorem conclude (h : turn.Alike R other) {close : σ → α → List Audit.Event × γ}
    {again : σ → β → List Audit.Event × δ}
    (hclose : ∀ state value other, R value other → S (close state value).2 (again state other).2) :
    (turn.conclude close).Alike S (other.conclude again) := by
  induction h with
  | done state _ _ h => exact .done state _ _ (hclose state _ _ h)
  | wait state _ _ till _ ih => exact .wait state _ _ till ih

/-- **Done alone**, such work ends in the same state, and with related values. -/
theorem finish (h : turn.Alike R other) :
    R turn.finish.value other.finish.value ∧ turn.finish.state = other.finish.state := by
  induction h with
  | done state _ _ h => exact ⟨h, rfl⟩
  | wait state _ _ till _ ih => exact ih state

end Alike

/-- **Beside work that waits**, which goes on alike once it is due. The instant for which the other
one waits is the same, so that the same one of the two goes first. -/
theorem Alike.besideWaiting {T : α × γ → β × δ → Prop} {turn : Turn σ γ} {other : Turn σ δ}
    {till : Instant} {go : σ → (σ → Turn σ γ) → Turn σ (α × γ)}
    {again : σ → (σ → Turn σ δ) → Turn σ (β × δ)} (h : turn.Alike S other)
    (hgo : ∀ later rest others, (∀ state, (rest state).Alike S (others state)) →
      (go later rest).Alike T (again later others)) :
    (turn.besideWaiting till go).Alike T (other.besideWaiting till again) := by
  induction h with
  | done state _ _ h =>
    exact .wait state _ _ till fun later => hgo later _ _ fun state => .done state _ _ h
  | wait state _ _ due h ih =>
    rw [Turn.besideWaiting, Turn.besideWaiting]
    split
    · -- the first one is due, and the other one still waits
      exact .wait state _ _ till fun later => hgo later _ _ fun state => .wait state _ _ due h
    · exact .wait state _ _ due ih

/-- **Two pieces of work side by side.** By induction on the first of them; the second goes on
whenever the first one waits. -/
theorem Alike.beside {T : α × γ → β × δ → Prop} {turn : Turn σ α} {other : Turn σ β}
    {second : σ → Turn σ γ} {instead : σ → Turn σ δ} (h : turn.Alike R other)
    (hsecond : ∀ state, (second state).Alike S (instead state))
    (hpair : ∀ a b c d, R a b → S c d → T (a, c) (b, d)) :
    (turn.beside second).Alike T (other.beside instead) := by
  induction h generalizing second instead with
  | done state _ _ h =>
    exact ((hsecond state).map fun _ _ hvalue => hpair _ _ _ _ h hvalue).log _ _
  | wait state _ _ till _ ih =>
    exact ((hsecond state).besideWaiting fun later rest others hrest => ih later hrest).log _ _

/-- **Any number of pieces of work** go on alike side by side, if they do so one by one. Their
values are related one by one, too. -/
theorem all_alike {works : List (σ → Turn σ α)} {others : List (σ → Turn σ β)}
    (h : List.Forall₂ (fun work other => ∀ state, (work state).Alike R (other state)) works others)
    (state : σ) : (all works state).Alike (List.Forall₂ R) (all others state) := by
  induction h generalizing state with
  | nil => exact .done state _ _ .nil
  | cons hwork _ ih =>
    exact ((hwork state).beside ih fun _ _ _ _ => .cons).map fun _ _ hpair => hpair

end Turn

/-! ## Side by side -/

/-- **Do two strands go on alike?** Either both are ready, or both are over. -/
inductive Strand.Alike (R : α → β → Prop) : Strand σ α → Strand σ β → Prop where
  | ready {next : σ → Turn σ α} {again : σ → Turn σ β}
      (h : ∀ state, (next state).Alike R (again state)) : Alike R (.ready next) (.ready again)
  | ended {value : α} {other : β} (h : R value other) : Alike R (.ended value) (.ended other)

/-- What a turn leaves of a strand goes on alike. -/
theorem Turn.Alike.left {turn : Turn σ α} {other : Turn σ β} (h : turn.Alike R other) :
    turn.left.Alike R other.left := by
  cases h with
  | done _ _ _ h => exact .ended h
  | wait _ _ _ _ h => exact .ready h

/-- What stands beside something at a position. -/
theorem exists_getElem?_of_forall₂ {l : List α} {m : List β} (h : List.Forall₂ R l m) {i : Nat}
    {a : α} (hi : l[i]? = some a) : ∃ b, m[i]? = some b ∧ R a b := by
  induction h generalizing i with
  | nil => cases hi
  | @cons _ b _ _ hab _ ih =>
    cases i with
    | zero =>
      cases hi
      exact ⟨b, rfl, hab⟩
    | succ i => exact ih hi

/-- Putting something else at a position. -/
theorem forall₂_set {l : List α} {m : List β} (h : List.Forall₂ R l m) (i : Nat) {a : α} {b : β}
    (hab : R a b) : List.Forall₂ R (l.set i a) (m.set i b) := by
  induction h generalizing i with
  | nil => exact .nil
  | cons hfirst hrest ih =>
    cases i with
    | zero => exact .cons hab hrest
    | succ i => exact .cons hfirst (ih i)

/-- **The same turns.** Strands that go on alike can take the same turns in the same states, and
then go on alike. So an order of turns that is possible for the ones is possible for the others. -/
theorem SideBySide.alike {strands after : List (Strand σ α)} {others : List (Strand σ β)}
    {start final : σ} {trace : List (TurnTaken σ)} (h : SideBySide strands start trace after final)
    (halike : List.Forall₂ (Strand.Alike R) strands others) :
    ∃ instead, SideBySide others start trace instead final ∧
      List.Forall₂ (Strand.Alike R) after instead := by
  induction h generalizing others with
  | rest strands state => exact ⟨others, .rest others state, halike⟩
  | @turn strands after state final trace i next hready _ ih =>
    obtain ⟨other, hother, hsame⟩ := exists_getElem?_of_forall₂ halike hready
    cases hsame with
    | @ready _ again hturn =>
      -- both turns leave the same state, so that the next one begins in the same state too
      obtain ⟨instead, hlater, hinstead⟩ := ih (forall₂_set halike i (hturn state).left)
      rw [(hturn state).state_eq] at hlater
      exact ⟨instead, .turn hother hlater, hinstead⟩

/-- Strands that are all over are like strands that are over. -/
theorem exists_ended_of_alike {values : List α} {strands : List (Strand σ β)}
    (h : List.Forall₂ (Strand.Alike R) (values.map .ended) strands) :
    ∃ others : List β, strands = others.map .ended ∧ List.Forall₂ R values others := by
  induction values generalizing strands with
  | nil =>
    cases h
    exact ⟨[], rfl, .nil⟩
  | cons value values ih =>
    cases h with
    | cons hfirst hrest =>
      cases hfirst with
      | @ended _ other hvalue =>
        obtain ⟨others, rfl, hothers⟩ := ih hrest
        exact ⟨other :: others, rfl, .cons hvalue hothers⟩

end Planroom
