import Mathlib.Data.List.Nodup

/-!
# Lists in which no key comes twice

Records are looked up by going through a list until one has the right key. Where no key comes twice,
what is found does not depend on the order of the list.
-/

namespace Planroom

variable {α κ : Type} [BEq κ] [LawfulBEq κ] {key : α → κ} {l : List α}

/-- What is found under a key is in the list and has this key. -/
theorem of_find?_key {k : κ} {a : α} (h : l.find? (fun b => key b == k) = some a) :
    a ∈ l ∧ key a = k := by
  have hkey := List.find?_some h
  rw [beq_iff_eq] at hkey
  exact ⟨List.mem_of_find?_eq_some h, hkey⟩

/-- Where no key comes twice, what is found under a key is whatever has it. -/
theorem find?_key_eq_some_iff (hkeys : (l.map key).Nodup) {k : κ} {a : α} :
    l.find? (fun b => key b == k) = some a ↔ a ∈ l ∧ key a = k := by
  refine ⟨of_find?_key, ?_⟩
  rintro ⟨hmem, rfl⟩
  cases hfound : l.find? (fun b => key b == key a) with
  | none =>
    rw [List.find?_eq_none] at hfound
    exact absurd (beq_self_eq_true (key a)) (hfound a hmem)
  | some b =>
    obtain ⟨hthere, hsame⟩ := of_find?_key hfound
    rw [List.inj_on_of_nodup_map hkeys hthere hmem hsame]

/-- Where no key comes twice, it does not matter in which order the list is searched. -/
theorem find?_key_perm (hkeys : (l.map key).Nodup) {other : List α} (hperm : other.Perm l) (k : κ) :
    other.find? (fun b => key b == k) = l.find? (fun b => key b == k) := by
  have hother : (other.map key).Nodup := (hperm.map key).nodup_iff.2 hkeys
  ext a
  rw [find?_key_eq_some_iff hkeys, find?_key_eq_some_iff hother, hperm.mem_iff]

/-- Where no key comes twice, what has a key is all that has it. -/
theorem filter_key_eq_singleton {part : α → Option κ} (hkeys : (l.filterMap part).Nodup) {a : α}
    (hmem : a ∈ l) {k : κ} (hkey : part a = some k) :
    l.filter (fun b => part b == some k) = [a] := by
  induction l with
  | nil => cases hmem
  | cons b rest ih =>
    -- either the first one has the key, and then none of the others, or it is passed over
    by_cases hsame : part b = some k
    · rw [List.filterMap_cons_some hsame, List.nodup_cons] at hkeys
      have hrest : ∀ c ∈ rest, part c ≠ some k := fun c hc hck =>
        hkeys.1 (List.mem_filterMap.2 ⟨c, hc, hck⟩)
      have hfirst : a = b := by
        rcases List.mem_cons.1 hmem with h | h
        · exact h
        · exact absurd hkey (hrest a h)
      rw [List.filter_cons_of_pos (by simpa using hsame), hfirst, List.filter_eq_nil_iff.2]
      exact fun c hc => by simpa using hrest c hc
    · have hother : a ∈ rest := by
        rcases List.mem_cons.1 hmem with rfl | h
        · exact absurd hkey hsame
        · exact h
      rw [List.filter_cons_of_neg (by simpa using hsame)]
      refine ih ?_ hother
      cases hb : part b with
      | none => rwa [List.filterMap_cons_none hb] at hkeys
      | some other =>
        rw [List.filterMap_cons_some hb, List.nodup_cons] at hkeys
        exact hkeys.2

end Planroom
