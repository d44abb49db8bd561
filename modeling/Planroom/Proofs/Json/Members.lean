import Planroom.Json.Document
import Planroom.Proofs.Keys

/-!
# Members and their names

On the way from an object as written to the object that it stands for, the members are given values,
put in order, and those that come again take the place of the earlier ones. Their names stay the same.

* **Values** — `map_fst_of_expandMembers`: each member is given a value under its name.
* **Order** — `mem_names_sortMembers`: in order there are the same names.
* **Finding** — a name is found exactly where it is there (`lookup_isSome_iff`), and what is found there
  is the value of what was written (`lookup_expandMembers`), of the last one where there are several
  (`get?_of_last`).
-/

namespace Planroom.Json

variable {name other : String} {value : Json} {members : Members}

/-! ## Finding -/

/-- A name is found where it is there. -/
theorem lookup_isSome_iff : (lookup name members).isSome = true ↔ name ∈ members.map (·.1) := by
  rw [lookup, Option.isSome_map, List.find?_isSome, List.mem_map]
  simp only [beq_iff_eq]

/-- What is found is there. -/
theorem mem_of_lookup (h : lookup name members = some value) : (name, value) ∈ members := by
  obtain ⟨member, hmember, rfl⟩ := Option.map_eq_some_iff.1 h
  obtain ⟨hthere, rfl⟩ := of_find?_key hmember
  exact hthere

/-- **What is found** is the value of the first member of the name. An object that was read has each name
once, but a list of members need not come from one. -/
theorem lookup_eq_some_iff : lookup name members = some value ↔
    ∃ before after, members = before ++ (name, value) :: after ∧ name ∉ before.map (·.1) := by
  rw [lookup, Option.map_eq_some_iff]
  constructor
  · rintro ⟨member, hfound, rfl⟩
    obtain ⟨hname, before, after, hmembers, hbefore⟩ := List.find?_eq_some_iff_append.1 hfound
    rw [beq_iff_eq] at hname
    refine ⟨before, after, by rw [hmembers, ← hname], fun hmem => ?_⟩
    obtain ⟨other, hother, hsame⟩ := List.mem_map.1 hmem
    -- one of the same name further up would have been found first
    have hdiffers := hbefore other hother
    rw [hsame, beq_self_eq_true] at hdiffers
    cases hdiffers
  · rintro ⟨before, after, hmembers, hbefore⟩
    refine ⟨(name, value), List.find?_eq_some_iff_append.2 ?_, rfl⟩
    refine ⟨beq_self_eq_true name, before, after, hmembers, fun other hother => ?_⟩
    rw [Bool.not_eq_true', beq_eq_false_iff_ne]
    exact fun hsame => hbefore (hsame ▸ List.mem_map_of_mem hother)

theorem text?_eq_some_iff {text : String} : text? value = some text ↔ value = .string text := by
  constructor
  · intro h
    cases value with
    | string =>
      cases h
      rfl
    | _ => cases h
  · rintro rfl
    rfl

/-! ## Order -/

theorem mem_names_insertMember : other ∈ (insertMember name value members).map (·.1) ↔
    other = name ∨ other ∈ members.map (·.1) := by
  induction members with
  | nil => simp [insertMember]
  | cons member rest ih =>
    rw [insertMember]
    split
    · simp
    · split
      · next hsame => simp [hsame]
      · rw [List.map_cons, List.mem_cons, ih, List.map_cons, List.mem_cons, or_left_comm]

/-- **In order** there are the same names. How often each of them comes is another matter: in order
it comes once. -/
theorem mem_names_sortMembers (members : Members) :
    name ∈ (sortMembers members).map (·.1) ↔ name ∈ members.map (·.1) := by
  have hfold : ∀ sorted : Members,
      name ∈ (members.foldl (fun sorted member => insertMember member.1 member.2 sorted)
        sorted).map (·.1) ↔ name ∈ sorted.map (·.1) ∨ name ∈ members.map (·.1) := by
    induction members with
    | nil => simp
    | cons member rest ih =>
      intro sorted
      rw [List.foldl_cons, ih, mem_names_insertMember, List.map_cons, List.mem_cons, or_assoc,
        or_left_comm]
  rw [sortMembers, hfold]
  exact or_iff_right (List.not_mem_nil)

theorem lookup_insertMember :
    lookup other (insertMember name value members) =
      if other = name then some value else lookup other members := by
  induction members with
  | nil =>
    by_cases h : other = name
    · simp [insertMember, lookup, h]
    · simp [insertMember, lookup, h, Ne.symm h]
  | cons member rest ih =>
    rw [insertMember]
    by_cases h : other = name
    · subst h
      split
      · simp [lookup]
      · split
        · simp [lookup]
        · next hne =>
          rw [if_pos rfl] at ih ⊢
          rw [← ih]
          simp [lookup, Ne.symm hne]
    · rw [if_neg h] at ih ⊢
      split
      · simp [lookup, Ne.symm h]
      · split
        · next heq => simp [lookup, Ne.symm h, ← heq]
        · -- the new member goes further down, past one of another name
          unfold lookup at ih ⊢
          simp only [List.find?_cons]
          split
          · rfl
          · exact ih

/-- **The last one** of a name is the one that is found. The members are put in from the last to the
first, so it is the earlier ones that are passed over or replaced. -/
theorem lookup_sortMembers_of_last {before after : Members} (h : name ∉ after.map (·.1)) :
    lookup name (sortMembers (before ++ (name, value) :: after)) = some value := by
  have hfold : ∀ sorted : Members,
      lookup name (after.foldl (fun sorted member => insertMember member.1 member.2 sorted) sorted) =
        lookup name sorted := by
    induction after with
    | nil => exact fun _ => rfl
    | cons member rest ih =>
      intro sorted
      rw [List.map_cons, List.mem_cons, not_or] at h
      rw [List.foldl_cons, ih h.2, lookup_insertMember, if_neg h.1]
  rw [sortMembers, List.foldl_append, List.foldl_cons, hfold, lookup_insertMember, if_pos rfl]

/-! ## Values -/

variable {document : String → Option Json} {values : Members}

/-- **Each member** is given a value under its name. A member without a value would leave the whole
object without one. -/
theorem map_fst_of_expandMembers (h : expandMembers document members = some values) :
    values.map (·.1) = members.map (·.1) := by
  induction members generalizing values with
  | nil =>
    rw [expandMembers] at h
    cases h
    rfl
  | cons member rest ih =>
    obtain ⟨name, item⟩ := member
    rw [expandMembers] at h
    simp only [Option.bind_eq_bind, Option.bind_eq_some_iff] at h
    obtain ⟨value, -, others, hothers, hvalues⟩ := h
    cases hvalues
    rw [List.map_cons, List.map_cons, ih hothers]

/-- Each member has a value, when all of them have. -/
theorem exists_of_expandMembers (h : expandMembers document members = some values)
    {member : String × Json} (hmember : member ∈ members) :
    ∃ value, expandWith document member.2 = some value := by
  induction members generalizing values with
  | nil => cases hmember
  | cons first rest ih =>
    obtain ⟨name, item⟩ := first
    rw [expandMembers] at h
    simp only [Option.bind_eq_bind, Option.bind_eq_some_iff] at h
    obtain ⟨value, hvalue, others, hothers, -⟩ := h
    rcases List.mem_cons.1 hmember with rfl | hrest
    · exact ⟨value, hvalue⟩
    · exact ih hothers hrest

/-- The value of a member stands where the member is written. -/
theorem expandMembers_append_cons {before after : Members} {item : Json}
    (h : expandMembers document (before ++ (name, item) :: after) = some values) :
    ∃ front value back, expandWith document item = some value ∧
      expandMembers document after = some back ∧ values = front ++ (name, value) :: back := by
  induction before generalizing values with
  | nil =>
    rw [List.nil_append, expandMembers] at h
    simp only [Option.bind_eq_bind, Option.bind_eq_some_iff] at h
    obtain ⟨value, hvalue, back, hback, hvalues⟩ := h
    cases hvalues
    exact ⟨[], value, back, hvalue, hback, rfl⟩
  | cons first rest ih =>
    obtain ⟨other, otherItem⟩ := first
    rw [List.cons_append, expandMembers] at h
    simp only [Option.bind_eq_bind, Option.bind_eq_some_iff] at h
    obtain ⟨otherValue, -, others, hothers, hvalues⟩ := h
    cases hvalues
    obtain ⟨front, value, back, hvalue, hback, rfl⟩ := ih hothers
    exact ⟨(other, otherValue) :: front, value, back, hvalue, hback, rfl⟩

/-- **The object that an object as written stands for** has members of the same names, and each of
them has a value, unless it announces an embedded document. In that case it may stand for anything,
even for what is no object. -/
theorem exists_of_expand_object (hplain : isEmbedding members = false)
    (hobject : (Json.object members).expand = some value) :
    ∃ fields, value = .object fields ∧
      (∀ name, name ∈ fields.map (·.1) ↔ name ∈ members.map (·.1)) ∧
      ∀ member ∈ members, ∃ item, member.2.expand = some item := by
  rw [expand, expandWith, hplain, if_neg Bool.false_ne_true] at hobject
  obtain ⟨values, hvalues, rfl⟩ := Option.map_eq_some_iff.1 hobject
  refine ⟨sortMembers values, rfl, fun name => ?_, fun member => exists_of_expandMembers hvalues⟩
  rw [mem_names_sortMembers, map_fst_of_expandMembers hvalues]

/-- **The object that an object as written stands for** has under each name the value of its last
member of this name, unless it announces an embedded document. -/
theorem get?_of_last {before after : Members} {item object : Json}
    (hplain : isEmbedding (before ++ (name, item) :: after) = false)
    (hobject : (Json.object (before ++ (name, item) :: after)).expand = some object)
    (hlast : name ∉ after.map (·.1)) : object.get? name = item.expand := by
  rw [expand, expandWith, hplain, if_neg Bool.false_ne_true] at hobject
  obtain ⟨values, hvalues, rfl⟩ := Option.map_eq_some_iff.1 hobject
  obtain ⟨front, value, back, hvalue, hback, rfl⟩ := expandMembers_append_cons hvalues
  rw [← map_fst_of_expandMembers hback] at hlast
  rw [expand, hvalue]
  exact lookup_sortMembers_of_last hlast

/-- **What is found under a name** is the value of what was written there. Names are not changed by
this, so the same one is found first. -/
theorem lookup_expandMembers (h : expandMembers document members = some values) (name : String) :
    lookup name values = (lookup name members).bind (expandWith document) := by
  induction members generalizing values with
  | nil =>
    rw [expandMembers] at h
    cases h
    rfl
  | cons first rest ih =>
    obtain ⟨other, item⟩ := first
    rw [expandMembers] at h
    simp only [Option.bind_eq_bind, Option.bind_eq_some_iff] at h
    obtain ⟨value, hvalue, others, hothers, hvalues⟩ := h
    cases hvalues
    have hrest := ih hothers
    unfold lookup at hrest ⊢
    simp only [List.find?_cons]
    cases hname : other == name with
    | true => exact hvalue.symm
    | false => exact hrest

end Planroom.Json
