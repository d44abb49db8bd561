import Planroom.Proofs.Store.Persistence

/-!
# The users of a store

The users are filed when the store is set up, each under its identifier, and stay as they are.

* **At the beginning** — every user is known (`contains_users_initial`). If no two users have the same
  identifier, these are all that are filed (`entries_users_initial`), and each is found under its own
  (`get?_users_initial`). In any case nobody is found under the identifier of another one
  (`Reachable.id_of_get?_users`).
* **Later** — `users_run`: no run changes the users.
-/

namespace Planroom.Store

variable {store : Store} {users : List User} {prompts : List Prompt}

/-- Nothing that was filed is lost by filing more. What is filed under the same identifier takes its
place, and the identifier is still known. -/
theorem contains_insertUsers {table : Table User} {id : Uuid}
    (h : table.contains id = true ∨ ∃ user ∈ users, user.id = id) :
    (users.foldl (fun table user => table.insert user.id user) table).contains id = true := by
  induction users generalizing table with
  | nil => exact h.resolve_right fun ⟨_, hmem, _⟩ => List.not_mem_nil hmem
  | cons user rest ih =>
    refine ih ?_
    rw [Table.contains, Table.get?_insert]
    -- the table with this user in it knows the identifier, by this user or as before
    by_cases hsame : user.id = id
    · rw [if_pos hsame]
      exact .inl rfl
    · rw [if_neg hsame]
      refine h.imp_right ?_
      rintro ⟨other, hmem, hid⟩
      rcases List.mem_cons.1 hmem with rfl | hrest
      · exact absurd hid hsame
      · exact ⟨other, hrest, hid⟩

/-- **Every user is known** from the beginning, even one whose identifier another one has as well.
-/
theorem contains_users_initial {user : User} (h : user ∈ users) :
    (initial users prompts).users.contains user.id = true :=
  contains_insertUsers (.inr ⟨user, h, rfl⟩)

/-- Nobody is filed under the identifier of someone else. Of several users with one identifier the last
one stays, and it is the identifier of this one too. -/
theorem id_of_get?_insertUsers {table : Table User} {id : Uuid} {user : User}
    (htable : ∀ other, table.get? id = some other → other.id = id)
    (h : (users.foldl (fun table user => table.insert user.id user) table).get? id = some user) :
    user.id = id := by
  induction users generalizing table with
  | nil => exact htable user h
  | cons first rest ih =>
    refine ih ?_ h
    intro other hother
    rw [Table.get?_insert] at hother
    split at hother
    · next hsame =>
      cases hother
      exact hsame
    · exact htable other hother

/-- Users whose identifiers are new are filed one after the other. By induction on the users, with
what has been filed so far as the table. -/
theorem entries_insertUsers {table : Table User}
    (hids : (table.entries.map (·.1) ++ users.map (·.id)).Nodup) :
    (users.foldl (fun table user => table.insert user.id user) table).entries =
      table.entries ++ users.map fun user => (user.id, user) := by
  induction users generalizing table with
  | nil => exact (List.append_nil _).symm
  | cons user rest ih =>
    -- none that has been filed has the identifier, since it comes but once
    have hnew : table.get? user.id = none := by
      rw [Table.get?, Option.map_eq_none_iff, List.find?_eq_none]
      intro entry hentry hsame
      rw [beq_iff_eq] at hsame
      have hmem : entry.1 ∈ table.entries.map (·.1) := List.mem_map_of_mem hentry
      exact (List.nodup_append.1 hids).2.2 entry.1 hmem user.id List.mem_cons_self hsame
    have hentries : (table.insert user.id user).entries = table.entries ++ [(user.id, user)] :=
      Table.entries_insert_of_none hnew
    rw [List.foldl_cons, ih, hentries, List.append_assoc]
    · rfl
    · rw [hentries, List.map_append, List.append_assoc]
      exact hids

/-- **Where no two users have the same identifier**, each is filed under its own, and there are no
others. -/
theorem entries_users_initial (hids : (users.map (·.id)).Nodup) :
    (initial users prompts).users.entries = users.map fun user => (user.id, user) :=
  entries_insertUsers hids

/-- What is found under an identifier is the user who has it, and everybody is found. -/
theorem get?_users_eq_some_iff (hids : (users.map (·.id)).Nodup)
    (hentries : store.users.entries = users.map fun user => (user.id, user)) {id : Uuid} {user : User} :
    store.users.get? id = some user ↔ user ∈ users ∧ user.id = id := by
  rw [Table.get?, hentries, List.find?_map, Option.map_map, ← find?_key_eq_some_iff hids]
  exact Option.map_id' ▸ Iff.rfl

/-- At the beginning every user is found under its identifier. -/
theorem get?_users_initial (hids : (users.map (·.id)).Nodup) {user : User} (h : user ∈ users) :
    (initial users prompts).users.get? user.id = some user :=
  (get?_users_eq_some_iff hids (entries_users_initial hids)).2 ⟨h, rfl⟩

/-- **Who is found under an identifier** has this identifier, in every reachable store. Here it does
not matter whether two users share one. -/
theorem Reachable.id_of_get?_users (hstore : Reachable store) {id : Uuid} {user : User}
    (h : store.users.get? id = some user) : user.id = id := by
  induction hstore with
  | initial users prompts =>
    refine id_of_get?_insertUsers (fun other hother => ?_) h
    rw [Table.get?_empty] at hother
    cases hother
  | step step _ _ ih =>
    rw [after, users_effect (perform_effect _ step.stamp step.access)] at h
    exact ih h

/-- **The users are those of the beginning** after any run, whether or not it is fresh. -/
theorem users_run (steps : List Step) : (store.run steps).users = store.users := by
  induction steps generalizing store with
  | nil => rfl
  | cons step rest ih => exact ih.trans (users_effect (perform_effect store step.stamp step.access))

end Planroom.Store
