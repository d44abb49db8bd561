import Planroom.Proofs.Tool.Errands
import Planroom.Proofs.Work.Course

/-!
# A call does all or nothing

A client that is told of an error may call again: nothing has been changed by the call, wherever it
failed or was cut short. A client that is told of success knows that what the tool is there for has
been done, and once.
-/

namespace Planroom.Tool

open Job

/-- **How many writes** a call of the tool makes when it succeeds: one, unless the tool only reads.
It is what the hint of the tool promises to clients. -/
def writes (tool : Tool) : Nat :=
  if tool.isReadOnly then 0 else 1

/-- An errand that has succeeded made the writes of its tool: all came down to its last access. The
look-ups before it have written nothing. -/
theorem countP_writes {tool : Tool} {lookups : List Moment} {access : Access} {stamp : Stamp}
    {world : World} (hlookups : ∀ moment ∈ lookups, moment.writes = false ∧ moment.succeeds = true)
    (hserves : tool.Serves access) :
    (lookups ++ [Moment.served access stamp world]).countP Moment.writes = tool.writes := by
  have hnone : lookups.countP Moment.writes = 0 := by
    rw [List.countP_eq_zero]
    intro moment hmem
    rw [(hlookups moment hmem).1]
    exact Bool.false_ne_true
  have hlast : (Moment.served access stamp world).writes = !tool.isReadOnly := hserves
  rw [List.countP_append, hnone, Nat.zero_add, List.countP_singleton, hlast, writes]
  cases tool.isReadOnly <;> rfl

/-- **All or nothing.** A tool is called by whomever, under whatever name and with whatever
arguments; others have turns as they like, and at every turn of its own the call may be told to
stop. Then it comes to one of two ends. Either it fails, and each of its turns has left the store as
it found it. Or it succeeds: there is a tool of that name, every access of the call was answered with
success, and one of them was a write if the tool does more than read, and none otherwise. When the
call is left alone it does come to an end; and in place of any of its turns it might have been
stopped. -/
theorem call_all_or_nothing (name : String) (context : Context) (arguments : Arguments)
    (world : World) :
    (∀ moments fate, Course ((callNamed name context arguments).run context) world moments fate →
      (∃ error, fate = .returned (.error error) ∧ ∀ moment ∈ moments, moment.KeepsStore) ∨
      ∃ result tool, fate = .returned (.ok result) ∧ ofName? name = some tool ∧
        (∀ moment ∈ moments, moment.succeeds = true) ∧
        moments.countP Moment.writes = tool.writes) ∧
    (∀ stamp, ∃ moments, Course ((callNamed name context arguments).run context) world moments
      (((callNamed name context arguments).run context).exec (.ofStore stamp) world).value) ∧
    ∀ before access stamp later after fate,
      Course ((callNamed name context arguments).run context) world
        (before ++ .served access stamp later :: after) fate →
      ∀ stop : Stop, Course ((callNamed name context arguments).run context) world
        (before ++ [.stopped access stop later]) (.returned (.error (.failed stop.failure))) := by
  -- all three parts hold of any errand; that every tool runs one is the work of another module
  have herrand := callNamed_runsErrand context arguments name
  refine ⟨?_, fun stamp => herrand.courseAlone_within context.limits, ?_⟩
  · intro moments fate hcourse
    obtain ⟨result, rfl, houtcome⟩ := herrand.course_within hcourse
    cases houtcome with
    | failed error hkept => exact .inl ⟨error, rfl, hkept⟩
    | succeeded lookups value hlookups hfinal hlast =>
      obtain ⟨tool, hname, hserves⟩ := hfinal
      refine .inr ⟨value, tool, rfl, hname, ?_, countP_writes hlookups hserves⟩
      intro moment hmem
      obtain hmem | hmem := List.mem_append.1 hmem
      · exact (hlookups moment hmem).2
      · rw [List.mem_singleton.1 hmem]
        exact hlast
  · intro before access stamp later after fate hcourse stop
    exact herrand.interruptible_within hcourse stop

/-- Somebody who may change artifacts, without a limit of time. -/
def editing : Context :=
  ⟨"c", some ⟨(Stamp.nth 0).id, "alice", .user⟩, .none⟩

/-- A new title for the first epic, which is looked up before it is changed. -/
def retitling : Arguments :=
  [("epic_id", .string "EP-001"), ("title", .string "Find")]

/-- A call that succeeds when it is left alone, with one write, and has changed nothing when it is
cancelled while it waits for that write. -/
theorem call_all_or_nothing_cancelled :
    let call := (callNamed "update_epic" editing retitling).run editing
    let world : World := ⟨Store.withEpic, 0, 0⟩
    (∃ moments result, Course call world moments (.returned (.ok result)) ∧
      moments.countP Moment.writes = 1) ∧
    ∃ moments, Course call world moments (.returned (.error (.failed .canceled))) ∧
      moments ≠ [] ∧ ∀ moment ∈ moments, moment.KeepsStore := by
  intro call world
  obtain ⟨hends, halone, hcut⟩ := call_all_or_nothing "update_epic" editing retitling world
  obtain ⟨result, hresult⟩ : ∃ result, (call.exec (.ofStore .nth) world).value =
      .returned (.ok result) := Fate.exists_of_isOk (by decide +kernel)
  obtain ⟨moments, hcourse⟩ := halone .nth
  rw [hresult] at hcourse
  obtain ⟨_, hfate, -⟩ | ⟨_, tool, -, hname, -, hcount⟩ := hends moments _ hcourse
  · cases hfate
  · obtain rfl : Tool.updateEpic = tool :=
      Option.some.inj ((ofName?_name .updateEpic).symm.trans hname)
    change moments.countP Moment.writes = 1 at hcount
    refine ⟨⟨moments, result, hcourse, hcount⟩, ?_⟩
    -- the write is one of its turns, and there it might have been cancelled
    obtain ⟨moment, hmem, hwrites⟩ : ∃ moment ∈ moments, moment.writes = true := by
      rw [← List.countP_pos_iff, hcount]
      exact Nat.zero_lt_one
    obtain ⟨before, after, rfl⟩ := List.append_of_mem hmem
    cases moment with
    | stopped => cases hwrites
    | served access stamp later =>
      have hcancelled := hcut before access stamp later after _ hcourse .canceled
      refine ⟨_, hcancelled, by simp, ?_⟩
      obtain ⟨_, -, hkept⟩ | ⟨_, _, hfate, -⟩ := hends _ _ hcancelled
      · exact hkept
      · cases hfate

end Planroom.Tool
