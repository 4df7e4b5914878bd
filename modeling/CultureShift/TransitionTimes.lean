/-
# Transition times

A chain of `with_status` calls on one run. Each call compares its time with the
creation of the run, and not with the transition before it: a run that has been
moved on can be given an earlier time as long as it is not before the creation.
-/

import CultureShift.FixtureDemo
import CultureShift.Sequential.Reducer

namespace CultureShift

open Serialization Concurrent Sequential

/-- A call of `with_status`, with what the clock reads if no time is given. -/
structure StatusCall where
  status : ProjectRunStatus
  updatedAt : Option Datetime
  now : Datetime

/-- The time of the transition. -/
def StatusCall.time (call : StatusCall) : Datetime := call.updatedAt.getD call.now

namespace ProjectRun

/-- What the call returns or raises. -/
def moved (run : ProjectRun) (call : StatusCall) : Except Exc ProjectRun :=
  if call.status ∈ allowedTransitions run.status then
    validate run.id run.direction call.status run.warningCodes run.initialGenerationCount
      run.humanRevisionCount run.technicalAttemptCount run.createdAt call.time
  else
    .error <| .valueError <|
      "invalid status transition: " ++ StrEnum.value run.status ++ " -> " ++
        StrEnum.value call.status

theorem withStatus_eq_moved {σ : Type} (run : ProjectRun) (call : StatusCall) :
    run.withStatus (pure call.now) call.status call.updatedAt =
      (Program.ofExcept (run.moved call) : Program σ Exc ProjectRun) := by
  unfold withStatus moved
  by_cases hallowed : call.status ∈ allowedTransitions run.status
  · rw [if_pos hallowed, if_pos hallowed, StatusCall.time]
    cases call.updatedAt with
    | none => rfl
    | some updatedAt => rfl
  · rw [if_neg hallowed, if_neg hallowed]
    rfl

/-- The chain goes on with the new run, or with the old one if there is none. -/
def follow (run : ProjectRun) (call : StatusCall) : ProjectRun :=
  match (run.withStatus (pure call.now) call.status call.updatedAt :
    Program Unit Exc ProjectRun).result? with
  | some (.ok next) => next
  | _ => run

/-- Time does not move backwards: a call that returns a run does not give it an earlier time,
and a call with an earlier time raises. -/
structure MovesOn (run : ProjectRun) (call : StatusCall) : Prop where
  later : ∀ next, run.withStatus (pure call.now) call.status call.updatedAt =
    (pure next : Program Unit Exc ProjectRun) → run.updatedAt ≤ next.updatedAt
  raises : call.time < run.updatedAt → ∃ error,
    run.withStatus (pure call.now) call.status call.updatedAt =
      (.raise error : Program Unit Exc ProjectRun)

/-- An allowed transition that is not dated before the creation of the run is not dated before
its last transition either. -/
def DatedOn (run : ProjectRun) (call : StatusCall) : Prop :=
  call.status ∈ allowedTransitions run.status → run.createdAt ≤ call.time →
    run.updatedAt ≤ call.time

variable {run next : ProjectRun} {call : StatusCall}

/-- A call returns a run exactly when its transition is allowed and not dated before the
creation; the new run has the time of the call. -/
theorem moved_eq_ok (h : run.moved call = .ok next) :
    call.status ∈ allowedTransitions run.status ∧ run.createdAt ≤ call.time ∧
      next.updatedAt = call.time := by
  unfold moved at h
  split_ifs at h with hallowed
  have hbuilt := of_validate h
  have hdated : next.createdAt ≤ next.updatedAt := next.timestamps_valid
  rw [hbuilt.2.2.2.2.2.2.2.1, hbuilt.2.2.2.2.2.2.2.2] at hdated
  exact ⟨hallowed, hdated, hbuilt.2.2.2.2.2.2.2.2⟩

theorem exists_moved (run : ProjectRun) (call : StatusCall)
    (hallowed : call.status ∈ allowedTransitions run.status)
    (hcreated : run.createdAt ≤ call.time) : ∃ next, run.moved call = .ok next :=
  ⟨_, (if_pos hallowed).trans (dif_pos ⟨run.warning_codes_valid, run.counts_valid, hcreated⟩)⟩

theorem movesOn_iff_datedOn : run.MovesOn call ↔ run.DatedOn call := by
  constructor
  · intro h hallowed hcreated
    obtain ⟨next, hnext⟩ := run.exists_moved call hallowed hcreated
    have hlater := h.later next (by rw [withStatus_eq_moved, hnext]; rfl)
    rwa [(moved_eq_ok hnext).2.2] at hlater
  · intro h
    refine ⟨fun next hreturned => ?_, fun hearlier => ?_⟩
    · rw [withStatus_eq_moved] at hreturned
      cases hmoved : run.moved call with
      | error error =>
          rw [hmoved] at hreturned
          cases hreturned
      | ok other =>
          rw [hmoved] at hreturned
          cases hreturned
          obtain ⟨hallowed, hcreated, htime⟩ := moved_eq_ok hmoved
          rw [htime]
          exact h hallowed hcreated
    · rw [withStatus_eq_moved]
      cases hmoved : run.moved call with
      | error error => exact ⟨error, rfl⟩
      | ok next =>
          obtain ⟨hallowed, hcreated, -⟩ := moved_eq_ok hmoved
          exact absurd hearlier (not_lt.mpr (h hallowed hcreated))

/-- In exactly the chains in which every call is dated on, time never moves backwards. -/
theorem movesOn_throughout_iff (run : ProjectRun) (calls : List StatusCall) :
    EachStep follow MovesOn run calls ↔ EachStep follow DatedOn run calls :=
  eachStep_iff_eachStep (fun _ => True) trivial (fun _ _ _ _ => trivial)
    fun _ _ _ => movesOn_iff_datedOn

theorem follow_of_moved (h : run.moved call = .ok next) : run.follow call = next := by
  rw [follow, withStatus_eq_moved, h]
  rfl

end ProjectRun

namespace Demo

open ProjectRun

def oneOClock : Datetime := ⟨2026, 8, 25, 13, 0, 0, 0, now.date_valid, by decide⟩

def twoOClock : Datetime := ⟨2026, 8, 25, 14, 0, 0, 0, now.date_valid, by decide⟩

/-- A run that was created at noon and is moved on at two o'clock. -/
def movedRun : ProjectRun :=
  { ProjectRun.new assetId .chinaToUk now with
    status := .inProgress
    updatedAt := twoOClock
    timestamps_valid := by decide }

/-- The calls that move the run on, at two o'clock and then at one. -/
def moveOn : StatusCall := ⟨.inProgress, some twoOClock, twoOClock⟩

def moveBack : StatusCall := ⟨.blocked, some oneOClock, twoOClock⟩

theorem moved_moveOn : (ProjectRun.new assetId .chinaToUk now).moved moveOn = .ok movedRun :=
  (if_pos (by decide)).trans (dif_pos ⟨by decide, by decide, by decide⟩)

theorem not_datedOn_moveBack : ¬movedRun.DatedOn moveBack := by
  intro h
  have hearlier : twoOClock ≤ oneOClock := h (by decide) (by decide)
  revert hearlier
  decide

end Demo

/-- The run is moved on at two o'clock, and then again at one. -/
theorem ProjectRun.not_movesOn_throughout :
    ¬∀ (run : ProjectRun) (calls : List StatusCall), EachStep follow MovesOn run calls := by
  intro hchains
  obtain ⟨-, hsecond, -⟩ := hchains (.new Demo.assetId .chinaToUk Demo.now)
    [Demo.moveOn, Demo.moveBack]
  rw [follow_of_moved Demo.moved_moveOn] at hsecond
  exact Demo.not_datedOn_moveBack (movesOn_iff_datedOn.mp hsecond)

end CultureShift
