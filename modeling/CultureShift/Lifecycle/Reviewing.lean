/-
# Reviews at the same time

A request for the Critic reads the run and the report in two transactions and
saves a report of its own in a third. Its response is valid only for a run that
is ready or has failed for good, so the request depends on what the others do
in between. While nobody saves a report before it does, and it reads the run at
rest, it answers with the report that is stored; otherwise it may fail.
-/

import CultureShift.Concurrent.History
import CultureShift.Lifecycle.Invariants
import CultureShift.Lifecycle.RevisionProgress

namespace CultureShift

open Serialization Relational Concurrent

variable {ι κ α : Type}

/-! ## Undisturbed reviews -/

namespace Database

variable (db : Database) (runId : UUID)

/-- The first version of the run has a report. -/
def HasReport : Prop := Stored (db.getCritique runId)

instance : Decidable (db.HasReport runId) :=
  match h : db.getCritique runId with
  | .ok (some record) => .isTrue ⟨record, h⟩
  | .ok none => .isFalse fun ⟨_, hstored⟩ => by simp [h] at hstored
  | .error _ => .isFalse fun ⟨_, hstored⟩ => by simp [h] at hstored

/-- The run is read with a status that the response to a review admits. -/
def AtRest : Prop :=
  ∃ run, db.get runId = .ok run ∧ (run.status = .ready ∨ run.status = .failedFinal)

instance : Decidable (db.AtRest runId) :=
  match h : db.get runId with
  | .ok run => decidable_of_iff (run.status = .ready ∨ run.status = .failedFinal)
      ⟨fun hstatus => ⟨run, h, hstatus⟩, fun ⟨_, hget, hstatus⟩ => by
        obtain rfl := Except.ok.inj (h.symm.trans hget)
        exact hstatus⟩
  | .error _ => .isFalse fun ⟨_, hget, _⟩ => by simp [h] at hget

end Database

/-- None of these steps finds a report until one of them stores it, and the step
after that finds the run at rest. -/
def UnracedReview (runId : UUID) : List (Event ι (World κ)) → Prop
  | [] => True
  | step :: steps => ¬step.before.database.HasReport runId ∧
      (step.after.database.HasReport runId →
        ∀ later ∈ steps.head?, later.before.database.AtRest runId) ∧
      (¬step.after.database.HasReport runId → UnracedReview runId steps)

/-- A report that the first of these steps finds is that of a run at rest; where
it finds none, no other request stores one first. -/
def UndisturbedReview (runId : UUID) : List (Event ι (World κ)) → Prop
  | [] => True
  | step :: steps =>
      (step.before.database.HasReport runId → step.before.database.AtRest runId) ∧
        (¬step.before.database.HasReport runId → UnracedReview runId (step :: steps))

/-! ## The phases of a review -/

/-- How far a request has come, and whether others have come first. -/
inductive ReviewPhase
  | arriving
  /-- It has found no report so far. -/
  | reviewing
  /-- It has stored the report. -/
  | saved
  /-- It has read a run at rest. -/
  | answering
  /-- It has come to a run with a report that is not at rest. -/
  | barred
  | disturbed

namespace ReviewPhase

/-- The phase after a step of the request. -/
def next (runId : UUID) (phase : ReviewPhase) (before after : Database) : ReviewPhase :=
  match phase with
  | arriving =>
      if before.HasReport runId then if before.AtRest runId then answering else barred
      else if after.HasReport runId then saved else reviewing
  | reviewing =>
      if before.HasReport runId then disturbed
      else if after.HasReport runId then saved else reviewing
  | saved => if before.AtRest runId then answering else disturbed
  | answering => answering
  | barred => barred
  | disturbed => disturbed

/-- In this phase the report is stored. -/
def Reported : ReviewPhase → Prop
  | saved | answering | barred => True
  | _ => False

/-- In this phase the request answers in the end. -/
def Served : ReviewPhase → Prop
  | saved | answering => True
  | _ => False

end ReviewPhase

variable {runId : UUID} {record : CritiqueRecord}

/-- A report that was read stays. -/
theorem Database.getCritique_of_le {certifies : CriticRequest → CritiqueReport → Prop}
    {db db' : Database} (hinv : (lifecycle certifies).inv db)
    (hle : (lifecycle certifies).le db db') (h : db.getCritique runId = .ok (some record)) :
    db'.getCritique runId = .ok (some record) := by
  obtain ⟨context, hcontext, -⟩ := bind_eq_ok.mp h
  obtain ⟨stage, hshows⟩ := Database.shows_of_contextOf hinv hcontext
  obtain ⟨evidence, hevidence, rfl⟩ :=
    Option.map_eq_some_iff.mp (Except.ok.inj (hshows.getCritique.symm.trans h))
  obtain ⟨stage', hshows', hsteps⟩ := hle runId stage hshows
  rw [hshows'.getCritique, Stage.persistent_reviewed?.of_steps hsteps hevidence, Option.map_some]

/-- A report is stored as it was saved, where none was stored before. -/
theorem Database.getCritique_saved {certifies : CriticRequest → CritiqueReport → Prop}
    {db db' : Database} (hinv : (lifecycle certifies).inv db) {report : CritiqueReport}
    {saved : CritiqueRecord} (hcommit : db.saveCritique runId report = .ok (saved, db'))
    (hchanged : db' ≠ db) :
    db'.getCritique runId = .ok (some ⟨report, report.reviewedAt⟩) := by
  rcases hinv runId with habsent | ⟨stage, hshows, -⟩
  · rw [Database.saveCritique, habsent.joined] at hcommit
    cases hcommit
  · rcases hshows.saveCritique hcommit with heq | ⟨evidence, -, hadvances⟩
    · exact absurd heq hchanged
    · rw [hadvances.shows.getCritique, Composed.reviewed?_review, Option.map_some]

/-- The history of a request for the Critic, in a run that stores this report
in the end. -/
def reviews (κ : Type) (runId : UUID) (record : CritiqueRecord) :
    History (World κ) ReviewPhase where
  moves before after := (requests fun _ _ => True).inv after ∧
    (requests fun _ _ => True).le before after ∧
    ∀ other, after.database.getCritique runId = .ok (some other) → other = record
  finds phase world := (requests fun _ _ => True).inv world ∧
    (∀ other, world.database.getCritique runId = .ok (some other) → other = record) ∧
    (phase.Reported → world.database.getCritique runId = .ok (some record))
  next phase before after := phase.next runId before.database after.database
  finds_of_moves := by
    rintro phase before after ⟨hinv, -, hreported⟩ ⟨hinv', hle, honly⟩
    exact ⟨hinv', honly, fun hphase => Database.getCritique_of_le hinv hle (hreported hphase)⟩
  finds_next := by
    rintro phase before after ⟨hinv, honly, hreported⟩ ⟨hinv', hle, honly'⟩
    have hstored (h : before.database.HasReport runId) :
        after.database.getCritique runId = .ok (some record) := by
      obtain ⟨other, hother⟩ := h
      obtain rfl := honly other hother
      exact Database.getCritique_of_le hinv hle hother
    have hsaved (h : after.database.HasReport runId) :
        after.database.getCritique runId = .ok (some record) := by
      obtain ⟨other, hother⟩ := h
      rwa [honly' other hother] at hother
    refine ⟨hinv', honly', ?_⟩
    cases phase with
    | arriving =>
        simp only [ReviewPhase.next]
        split_ifs with hbefore hrest hafter
        · exact fun _ => hstored hbefore
        · exact fun _ => hstored hbefore
        · exact fun _ => hsaved hafter
        · exact fun h => h.elim
    | reviewing =>
        simp only [ReviewPhase.next]
        split_ifs with hbefore hafter
        · exact fun h => h.elim
        · exact fun _ => hsaved hafter
        · exact fun h => h.elim
    | saved =>
        simp only [ReviewPhase.next]
        split_ifs
        · exact fun _ => Database.getCritique_of_le hinv hle (hreported trivial)
        · exact fun h => h.elim
    | answering | barred =>
        exact fun _ => Database.getCritique_of_le hinv hle (hreported trivial)
    | disturbed => exact fun h => h.elim

/-! ## Requests with a history -/

section Rules

variable {γ : Type} {H : History (World κ) γ} {phase : γ} {repository : Repository κ}
  {post : γ → α → Prop} {error : γ → Exc → Prop}

theorem traces_query (hconnect : repository.connect = .ret ()) {read : Database → Except Exc α}
    (hanswer : ∀ world value, H.finds phase world → read world.database = .ok value →
      post (H.next phase world world) value)
    (hfailure : ∀ world failure, H.finds phase world → read world.database = .error failure →
      error (H.next phase world world) failure) :
    (repository.query read).Traces H post error phase := by
  unfold Repository.query
  rw [hconnect]
  apply Program.traces_transact
  · intro world value after hfound _ hcommit
    obtain ⟨answer, hread, heq⟩ := map_eq_ok.mp hcommit
    obtain ⟨rfl, rfl⟩ := Prod.mk.inj heq
    exact hanswer world answer hfound hread
  · intro world failure hfound hrollback
    cases hread : read world.database with
    | ok value => simp [hread, Except.map] at hrollback
    | error failure' =>
        obtain rfl : failure' = failure := by simpa [hread, Except.map] using hrollback
        exact hfailure world failure' hfound hread

theorem traces_transaction (hconnect : repository.connect = .ret ())
    {body : Database → Except Exc (α × Database)}
    (hcommit : ∀ world value database, H.finds phase world →
      H.moves world { world with database } → body world.database = .ok (value, database) →
      post (H.next phase world { world with database }) value)
    (hrollback : ∀ world failure, H.finds phase world → body world.database = .error failure →
      error (H.next phase world world) failure) :
    (repository.transaction body).Traces H post error phase := by
  unfold Repository.transaction
  rw [hconnect]
  apply Program.traces_transact
  · intro world value after hfound hmoves hdone
    obtain ⟨⟨answer, database⟩, hbody, heq⟩ := map_eq_ok.mp hdone
    obtain ⟨rfl, rfl⟩ := Prod.mk.inj heq
    exact hcommit world answer database hfound hmoves hbody
  · intro world failure hfound hfailed
    cases hbody : body world.database with
    | ok result => simp [hbody, Except.map] at hfailed
    | error failure' =>
        obtain rfl : failure' = failure := by simpa [hbody, Except.map] using hfailed
        exact hrollback world failure' hfound hbody

end Rules

/-! ## The contract of a review -/

/-- What is left of a request for the Critic once its capability is checked. -/
def App.reviewing (app : App κ) (runId : UUID) (request : HttpRequest) :
    Program (World κ) Exc Response := do
  return .reviewed (← app.answerCritic runId request)

theorem App.handle_runCritic (app : App κ) (request : HttpRequest) :
    app.handle (.runCritic runId request) =
      app.requireCapability .updateProjectRun runId request >>= fun _ =>
        app.reviewing runId request :=
  Program.bind_assoc _ _ _

/-- What a request has found when it is about to respond. -/
def Found (record : CritiqueRecord) : ReviewPhase → ProjectRun × CritiqueReport → Prop
  | .answering, (run, report) =>
      (run.status = .ready ∨ run.status = .failedFinal) ∧ report = record.report
  | .barred, (run, _) => ¬(run.status = .ready ∨ run.status = .failedFinal)
  | .saved, _ => False
  | _, _ => True

/-- The response of a request that was not disturbed. One that is barred has none. -/
def Answers (record : CritiqueRecord) : ReviewPhase → CritiqueCompleted → Prop
  | .answering, response => response.critique = record.report
  | .barred, _ | .saved, _ => False
  | _, _ => True

/-- A request that has come to its own report or to a run at rest does not fail. -/
def MayFail (phase : ReviewPhase) (_ : Exc) : Prop :=
  match phase with
  | .answering | .saved => False
  | _ => True

/-- Nothing is asked of a request that was disturbed. -/
theorem traces_disturbed {post : ReviewPhase → α → Prop} {error : ReviewPhase → Exc → Prop}
    (program : Program (World κ) Exc α) (hpost : ∀ value, post .disturbed value)
    (herror : ∀ failure, error .disturbed failure) :
    program.Traces (reviews κ runId record) post error .disturbed := by
  induction program with
  | ret value => exact hpost value
  | raise failure => exact herror failure
  | atomic effect next ih => exact fun state _ _ => ih state
  | choose ι next ih => exact ih

/-- A step that stores no report goes on with the review. -/
theorem next_reviewing (world world' : World κ) (h : world'.database = world.database) :
    (reviews κ runId record).next .reviewing world world' = .reviewing ∨
      (reviews κ runId record).next .reviewing world world' = .disturbed := by
  change ReviewPhase.next runId .reviewing world.database world'.database = _ ∨
    ReviewPhase.next runId .reviewing world.database world'.database = _
  rw [h]
  by_cases hreport : world.database.HasReport runId
  · exact .inr (if_pos hreport)
  · left
    rw [ReviewPhase.next, if_neg hreport, if_neg hreport]

theorem mayFail_next (world world' : World κ) (h : world'.database = world.database)
    (failure : Exc) : MayFail ((reviews κ runId record).next .reviewing world world') failure := by
  rcases next_reviewing world world' h with hnext | hnext
  · rw [hnext]
    trivial
  · rw [hnext]
    trivial

section Contract

variable {app : App κ} {post : ReviewPhase → α → Prop}

/-- Reading a piece of evidence is part of the review. -/
theorem traces_read {β : Type} (hconnect : app.runs.connect = .ret ())
    {read : Database → Except Exc β} {rest : β → Program (World κ) Exc α}
    (hpost : ∀ value, post .disturbed value)
    (hrest : ∀ value, (rest value).Traces (reviews κ runId record) post MayFail .reviewing) :
    (app.runs.query read >>= rest).Traces (reviews κ runId record) post MayFail .reviewing := by
  apply Program.traces_bind
  apply traces_query hconnect
  · intro world value _ _
    rcases next_reviewing world world rfl with hnext | hnext
    · rw [hnext]
      exact hrest value
    · rw [hnext]
      exact traces_disturbed _ hpost fun _ => trivial
  · intro world failure _ _
    exact mayFail_next world world rfl failure

/-- The run that is read after its report has been stored is at rest, or somebody
has come first. -/
theorem traces_get_saved {report : CritiqueReport} (hconnect : app.runs.connect = .ret ())
    (hreport : report = record.report) :
    (app.runs.get runId >>= fun run => .ret (run, report)).Traces (reviews κ runId record)
      (Found record) MayFail .saved := by
  apply Program.traces_bind
  apply traces_query hconnect
  · intro world run hfound hget
    change Found record (ReviewPhase.next runId .saved world.database world.database) _
    by_cases hrest : world.database.AtRest runId
    · rw [ReviewPhase.next, if_pos hrest]
      obtain ⟨run', hget', hstatus⟩ := hrest
      obtain rfl := Except.ok.inj (hget.symm.trans hget')
      exact ⟨hstatus, hreport⟩
    · rw [ReviewPhase.next, if_neg hrest]
      trivial
  · intro world failure hfound hget
    change MayFail (ReviewPhase.next runId .saved world.database world.database) _
    rw [ReviewPhase.next, if_neg]
    · trivial
    · rintro ⟨run, hget', -⟩
      rw [hget] at hget'
      cases hget'

/-- A request that has found no report saves its own. -/
theorem traces_save {report : CritiqueReport} (hconnect : app.runs.connect = .ret ()) :
    (app.runs.saveCritique runId report >>= fun _ =>
        app.runs.get runId >>= fun run => .ret (run, report)).Traces (reviews κ runId record)
      (Found record) MayFail .reviewing := by
  have hdisturbed : (app.runs.get runId >>= fun run => .ret (run, report)).Traces
      (reviews κ runId record) (Found record) MayFail .disturbed :=
    traces_disturbed _ (fun _ => trivial) fun _ => trivial
  apply Program.traces_bind
  apply traces_transaction hconnect
  · intro world saved database hfound hmoves hcommit
    change Program.Traces _ _ _ (ReviewPhase.next runId .reviewing world.database database) _
    by_cases hbefore : world.database.HasReport runId
    · rw [ReviewPhase.next, if_pos hbefore]
      exact hdisturbed
    · by_cases hafter : database.HasReport runId
      · rw [ReviewPhase.next, if_neg hbefore, if_pos hafter]
        apply traces_get_saved hconnect
        obtain ⟨-, -, honly⟩ := hmoves
        have hchanged : database ≠ world.database := by
          rintro rfl
          exact hbefore hafter
        exact congrArg CritiqueRecord.report
          (honly _ (Database.getCritique_saved hfound.1 hcommit hchanged))
      · rw [ReviewPhase.next, if_neg hbefore, if_neg hafter]
        exact traces_read hconnect (fun _ => trivial) fun _ => trivial
  · intro world failure _ _
    exact mayFail_next world world rfl failure

theorem traces_reviewAndSave (hconnect : app.runs.connect = .ret ()) (run : ProjectRun) :
    (app.reviewAndSave runId run).Traces (reviews κ runId record) (Found record) MayFail
      .reviewing := by
  have htrivial (value : ProjectRun × CritiqueReport) : Found record .disturbed value := trivial
  refine traces_read hconnect htrivial fun analysis => ?_
  refine traces_read hconnect htrivial fun confirmation => ?_
  refine traces_read hconnect htrivial fun draft => ?_
  refine traces_read hconnect htrivial fun composition => ?_
  match analysis, confirmation, draft, composition with
  | some analysis, some confirmation, some draft, some composition =>
      apply Program.traces_bind
      -- The Critic works outside the database, so the request is still reviewing after it.
      refine Program.traces_within (fun phase => phase = .reviewing ∨ phase = .disturbed)
        (.inl rfl) ?_ ?_ ?_
      · rintro phase world part (rfl | rfl)
        · exact next_reviewing world _ rfl
        · exact .inr rfl
      · rintro phase report (rfl | rfl)
        · exact traces_save hconnect
        · exact traces_disturbed _ htrivial fun _ => trivial
      · rintro phase failure (rfl | rfl) <;> trivial
  | none, _, _, _ => trivial
  | some _, none, _, _ => trivial
  | some _, some _, none, _ => trivial
  | some _, some _, some _, none => trivial

/-- A report that is stored is answered as it is. -/
theorem traces_stored (hconnect : app.runs.connect = .ret ()) (phase : ReviewPhase)
    (hstays : ∀ before after, (reviews κ runId record).next phase before after = phase)
    (hreported : phase.Reported) {run : ProjectRun} {other : Program (World κ) Exc _}
    (hfound : ∀ report, report = record.report → Found record phase (run, report)) :
    (app.runs.getCritique runId >>= fun existing => match existing with
      | some existing => .ret (run, existing.report)
      | none => other).Traces (reviews κ runId record) (Found record) MayFail phase := by
  apply Program.traces_bind
  apply traces_query hconnect
  · intro world existing hworld hread
    obtain rfl : some record = existing :=
      Except.ok.inj ((hworld.2.2 hreported).symm.trans hread)
    rw [hstays]
    exact hfound record.report rfl
  · intro world failure hworld hread
    cases (hworld.2.2 hreported).symm.trans hread

/-- The first read decides whether the request is disturbed from the start. -/
theorem traces_critiqueOf (hconnect : app.runs.connect = .ret ()) :
    (app.critiqueOf runId).Traces (reviews κ runId record) (Found record) MayFail .arriving := by
  apply Program.traces_bind
  apply traces_query hconnect
  · intro world run hfound hget
    change Program.Traces _ _ _ (ReviewPhase.next runId .arriving world.database world.database) _
    by_cases hreport : world.database.HasReport runId
    · by_cases hrest : world.database.AtRest runId
      · rw [ReviewPhase.next, if_pos hreport, if_pos hrest]
        obtain ⟨run', hget', hstatus⟩ := hrest
        obtain rfl := Except.ok.inj (hget.symm.trans hget')
        exact traces_stored hconnect .answering (fun _ _ => rfl) trivial
          fun report hreport => ⟨hstatus, hreport⟩
      · rw [ReviewPhase.next, if_pos hreport, if_neg hrest]
        exact traces_stored hconnect .barred (fun _ _ => rfl) trivial
          fun report _ hstatus => hrest ⟨run, hget, hstatus⟩
    · rw [ReviewPhase.next, if_neg hreport, if_neg hreport]
      apply Program.traces_bind
      apply traces_query hconnect
      · intro later existing hlater hread
        change Program.Traces _ _ _
          (ReviewPhase.next runId .reviewing later.database later.database) _
        by_cases hraced : later.database.HasReport runId
        · rw [ReviewPhase.next, if_pos hraced]
          exact traces_disturbed _ (fun _ => trivial) fun _ => trivial
        · rw [ReviewPhase.next, if_neg hraced, if_neg hraced]
          cases existing with
          | some existing => exact absurd ⟨existing, hread⟩ hraced
          | none => exact traces_reviewAndSave hconnect run
      · intro later failure _ _
        exact mayFail_next later later rfl failure
  · intro world failure hfound hget
    change MayFail (ReviewPhase.next runId .arriving world.database world.database) failure
    have hrest : ¬world.database.AtRest runId := by
      rintro ⟨run, hget', -⟩
      rw [hget] at hget'
      cases hget'
    by_cases hreport : world.database.HasReport runId
    · rw [ReviewPhase.next, if_pos hreport, if_neg hrest]
      trivial
    · rw [ReviewPhase.next, if_neg hreport, if_neg hreport]
      trivial

/-- A run at rest makes a valid response. -/
theorem traces_critiqueResponse {run : ProjectRun} {report : CritiqueReport} {phase : ReviewPhase}
    (h : Found record phase (run, report)) :
    (App.critiqueResponse run report : Program (World κ) Exc CritiqueCompleted).Traces
      (reviews κ runId record) (Answers record) MayFail phase := by
  unfold App.critiqueResponse
  cases phase with
  | answering =>
      obtain ⟨hstatus, rfl⟩ := h
      rw [CritiqueCompleted.validate, dif_pos ⟨hstatus, run.counts_valid, rfl⟩]
      rfl
  | barred =>
      rw [CritiqueCompleted.validate, dif_neg fun hvalid => h hvalid.1]
      trivial
  | saved => exact h.elim
  | arriving | reviewing | disturbed =>
      generalize validated _ = outcome
      cases outcome <;> trivial

/-- Whatever it finds, a request that was not disturbed answers with the report
that is stored. -/
theorem traces_answerCritic {request : HttpRequest} (hconnect : app.runs.connect = .ret ())
    (hbody : request.body = []) :
    (app.answerCritic runId request).Traces (reviews κ runId record) (Answers record) MayFail
      .arriving := by
  unfold App.answerCritic
  rw [if_neg (not_not.mpr hbody)]
  apply Program.traces_bind
  apply Program.traces_tryCatch
  refine (traces_critiqueOf hconnect).mono (fun phase value h => traces_critiqueResponse h) ?_
  intro phase failure hfails
  cases failure <;> exact hfails

end Contract

/-! ## The phase of an undisturbed request -/

section Phases

variable {steps : List (Event ι (World κ))}

theorem after_of_absorbing {phase : ReviewPhase}
    (h : ∀ before after, (reviews κ runId record).next phase before after = phase) :
    (reviews κ runId record).after phase steps = phase := by
  induction steps with
  | nil => rfl
  | cons step steps ih =>
      change (reviews κ runId record).after ((reviews κ runId record).next phase _ _) steps = _
      rw [h]
      exact ih

variable (record) in
theorem served_after_saved
    (h : ∀ later ∈ steps.head?, later.before.database.AtRest runId) :
    ((reviews κ runId record).after .saved steps).Served := by
  cases steps with
  | nil => trivial
  | cons step steps =>
      have hrest : ReviewPhase.next runId .saved step.before.database step.after.database =
          .answering := if_pos (h step rfl)
      change ((reviews κ runId record).after (ReviewPhase.next runId .saved step.before.database
        step.after.database) steps).Served
      rw [hrest, after_of_absorbing fun _ _ => rfl]
      trivial

variable (record) in
/-- Until the request stores its report it is reviewing. -/
theorem served_after_reviewing (h : UnracedReview runId steps) {last : Event ι (World κ)}
    (hlast : steps.getLast? = some last) (hreport : last.after.database.HasReport runId) :
    ((reviews κ runId record).after .reviewing steps).Served := by
  induction steps with
  | nil => cases hlast
  | cons step steps ih =>
      obtain ⟨hbefore, hsaved, hnext⟩ := h
      change ((reviews κ runId record).after (ReviewPhase.next runId .reviewing
        step.before.database step.after.database) steps).Served
      by_cases hafter : step.after.database.HasReport runId
      · rw [ReviewPhase.next, if_neg hbefore, if_pos hafter]
        exact served_after_saved record (hsaved hafter)
      · rw [ReviewPhase.next, if_neg hbefore, if_neg hafter]
        cases steps with
        | nil =>
            obtain rfl := Option.some.inj hlast
            exact absurd hreport hafter
        | cons later steps => exact ih (hnext hafter) (by simpa using hlast)

variable (record) in
theorem barred_after_arriving {first : Event ι (World κ)} (hfirst : first ∈ steps.head?)
    (hreport : first.before.database.HasReport runId)
    (hrest : ¬first.before.database.AtRest runId) :
    (reviews κ runId record).after .arriving steps = .barred := by
  cases steps with
  | nil => cases hfirst
  | cons step steps =>
      obtain rfl := Option.some.inj hfirst
      have hbarred : ReviewPhase.next runId .arriving step.before.database step.after.database =
          .barred := by
        rw [ReviewPhase.next, if_pos hreport, if_neg hrest]
      change (reviews κ runId record).after (ReviewPhase.next runId .arriving
        step.before.database step.after.database) steps = .barred
      rw [hbarred, after_of_absorbing fun _ _ => rfl]

variable (record) in
/-- An undisturbed request is served. -/
theorem served_after_arriving (h : UndisturbedReview runId steps) {last : Event ι (World κ)}
    (hlast : steps.getLast? = some last) (hreport : last.after.database.HasReport runId) :
    ((reviews κ runId record).after .arriving steps).Served := by
  cases steps with
  | nil => cases hlast
  | cons step steps =>
      obtain ⟨hrest, hunraced⟩ := h
      by_cases hbefore : step.before.database.HasReport runId
      · change ((reviews κ runId record).after (ReviewPhase.next runId .arriving
          step.before.database step.after.database) steps).Served
        rw [ReviewPhase.next, if_pos hbefore, if_pos (hrest hbefore),
          after_of_absorbing fun _ _ => rfl]
        trivial
      · -- A first step that finds no report is like any other step of the review.
        have hfirst : ReviewPhase.next runId .arriving step.before.database step.after.database =
            ReviewPhase.next runId .reviewing step.before.database step.after.database := by
          rw [ReviewPhase.next, ReviewPhase.next, if_neg hbefore, if_neg hbefore]
        have hserved := served_after_reviewing record (hunraced hbefore) hlast hreport
        change ((reviews κ runId record).after (ReviewPhase.next runId .arriving
          step.before.database step.after.database) steps).Served
        rw [hfirst]
        exact hserved

end Phases

/-! ## Every run -/

section Runs

variable [DecidableEq ι] {app : App κ} {rest : κ} {inbox : ι → Request}
  {start config : Config ι (World κ) Exc Response} {log : List (Event ι (World κ))}

omit [DecidableEq ι] in
/-- The workflow keeps its discipline, whatever the Critic certifies. -/
theorem workflow_keeps_any : Discipline.Keeps (requests fun _ _ => True) (fun _ _ => True)
    (fun i => (inbox i).Completed app.revisions)
    (fun i => (inbox i).Declined app.revisions fun _ => True) (fun _ => ∅)
    (workflow app rest inbox) :=
  workflow_keeps (fun _ _ => True) (fun _ => Program.returns_true _) fun _ => Program.returns_true _

/-- No step of a run takes a report back or replaces it. -/
theorem moves_of_runs_reviews (hreaches : Reaches (workflow app rest inbox) start)
    (hruns : Runs start log config)
    (hrecord : config.state.database.getCritique runId = .ok (some record)) :
    (reviews κ runId record).finds .arriving start.state ∧
      ∀ event ∈ log, (reviews κ runId record).moves event.before event.after := by
  obtain ⟨prior, hprior⟩ := hreaches
  have hsame {world : World κ} (hinv : (requests fun _ _ => True).inv world)
      (hle : (requests fun _ _ => True).le world config.state) (other : CritiqueRecord)
      (hother : world.database.getCritique runId = .ok (some other)) : other = record := by
    have hlater := Database.getCritique_of_le hinv hle hother
    exact Option.some.inj (Except.ok.inj (hlater.symm.trans hrecord))
  constructor
  · obtain ⟨owns, hstart, -⟩ := Discipline.keeps_of_runs hprior workflow_keeps_any
      fun _ _ => trivial
    obtain ⟨-, -, hle, -⟩ := Discipline.keeps_of_runs hruns hstart fun _ _ => trivial
    exact ⟨hstart.inv, hsame hstart.inv hle, fun h => h.elim⟩
  · intro event hevent
    obtain ⟨hinv, -, hstep, hle⟩ :=
      Discipline.moves_of_runs (hprior.trans hruns) workflow_keeps_any (fun _ _ => trivial)
        (List.mem_append_right prior hevent)
    exact ⟨hinv, hstep, hsame hinv hle⟩

/-- What a request for the Critic comes to in the phase where it ends. -/
theorem outcome_of_traces {program : Program (World κ) Exc Response} {phase : ReviewPhase}
    {outcome : Except Exc Response}
    (htraces : program.Traces (reviews κ runId record) (fun phase response =>
      ∃ critique, response = .reviewed critique ∧ Answers record phase critique) MayFail phase)
    (hdone : program.result? = some outcome) :
    (phase.Served → ∃ response, outcome = .ok (.reviewed response) ∧
      response.critique = record.report) ∧
    (phase = .barred → ∃ failure, outcome = .error failure) := by
  cases program with
  | ret response =>
      obtain ⟨critique, rfl, hanswers⟩ := htraces
      cases hdone
      constructor
      · intro hserved
        cases phase with
        | answering => exact ⟨critique, rfl, hanswers⟩
        | saved => exact hanswers.elim
        | arriving | reviewing | barred | disturbed => exact hserved.elim
      · rintro rfl
        exact hanswers.elim
  | raise failure =>
      cases hdone
      constructor
      · intro hserved
        cases phase with
        | answering | saved => exact htraces.elim
        | arriving | reviewing | barred | disturbed => exact hserved.elim
      · exact fun _ => ⟨failure, rfl⟩
  | atomic effect next => cases hdone
  | choose κ next => cases hdone

/-- What a request whose capability has been checked comes to once the report is stored: the
phase it has reached decides. -/
theorem outcome_of_review {i : ι} {request : HttpRequest} {outcome : Except Exc Response}
    {last : Event ι (World κ)} (hconnect : app.runs.connect = .ret ())
    (hbody : request.body = []) (hreaches : Reaches (workflow app rest inbox) start)
    (hthread : start.threads i = app.reviewing runId request)
    (hruns : Runs start log config) (hdone : (config.threads i).result? = some outcome)
    (hlast : (stepsOf i log).getLast? = some last)
    (hrecord : last.after.database.getCritique runId = .ok (some record)) :
    (((reviews κ runId record).after .arriving (stepsOf i log)).Served →
      ∃ response, outcome = .ok (.reviewed response) ∧ response.critique = record.report) ∧
    ((reviews κ runId record).after .arriving (stepsOf i log) = .barred →
      ∃ failure, outcome = .error failure) := by
  have hmem : last ∈ log := List.mem_of_mem_filter (List.mem_of_getLast? hlast)
  have hstored : config.state.database.getCritique runId = .ok (some record) := by
    obtain ⟨prior, hprior⟩ := hreaches
    obtain ⟨hinv, -, -, hle⟩ := Discipline.moves_of_runs (hprior.trans hruns) workflow_keeps_any
      (fun _ _ => trivial) (List.mem_append_right prior hmem)
    exact Database.getCritique_of_le hinv hle hrecord
  obtain ⟨hfinds, hmoves⟩ := moves_of_runs_reviews hreaches hruns hstored
  have hstart : (start.threads i).Traces (reviews κ runId record)
      (fun phase response => ∃ critique, response = .reviewed critique ∧
        Answers record phase critique) MayFail .arriving := by
    rw [hthread]
    apply Program.traces_bind
    exact (traces_answerCritic hconnect hbody).mono
      (fun _ critique h => ⟨critique, rfl, h⟩) fun _ _ h => h
  obtain ⟨-, htraces⟩ := hruns.traces hmoves hfinds hstart
  exact outcome_of_traces htraces hdone

/-- However many requests for the Critic there are and however they interleave
with everything else, one whose capability has been checked and that completes
after a report is stored answers with that report, unless the run was not at rest
when it was read or another request stored the report first. Where it finds the
report of a run that is not at rest, it fails. -/
theorem reviewed_of_runs {i : ι} {request : HttpRequest} {outcome : Except Exc Response}
    {last : Event ι (World κ)} (hconnect : app.runs.connect = .ret ())
    (hbody : request.body = []) (hreaches : Reaches (workflow app rest inbox) start)
    (hthread : start.threads i = app.reviewing runId request)
    (hruns : Runs start log config) (hdone : (config.threads i).result? = some outcome)
    (hlast : (stepsOf i log).getLast? = some last)
    (hrecord : last.after.database.getCritique runId = .ok (some record)) :
    (UndisturbedReview runId (stepsOf i log) →
      ∃ response, outcome = .ok (.reviewed response) ∧ response.critique = record.report) ∧
    ((∃ first ∈ (stepsOf i log).head?, first.before.database.HasReport runId ∧
        ¬first.before.database.AtRest runId) → ∃ failure, outcome = .error failure) := by
  obtain ⟨hserved, hbarred⟩ :=
    outcome_of_review hconnect hbody hreaches hthread hruns hdone hlast hrecord
  constructor
  · intro hundisturbed
    exact hserved (served_after_arriving record hundisturbed hlast ⟨record, hrecord⟩)
  · rintro ⟨first, hfirst, hreport, hrest⟩
    exact hbarred (barred_after_arriving record hfirst hreport hrest)

/-- Each request for the Critic that has been let through and that completes after the report is
stored answers with it. -/
def ReviewsRepeated (app : App κ) (runId : UUID) (start : Config ι (World κ) Exc Response)
    (log : List (Event ι (World κ))) (config : Config ι (World κ) Exc Response) : Prop :=
  ∀ i request outcome last record, request.body = [] →
    start.threads i = app.reviewing runId request →
    (config.threads i).result? = some outcome → (stepsOf i log).getLast? = some last →
    last.after.database.getCritique runId = .ok (some record) →
      ∃ response, outcome = .ok (.reviewed response) ∧ response.critique = record.report

/-- A report that is stored stays stored. -/
theorem hasReport_of_runs (hreaches : Reaches (workflow app rest inbox) start)
    (hruns : Runs start log config) (hreport : start.state.database.HasReport runId)
    {event : Event ι (World κ)} (hevent : event ∈ log) :
    event.before.database.HasReport runId ∧ event.after.database.HasReport runId := by
  obtain ⟨prior, hprior⟩ := hreaches
  obtain ⟨owns, hkeeps, -⟩ := Discipline.keeps_of_runs hprior workflow_keeps_any
    fun _ _ => trivial
  obtain ⟨-, hle, hstep, -⟩ := Discipline.moves_of_runs hruns hkeeps (fun _ _ => trivial) hevent
  obtain ⟨record, hrecord⟩ := hreport
  exact ⟨⟨record, Database.getCritique_of_le hkeeps.inv hle hrecord⟩, record,
    Database.getCritique_of_le hkeeps.inv ((requests fun _ _ => True).le_trans hle hstep) hrecord⟩

/-- In a run in which no request for the Critic is disturbed, all that complete after the report
is stored answer with it. Where it is stored from the start, they do so exactly if each of them
finds the run at rest. -/
theorem reviews_repeated_of_runs (hconnect : app.runs.connect = .ret ())
    (hreaches : Reaches (workflow app rest inbox) start) (hruns : Runs start log config)
    (runId : UUID) :
    ((∀ i request, request.body = [] → start.threads i = app.reviewing runId request →
        UndisturbedReview runId (stepsOf i log)) →
      ReviewsRepeated app runId start log config) ∧
    (start.state.database.HasReport runId →
      (ReviewsRepeated app runId start log config ↔
        ∀ i request, request.body = [] → start.threads i = app.reviewing runId request →
          (config.threads i).result?.isSome = true →
            ∀ first ∈ (stepsOf i log).head?, first.before.database.AtRest runId)) := by
  have hserves {i : ι} {request : HttpRequest} {outcome : Except Exc Response}
      {last : Event ι (World κ)} {record : CritiqueRecord} (hbody : request.body = [])
      (hthread : start.threads i = app.reviewing runId request)
      (hdone : (config.threads i).result? = some outcome)
      (hlast : (stepsOf i log).getLast? = some last)
      (hrecord : last.after.database.getCritique runId = .ok (some record))
      (hundisturbed : UndisturbedReview runId (stepsOf i log)) :
      ∃ response, outcome = .ok (.reviewed response) ∧ response.critique = record.report :=
    (outcome_of_review hconnect hbody hreaches hthread hruns hdone hlast hrecord).1
      (served_after_arriving record hundisturbed hlast ⟨record, hrecord⟩)
  refine ⟨fun hundisturbed i request outcome last record hbody hthread hdone hlast hrecord =>
    hserves hbody hthread hdone hlast hrecord (hundisturbed i request hbody hthread),
    fun hreport => ⟨fun hrepeated i request hbody hthread hdone first hfirst => ?_,
      fun hrest i request outcome last record hbody hthread hdone hlast hrecord => ?_⟩⟩
  · -- A request that does not find the run at rest fails.
    by_contra hrest
    obtain ⟨outcome, houtcome⟩ := Option.isSome_iff_exists.mp hdone
    obtain ⟨last, hlast⟩ : ∃ last, (stepsOf i log).getLast? = some last := by
      cases hsteps : stepsOf i log with
      | nil => simp [hsteps] at hfirst
      | cons step steps => exact ⟨_, List.getLast?_eq_some_getLast (List.cons_ne_nil step steps)⟩
    obtain ⟨-, record, hrecord⟩ := hasReport_of_runs hreaches hruns hreport
      (List.mem_of_mem_filter (List.mem_of_getLast? hlast))
    obtain ⟨hbefore, -⟩ := hasReport_of_runs hreaches hruns hreport
      (List.mem_of_mem_filter (List.mem_of_mem_head? hfirst))
    obtain ⟨failure, hfailure⟩ :=
      (outcome_of_review hconnect hbody hreaches hthread hruns houtcome hlast hrecord).2
        (barred_after_arriving record hfirst hbefore hrest)
    obtain ⟨response, hresponse, -⟩ :=
      hrepeated i request outcome last record hbody hthread houtcome hlast hrecord
    rw [hresponse] at hfailure
    cases hfailure
  · refine hserves hbody hthread hdone hlast hrecord ?_
    cases hsteps : stepsOf i log with
    | nil => trivial
    | cons step steps =>
        have hmem : step ∈ stepsOf i log := hsteps ▸ List.mem_cons_self
        have hfinished : (config.threads i).result?.isSome = true := by
          rw [hdone]
          rfl
        exact ⟨fun _ => hrest i request hbody hthread hfinished step (by rw [hsteps]; rfl),
          fun hnone => absurd (hasReport_of_runs hreaches hruns hreport
            (List.mem_of_mem_filter hmem)).1 hnone⟩

end Runs

/-! ## A review and a revision -/

theorem Database.atRest_iff {db : Database} {run : ProjectRun} (hget : db.get runId = .ok run) :
    db.AtRest runId ↔ run.status = .ready ∨ run.status = .failedFinal := by
  constructor
  · rintro ⟨found, hfound, hrest⟩
    obtain rfl := Except.ok.inj (hget.symm.trans hfound)
    exact hrest
  · exact fun hrest => ⟨run, hget, hrest⟩

namespace App

variable {app : App κ} {now : Datetime} {request : HttpRequest} {db : Database} {rest : κ}

/-- The report of a run at rest is answered, the report of another one is not. -/
theorem critiqueResponse_of_rest {run : ProjectRun} (report : CritiqueReport)
    (hrest : run.status = .ready ∨ run.status = .failedFinal) :
    ∃ response, (critiqueResponse run report : Program (World κ) Exc CritiqueCompleted) =
      .ret response :=
  ⟨_, congrArg Program.ofExcept (validated_of_some (dif_pos ⟨hrest, run.counts_valid, rfl⟩))⟩

theorem critiqueResponse_of_not_rest {run : ProjectRun} (report : CritiqueReport)
    (hrest : ¬(run.status = .ready ∨ run.status = .failedFinal)) :
    (critiqueResponse run report : Program (World κ) Exc CritiqueCompleted) =
      .raise .validationError := by
  rw [critiqueResponse, CritiqueCompleted.validate, dif_neg fun h => hrest h.1]
  rfl

/-- A request reads the run and then the report. -/
theorem exists_step_reviewing (hruns : app.runs = .quiet now) (hbody : request.body = [])
    {run : ProjectRun} (hget : db.get runId = .ok run) :
    ∃ program, (app.reviewing runId request).Step ⟨db, rest⟩ program ⟨db, rest⟩ ∧
      ∀ (db' : Database) (record : CritiqueRecord),
        db'.getCritique runId = .ok (some record) → program.Step ⟨db', rest⟩
          (critiqueResponse run record.report >>= fun response => .ret (.reviewed response))
          ⟨db', rest⟩ := by
  unfold reviewing answerCritic critiqueOf
  rw [if_neg (not_not.mpr hbody), hruns]
  refine ⟨_, (Program.Step.tryCatch (Program.Step.bind (step_query hget))).bind.bind, ?_⟩
  intro db' record hcritique
  have hread : ((Repository.quiet now).getCritique runId).Step (World.mk db' rest)
      (.ret (some record)) ⟨db', rest⟩ := step_query hcritique
  exact (Program.Step.tryCatch (Program.Step.bind hread)).bind.bind

end App

namespace Demo

/-- One feedback among requests for the report. -/
def criticOrFeedback (n : Nat) : Request :=
  if n = 1 then .feedbackCall feedback feedbackKey else .runCritic Demo.runId httpRequest

/-- The demo is ready, and its report is asked for. One step of the feedback, and it is in
progress again. -/
theorem exists_claiming : ∃ (db db' : Database) (threads : Nat → Program (World Unit) Exc Response)
    (run run' : ProjectRun) (claimed : Program (World Unit) Exc Response),
    Reaches (workflow fixtureApp () (requests criticOrFeedback)) ⟨⟨db, ()⟩, threads⟩ ∧
      (∀ n, n ≠ 1 → threads (n + 6) = fixtureApp.reviewing Demo.runId httpRequest) ∧
      (threads 7).Step ⟨db, ()⟩ claimed ⟨db', ()⟩ ∧
      (db.get Demo.runId = .ok run ∧ (run.status = .ready ∨ run.status = .failedFinal)) ∧
      (db'.get Demo.runId = .ok run' ∧ ¬(run'.status = .ready ∨ run'.status = .failedFinal)) ∧
      db.getCritique Demo.runId = .ok (some ⟨passed, passed.reviewedAt⟩) ∧
      db'.getCritique Demo.runId = .ok (some ⟨passed, passed.reviewedAt⟩) := by
  obtain ⟨⟨⟨db, ⟨⟩⟩, threads⟩, hreaches, -, hat, hwaiting⟩ :=
    exists_ready fixtureApp.revisions (keeps_answeringStore _ ()) criticOrFeedback
  have hready : db.At now Demo.runId (.ready ⟨⟨evidence [] noWarnings, passed⟩, by decide⟩) := hat
  obtain ⟨run, hget, -, -⟩ := hready.get
  obtain ⟨operationId, record, db', hclaim, -, -, hat', -⟩ :=
    hready.claimFeedbackOperation feedbackKey (fixtureApp.revisions.fingerprint feedback)
      feedback.feedback.text feedback.requestedChanges
  obtain ⟨run', hget', -, -⟩ := hat'.get
  have hstatus' : run'.status = .inProgress := (hat'.shows.get hget').status
  obtain ⟨claimed, hclaims⟩ : ∃ program, (fixtureApp.revisions.submitFeedback feedback
      feedbackKey).Step ⟨db, ()⟩ program ⟨db', ()⟩ :=
    RevisionService.step_submitFeedback rfl isIdempotencyKey_feedbackKey hclaim
  refine ⟨db, db', threads, run, run', claimed >>= fun response => .ret (.revised response),
    hreaches, fun n hn => ?_, ?_, ⟨hget, .inl (hready.shows.get hget).status⟩, ⟨hget', ?_⟩,
    hready.shows.getCritique, hat'.shows.getCritique⟩
  · have hhandle := hwaiting n
    rw [criticOrFeedback, if_neg hn, App.handle_runCritic, requireCapability_demo] at hhandle
    exact hhandle
  · have hhandle : threads 7 = fixtureApp.handle (.feedbackCall feedback feedbackKey) := hwaiting 1
    rw [hhandle]
    exact hclaims.bind
  · rw [hstatus']
    decide

end Demo

/-- The demo is asked for its report and given feedback while it is. The request
that has read the run when the feedback is claimed answers, one that comes after
fails. -/
theorem reviewed_of_runs_ready : ∃ start log config, ∃ response : CritiqueCompleted, ∃ failure,
    Reaches (workflow Demo.fixtureApp () (Demo.requests Demo.criticOrFeedback)) start ∧
      Runs start log config ∧
      log.map (·.client) = [6, 7, 8, 8, 6] ∧
      config.threads 6 = .ret (.reviewed response) ∧ response.critique = Demo.passed ∧
      config.threads 8 = .raise failure := by
  obtain ⟨db, db', threads, run, run', claimed, hreaches, hcritics, hclaims, ⟨hget, hrest⟩,
    ⟨hget', hrest'⟩, hcritique, hcritique'⟩ := Demo.exists_claiming
  -- The five steps, in their order.
  obtain ⟨found, hread, hanswer⟩ : ∃ found, (Demo.fixtureApp.reviewing Demo.runId
      Demo.httpRequest).Step ⟨db, ()⟩ found ⟨db, ()⟩ ∧ _ :=
    App.exists_step_reviewing rfl rfl hget
  obtain ⟨found', hread', hanswer'⟩ : ∃ found, (Demo.fixtureApp.reviewing Demo.runId
      Demo.httpRequest).Step ⟨db', ()⟩ found ⟨db', ()⟩ ∧ _ :=
    App.exists_step_reviewing rfl rfl hget'
  have hanswers := hanswer db' _ hcritique'
  have hfails := hanswer' db' _ hcritique'
  obtain ⟨response, hresponse⟩ := App.critiqueResponse_of_rest Demo.passed hrest
  rw [hresponse, Program.bind_ret] at hanswers
  rw [App.critiqueResponse_of_not_rest Demo.passed hrest'] at hfails
  let start : Config Nat (World Unit) Exc Response := ⟨⟨db, ()⟩, threads⟩
  have hfirst := (Runs.refl : Runs start [] start).step (i := 6) (hcritics 0 (by decide)) hread
  have hsecond := hfirst.step (i := 7) (Config.move_threads_ne _ _ _ (by decide)) hclaims
  have hthird := hsecond.step (i := 8) ((Config.move_threads_ne _ _ _ (by decide)).trans
    ((Config.move_threads_ne _ _ _ (by decide)).trans (hcritics 2 (by decide)))) hread'
  have hfourth := hthird.step (i := 8) (Config.move_threads_self _ _ _ _) hfails
  have hruns := hfourth.step (i := 6) ((Config.move_threads_ne _ _ _ (by decide)).trans
    ((Config.move_threads_ne _ _ _ (by decide)).trans
      ((Config.move_threads_ne _ _ _ (by decide)).trans (Config.move_threads_self _ _ _ _))))
        hanswers
  have hanswered := reviewed_of_runs (i := 6) rfl rfl hreaches (hcritics 0 (by decide)) hruns
    (congrArg Program.result? (Config.move_threads_self _ _ _ _)) rfl hcritique'
  have hbarred := reviewed_of_runs (i := 8) rfl rfl hreaches (hcritics 2 (by decide)) hruns
    (congrArg Program.result? ((Config.move_threads_ne _ _ _ (by decide)).trans
      (Config.move_threads_self _ _ _ _))) rfl hcritique'
  obtain ⟨answer, houtcome, hreport⟩ := hanswered.1
    ⟨fun _ => ⟨run, hget, hrest⟩, fun hnone => absurd ⟨_, hcritique⟩ hnone⟩
  obtain ⟨failure, houtcome'⟩ :=
    hbarred.2 ⟨_, rfl, ⟨_, hcritique'⟩, (Database.atRest_iff hget').not.mpr hrest'⟩
  cases houtcome
  cases houtcome'
  exact ⟨_, _, _, response, _, hreaches, hruns, rfl, Config.move_threads_self _ _ _ _, hreport,
    (Config.move_threads_ne _ _ _ (by decide)).trans (Config.move_threads_self _ _ _ _)⟩

/-- Two requests for the report of the demo, one within the other, are answered alike. -/
theorem reviews_repeated_ready : ∃ start log config, ∃ response response' : CritiqueCompleted,
    Reaches (workflow Demo.fixtureApp () (Demo.requests Demo.criticOrFeedback)) start ∧
      Runs start log config ∧ log.map (·.client) = [6, 8, 8, 6] ∧
      ReviewsRepeated Demo.fixtureApp Demo.runId start log config ∧
      config.threads 6 = .ret (.reviewed response) ∧
      config.threads 8 = .ret (.reviewed response') := by
  obtain ⟨db, db', threads, run, run', claimed, hreaches, hcritics, -, ⟨hget, hrest⟩, -,
    hcritique, -⟩ := Demo.exists_claiming
  obtain ⟨found, hread, hanswer⟩ : ∃ found, (Demo.fixtureApp.reviewing Demo.runId
      Demo.httpRequest).Step ⟨db, ()⟩ found ⟨db, ()⟩ ∧ _ :=
    App.exists_step_reviewing rfl rfl hget
  have hanswers := hanswer db _ hcritique
  obtain ⟨response, hresponse⟩ := App.critiqueResponse_of_rest Demo.passed hrest
  rw [hresponse, Program.bind_ret] at hanswers
  let start : Config Nat (World Unit) Exc Response := ⟨⟨db, ()⟩, threads⟩
  have hfirst := (Runs.refl : Runs start [] start).step (i := 6) (hcritics 0 (by decide)) hread
  have hsecond := hfirst.step (i := 8)
    ((Config.move_threads_ne _ _ _ (by decide)).trans (hcritics 2 (by decide))) hread
  have hthird := hsecond.step (i := 8) (Config.move_threads_self _ _ _ _) hanswers
  have hruns := hthird.step (i := 6) ((Config.move_threads_ne _ _ _ (by decide)).trans
    ((Config.move_threads_ne _ _ _ (by decide)).trans (Config.move_threads_self _ _ _ _))) hanswers
  refine ⟨_, _, _, response, response, hreaches, hruns, rfl, ?_, Config.move_threads_self _ _ _ _,
    (Config.move_threads_ne _ _ _ (by decide)).trans (Config.move_threads_self _ _ _ _)⟩
  apply ((reviews_repeated_of_runs rfl hreaches hruns Demo.runId).2 ⟨_, hcritique⟩).mpr
  intro i request _ _ _ first hsteps
  have hevent := List.mem_of_mem_filter (List.mem_of_mem_head? hsteps)
  have hbefore : first.before = ⟨db, ()⟩ := by
    simp only [List.nil_append, List.cons_append, List.mem_cons, List.not_mem_nil, or_false]
      at hevent
    rcases hevent with rfl | rfl | rfl | rfl <;> rfl
  rw [hbefore]
  exact ⟨run, hget, hrest⟩

/-- A request for the stored report of a run whose revision is in progress fails. -/
theorem not_reviews_repeated : ∃ start log config,
    Reaches (workflow Demo.fixtureApp () (Demo.requests Demo.criticOrFeedback)) start ∧
      start.state.database.HasReport Demo.runId ∧ Runs start log config ∧
      log.map (·.client) = [8, 8] ∧
      ¬ReviewsRepeated Demo.fixtureApp Demo.runId start log config := by
  obtain ⟨db, db', threads, run, run', claimed, ⟨prior, hprior⟩, hcritics, hclaims, -,
    ⟨hget', hrest'⟩, -, hcritique'⟩ := Demo.exists_claiming
  obtain ⟨found', hread', hanswer'⟩ : ∃ found, (Demo.fixtureApp.reviewing Demo.runId
      Demo.httpRequest).Step ⟨db', ()⟩ found ⟨db', ()⟩ ∧ _ :=
    App.exists_step_reviewing rfl rfl hget'
  have hfails := hanswer' db' _ hcritique'
  rw [App.critiqueResponse_of_not_rest Demo.passed hrest'] at hfails
  have hclaimed := hprior.step (i := 7) rfl hclaims
  have hcritic : (Config.move (⟨⟨db, ()⟩, threads⟩ : Config Nat (World Unit) Exc Response) 7
      ⟨db', ()⟩ claimed).threads 8 = Demo.fixtureApp.reviewing Demo.runId Demo.httpRequest :=
    (Config.move_threads_ne _ _ _ (by decide)).trans (hcritics 2 (by decide))
  have hfirst := Runs.refl.step hcritic hread'
  have hruns := hfirst.step (i := 8) (Config.move_threads_self _ _ _ _) hfails
  refine ⟨_, _, _, ⟨_, hclaimed⟩, ⟨_, hcritique'⟩, hruns, rfl, fun hrepeated => ?_⟩
  obtain ⟨response, hresponse, -⟩ := hrepeated 8 Demo.httpRequest _ _ _ rfl hcritic
    (congrArg Program.result? (Config.move_threads_self _ _ _ _)) rfl hcritique'
  cases hresponse

end CultureShift
