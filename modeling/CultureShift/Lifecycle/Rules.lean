/-
# Rules for requests

The rules of the discipline at the operations a request is made of:
collaborators that work outside the database, queries and transactions. A
program is `Orderly` when it keeps the discipline with no knowledge of where it
starts; most of what the handlers do is.
-/

import CultureShift.Lifecycle.Discipline

namespace CultureShift

open Serialization Relational Concurrent

variable {κ α β : Type} {certifies : CriticRequest → CritiqueReport → Prop}

/-- The discipline of the requests: that of the database, whatever the rest of
the world does. -/
abbrev requests (certifies : CriticRequest → CritiqueReport → Prop) :
    Discipline (World κ) Token :=
  (lifecycle certifies).comap World.database

section Rules

variable {assumes : World κ → Prop} {post : α → Set Token → World κ → Prop}
  {error : Exc → Set Token → World κ → Prop} {tokens : Set Token} {world : World κ}

theorem safe_outside {program : Program κ Exc α} {returns : α → Prop} {raises : Exc → Prop}
    (hreturns : program.Returns returns) (hraises : program.Raises raises)
    (hpost : ∀ value later, returns value → (requests certifies).Rely tokens world later →
      post value tokens later)
    (herror : ∀ failure later, raises failure → (requests certifies).Rely tokens world later →
      error failure tokens later) :
    Discipline.Safe (requests certifies) assumes post error tokens world (outside program) :=
  Discipline.safe_within (fun _ _ => rfl) hreturns hraises hpost herror

theorem safe_ofExcept {body : Except Exc α}
    (hpost : ∀ value later, body = .ok value → (requests certifies).Rely tokens world later →
      post value tokens later)
    (herror : ∀ failure later, body = .error failure →
      (requests certifies).Rely tokens world later → error failure tokens later) :
    Discipline.Safe (requests certifies) assumes post error tokens world (.ofExcept body) := by
  cases body with
  | ok value => exact Discipline.safe_ret fun later hlater => hpost value later rfl hlater
  | error failure => exact Discipline.safe_raise fun later hlater => herror failure later rfl hlater

theorem safe_transaction {repository : Repository κ} {fault : Exc → Prop}
    {body : Database → Except Exc (α × Database)} (hfault : repository.connect.Raises fault)
    (hcommit : ∀ (found : World κ) value database, (requests certifies).Rely tokens world found →
      assumes found → body found.database = .ok (value, database) →
      (lifecycle certifies).Guarantee tokens found.database database ∧
        ∀ later, (requests certifies).Rely
          ((lifecycle certifies).after tokens found.database database) { found with database }
          later → post value ((lifecycle certifies).after tokens found.database database) later)
    (hrollback : ∀ (found : World κ) failure later, (requests certifies).Rely tokens world found →
      assumes found → body found.database = .error failure →
      (requests certifies).Rely tokens found later → error failure tokens later)
    (hconnect : ∀ failure later, fault failure → (requests certifies).Rely tokens world later →
      error failure tokens later) :
    Discipline.Safe (requests certifies) assumes post error tokens world
      (repository.transaction body) := by
  refine Discipline.safe_bind (safe_outside (Program.returns_true _) hfault
    (fun _ opened _ hopened => ?_) hconnect)
  refine Discipline.safe_transact (fun found value left hfound hassumed hbody => ?_)
    fun found failure later hfound hassumed hbody hlater => ?_
  · obtain ⟨⟨answer, database⟩, hcommitted, heq⟩ := map_eq_ok.mp hbody
    obtain ⟨rfl, rfl⟩ := Prod.mk.inj heq
    obtain ⟨hguarantee, hpost⟩ :=
      hcommit found answer database (hopened.trans hfound) hassumed hcommitted
    exact ⟨⟨hguarantee.inv, hguarantee.le, hguarantee.held⟩, hpost⟩
  · rcases hcommitted : body found.database with failure' | answer
    · obtain rfl : failure' = failure := by simpa [hcommitted, Except.map] using hbody
      exact hrollback found failure' later (hopened.trans hfound) hassumed hcommitted hlater
    · simp [hcommitted, Except.map] at hbody

theorem safe_query {repository : Repository κ} {fault : Exc → Prop}
    {read : Database → Except Exc α} (hfault : repository.connect.Raises fault)
    (hanswer : ∀ (found : World κ) value later, (requests certifies).Rely tokens world found →
      assumes found → read found.database = .ok value →
      (requests certifies).Rely tokens found later → post value tokens later)
    (hfailure : ∀ (found : World κ) failure later, (requests certifies).Rely tokens world found →
      assumes found → read found.database = .error failure →
      (requests certifies).Rely tokens found later → error failure tokens later)
    (hconnect : ∀ failure later, fault failure → (requests certifies).Rely tokens world later →
      error failure tokens later) :
    Discipline.Safe (requests certifies) assumes post error tokens world
      (repository.query read) := by
  refine Discipline.safe_bind (safe_outside (Program.returns_true _) hfault
    (fun _ opened _ hopened => ?_) hconnect)
  exact Discipline.safe_query
    (fun found value later hfound => hanswer found value later (hopened.trans hfound))
    fun found failure later hfound => hfailure found failure later (hopened.trans hfound)

end Rules

/-! ## What a request finds -/

section Found

variable {tokens : Set Token} {world found : World κ} {runId : UUID} {stage : Stage}

/-- A run that was seen at a stage has moved on along its life cycle. -/
theorem shows_of_rely (hrely : (requests certifies).Rely tokens world found)
    (hshows : world.database.Shows runId stage) :
    ∃ stage', found.database.Shows runId stage' ∧ stage.Steps stage' ∧
      stage'.Certified certifies := by
  obtain ⟨stage', hshows', hsteps⟩ := hrely.le runId stage hshows
  rcases hrely.inv runId with habsent | ⟨stage'', hshows'', hcertified⟩
  · exact absurd habsent hshows'.not_absent
  · obtain rfl := hshows'.unique hshows''
    exact ⟨stage', hshows', hsteps, hcertified⟩

/-- A run that is held is where its owner left it. -/
theorem shows_of_hold (hrely : (requests certifies).Rely tokens world found) {hold : Hold}
    (hhold : Token.hold runId hold ∈ tokens) :
    ∃ stage, found.database.Shows runId stage ∧ stage.hold? = some hold ∧
      stage.Certified certifies := by
  obtain ⟨stage, hshows, hheld⟩ := hrely.held _ hhold
  rcases hrely.inv runId with habsent | ⟨stage', hshows', hcertified⟩
  · exact absurd habsent hshows.not_absent
  · obtain rfl := hshows.unique hshows'
    exact ⟨stage, hshows, hheld, hcertified⟩

end Found

/-! ## Orderly programs -/

/-- The program keeps the discipline wherever it starts. -/
structure Orderly (certifies : CriticRequest → CritiqueReport → Prop)
    (program : Program (World κ) Exc α) : Prop where
  safe : ∀ tokens world, Discipline.Safe (requests certifies) (fun _ => True) (fun _ _ _ => True)
    (fun _ _ _ => True) tokens world program

namespace Orderly

theorem ret (value : α) : Orderly certifies (.ret value : Program (World κ) Exc α) :=
  ⟨fun _ _ => Discipline.safe_ret fun _ _ => trivial⟩

theorem raise (failure : Exc) : Orderly certifies (.raise failure : Program (World κ) Exc α) :=
  ⟨fun _ _ => Discipline.safe_raise fun _ _ => trivial⟩

theorem bind {program : Program (World κ) Exc α} {rest : α → Program (World κ) Exc β}
    (h : Orderly certifies program) (hrest : ∀ value, Orderly certifies (rest value)) :
    Orderly certifies (program >>= rest) :=
  ⟨fun tokens world => Discipline.safe_bind <| (h.safe tokens world).mono
    (fun value tokens' world' _ => (hrest value).safe tokens' world') fun _ _ _ _ => trivial⟩

theorem tryCatch {program : Program (World κ) Exc α} {handler : Exc → Program (World κ) Exc α}
    (h : Orderly certifies program) (hhandler : ∀ failure, Orderly certifies (handler failure)) :
    Orderly certifies (program.tryCatch handler) :=
  ⟨fun tokens world => Discipline.safe_tryCatch <| (h.safe tokens world).mono
    (fun _ _ _ _ => trivial) fun failure tokens' world' _ => (hhandler failure).safe tokens' world'⟩

theorem ofExcept (body : Except Exc α) :
    Orderly certifies (.ofExcept body : Program (World κ) Exc α) := by
  cases body with
  | ok value => exact ret value
  | error failure => exact raise failure

theorem outside (program : Program κ Exc α) : Orderly certifies (outside program) :=
  ⟨fun _ _ => safe_outside (Program.returns_true _) (Program.raises_true _)
    (fun _ _ _ _ => trivial) fun _ _ _ _ => trivial⟩

theorem query (repository : Repository κ) (read : Database → Except Exc α) :
    Orderly certifies (repository.query read) :=
  ⟨fun _ _ => safe_query repository.connect_raises (fun _ _ _ _ _ _ _ => trivial)
    (fun _ _ _ _ _ _ _ => trivial) fun _ _ _ _ => trivial⟩

theorem transaction (repository : Repository κ) {body : Database → Except Exc (α × Database)}
    (hcommit : ∀ tokens database value database', (lifecycle certifies).inv database →
      body database = .ok (value, database') →
      (lifecycle certifies).Guarantee tokens database database') :
    Orderly certifies (repository.transaction body) :=
  ⟨fun tokens _ => safe_transaction repository.connect_raises
    (fun found value database hfound _ hbody =>
      ⟨hcommit tokens found.database value database hfound.inv hbody, fun _ _ => trivial⟩)
    (fun _ _ _ _ _ _ _ => trivial) fun _ _ _ _ => trivial⟩

end Orderly

end CultureShift
