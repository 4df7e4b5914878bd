/-
# Requests that are refused

Without a token that is accepted for its run or asset, a request is answered
before anything is read: only the token service is asked. Its clock may decide
between two errors, but what is stored decides nothing.
-/

import CultureShift.Lifecycle.Authority

namespace CultureShift

open Serialization Relational Concurrent

variable {κ α : Type}

/-! ## The token service refuses -/

/-- Here the token service does not accept the token of the request, or accepts it for another
subject. -/
def App.Refuses (app : App κ) (required : Capability) (subject : UUID) (request : HttpRequest)
    (rest : κ) : Prop :=
  ∀ token, bearerToken request.authorization = some token → ∀ answer later,
    Program.Solo (app.tokens.verify token required) rest answer later →
      answer = .error .capabilityTokenError ∨
        ∃ claims, answer = .ok claims ∧ claims.subject ≠ subject.text

/-- About the token of the request, the token service may give the same answers here and there. -/
def App.JudgesAlike (app : App κ) (required : Capability) (request : HttpRequest)
    (rest rest' : κ) : Prop :=
  ∀ token, bearerToken request.authorization = some token → ∀ answer,
    (∃ later, Program.Solo (app.tokens.verify token required) rest answer later) ↔
      ∃ later, Program.Solo (app.tokens.verify token required) rest' answer later

/-- The HTTP error for a request without a token that is accepted for its subject. -/
def refusal : Option (Except Exc CapabilityClaims) → Exc
  | some (.ok _) => .httpException 403 "capability_subject_mismatch"
  | _ => .httpException 401 "invalid_capability"

/-- What an endpoint requires, for whom, and the request that has to carry it. -/
def Api.Request.requires? : Api.Request → Option (Capability × UUID × HttpRequest)
  | .workflow request => request.requires?.bind fun credentials =>
      request.runId?.map fun runId => (credentials.1, runId, credentials.2)
  | .getRun runId request | .exportCompositionPng runId _ request
  | .exportCompositionJson runId _ request => some (.readProjectRun, runId, request)
  | .uploadAsset _ => none
  | .deleteAsset assetId request => some (.deleteAsset, assetId, request)

/-- The program fails wherever the check fails, and does nothing more than the check does. -/
def StopsAt (check : Program (World κ) Exc Unit) (world : World κ)
    (program : Program (World κ) Exc α) : Prop :=
  ∀ outcome last, program.Solo world outcome last ↔
    ∃ failure, outcome = .error failure ∧ check.Solo world (.error failure) last

section Stopping

variable {check : Program (World κ) Exc Unit} {world : World κ} {β : Type}

theorem StopsAt.bind {program : Program (World κ) Exc α} (h : StopsAt check world program)
    (rest : α → Program (World κ) Exc β) : StopsAt check world (program >>= rest) := by
  intro outcome last
  rw [Program.solo_bind_iff]
  constructor
  · rintro (⟨value, mid, hreturned, -⟩ | ⟨failure, hraised, rfl⟩)
    · obtain ⟨failure, hfailed, -⟩ := (h _ _).mp hreturned
      cases hfailed
    · obtain ⟨failure', hfailed, hcheck⟩ := (h _ _).mp hraised
      cases hfailed
      exact ⟨failure, rfl, hcheck⟩
  · rintro ⟨failure, rfl, hcheck⟩
    exact .inr ⟨failure, (h _ _).mpr ⟨failure, rfl, hcheck⟩, rfl⟩

/-- A check that never passes stops itself. -/
theorem stopsAt_self (h : ∀ done last, ¬check.Solo world (.ok done) last) :
    StopsAt check world check := by
  intro outcome last
  constructor
  · intro hcheck
    cases outcome with
    | ok done => exact absurd hcheck (h done last)
    | error failure => exact ⟨failure, rfl, hcheck⟩
  · rintro ⟨failure, rfl, hcheck⟩
    exact hcheck

end Stopping

namespace App

variable {app : App κ} {required : Capability} {subject : UUID} {http : HttpRequest}
  {world : World κ}

/-- Whatever the token service answers, the check fails, and only the token service is asked. -/
theorem solo_requireCapability_iff (hrefuses : app.Refuses required subject http world.rest)
    {outcome : Except Exc Unit} {last : World κ} :
    Program.Solo (app.requireCapability required subject http) world outcome last ↔
      (bearerToken http.authorization = none ∧ outcome = .error (refusal none) ∧ last = world) ∨
        ∃ token answer later, bearerToken http.authorization = some token ∧
          Program.Solo (app.tokens.verify token required) world.rest answer later ∧
          outcome = .error (refusal (some answer)) ∧ last = { world with rest := later } := by
  unfold requireCapability
  cases htoken : bearerToken http.authorization with
  | none =>
      constructor
      · rintro ⟨⟩
        exact .inl ⟨rfl, rfl, rfl⟩
      · rintro (⟨-, rfl, rfl⟩ | ⟨_, _, _, ⟨⟩, -⟩)
        exact .raise _ _
  | some token =>
      have hjudged := hrefuses token htoken
      constructor
      · intro h
        refine .inr ⟨token, ?_⟩
        rcases Program.solo_bind_iff.mp h with
          ⟨claims, mid, hchecked, hcompared⟩ | ⟨_, hraised, rfl⟩
        · rcases Program.solo_tryCatch_iff.mp hchecked with
            ⟨_, hverified, ⟨⟩⟩ | ⟨_, _, hfailed, hhandled⟩
          · obtain ⟨later, hsolo, rfl⟩ := solo_outside_iff.mp hverified
            obtain ⟨_, ⟨⟩, hother⟩ := (hjudged _ _ hsolo).resolve_left nofun
            rw [if_neg hother] at hcompared
            cases hcompared
            exact ⟨_, later, rfl, hsolo, rfl, rfl⟩
          · obtain ⟨later, hsolo, rfl⟩ := solo_outside_iff.mp hfailed
            rcases hjudged _ _ hsolo with heq | ⟨_, heq, -⟩
            all_goals cases heq
            cases hhandled
        · rcases Program.solo_tryCatch_iff.mp hraised with ⟨_, _, ⟨⟩⟩ | ⟨_, _, hfailed, hhandled⟩
          obtain ⟨later, hsolo, rfl⟩ := solo_outside_iff.mp hfailed
          rcases hjudged _ _ hsolo with heq | ⟨_, heq, -⟩
          all_goals cases heq
          cases hhandled
          exact ⟨_, later, rfl, hsolo, rfl, rfl⟩
      · rintro (⟨⟨⟩, -⟩ | ⟨_, answer, later, ⟨⟩, hsolo, rfl, rfl⟩)
        have hverified := solo_outside_iff.mpr ⟨later, hsolo, rfl⟩
        apply Program.solo_bind_iff.mpr
        rcases hjudged answer later hsolo with rfl | ⟨claims, rfl, hother⟩
        · exact .inr ⟨_, Program.solo_tryCatch_iff.mpr (.inr ⟨_, _, hverified, .raise _ _⟩), rfl⟩
        · refine .inl ⟨claims, _, Program.solo_tryCatch_iff.mpr (.inl ⟨_, hverified, rfl⟩), ?_⟩
          rw [if_neg hother]
          exact .raise _ _

theorem stopsAt_requireCapability (hrefuses : app.Refuses required subject http world.rest) :
    StopsAt (app.requireCapability required subject http) world
      (app.requireCapability required subject http) := by
  apply stopsAt_self
  intro done last hpassed
  rcases (solo_requireCapability_iff hrefuses).mp hpassed with
    ⟨-, ⟨⟩, -⟩ | ⟨_, _, _, -, -, ⟨⟩, -⟩

theorem stopsAt_handle {request : Request} (hrun : request.runId? = some subject)
    (hrequires : request.requires? = some (required, http))
    (hrefuses : app.Refuses required subject http world.rest) :
    StopsAt (app.requireCapability required subject http) world (app.handle request) := by
  have hstops := stopsAt_requireCapability hrefuses
  cases request with
  | createRun body => cases hrequires
  | feedbackCall feedback key => cases hrequires
  | retryCall retry key => cases hrequires
  | _ =>
      cases hrun
      cases hrequires
      exact (hstops.bind _).bind _

end App

namespace Api

variable {api : Api κ} {required : Capability} {subject : UUID} {http : HttpRequest}
  {world : World κ}

theorem stopsAt_handle {request : Request}
    (hrequires : request.requires? = some (required, subject, http))
    (hrefuses : api.toApp.Refuses required subject http world.rest) :
    StopsAt (api.requireCapability required subject http) world (api.handle request) := by
  have hstops := App.stopsAt_requireCapability hrefuses
  cases request with
  | workflow request =>
      obtain ⟨credentials, hcredentials, hmap⟩ := Option.bind_eq_some_iff.mp hrequires
      obtain ⟨runId, hrun, heq⟩ := Option.map_eq_some_iff.mp hmap
      cases heq
      exact (App.stopsAt_handle hrun hcredentials hrefuses).bind _
  | getRun runId request =>
      cases hrequires
      exact (hstops.bind _).bind _
  | exportCompositionPng runId version request =>
      cases hrequires
      exact ((hstops.bind _).bind _).bind _
  | exportCompositionJson runId version request =>
      cases hrequires
      exact ((hstops.bind _).bind _).bind _
  | uploadAsset request => cases hrequires
  | deleteAsset assetId request =>
      cases hrequires
      exact (hstops.bind _).bind _

/-- What a refused request is told. -/
theorem told_iff {request : Request}
    (hrequires : request.requires? = some (required, subject, http))
    (hrefuses : api.toApp.Refuses required subject http world.rest)
    {outcome : Except Exc Response} :
    (∃ last, Program.Solo (api.handle request) world outcome last) ↔
      (bearerToken http.authorization = none ∧ outcome = .error (refusal none)) ∨
        ∃ token answer, bearerToken http.authorization = some token ∧
          (∃ later, Program.Solo (api.tokens.verify token required) world.rest answer later) ∧
          outcome = .error (refusal (some answer)) := by
  simp only [stopsAt_handle hrequires hrefuses outcome, App.solo_requireCapability_iff hrefuses]
  constructor
  · rintro ⟨_, _, rfl, ⟨hnone, ⟨⟩, -⟩ | ⟨token, answer, later, htoken, hsolo, ⟨⟩, -⟩⟩
    · exact .inl ⟨hnone, rfl⟩
    · exact .inr ⟨token, answer, htoken, ⟨later, hsolo⟩, rfl⟩
  · rintro (⟨hnone, rfl⟩ | ⟨token, answer, htoken, ⟨later, hsolo⟩, rfl⟩)
    · exact ⟨world, _, rfl, .inl ⟨hnone, rfl, rfl⟩⟩
    · exact ⟨_, _, rfl, .inr ⟨token, answer, later, htoken, hsolo, rfl, rfl⟩⟩

/-- A request that is refused changes nothing and finds nothing out: of the state, only the token
service is asked, and where it would answer alike the request is told the same. -/
theorem refused_alike {request : Request}
    (hrequires : request.requires? = some (required, subject, http)) (world world' : World κ)
    (hrefuses : api.toApp.Refuses required subject http world.rest)
    (halike : api.toApp.JudgesAlike required http world.rest world'.rest) :
    (∀ outcome last, Program.Solo (api.handle request) world outcome last →
      (outcome = .error (.httpException 401 "invalid_capability") ∨
        outcome = .error (.httpException 403 "capability_subject_mismatch")) ∧
      last.database = world.database ∧
      (last.rest = world.rest ∨ ∃ token answer, bearerToken http.authorization = some token ∧
        Program.Solo (api.tokens.verify token required) world.rest answer last.rest)) ∧
    ∀ outcome, (∃ last, Program.Solo (api.handle request) world outcome last) ↔
      ∃ last, Program.Solo (api.handle request) world' outcome last := by
  constructor
  · intro outcome last hsolo
    obtain ⟨failure, rfl, hfailed⟩ := (stopsAt_handle hrequires hrefuses outcome last).mp hsolo
    rcases (App.solo_requireCapability_iff hrefuses).mp hfailed with
      ⟨-, ⟨⟩, rfl⟩ | ⟨token, answer, later, htoken, hverify, ⟨⟩, rfl⟩
    · exact ⟨.inl rfl, rfl, .inl rfl⟩
    · refine ⟨?_, rfl, .inr ⟨token, answer, htoken, hverify⟩⟩
      rcases hrefuses token htoken answer later hverify with rfl | ⟨claims, rfl, -⟩
      · exact .inl rfl
      · exact .inr rfl
  · intro outcome
    have hrefuses' : api.toApp.Refuses required subject http world'.rest := by
      intro token htoken answer later hverify
      obtain ⟨_, hthere⟩ := (halike token htoken answer).mpr ⟨later, hverify⟩
      exact hrefuses token htoken answer _ hthere
    rw [told_iff hrequires hrefuses, told_iff hrequires hrefuses']
    apply or_congr_right
    constructor
    · rintro ⟨token, answer, htoken, hverify, rfl⟩
      exact ⟨token, answer, htoken, (halike token htoken answer).mp hverify, rfl⟩
    · rintro ⟨token, answer, htoken, hverify, rfl⟩
      exact ⟨token, answer, htoken, (halike token htoken answer).mpr hverify, rfl⟩

end Api

namespace Demo

variable {held : List UUID}

/-- A minute later, the token is accepted for the source ad. -/
theorem solo_deletionToken_iff {answer : Except Exc CapabilityClaims} {later : Outside} :
    Program.Solo (signedTokens.verify deletionToken .deleteAsset) (minuteLater held) answer later ↔
      answer = .ok ⟨assetId.text⟩ ∧ later = minuteLater held := by
  constructor
  · rintro (_ | _ | h | _)
    rw [judge_deletionToken] at h
    cases h
    exact ⟨rfl, rfl⟩
  · rintro ⟨rfl, rfl⟩
    refine .atomic ?_
    rw [judge_deletionToken]
    exact .ret _ _

theorem eq_deletionToken {token : String}
    (h : bearerToken deletionRequest.authorization = some token) : token = deletionToken :=
  Option.some.inj (h.symm.trans bearerToken_deletionRequest)

theorem refuses_deletionRequest :
    holdingApi.toApp.Refuses .deleteAsset runId deletionRequest (minuteLater held) := by
  intro token htoken answer later hsolo
  obtain rfl := eq_deletionToken htoken
  exact .inr ⟨_, (solo_deletionToken_iff.mp hsolo).1, by decide⟩

theorem judgesAlike_deletionRequest (held' : List UUID) : holdingApi.toApp.JudgesAlike .deleteAsset
    deletionRequest (minuteLater held) (minuteLater held') := by
  intro token htoken answer
  obtain rfl := eq_deletionToken htoken
  constructor
  · rintro ⟨later, hsolo⟩
    exact ⟨_, solo_deletionToken_iff.mpr ⟨(solo_deletionToken_iff.mp hsolo).1, rfl⟩⟩
  · rintro ⟨later, hsolo⟩
    exact ⟨_, solo_deletionToken_iff.mpr ⟨(solo_deletionToken_iff.mp hsolo).1, rfl⟩⟩

end Demo

namespace Api

/-- The token for the source ad deletes nothing else, and does not tell what there is. -/
theorem refused_alike_deleteAsset : ∃ db, db.runs.find Demo.runId ≠ none ∧
    (∀ outcome last, Program.Solo (Demo.holdingApi.handle
        (.deleteAsset Demo.runId Demo.deletionRequest))
        ⟨db, Demo.minuteLater [Demo.runId]⟩ outcome last →
      last.database = db ∧ last.rest.held = [Demo.runId]) ∧
    ∀ outcome, (∃ last, Program.Solo (Demo.holdingApi.handle
        (.deleteAsset Demo.runId Demo.deletionRequest))
        ⟨db, Demo.minuteLater [Demo.runId]⟩ outcome last) ↔
      ∃ last, Program.Solo (Demo.holdingApi.handle
        (.deleteAsset Demo.runId Demo.deletionRequest))
        ⟨.empty, Demo.minuteLater []⟩ outcome last := by
  obtain ⟨response, db, -, hat⟩ := Demo.exec_createRun (Demo.minuteLater []) (empty_absent _)
  have hrequires : (Request.deleteAsset Demo.runId Demo.deletionRequest).requires? =
      some (.deleteAsset, Demo.runId, Demo.deletionRequest) := rfl
  obtain ⟨hrefused, htold⟩ := refused_alike hrequires ⟨db, Demo.minuteLater [Demo.runId]⟩
    ⟨.empty, Demo.minuteLater []⟩ Demo.refuses_deletionRequest (Demo.judgesAlike_deletionRequest [])
  refine ⟨db, ?_, fun outcome last hsolo => ?_, htold⟩
  · obtain ⟨row, hrow, -⟩ := hat.row
    exact fun hnone => Option.some_ne_none row (hrow.symm.trans hnone)
  · obtain ⟨-, hdatabase, hrest⟩ := hrefused outcome last hsolo
    refine ⟨hdatabase, ?_⟩
    rcases hrest with hsame | ⟨token, answer, htoken, hverify⟩
    · rw [hsame]
      rfl
    · obtain rfl := Demo.eq_deletionToken htoken
      rw [(Demo.solo_deletionToken_iff.mp hverify).2]
      rfl

end Api

end CultureShift
