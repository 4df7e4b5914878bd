/-
# How often the provider is asked

The pipeline with a provider that records the attempts that are made on it. The
answer to each attempt is fixed beforehand, so a run can be told from the
request, the time and the two answers.
-/

import CultureShift.FixtureDemo

namespace CultureShift

open Serialization Relational Concurrent

namespace AnalysisPipeline

section Recording

variable {Object : Type} (modelValidate : Object → Except ValidationFailure VisionProviderResult)

/-- A provider with these answers. It keeps a list of the attempts. -/
def recording (behaviour : Attempt → Except Exc Object) : VisionProvider (List Attempt) where
  Object := Object
  analyze _ attempt :=
    .atomic (fun attempts => attempts ++ [attempt]) fun _ => .ofExcept (behaviour attempt)
  modelValidate := modelValidate

/-- What one call of the provider comes to. -/
def answer : Except Exc Object → Except Exc VisionProviderResult
  | .ok object => validateProviderResult modelValidate object
  | .error _ => .error (.analysisPipelineError .providerFailed)

/-- The provider has returned an object that fails validation. -/
def IsInvalid (returned : Except Exc Object) : Prop :=
  ∃ object failure, returned = .ok object ∧ modelValidate object = .error failure

/-- The attempts that are made on a provider with these answers. -/
def MadeOn (behaviour : Attempt → Except Exc Object) (attempts : List Attempt) : Prop :=
  (IsInvalid modelValidate (behaviour .initial) ∧ attempts = [.initial, .repair]) ∨
    (¬IsInvalid modelValidate (behaviour .initial) ∧ attempts = [.initial])

end Recording

/-- What the gate requires of a result. -/
structure SafeResult (request : VisionAnalysisRequest) (result : VisionProviderResult) : Prop where
  instructions : result.instructionLikeContentDetected = false
  prohibited : result.prohibitedContentDetected = false
  hypotheses : ∀ hypothesis ∈ result.hypotheses, hypothesis.reviewStatus = .pending ∧
    hypothesis.targetMarket = SafetyGate.expectedMarket request.direction

/-- The outcome of a result. -/
def outcomeOf (request : VisionAnalysisRequest) (result : VisionProviderResult)
    (repairAttempted : Bool) : AnalysisOutcome :=
  ⟨⟨request.sourceAsset, result.detectedLocale, request.brandLock, result.hypotheses,
    result.warnings, result.valid⟩, repairAttempted⟩

/-- The errors of the pipeline itself. -/
def IsPipelineError (error : Exc) : Prop := ∃ code, error = .analysisPipelineError code

variable {Object : Type} {modelValidate : Object → Except ValidationFailure VisionProviderResult}
  {behaviour : Attempt → Except Exc Object} {request : VisionAnalysisRequest}
  {result : VisionProviderResult}

theorem validateProviderResult_eq_ok {object : Object} :
    validateProviderResult modelValidate object = .ok result ↔
      modelValidate object = .ok result := by
  unfold validateProviderResult
  cases modelValidate object <;> simp

/-- A call validates, returns something invalid, or fails. -/
theorem answer_cases
    (modelValidate : Object → Except ValidationFailure VisionProviderResult)
    (returned : Except Exc Object) :
    (∃ result, answer modelValidate returned = .ok result ∧ ¬IsInvalid modelValidate returned) ∨
      (answer modelValidate returned = .error (.analysisPipelineError .providerOutputInvalid) ∧
        IsInvalid modelValidate returned) ∨
      (answer modelValidate returned = .error (.analysisPipelineError .providerFailed) ∧
        ¬IsInvalid modelValidate returned) := by
  cases returned with
  | error error =>
      refine .inr (.inr ⟨rfl, ?_⟩)
      rintro ⟨object, failure, hobject, -⟩
      cases hobject
  | ok object =>
      cases hread : modelValidate object with
      | ok result =>
          refine .inl ⟨result, validateProviderResult_eq_ok.mpr hread, ?_⟩
          rintro ⟨_, failure, ⟨⟩, hinvalid⟩
          rw [hread] at hinvalid
          cases hinvalid
      | error failure =>
          refine .inr (.inl ⟨?_, object, failure, rfl, hread⟩)
          rw [answer, validateProviderResult, hread]

theorem exec_ask (attempt : Attempt) (attempts : List Attempt) :
    (ask (recording modelValidate behaviour) request attempt).exec attempts =
      some (answer modelValidate (behaviour attempt), attempts ++ [attempt]) := by
  simp only [ask, callProvider, recording, Program.tryCatch, Program.bind_atomic, Program.exec]
  cases behaviour attempt with
  | error error => rfl
  | ok object =>
      simp only [Program.ofExcept_ok, Program.tryCatch_ret, Program.bind_ret, answer]
      cases validateProviderResult modelValidate object <;> rfl

/-- One call and what is made of its result. -/
theorem exec_ask_bind (attempt : Attempt) (attempts : List Attempt) (repairAttempted : Bool) :
    (do
        let result ← ask (recording modelValidate behaviour) request attempt
        return (result, repairAttempted)).exec attempts =
      some ((answer modelValidate (behaviour attempt)).map fun result => (result, repairAttempted),
        attempts ++ [attempt]) := by
  have hask : (ask (recording modelValidate behaviour) request attempt).exec attempts =
      some (answer modelValidate (behaviour attempt), attempts ++ [attempt]) :=
    exec_ask attempt attempts
  cases hanswer : answer modelValidate (behaviour attempt) with
  | error error =>
      rw [hanswer] at hask
      exact Program.exec_bind_error hask
  | ok result =>
      rw [hanswer] at hask
      exact Program.exec_bind hask

/-- The second attempt is made after an invalid answer, and only then. -/
theorem exec_askTwice :
    ∃ attempts, MadeOn modelValidate behaviour attempts ∧
      (askTwice (recording modelValidate behaviour) request).exec [] =
        some ((answer modelValidate (behaviour (attempts.getLastD .initial))).map
          fun result => (result, decide (.repair ∈ attempts)), attempts) := by
  have hfirst : (do
        let result ← ask (recording modelValidate behaviour) request .initial
        return (result, false)).exec [] =
      some ((answer modelValidate (behaviour .initial)).map fun result => (result, false),
        [.initial]) :=
    exec_ask_bind .initial [] false
  rcases answer_cases modelValidate (behaviour .initial) with
    ⟨result, hanswer, hvalid⟩ | ⟨hanswer, hinvalid⟩ | ⟨hanswer, hvalid⟩
  · refine ⟨[.initial], .inr ⟨hvalid, rfl⟩, ?_⟩
    rw [hanswer] at hfirst
    refine (Program.exec_tryCatch hfirst).trans ?_
    show some (Except.ok (result, false), [Attempt.initial]) = _
    have hlast : [Attempt.initial].getLastD .initial = .initial := rfl
    rw [hlast, hanswer]
    rfl
  · refine ⟨[.initial, .repair], .inl ⟨hinvalid, rfl⟩, ?_⟩
    rw [hanswer] at hfirst
    refine (Program.exec_tryCatch_error hfirst).trans ?_
    exact exec_ask_bind .repair [.initial] true
  · refine ⟨[.initial], .inr ⟨hvalid, rfl⟩, ?_⟩
    rw [hanswer] at hfirst
    refine (Program.exec_tryCatch_error hfirst).trans ?_
    show some (Except.error _, [Attempt.initial]) = _
    have hlast : [Attempt.initial].getLastD .initial = .initial := rfl
    rw [hlast, hanswer]
    rfl

/-! ## The gate -/

theorem validateRequest_error {now : Datetime} {error : Exc}
    (h : SafetyGate.validateRequest request now = .error error) : IsPipelineError error := by
  unfold SafetyGate.validateRequest at h
  rcases bind_eq_error.mp h with h | ⟨-, -, h⟩
  · exact ⟨_, (require_eq_error.mp h).2.symm⟩
  rcases bind_eq_error.mp h with h | ⟨-, -, h⟩
  · exact ⟨_, (require_eq_error.mp h).2.symm⟩
  · exact ⟨_, (require_eq_error.mp h).2.symm⟩

theorem validateResult_cases (request : VisionAnalysisRequest) (result : VisionProviderResult) :
    (SafetyGate.validateResult request result = .ok () ∧ SafeResult request result) ∨
      ∃ error, SafetyGate.validateResult request result = .error error ∧
        IsPipelineError error ∧ ¬SafeResult request result := by
  unfold SafetyGate.validateResult
  by_cases hinstructions : result.instructionLikeContentDetected = false
  · rw [require_of _ hinstructions, ok_bind]
    by_cases hprohibited : result.prohibitedContentDetected = false
    · rw [require_of _ hprohibited, ok_bind]
      by_cases hhypotheses : ∀ hypothesis ∈ result.hypotheses,
          hypothesis.reviewStatus = .pending ∧
            hypothesis.targetMarket = SafetyGate.expectedMarket request.direction
      · exact .inl ⟨require_of _ hhypotheses, hinstructions, hprohibited, hhypotheses⟩
      · exact .inr ⟨_, if_neg hhypotheses, ⟨_, rfl⟩, fun h => hhypotheses h.hypotheses⟩
    · rw [require, if_neg hprohibited]
      exact .inr ⟨_, rfl, ⟨_, rfl⟩, fun h => hprohibited h.prohibited⟩
  · rw [require, if_neg hinstructions]
    exact .inr ⟨_, rfl, ⟨_, rfl⟩, fun h => hinstructions h.instructions⟩

/-- The rest of the pipeline, once the provider has answered. -/
def finish (request : VisionAnalysisRequest) (answered : VisionProviderResult × Bool) :
    Except Exc AnalysisOutcome :=
  (SafetyGate.validateResult request answered.1).map fun _ =>
    outcomeOf request answered.1 answered.2

theorem exec_analyze {now : Datetime} (hgate : SafetyGate.validateRequest request now = .ok ()) :
    ∃ attempts, MadeOn modelValidate behaviour attempts ∧
      (analyze (recording modelValidate behaviour) (pure now) request).exec [] =
        some (((answer modelValidate (behaviour (attempts.getLastD .initial))).bind fun result =>
          finish request (result, decide (.repair ∈ attempts))), attempts) := by
  obtain ⟨attempts, hmade, hexec⟩ : ∃ attempts, MadeOn modelValidate behaviour attempts ∧
      (askTwice (recording modelValidate behaviour) request).exec [] =
        some ((answer modelValidate (behaviour (attempts.getLastD .initial))).map
          fun result => (result, decide (.repair ∈ attempts)), attempts) := exec_askTwice
  refine ⟨attempts, hmade, ?_⟩
  simp only [analyze, Program.pure_eq_ret, Program.bind_ret, hgate, Program.ofExcept_ok]
  cases hanswer : answer modelValidate (behaviour (attempts.getLastD .initial)) with
  | error error =>
      rw [hanswer] at hexec
      exact Program.exec_bind_error hexec
  | ok result =>
      rw [hanswer] at hexec
      refine (Program.exec_bind hexec).trans ?_
      have hanalysis : AdAnalysis.validate request.sourceAsset result.detectedLocale
          request.brandLock result.hypotheses result.warnings =
            some (outcomeOf request result (decide (.repair ∈ attempts))).analysis :=
        dif_pos result.valid
      dsimp only
      rcases validateResult_cases request result with ⟨hok, -⟩ | ⟨error, herror, -⟩
      · simp only [hok, Program.ofExcept_ok, Program.bind_ret, hanalysis, validated_some]
        show some (Except.ok _, attempts) = some (finish request _, attempts)
        rw [finish, hok]
        rfl
      · simp only [herror, Program.ofExcept_error, Program.bind_raise]
        show some (Except.error error, attempts) = some (finish request _, attempts)
        rw [finish, herror]
        rfl

theorem answer_eq_ok {returned : Except Exc Object} :
    answer modelValidate returned = .ok result ↔
      ∃ object, returned = .ok object ∧ modelValidate object = .ok result := by
  cases returned with
  | error error =>
      constructor
      · intro h
        cases h
      · rintro ⟨_, ⟨⟩, -⟩
  | ok object =>
      constructor
      · exact fun h => ⟨object, rfl, validateProviderResult_eq_ok.mp h⟩
      · rintro ⟨_, ⟨⟩, h⟩
        exact validateProviderResult_eq_ok.mpr h

theorem answer_error {returned : Except Exc Object} {error : Exc}
    (h : answer modelValidate returned = .error error) : IsPipelineError error := by
  rcases answer_cases modelValidate returned with
    ⟨result, hanswer, -⟩ | ⟨hanswer, -⟩ | ⟨hanswer, -⟩
  · rw [hanswer] at h
    cases h
  · rw [hanswer] at h
    exact ⟨_, (Except.error.inj h).symm⟩
  · rw [hanswer] at h
    exact ⟨_, (Except.error.inj h).symm⟩

theorem finish_eq_ok {answered : VisionProviderResult × Bool} {outcome : AnalysisOutcome} :
    finish request answered = .ok outcome ↔
      SafeResult request answered.1 ∧ outcome = outcomeOf request answered.1 answered.2 := by
  rcases validateResult_cases request answered.1 with ⟨hok, hsafe⟩ | ⟨error, herror, -, hunsafe⟩
  · rw [finish, hok]
    constructor
    · exact fun h => ⟨hsafe, (Except.ok.inj h).symm⟩
    · rintro ⟨-, rfl⟩
      rfl
  · rw [finish, herror]
    constructor
    · intro h
      cases h
    · exact fun h => absurd h.1 hunsafe

theorem finish_error {answered : VisionProviderResult × Bool} {error : Exc}
    (h : finish request answered = .error error) : IsPipelineError error := by
  rcases validateResult_cases request answered.1 with ⟨hok, -⟩ | ⟨_, herror, hpipeline, -⟩
  · rw [finish, hok] at h
    cases h
  · rw [finish, herror] at h
    obtain rfl := Except.error.inj h
    exact hpipeline

/-- Without the gate's consent the provider is not asked. Otherwise it is asked once, and once
more when its first answer is invalid; the outcome is made of the last answer, and there is one
exactly when that answer is valid and safe. The pipeline raises no errors but its own. -/
theorem analyze_repairs_once {Object : Type}
    (modelValidate : Object → Except ValidationFailure VisionProviderResult)
    (behaviour : Attempt → Except Exc Object) (now : Datetime) (request : VisionAnalysisRequest) :
    ∃ returned attempts,
      (analyze (recording modelValidate behaviour) (pure now) request).exec [] =
        some (returned, attempts) ∧
      (SafetyGate.validateRequest request now ≠ .ok () → attempts = []) ∧
      (SafetyGate.validateRequest request now = .ok () →
        MadeOn modelValidate behaviour attempts) ∧
      (∀ outcome, returned = .ok outcome ↔
        SafetyGate.validateRequest request now = .ok () ∧ ∃ object result,
          behaviour (attempts.getLastD .initial) = .ok object ∧
            modelValidate object = .ok result ∧ SafeResult request result ∧
            outcome = outcomeOf request result (decide (.repair ∈ attempts))) ∧
      ∀ error, returned = .error error → IsPipelineError error := by
  cases hgate : SafetyGate.validateRequest request now with
  | error error =>
      refine ⟨.error error, [], ?_, fun _ => rfl, ?_, ?_, ?_⟩
      · simp only [analyze, Program.pure_eq_ret, Program.bind_ret, hgate, Program.ofExcept_error,
          Program.bind_raise]
        rfl
      · intro h
        cases h
      · intro outcome
        constructor
        · intro h
          cases h
        · rintro ⟨h, -⟩
          cases h
      · rintro _ ⟨⟩
        exact validateRequest_error hgate
  | ok _ =>
      obtain ⟨attempts, hmade, hexec⟩ : ∃ attempts, MadeOn modelValidate behaviour attempts ∧
          (analyze (recording modelValidate behaviour) (pure now) request).exec [] =
            some (((answer modelValidate (behaviour (attempts.getLastD .initial))).bind
              fun result => finish request (result, decide (.repair ∈ attempts))), attempts) :=
        exec_analyze hgate
      refine ⟨_, attempts, hexec, fun h => absurd rfl h, fun _ => hmade, ?_, ?_⟩
      · intro outcome
        have hbind : ((answer modelValidate (behaviour (attempts.getLastD .initial))).bind
              fun result => finish request (result, decide (.repair ∈ attempts))) = .ok outcome ↔
            ∃ result, answer modelValidate (behaviour (attempts.getLastD .initial)) = .ok result ∧
              finish request (result, decide (.repair ∈ attempts)) = .ok outcome := bind_eq_ok
        constructor
        · intro h
          obtain ⟨result, hanswer, hfinish⟩ := hbind.mp h
          obtain ⟨object, hobject, hvalid⟩ := answer_eq_ok.mp hanswer
          obtain ⟨hsafe, houtcome⟩ := finish_eq_ok.mp hfinish
          exact ⟨rfl, object, result, hobject, hvalid, hsafe, houtcome⟩
        · rintro ⟨-, object, result, hobject, hvalid, hsafe, houtcome⟩
          exact hbind.mpr ⟨result, answer_eq_ok.mpr ⟨object, hobject, hvalid⟩,
            finish_eq_ok.mpr ⟨hsafe, houtcome⟩⟩
      · intro error herror
        rcases bind_eq_error.mp herror with h | ⟨result, -, h⟩
        · exact answer_error h
        · exact finish_error h

/-! ## A repaired answer -/

/-- How a mapping with an unknown locale and a validated result are read. -/
def readDemo : Json ⊕ VisionProviderResult → Except ValidationFailure VisionProviderResult
  | .inl _ => .error .validationError
  | .inr result => .ok result

/-- The first answer has an unknown locale, and the second one is valid. -/
def repairedDemo : Attempt → Except Exc (Json ⊕ VisionProviderResult)
  | .initial => .ok (.inl (.obj [("detected_locale", .str "invalid")]))
  | .repair => .ok (.inr (Demo.visionResult [] Demo.noWarnings))

theorem analyze_repairs_once_demo :
    (analyze (recording readDemo repairedDemo) (pure Demo.now) Demo.visionRequest).exec [] =
      some (.ok ⟨Demo.analysis [] Demo.noWarnings, true⟩, [.initial, .repair]) := by
  obtain ⟨returned, attempts, hexec, -, hmade, houtcome, -⟩ :=
    analyze_repairs_once readDemo repairedDemo Demo.now Demo.visionRequest
  have hinvalid : IsInvalid readDemo (repairedDemo .initial) := ⟨_, _, rfl, rfl⟩
  obtain ⟨-, rfl⟩ | ⟨hvalid, -⟩ := hmade Demo.validateRequest_visionRequest
  · obtain rfl : returned = .ok ⟨Demo.analysis [] Demo.noWarnings, true⟩ :=
      (houtcome _).mpr ⟨Demo.validateRequest_visionRequest, _, _, rfl, rfl,
        ⟨rfl, rfl, fun _ hmem => nomatch hmem⟩, rfl⟩
    exact hexec
  · exact absurd hinvalid hvalid

end AnalysisPipeline

end CultureShift
