/-
# The verdict of the Critic

What the report says, told from the request: which findings decide the status,
when a report can be built at all, and how far it depends on the order in which
the hypotheses stand.
-/

import CultureShift.Lifecycle.Demo

namespace CultureShift

open Serialization Relational Concurrent

namespace Critic

/-! ## Findings -/

/-- What is found out about a hypothesis. -/
inductive Finding
  | absolute | stereotype | pending
deriving DecidableEq

namespace Finding

def issue : Finding → CritiqueIssue
  | absolute => absoluteCulturalClaim
  | stereotype => possibleStereotype
  | pending => culturalHypothesisPending

theorem issue_injective : Function.Injective issue := by
  intro first second h
  have hmessage := congrArg (fun issue => issue.message.text.toList.length) h
  revert hmessage
  cases first <;> cases second <;> decide

theorem severity_issue (finding : Finding) : finding.issue.severity = .warning := by
  cases finding <;> rfl

end Finding

section

variable (casefold : String → String) (hypothesis : CulturalHypothesis)

/-- The claim contains one of the absolute phrases. -/
def IsAbsolute : Prop :=
  mentions absoluteCulturalPhrases (casefold hypothesis.claim.text) = true

def IsStereotype : Prop := mentions stereotypePhrases (casefold hypothesis.claim.text) = true

/-- The claim contains no absolute phrase, and is a stereotype or waits for its review. -/
def IsAmbiguous : Prop :=
  ¬IsAbsolute casefold hypothesis ∧
    (IsStereotype casefold hypothesis ∨ hypothesis.reviewStatus = .pending)

instance : Decidable (IsAbsolute casefold hypothesis) := inferInstanceAs (Decidable (_ = _))

instance : Decidable (IsStereotype casefold hypothesis) := inferInstanceAs (Decidable (_ = _))

instance : Decidable (IsAmbiguous casefold hypothesis) := inferInstanceAs (Decidable (_ ∧ _))

def finding : Option Finding :=
  if IsAbsolute casefold hypothesis then some .absolute
  else if IsStereotype casefold hypothesis then some .stereotype
  else if hypothesis.reviewStatus = .pending then some .pending
  else none

theorem hypothesisIssue_eq :
    hypothesisIssue casefold hypothesis = (finding casefold hypothesis).map Finding.issue := by
  by_cases habsolute : IsAbsolute casefold hypothesis
  · rw [finding, if_pos habsolute]
    exact if_pos habsolute
  by_cases hstereotype : IsStereotype casefold hypothesis
  · rw [finding, if_neg habsolute, if_pos hstereotype]
    exact (if_neg habsolute).trans (if_pos hstereotype)
  have hrest : hypothesisIssue casefold hypothesis =
      if hypothesis.reviewStatus = .pending then some culturalHypothesisPending else none :=
    (if_neg habsolute).trans (if_neg hstereotype)
  rw [hrest, finding, if_neg habsolute, if_neg hstereotype]
  split_ifs <;> rfl

end

variable {casefold : String → String} {hypothesis : CulturalHypothesis}

theorem finding_eq_absolute :
    finding casefold hypothesis = some .absolute ↔ IsAbsolute casefold hypothesis := by
  unfold finding
  split_ifs with habsolute hstereotype hpending <;> simp [*]

theorem exists_review_iff_ambiguous :
    (∃ found, finding casefold hypothesis = some found ∧ found.issue.requiresHumanReview = true) ↔
      IsAmbiguous casefold hypothesis := by
  unfold finding IsAmbiguous
  constructor
  · rintro ⟨found, hfound, hreview⟩
    split_ifs at hfound with habsolute hstereotype hpending
    · obtain rfl := Option.some.inj hfound
      cases hreview
    · exact ⟨habsolute, .inl hstereotype⟩
    · exact ⟨habsolute, .inr hpending⟩
  · rintro ⟨habsolute, hambiguous⟩
    rw [if_neg habsolute]
    by_cases hstereotype : IsStereotype casefold hypothesis
    · exact ⟨.stereotype, if_pos hstereotype, rfl⟩
    · refine ⟨.pending, ?_, rfl⟩
      rw [if_neg hstereotype, if_pos (hambiguous.resolve_left hstereotype)]

/-! ## What blocks a concept -/

/-- One of the safety refusals is among the warnings of the analysis or of the run. -/
def IsRefused (request : CriticRequest) : Prop :=
  ∃ code ∈ request.analysis.warnings.map (·.text) ++ request.warningCodes, code ∈ safetyRefusals

instance (request : CriticRequest) : Decidable (IsRefused request) :=
  inferInstanceAs (Decidable (∃ _ ∈ _, _))

def IsBlocked (request : CriticRequest) : Prop :=
  IsRefused request ∨ ¬BrandLockPreserved request ∨ ¬FactsSupported request

instance (request : CriticRequest) : Decidable (IsBlocked request) :=
  inferInstanceAs (Decidable (_ ∨ _ ∨ _))

/-- The issues that have nothing to do with the hypotheses. -/
def generalIssues (request : CriticRequest) : List CritiqueIssue :=
  (if IsRefused request then [safetyRefusal] else []) ++
    (if BrandLockPreserved request then [] else [brandLockMismatch]) ++
    (if FactsSupported request then [] else [unsupportedFact]) ++
    if Unreadable request.draft.adCopy then [copyUnreadable] else []

variable {request : CriticRequest}

theorem refused_iff : (∃ code ∈ warnings request, code ∈ safetyRefusals) ↔ IsRefused request := by
  simp only [warnings, List.mem_eraseDups, IsRefused]

theorem issues_eq_append :
    issues casefold request = generalIssues request ++
      (request.analysis.hypotheses.filterMap (finding casefold)).map Finding.issue := by
  have hfilter : request.analysis.hypotheses.filterMap (hypothesisIssue casefold) =
      (request.analysis.hypotheses.filterMap (finding casefold)).map Finding.issue := by
    rw [List.map_filterMap]
    congr 1
    funext hypothesis
    exact hypothesisIssue_eq casefold hypothesis
  simp only [issues, generalIssues, hfilter, if_congr refused_iff rfl rfl]

theorem mem_generalIssues {issue : CritiqueIssue} :
    issue ∈ generalIssues request ↔
      (IsRefused request ∧ issue = safetyRefusal) ∨
        (¬BrandLockPreserved request ∧ issue = brandLockMismatch) ∨
        (¬FactsSupported request ∧ issue = unsupportedFact) ∨
        (Unreadable request.draft.adCopy ∧ issue = copyUnreadable) := by
  unfold generalIssues
  split_ifs <;> simp [*]

theorem mem_issues {issue : CritiqueIssue} :
    issue ∈ issues casefold request ↔ issue ∈ generalIssues request ∨
      ∃ hypothesis ∈ request.analysis.hypotheses, ∃ found,
        finding casefold hypothesis = some found ∧ found.issue = issue := by
  rw [issues_eq_append, List.mem_append]
  apply or_congr Iff.rfl
  constructor
  · intro h
    obtain ⟨found, hfound, rfl⟩ := List.mem_map.mp h
    obtain ⟨hypothesis, hmem, heq⟩ := List.mem_filterMap.mp hfound
    exact ⟨hypothesis, hmem, found, heq, rfl⟩
  · rintro ⟨hypothesis, hmem, found, heq, rfl⟩
    exact List.mem_map.mpr ⟨found, List.mem_filterMap.mpr ⟨hypothesis, hmem, heq⟩, rfl⟩

/-! ## The status -/

theorem blocking_iff :
    (∃ issue ∈ issues casefold request, issue.severity = .blocking) ↔ IsBlocked request := by
  constructor
  · rintro ⟨issue, hissue, hblocking⟩
    rcases mem_issues.mp hissue with hgeneral | ⟨hypothesis, -, found, -, rfl⟩
    · rcases mem_generalIssues.mp hgeneral with
        ⟨hrefused, -⟩ | ⟨hlock, -⟩ | ⟨hfacts, -⟩ | ⟨-, rfl⟩
      · exact .inl hrefused
      · exact .inr (.inl hlock)
      · exact .inr (.inr hfacts)
      · cases hblocking
    · rw [found.severity_issue] at hblocking
      cases hblocking
  · rintro (hrefused | hlock | hfacts)
    · exact ⟨_, mem_issues.mpr (.inl (mem_generalIssues.mpr (.inl ⟨hrefused, rfl⟩))), rfl⟩
    · exact ⟨_, mem_issues.mpr (.inl (mem_generalIssues.mpr (.inr (.inl ⟨hlock, rfl⟩)))), rfl⟩
    · exact ⟨_, mem_issues.mpr (.inl (mem_generalIssues.mpr
        (.inr (.inr (.inl ⟨hfacts, rfl⟩))))), rfl⟩

theorem humanReview_iff :
    (∃ issue ∈ issues casefold request, issue.requiresHumanReview = true) ↔
      ∃ hypothesis ∈ request.analysis.hypotheses, IsAmbiguous casefold hypothesis := by
  constructor
  · rintro ⟨issue, hissue, hreview⟩
    rcases mem_issues.mp hissue with hgeneral | ⟨hypothesis, hmem, found, hfound, rfl⟩
    · rcases mem_generalIssues.mp hgeneral with ⟨-, rfl⟩ | ⟨-, rfl⟩ | ⟨-, rfl⟩ | ⟨-, rfl⟩
      all_goals cases hreview
    · exact ⟨hypothesis, hmem, exists_review_iff_ambiguous.mp ⟨found, hfound, hreview⟩⟩
  · rintro ⟨hypothesis, hmem, hambiguous⟩
    obtain ⟨found, hfound, hreview⟩ := exists_review_iff_ambiguous.mpr hambiguous
    exact ⟨found.issue, mem_issues.mpr (.inr ⟨hypothesis, hmem, found, hfound, rfl⟩), hreview⟩

theorem issues_ne_nil_iff (hblocked : ¬IsBlocked request)
    (hclear : ¬∃ hypothesis ∈ request.analysis.hypotheses, IsAmbiguous casefold hypothesis) :
    issues casefold request ≠ [] ↔ Unreadable request.draft.adCopy ∨
      ∃ hypothesis ∈ request.analysis.hypotheses, IsAbsolute casefold hypothesis := by
  constructor
  · intro hne
    obtain ⟨issue, hissue⟩ := List.exists_mem_of_ne_nil _ hne
    rcases mem_issues.mp hissue with hgeneral | ⟨hypothesis, hmem, found, hfound, rfl⟩
    · rcases mem_generalIssues.mp hgeneral with
        ⟨hrefused, -⟩ | ⟨hlock, -⟩ | ⟨hfacts, -⟩ | ⟨hunreadable, -⟩
      · exact absurd (.inl hrefused) hblocked
      · exact absurd (.inr (.inl hlock)) hblocked
      · exact absurd (.inr (.inr hfacts)) hblocked
      · exact .inl hunreadable
    · cases found with
      | absolute => exact .inr ⟨hypothesis, hmem, finding_eq_absolute.mp hfound⟩
      | stereotype =>
          exact absurd ⟨hypothesis, hmem, exists_review_iff_ambiguous.mp ⟨_, hfound, rfl⟩⟩ hclear
      | pending =>
          exact absurd ⟨hypothesis, hmem, exists_review_iff_ambiguous.mp ⟨_, hfound, rfl⟩⟩ hclear
  · rintro (hunreadable | ⟨hypothesis, hmem, habsolute⟩)
    · exact List.ne_nil_of_mem (mem_issues.mpr (.inl (mem_generalIssues.mpr
        (.inr (.inr (.inr ⟨hunreadable, rfl⟩))))))
    · exact List.ne_nil_of_mem (mem_issues.mpr (.inr ⟨hypothesis, hmem, .absolute,
        finding_eq_absolute.mpr habsolute, rfl⟩))

/-- The status, told from the request. -/
def verdict (casefold : String → String) (request : CriticRequest) : CritiqueStatus :=
  if IsBlocked request then .reject
  else if ∃ hypothesis ∈ request.analysis.hypotheses, IsAmbiguous casefold hypothesis then
    .needsHumanReview
  else if Unreadable request.draft.adCopy ∨
      ∃ hypothesis ∈ request.analysis.hypotheses, IsAbsolute casefold hypothesis then
    .revise
  else .pass

theorem statusOf_issues : statusOf (issues casefold request) = verdict casefold request := by
  unfold statusOf verdict
  rw [if_congr blocking_iff rfl rfl, if_congr humanReview_iff rfl rfl]
  by_cases hblocked : IsBlocked request
  · rw [if_pos hblocked, if_pos hblocked]
  rw [if_neg hblocked, if_neg hblocked]
  by_cases hambiguous : ∃ hypothesis ∈ request.analysis.hypotheses, IsAmbiguous casefold hypothesis
  · rw [if_pos hambiguous, if_pos hambiguous]
  · rw [if_neg hambiguous, if_neg hambiguous]
    exact if_congr (issues_ne_nil_iff hblocked hambiguous) rfl rfl

theorem statusOf_eq_reject {found : List CritiqueIssue} :
    statusOf found = .reject ↔ ∃ issue ∈ found, issue.severity = .blocking := by
  unfold statusOf
  split_ifs with hblocking <;> simp [hblocking]

theorem any_of_statusOf {found : List CritiqueIssue} (h : statusOf found = .needsHumanReview) :
    found.any (·.requiresHumanReview) = true := by
  unfold statusOf at h
  split_ifs at h with hblocking hreview
  simpa using hreview

theorem eq_nil_of_statusOf {found : List CritiqueIssue} (h : statusOf found = .pass) :
    found = [] := by
  unfold statusOf at h
  split_ifs at h with hblocking hreview hnone
  exact not_not.mp hnone

/-- The contract of the report agrees with the cascade. -/
theorem consistentStatus_issues (casefold : String → String) (request : CriticRequest) :
    ConsistentStatus (statusOf (issues casefold request)) (issues casefold request)
      (decide (BrandLockPreserved request))
      ((issues casefold request).any (·.requiresHumanReview)) := by
  refine ⟨?_, statusOf_eq_reject.symm, ?_, any_of_statusOf⟩
  · by_cases hlock : BrandLockPreserved request
    · exact .inl (decide_eq_true hlock)
    · exact .inr ⟨brandLockMismatch,
        mem_issues.mpr (.inl (mem_generalIssues.mpr (.inr (.inl ⟨hlock, rfl⟩)))), rfl, rfl⟩
  · intro hpass
    have hnil := eq_nil_of_statusOf hpass
    rw [hnil]
    exact ⟨rfl, rfl⟩

/-! ## The report -/

/-- The Critic returns this report. -/
def Reviewed (casefold : String → String) (now : Datetime) (request : CriticRequest)
    (report : CritiqueReport) : Prop :=
  (review casefold (pure now) request : Program Unit Exc CritiqueReport).result? = some (.ok report)

variable {now : Datetime} {report : CritiqueReport}

theorem reviewed_iff :
    Reviewed casefold now request report ↔
      ∃ codes, (warnings request).mapM (PatternText.validate : String → Option WarningCode) =
          some codes ∧
        CritiqueReport.validate (statusOf (issues casefold request)) (issues casefold request) codes
          (decide (BrandLockPreserved request))
          ((issues casefold request).any (·.requiresHumanReview)) now = some report := by
  unfold Reviewed
  simp only [review, Program.pure_eq_ret, Program.bind_ret]
  cases hcodes : (warnings request).mapM
      (PatternText.validate : String → Option WarningCode) with
  | none => simp [validated]
  | some codes =>
      cases hreport : CritiqueReport.validate (statusOf (issues casefold request))
        (issues casefold request) codes (decide (BrandLockPreserved request))
        ((issues casefold request).any (·.requiresHumanReview)) now with
      | none => simp [validated, hreport]
      | some report' => simp [validated, hreport]

/-- What the report says. -/
theorem fields_of_reviewed (h : Reviewed casefold now request report) :
    report.status = verdict casefold request ∧ report.issues = issues casefold request ∧
      report.brandLockPreserved = decide (BrandLockPreserved request) ∧
      report.requiresHumanReview = (issues casefold request).any (·.requiresHumanReview) := by
  obtain ⟨codes, -, hreport⟩ := reviewed_iff.mp h
  unfold CritiqueReport.validate at hreport
  split_ifs at hreport with hvalid
  obtain rfl := Option.some.inj hreport
  exact ⟨statusOf_issues, rfl, rfl, rfl⟩

/-- The verdict of a report is that of the cascade, the contract of the report has nothing to
object to it, and the Brand Lock is preserved when the five comparisons hold. -/
theorem review_verdict (casefold : String → String) (now : Datetime) (request : CriticRequest) :
    (∀ report, Reviewed casefold now request report →
      report.status = verdict casefold request ∧
        (report.brandLockPreserved = true ↔ BrandLockPreserved request)) ∧
    ConsistentStatus (statusOf (issues casefold request)) (issues casefold request)
      (decide (BrandLockPreserved request))
      ((issues casefold request).any (·.requiresHumanReview)) := by
  constructor
  · intro report hreport
    obtain ⟨hstatus, -, hpreserved, -⟩ := fields_of_reviewed hreport
    exact ⟨hstatus, by rw [hpreserved, decide_eq_true_eq]⟩
  · exact consistentStatus_issues casefold request

/-! ## Whether there is a report -/

theorem exists_validate_of_mem (hcodes : ValidWarningCodes request.warningCodes) :
    ∀ code ∈ warnings request,
      ∃ value, (PatternText.validate code : Option WarningCode) = some value := by
  intro code hcode
  rw [warnings, List.mem_eraseDups, List.mem_append, List.mem_map] at hcode
  rcases hcode with ⟨value, -, rfl⟩ | hrun
  · exact ⟨value, PatternText.validate_text value⟩
  · have hpattern := hcodes.2.2 code hrun
    have hstrip := strip_of_isWarningCode hpattern
    refine ⟨⟨code, hstrip, hpattern⟩, ?_⟩
    exact PatternText.validate_text (⟨code, hstrip, hpattern⟩ : WarningCode)

theorem length_of_mapM {α β : Type} {f : α → Option β} {items : List α} {values : List β}
    (h : items.mapM f = some values) : values.length = items.length := by
  induction items generalizing values with
  | nil =>
      obtain rfl := Option.some.inj h
      rfl
  | cons item items ih =>
      rw [List.mapM_cons] at h
      obtain ⟨value, -, hrest⟩ := Option.bind_eq_some_iff.mp h
      obtain ⟨rest, hmapM, hvalues⟩ := Option.bind_eq_some_iff.mp hrest
      obtain rfl := Option.some.inj hvalues
      exact congrArg Nat.succ (ih hmapM)

theorem exists_mapM {α β : Type} {f : α → Option β} {items : List α}
    (h : ∀ item ∈ items, ∃ value, f item = some value) :
    ∃ values, items.mapM f = some values := by
  induction items with
  | nil => exact ⟨[], rfl⟩
  | cons item items ih =>
      obtain ⟨value, hvalue⟩ := h item List.mem_cons_self
      obtain ⟨values, hvalues⟩ := ih fun other hother =>
        h other (List.mem_cons_of_mem item hother)
      refine ⟨value :: values, ?_⟩
      rw [List.mapM_cons, hvalue, hvalues]
      rfl

/-- Erasing duplicates leaves every member once. -/
theorem nodup_eraseDups {α : Type} [DecidableEq α] (items : List α) : items.eraseDups.Nodup := by
  induction hlength : items.length using Nat.strong_induction_on generalizing items with
  | _ length ih =>
      cases items with
      | nil => exact List.nodup_nil
      | cons item items =>
          rw [List.eraseDups_cons, List.nodup_cons]
          constructor
          · rw [List.mem_eraseDups]
            simp
          · refine ih _ ?_ _ rfl
            subst hlength
            exact Nat.lt_succ_of_le (List.length_filter_le _ _)

theorem length_warnings :
    (warnings request).length =
      (request.analysis.warnings.map (·.text) ++ request.warningCodes).toFinset.card := by
  have hnodup : (warnings request).Nodup := nodup_eraseDups _
  rw [← List.toFinset_card_of_nodup hnodup]
  congr 1
  ext code
  rw [List.mem_toFinset, List.mem_toFinset, warnings, List.mem_eraseDups]

/-- The hypothesis raises an issue. -/
def IsQuestionable (casefold : String → String) (hypothesis : CulturalHypothesis) : Prop :=
  IsAbsolute casefold hypothesis ∨ IsStereotype casefold hypothesis ∨
    hypothesis.reviewStatus = .pending

instance (casefold : String → String) : DecidablePred (IsQuestionable casefold) :=
  fun _ => inferInstanceAs (Decidable (_ ∨ _ ∨ _))

theorem isSome_finding :
    (finding casefold hypothesis).isSome = decide (IsQuestionable casefold hypothesis) := by
  unfold finding IsQuestionable
  split_ifs with habsolute hstereotype hpending <;> simp [*]

theorem length_generalIssues :
    (generalIssues request).length =
      (if IsRefused request then 1 else 0) + (if BrandLockPreserved request then 0 else 1) +
        (if FactsSupported request then 0 else 1) +
        if Unreadable request.draft.adCopy then 1 else 0 := by
  unfold generalIssues
  simp only [List.length_append, apply_ite List.length, List.length_cons, List.length_nil]

theorem length_filterMap_finding (hypotheses : List CulturalHypothesis) :
    (hypotheses.filterMap (finding casefold)).length =
      hypotheses.countP (IsQuestionable casefold ·) := by
  rw [List.length_filterMap_eq_countP]
  congr 1
  funext hypothesis
  exact isSome_finding

/-- The limits of the report, told from the request: at most 32 findings, of which up to four
have nothing to do with the hypotheses, and at most 32 different warning codes. -/
def WithinLimits (casefold : String → String) (request : CriticRequest) : Prop :=
  (if IsRefused request then 1 else 0) + (if BrandLockPreserved request then 0 else 1) +
      (if FactsSupported request then 0 else 1) +
      (if Unreadable request.draft.adCopy then 1 else 0) +
      request.analysis.hypotheses.countP (IsQuestionable casefold ·) ≤ 32 ∧
    (request.analysis.warnings.map (·.text) ++ request.warningCodes).toFinset.card ≤ 32

instance (casefold : String → String) : DecidablePred (WithinLimits casefold) :=
  fun _ => inferInstanceAs (Decidable (_ ∧ _))

theorem withinLimits_iff :
    WithinLimits casefold request ↔
      (issues casefold request).length ≤ 32 ∧ (warnings request).length ≤ 32 := by
  rw [issues_eq_append, List.length_append, List.length_map, length_generalIssues,
    length_filterMap_finding, length_warnings]
  rfl

theorem withinLimits_of_reviewed (h : Reviewed casefold now request report) :
    WithinLimits casefold request := by
  obtain ⟨codes, hcodes, hvalidate⟩ := reviewed_iff.mp h
  unfold CritiqueReport.validate at hvalidate
  split_ifs at hvalidate with hvalid
  rw [withinLimits_iff, ← length_of_mapM hcodes]
  exact hvalid.1

theorem exists_reviewed (hcodes : ValidWarningCodes request.warningCodes)
    (hlimits : WithinLimits casefold request) :
    ∃ report, Reviewed casefold now request report := by
  obtain ⟨codes, hvalues⟩ := exists_mapM (exists_validate_of_mem hcodes)
  rw [withinLimits_iff, ← length_of_mapM hvalues] at hlimits
  exact ⟨_, reviewed_iff.mpr ⟨codes, hvalues,
    dif_pos ⟨hlimits, consistentStatus_issues casefold request⟩⟩⟩

/-- For a request with the codes of a run, there is a report unless it would hold too much. -/
theorem exists_reviewed_iff (casefold : String → String) (now : Datetime)
    (request : CriticRequest) (hcodes : ValidWarningCodes request.warningCodes) :
    (∃ report, Reviewed casefold now request report) ↔ WithinLimits casefold request := by
  constructor
  · rintro ⟨report, hreport⟩
    exact withinLimits_of_reviewed hreport
  · intro hlimits
    exact exists_reviewed hcodes hlimits

/-! ## Pending hypotheses -/

theorem requiresHumanReview_iff (h : Reviewed casefold now request report) :
    report.requiresHumanReview = true ↔
      ∃ hypothesis ∈ request.analysis.hypotheses, IsAmbiguous casefold hypothesis := by
  obtain ⟨-, -, -, hreview⟩ := fields_of_reviewed h
  rw [hreview, ← humanReview_iff, List.any_eq_true]

/-- A pending hypothesis brings its concept before a human unless the only pending hypotheses
are ones whose claim contains an absolute phrase: these are taken for absolute claims. -/
theorem pending_reviewed_iff (casefold : String → String) (now : Datetime)
    (request : CriticRequest) (report : CritiqueReport)
    (hreport : Reviewed casefold now request report) :
    ((∃ hypothesis ∈ request.analysis.hypotheses, hypothesis.reviewStatus = .pending) →
        (report.status = .reject ∨ report.status = .needsHumanReview) ∧
          (report.status ≠ .reject → report.requiresHumanReview = true)) ↔
      ((∃ hypothesis ∈ request.analysis.hypotheses, hypothesis.reviewStatus = .pending) →
        IsBlocked request ∨
          ∃ hypothesis ∈ request.analysis.hypotheses, IsAmbiguous casefold hypothesis) := by
  obtain ⟨hstatus, -⟩ := fields_of_reviewed hreport
  apply imp_congr_right
  intro _
  rw [requiresHumanReview_iff hreport, hstatus]
  unfold verdict
  by_cases hblocked : IsBlocked request
  · simp [hblocked]
  by_cases hambiguous : ∃ hypothesis ∈ request.analysis.hypotheses, IsAmbiguous casefold hypothesis
  · simp only [if_neg hblocked, if_pos hambiguous]
    simp [hambiguous]
  · simp only [if_neg hblocked, if_neg hambiguous]
    split_ifs <;> simp [hblocked, hambiguous]

/-! ## The order of the hypotheses -/

/-- The request with its hypotheses and its fact references in another order. -/
def reorder (request : CriticRequest) (hypotheses : List CulturalHypothesis)
    (hperm : hypotheses.Perm request.analysis.hypotheses) (factReferences : List String) :
    CriticRequest :=
  { request with
    analysis := ⟨request.analysis.sourceAsset, request.analysis.detectedLocale,
      request.analysis.brandLock, hypotheses, request.analysis.warnings,
      hperm.length_eq.trans_le request.analysis.valid.1, request.analysis.valid.2⟩
    draft := { request.draft with factReferences := factReferences } }

theorem statusOf_perm {first second : List CritiqueIssue} (h : first.Perm second) :
    statusOf first = statusOf second := by
  have hnil : first = [] ↔ second = [] := by
    rw [← List.length_eq_zero_iff, h.length_eq, List.length_eq_zero_iff]
  unfold statusOf
  simp only [h.mem_iff, ne_eq, hnil]

section Reordered

variable {hypotheses : List CulturalHypothesis}
  (hperm : hypotheses.Perm request.analysis.hypotheses) {factReferences : List String}

theorem factsSupported_reorder (hfacts : factReferences.Perm request.draft.factReferences) :
    FactsSupported (reorder request hypotheses hperm factReferences) ↔ FactsSupported request := by
  apply and_congr
  · rw [ne_eq, ← List.length_eq_zero_iff]
    exact not_congr (by rw [← List.length_eq_zero_iff, ← hfacts.length_eq]; rfl)
  · apply forall_congr'
    intro fact
    exact imp_congr_left hfacts.mem_iff

theorem generalIssues_reorder (hfacts : factReferences.Perm request.draft.factReferences) :
    generalIssues (reorder request hypotheses hperm factReferences) = generalIssues request := by
  have hsupported : ∀ (first second : List CritiqueIssue),
      (if FactsSupported (reorder request hypotheses hperm factReferences) then first else second) =
        if FactsSupported request then first else second :=
    fun first second => if_congr (factsSupported_reorder hperm hfacts) rfl rfl
  unfold generalIssues
  rw [hsupported]
  rfl

theorem issues_reorder (hfacts : factReferences.Perm request.draft.factReferences) :
    issues casefold (reorder request hypotheses hperm factReferences) =
      generalIssues request ++ (hypotheses.filterMap (finding casefold)).map Finding.issue := by
  rw [issues_eq_append, generalIssues_reorder hperm hfacts]
  rfl

theorem issues_reorder_perm (hfacts : factReferences.Perm request.draft.factReferences) :
    (issues casefold (reorder request hypotheses hperm factReferences)).Perm
      (issues casefold request) := by
  rw [issues_reorder hperm hfacts, issues_eq_append]
  exact ((hperm.filterMap _).map _).append_left _

/-- In another order, the same request is reviewed. -/
theorem exists_reviewed_reorder (hfacts : factReferences.Perm request.draft.factReferences)
    (hreport : Reviewed casefold now request report) :
    ∃ report', Reviewed casefold now (reorder request hypotheses hperm factReferences) report' := by
  obtain ⟨codes, hcodes, -⟩ := reviewed_iff.mp hreport
  have hlimits := withinLimits_iff.mp (withinLimits_of_reviewed hreport)
  rw [← length_of_mapM hcodes, ← (issues_reorder_perm hperm hfacts).length_eq] at hlimits
  exact ⟨_, reviewed_iff.mpr ⟨codes, hcodes, dif_pos ⟨hlimits, consistentStatus_issues _ _⟩⟩⟩

/-- The status and the need for a review do not depend on the order. -/
theorem status_of_reorder {report' : CritiqueReport}
    (hfacts : factReferences.Perm request.draft.factReferences)
    (hreport : Reviewed casefold now request report)
    (hreport' : Reviewed casefold now (reorder request hypotheses hperm factReferences) report') :
    report'.status = report.status ∧
      report'.requiresHumanReview = report.requiresHumanReview := by
  obtain ⟨hstatus, -, -, hreview⟩ := fields_of_reviewed hreport
  obtain ⟨hstatus', -, -, hreview'⟩ := fields_of_reviewed hreport'
  have hissues : (issues casefold (reorder request hypotheses hperm factReferences)).Perm
      (issues casefold request) := issues_reorder_perm hperm hfacts
  constructor
  · rw [hstatus, hstatus', ← statusOf_issues, ← statusOf_issues, statusOf_perm hissues]
  · rw [hreview, hreview', hissues.any_eq]

end Reordered

/-- In another order, a request gets the same status and the same issues. Those of the hypotheses
stand in the order of the hypotheses, so the two reports agree exactly if the reasons come in the
same order. -/
theorem reordered_alike (casefold : String → String) (now : Datetime) (request : CriticRequest)
    (hypotheses : List CulturalHypothesis)
    (hperm : hypotheses.Perm request.analysis.hypotheses) (factReferences : List String)
    (hfacts : factReferences.Perm request.draft.factReferences) (report report' : CritiqueReport)
    (hreport : Reviewed casefold now request report)
    (hreport' : Reviewed casefold now (reorder request hypotheses hperm factReferences) report') :
    report'.status = report.status ∧
      report'.requiresHumanReview = report.requiresHumanReview ∧
      report.issues = generalIssues request ++
        (request.analysis.hypotheses.filterMap (finding casefold)).map Finding.issue ∧
      report'.issues = generalIssues request ++
        (hypotheses.filterMap (finding casefold)).map Finding.issue ∧
      report'.issues.Perm report.issues ∧
      (report'.issues = report.issues ↔
        hypotheses.filterMap (finding casefold) =
          request.analysis.hypotheses.filterMap (finding casefold)) := by
  obtain ⟨hstatus, hreview⟩ := status_of_reorder hperm hfacts hreport hreport'
  obtain ⟨-, hissues, -⟩ := fields_of_reviewed hreport
  obtain ⟨-, hissues', -⟩ := fields_of_reviewed hreport'
  refine ⟨hstatus, hreview, hissues.trans issues_eq_append,
    hissues'.trans (issues_reorder hperm hfacts), ?_, ?_⟩
  · rw [hissues, hissues']
    exact issues_reorder_perm hperm hfacts
  · rw [hissues, hissues', issues_reorder hperm hfacts, issues_eq_append, List.append_right_inj]
    exact Finding.issue_injective.list_map.eq_iff

end Critic

namespace Demo

open Critic hiding Reviewed

def hypothesis (claim : LongText) (reviewStatus : ReviewStatus) : CulturalHypothesis where
  hypothesisId := uiId
  targetMarket := .unitedKingdom
  claim := claim
  evidenceRefs := [⟨"fixture:demo", strip_ofList (by decide), accepts_ofList (by decide)⟩]
  uncertainty := .high
  rationale := ⟨"Fixture observation.", strip_ofList (by decide), length_ofList (by decide)⟩
  validationRequirements :=
    [⟨"Market review.", strip_ofList (by decide), length_ofList (by decide)⟩]
  reviewStatus := reviewStatus
  valid := by simp

/-- The request of the demo, with these hypotheses in its analysis. -/
def hypothesizing (hypotheses : List CulturalHypothesis) (hcount : hypotheses.length ≤ 32)
    (warnings : List WarningCode) (h : warnings.length ≤ 32) : CriticRequest :=
  { criticRequest warnings h with
    analysis := ⟨sourceAsset, .zhCN, lock, hypotheses, warnings, hcount, h⟩ }

def neutralClaim : LongText :=
  ⟨"Understatement may work.", strip_ofList (by decide), length_ofList (by decide)⟩

def absoluteClaim : LongText :=
  ⟨"all british people like understatement.", strip_ofList (by decide),
    length_ofList (by decide)⟩

def stereotypeClaim : LongText :=
  ⟨"british people are reserved at first.", strip_ofList (by decide), length_ofList (by decide)⟩

def otherClaim : LongText :=
  ⟨"A dry tone may work.", strip_ofList (by decide), length_ofList (by decide)⟩

def repaired : WarningCode :=
  ⟨"repaired", strip_ofList (by decide), accepts_ofList (by decide)⟩

/-- As many pending hypotheses as an analysis may hold, and a refusal. -/
def crowded : CriticRequest :=
  hypothesizing (List.replicate 32 (hypothesis neutralClaim .pending)) List.length_replicate.le
    [prohibitedContent] (Nat.le_add_left 1 31)

theorem crowded_not_reviewed :
    ValidWarningCodes crowded.warningCodes ∧ ¬∃ report, Critic.Reviewed id now crowded report := by
  refine ⟨by decide, ?_⟩
  rintro ⟨report, hreport⟩
  have hlimit := (withinLimits_of_reviewed hreport).1
  have hrefused : IsRefused crowded := ⟨"prohibited_content", by decide, by decide⟩
  have hpending : IsQuestionable id (hypothesis neutralClaim .pending) := .inr (.inr rfl)
  have hcount : crowded.analysis.hypotheses.countP (IsQuestionable id ·) = 32 := by
    refine List.countP_replicate.trans (if_pos ?_)
    exact decide_eq_true hpending
  rw [hcount, if_pos hrefused] at hlimit
  omega

section Hypothesizing

variable {hypotheses : List CulturalHypothesis} (hcount : hypotheses.length ≤ 32)
  {warnings : List WarningCode} {h : warnings.length ≤ 32} {codes : List String}

theorem hypothesizing_not_blocked
    (hrefused : ¬IsRefused { hypothesizing hypotheses hcount warnings h with
      warningCodes := codes }) :
    ¬IsBlocked { hypothesizing hypotheses hcount warnings h with warningCodes := codes } := by
  rintro (hrefused' | hlock | hfacts)
  · exact hrefused hrefused'
  · exact hlock (brandLockPreserved warnings h)
  · exact hfacts (factsSupported warnings h)

/-- Without a refusal there is room for every hypothesis. -/
theorem hypothesizing_withinLimits
    (hrefused : ¬IsRefused { hypothesizing hypotheses hcount warnings h with
      warningCodes := codes }) (hlength : warnings.length + codes.length ≤ 32) :
    WithinLimits id { hypothesizing hypotheses hcount warnings h with warningCodes := codes } := by
  constructor
  · have hlock : BrandLockPreserved { hypothesizing hypotheses hcount warnings h with
        warningCodes := codes } := brandLockPreserved warnings h
    have hfacts : FactsSupported { hypothesizing hypotheses hcount warnings h with
        warningCodes := codes } := factsSupported warnings h
    have hreadable : ¬Unreadable (hypothesizing hypotheses hcount warnings h).draft.adCopy :=
      readable warnings h
    rw [if_neg hrefused, if_pos hlock, if_pos hfacts, if_neg hreadable]
    exact (Nat.zero_add _).trans_le (List.countP_le_length.trans hcount)
  · refine (List.toFinset_card_le _).trans ?_
    rw [List.length_append, List.length_map]
    exact hlength

theorem hypothesizing_not_refused : ¬IsRefused (hypothesizing hypotheses hcount [] noWarnings) := by
  rintro ⟨code, hcode, -⟩
  cases hcode

theorem validWarningCodes_nil : ValidWarningCodes [] := by
  decide

theorem hypothesizing_reviewed :
    ∃ report, Critic.Reviewed id now (hypothesizing hypotheses hcount [] noWarnings) report :=
  Critic.exists_reviewed validWarningCodes_nil
    (hypothesizing_withinLimits hcount (hypothesizing_not_refused hcount) (Nat.zero_le 32))

end Hypothesizing

theorem isAbsolute_absoluteClaim : IsAbsolute id (hypothesis absoluteClaim .pending) := by
  decide

theorem finding_neutralClaim :
    finding id (hypothesis neutralClaim .pending) = some .pending := by
  decide

theorem finding_otherClaim :
    finding id (hypothesis otherClaim .pending) = some .pending := by
  decide

/-- Two claims without a phrase, one with an absolute phrase, and one with a stereotype phrase that
was accepted. The analysis and the run have warnings, one of them in common. -/
def varied : CriticRequest :=
  { hypothesizing
      [hypothesis neutralClaim .pending, hypothesis absoluteClaim .pending,
        hypothesis otherClaim .pending, hypothesis stereotypeClaim .accepted]
      (Nat.le_add_left 4 28) [repaired] (Nat.le_add_left 1 31) with
    warningCodes := ["provider_timeout", "repaired"] }

theorem varied_not_refused : ¬IsRefused varied := by
  decide

theorem validWarningCodes_varied : ValidWarningCodes varied.warningCodes := by
  decide

theorem varied_withinLimits : WithinLimits id varied :=
  hypothesizing_withinLimits _ varied_not_refused (Nat.le_add_left 3 29)

theorem varied_ambiguous :
    ∃ hypothesis ∈ varied.analysis.hypotheses, IsAmbiguous id hypothesis :=
  ⟨_, List.mem_cons_self, exists_review_iff_ambiguous.mp ⟨_, finding_neutralClaim, rfl⟩⟩

theorem varied_reviewed : ∃ report, Critic.Reviewed id now varied report :=
  (exists_reviewed_iff id now varied validWarningCodes_varied).mpr varied_withinLimits

theorem varied_verdict :
    ∃ report, Critic.Reviewed id now varied report ∧
      report.status = .needsHumanReview ∧ report.brandLockPreserved = true := by
  obtain ⟨report, hreport⟩ : ∃ report, Critic.Reviewed id now varied report :=
    Critic.exists_reviewed validWarningCodes_varied varied_withinLimits
  obtain ⟨hstatus, hpreserved⟩ := (review_verdict id now varied).1 report hreport
  have hblocked : ¬IsBlocked varied := hypothesizing_not_blocked _ varied_not_refused
  refine ⟨report, hreport, ?_, hpreserved.mpr (brandLockPreserved _ _)⟩
  rw [hstatus, verdict, if_neg hblocked, if_pos varied_ambiguous]

/-- The only hypothesis is pending, and its claim contains an absolute phrase. -/
def escaping : CriticRequest :=
  hypothesizing [hypothesis absoluteClaim .pending] (Nat.le_add_left 1 31) [] noWarnings

/-- It is not reviewed by anyone. -/
theorem escaping_revised :
    ∃ report, Critic.Reviewed id now escaping report ∧
      (∃ hypothesis ∈ escaping.analysis.hypotheses, hypothesis.reviewStatus = .pending) ∧
      report.status = .revise ∧ report.requiresHumanReview = false := by
  obtain ⟨report, hreport⟩ : ∃ report, Critic.Reviewed id now escaping report :=
    hypothesizing_reviewed _
  have hclear : ¬∃ hypothesis ∈ escaping.analysis.hypotheses, IsAmbiguous id hypothesis := by
    rintro ⟨hypothesis, hmem, hambiguous⟩
    obtain rfl := List.mem_singleton.mp hmem
    exact hambiguous.1 isAbsolute_absoluteClaim
  refine ⟨report, hreport, ⟨_, List.mem_singleton_self _, rfl⟩, ?_, ?_⟩
  · have hcount : [hypothesis absoluteClaim .pending].length ≤ 32 := Nat.le_add_left 1 31
    have hblocked : ¬IsBlocked escaping :=
      hypothesizing_not_blocked hcount (hypothesizing_not_refused hcount)
    rw [(fields_of_reviewed hreport).1, verdict, if_neg hblocked, if_neg hclear]
    exact if_pos (.inr ⟨_, List.mem_singleton_self _, isAbsolute_absoluteClaim⟩)
  · rw [← Bool.not_eq_true, requiresHumanReview_iff hreport]
    exact hclear

/-- A pending hypothesis, then one with an absolute phrase in its claim. -/
def mixed : CriticRequest :=
  hypothesizing [hypothesis neutralClaim .pending, hypothesis absoluteClaim .pending]
    (Nat.le_add_left 2 30) [] noWarnings

theorem swap_mixed :
    [hypothesis absoluteClaim .pending, hypothesis neutralClaim .pending].Perm
      mixed.analysis.hypotheses :=
  .swap _ _ _

theorem mixed_pending :
    ∃ report, Critic.Reviewed id now mixed report ∧
      ((∃ hypothesis ∈ mixed.analysis.hypotheses, hypothesis.reviewStatus = .pending) →
        (report.status = .reject ∨ report.status = .needsHumanReview) ∧
          (report.status ≠ .reject → report.requiresHumanReview = true)) := by
  obtain ⟨report, hreport⟩ : ∃ report, Critic.Reviewed id now mixed report :=
    hypothesizing_reviewed _
  have hambiguous : IsAmbiguous id (hypothesis neutralClaim .pending) :=
    exists_review_iff_ambiguous.mp ⟨_, finding_neutralClaim, rfl⟩
  exact ⟨report, hreport, (pending_reviewed_iff id now mixed report hreport).mpr
    fun _ => .inr ⟨_, List.mem_cons_self, hambiguous⟩⟩

/-- The two issues trade places with the hypotheses. -/
theorem mixed_reordered :
    ∃ report report', Critic.Reviewed id now mixed report ∧
      Critic.Reviewed id now (reorder mixed _ swap_mixed mixed.draft.factReferences) report' ∧
      report'.issues ≠ report.issues := by
  obtain ⟨report, hreport⟩ : ∃ report, Critic.Reviewed id now mixed report :=
    hypothesizing_reviewed _
  obtain ⟨report', hreport'⟩ := exists_reviewed_reorder swap_mixed (List.Perm.refl _) hreport
  refine ⟨report, report', hreport, hreport', ?_⟩
  rw [(fields_of_reviewed hreport).2.1, (fields_of_reviewed hreport').2.1,
    issues_reorder swap_mixed (List.Perm.refl _), issues_eq_append]
  intro heq
  have hhead := congrArg List.head? (List.append_cancel_left heq)
  rw [List.filterMap_cons_some (finding_eq_absolute.mpr isAbsolute_absoluteClaim),
    List.filterMap_cons_some finding_neutralClaim] at hhead
  cases Finding.issue_injective (Option.some.inj hhead)

/-- The two claims without a phrase trade places. -/
theorem varied_perm :
    [hypothesis otherClaim .pending, hypothesis absoluteClaim .pending,
      hypothesis neutralClaim .pending, hypothesis stereotypeClaim .accepted].Perm
      varied.analysis.hypotheses := by
  refine (List.Perm.swap _ _ _).trans ?_
  refine ((List.Perm.swap _ _ _).cons _).trans ?_
  exact List.Perm.swap _ _ _

theorem varied_reordered :
    ∃ report report', Critic.Reviewed id now varied report ∧
      Critic.Reviewed id now (reorder varied _ varied_perm varied.draft.factReferences) report' ∧
      report'.status = report.status ∧
      report'.requiresHumanReview = report.requiresHumanReview ∧
      report'.issues = report.issues := by
  obtain ⟨report, hreport⟩ : ∃ report, Critic.Reviewed id now varied report :=
    Critic.exists_reviewed validWarningCodes_varied varied_withinLimits
  obtain ⟨report', hreport'⟩ := exists_reviewed_reorder varied_perm (List.Perm.refl _) hreport
  obtain ⟨hstatus, hreview, -, -, -, hissues⟩ :=
    reordered_alike id now varied _ varied_perm _ (List.Perm.refl _) report report' hreport hreport'
  refine ⟨report, report', hreport, hreport', hstatus, hreview, hissues.mpr ?_⟩
  change [_, _, _, _].filterMap (finding id) = [_, _, _, _].filterMap (finding id)
  simp only [List.filterMap_cons, finding_neutralClaim, finding_otherClaim]

end Demo

end CultureShift
