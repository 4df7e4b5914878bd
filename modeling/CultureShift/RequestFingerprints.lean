/-
# Fingerprints of requests

A request is recognised again by the digest of its canonical text. Equal digests
are of equal texts, and a canonical text determines every field of its request:
what a feedback text contains cannot be mistaken for another field.
-/

import CultureShift.Lifecycle.Demo
import CultureShift.Serialization.Canonical
import Mathlib.Logic.Equiv.Basic

namespace CultureShift

open Serialization

variable {κ : Type}

/-- The changes are an array of strings. -/
theorem encode_changes (changes : List RevisionChange) :
    (encode changes : Json) = .arr ((changes.map StrEnum.value).map .str) := by
  rw [List.map_map]
  rfl

/-- What is rendered of a request for feedback. -/
def FeedbackRequest.members (request : FeedbackRequest) : List (String × Json) :=
  [("run_id", encode request.runId), ("feedback", encode request.feedback),
    ("requested_changes", encode request.requestedChanges),
    ("submitted_at", encode request.submittedAt)]

theorem FeedbackRequest.encode_eq (request : FeedbackRequest) :
    encode request = .obj request.members := rfl

theorem FeedbackRequest.names_members (request : FeedbackRequest) :
    request.members.map Prod.fst =
      ["run_id", "feedback", "requested_changes", "submitted_at"] := by
  simp only [members, List.map_cons, List.map_nil]

theorem FeedbackRequest.eq_of_canonical {first second : FeedbackRequest}
    (h : (encode first).canonical = (encode second).canonical) : first = second := by
  rw [encode_eq, encode_eq, Json.canonical_eq_iff] at h
  have hnames : first.members.map Prod.fst = second.members.map Prod.fst := by
    rw [names_members, names_members]
  have hunique : (first.members.map Prod.fst).Nodup := by
    rw [names_members]
    decide
  have hmembers := Json.sortMembers_inj hnames hunique h
  simp only [members, Json.sortMembers, encode_changes, Json.sortKeys_strs, List.cons.injEq,
    Prod.mk.injEq, true_and, and_true] at hmembers
  obtain ⟨hrun, hfeedback, hchanges, hsubmitted⟩ := hmembers
  rw [← encode_changes, ← encode_changes] at hchanges
  obtain ⟨runId, feedback, changes, submittedAt, hvalid⟩ := first
  obtain ⟨runId', feedback', changes', submittedAt', hvalid'⟩ := second
  obtain rfl : runId = runId' := Codec.encode_injective hrun
  obtain rfl : feedback = feedback' := Codec.encode_injective hfeedback
  obtain rfl : changes = changes' := Codec.encode_injective hchanges
  obtain rfl : submittedAt = submittedAt' := Codec.encode_injective hsubmitted
  rfl

/-- What is rendered of a request for a retry. -/
def RetryRequest.members (request : RetryRequest) : List (String × Json) :=
  [("run_id", encode request.runId), ("reason_category", encode request.reasonCategory)]

theorem RetryRequest.encode_eq (request : RetryRequest) :
    encode request = .obj request.members := rfl

theorem RetryRequest.names_members (request : RetryRequest) :
    request.members.map Prod.fst = ["run_id", "reason_category"] := by
  simp only [members, List.map_cons, List.map_nil]

theorem RetryRequest.eq_of_canonical {first second : RetryRequest}
    (h : (encode first).canonical = (encode second).canonical) : first = second := by
  rw [encode_eq, encode_eq, Json.canonical_eq_iff] at h
  have hnames : first.members.map Prod.fst = second.members.map Prod.fst := by
    rw [names_members, names_members]
  have hunique : (first.members.map Prod.fst).Nodup := by
    rw [names_members]
    decide
  have hmembers := Json.sortMembers_inj hnames hunique h
  simp only [members, Json.sortMembers, List.cons.injEq, Prod.mk.injEq, true_and,
    and_true] at hmembers
  obtain ⟨hrun, hreason⟩ := hmembers
  obtain ⟨runId, reason⟩ := first
  obtain ⟨runId', reason'⟩ := second
  obtain rfl : runId = runId' := Codec.encode_injective hrun
  obtain rfl : reason = reason' := Codec.encode_injective hreason
  rfl

/-- Requests have the same fingerprint exactly when they are the same. -/
theorem RevisionService.fingerprint_eq_iff (service : RevisionService κ)
    (hinjective : Function.Injective service.digest) :
    (∀ first second : FeedbackRequest,
      service.fingerprint first = service.fingerprint second ↔ first = second) ∧
    ∀ first second : RetryRequest,
      service.fingerprint first = service.fingerprint second ↔ first = second := by
  constructor
  · intro first second
    constructor
    · intro h
      exact FeedbackRequest.eq_of_canonical (hinjective h)
    · rintro rfl
      rfl
  · intro first second
    constructor
    · intro h
      exact RetryRequest.eq_of_canonical (hinjective h)
    · rintro rfl
      rfl

namespace Demo

/-- Feedback whose text has to be escaped. -/
def quotedFeedback (change : RevisionChange) : FeedbackRequest where
  runId := runId
  feedback := ⟨"Drop the \"\\\" sign", strip_ofList (by decide), length_ofList (by decide)⟩
  requestedChanges := [change]
  submittedAt := now
  changes_valid := ⟨by simp, by simp⟩

/-- A digest for every text, which is the SHA-256 digest for the canonical texts of the demo. -/
def digests : String ≃ String :=
  (Equiv.swap (encode (quotedFeedback .shortenHeadline)).canonical
    "5c74b4730b9d6f9737a01d99461cb349aaec2ae57a143af0b39ed40f458d32e3").trans
  (Equiv.swap (encode (quotedFeedback .shortenBody)).canonical
    "47c99e6eb67357002f1a851bea4b3b3e0a7223a57e7b30c85c1efdfd211abf3d")

def digestingService : RevisionService Unit :=
  { revisionService fixtureEngine answeringStore with digest := digests }

end Demo

/-- Feedback on the headline is not taken for feedback on the body. -/
theorem fingerprint_feedback :
    Demo.digestingService.fingerprint (Demo.quotedFeedback .shortenHeadline) ≠
      Demo.digestingService.fingerprint (Demo.quotedFeedback .shortenBody) := by
  have hiff := (Demo.digestingService.fingerprint_eq_iff Demo.digests.injective).1
  intro heq
  have hchanges := congrArg FeedbackRequest.requestedChanges ((hiff _ _).mp heq)
  revert hchanges
  decide

end CultureShift
