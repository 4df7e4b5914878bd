/-
# Composing a version

The composition service asks a provider for a background, resolves the locked
assets, composes the ad, stores the rendered artifact and then the composition.
All collaborators work outside the database.
-/

import CultureShift.Repository.Methods

namespace CultureShift

open Serialization Relational Concurrent

variable {κ α : Type}

/-! ## Collaborators -/

structure GeneratedBackground where
  sha256 : String
  provenanceRef : String
  pngBytes : List UInt8

structure RegisteredFixtureAsset where
  assetId : UUID
  sha256 : String
  provenanceRef : String
  pngBytes : List UInt8

structure ComposeRequest where
  runId : UUID
  background : GeneratedBackground
  brandLock : BrandLock
  adCopy : AdCopy
  logo : RegisteredFixtureAsset
  productUi : RegisteredFixtureAsset

structure ComposedAd where
  pngBytes : List UInt8
  sha256 : String
  layers : List CompositionLayer

structure StoredCompositionArtifact where
  artifactId : UUID
  sha256 : String
  sizeBytes : Nat
  expiresAt : Datetime
deriving DecidableEq

structure LoadedCompositionArtifact where
  record : StoredCompositionArtifact
  pngBytes : List UInt8

structure CompositionArtifactStore (κ : Type) where
  save : UUID → List UInt8 → Datetime → Program κ Exc StoredCompositionArtifact
  load : UUID → Program κ Exc LoadedCompositionArtifact
  delete : UUID → Program κ Exc Bool

/-- What the composition and the revision service share. -/
structure Studio (κ : Type) where
  uuid4 : Program κ Exc UUID
  generateBackground : BackgroundRequest → Program κ Exc GeneratedBackground
  resolve : UUID → Program κ Exc RegisteredFixtureAsset
  compose : ComposeRequest → Program κ Exc ComposedAd
  artifactStore : CompositionArtifactStore κ

namespace Studio

variable (studio : Studio κ)

/-- Background, logo, product UI, then the composed ad. -/
def render (run : ProjectRun) (lock : BrandLock) (brief : CreativeBrief) (adCopy : AdCopy) :
    Program (World κ) Exc ComposedAd := do
  let background ← Program.ofExcept <| validated <|
    BackgroundRequest.validate run.direction brief.targetLocale brief.narrative brief.useScenario
  let background ← outside (studio.generateBackground background)
  let logo ← outside (studio.resolve lock.logoAssetId)
  let productUiId ← Program.ofExcept <| orRaise lock.productUiAssetIds.head? .indexError
  let productUi ← outside (studio.resolve productUiId)
  outside <| studio.compose ⟨run.id, background, lock, adCopy, logo, productUi⟩

/-- The artifact expires after 24 hours. -/
def saveArtifact (artifactId : UUID) (composed : ComposedAd) (now : Datetime) :
    Program (World κ) Exc StoredCompositionArtifact := do
  let expiresAt ← Program.ofExcept <| orRaise now.nextDay? .overflowError
  outside <| studio.artifactStore.save artifactId composed.pngBytes expiresAt

end Studio

/-- The composition of a stored artifact, validated. -/
def describeArtifact (runId artifactId : UUID) (composed : ComposedAd)
    (stored : StoredCompositionArtifact) (now : Datetime) : Except Exc CompositionGenerated := do
  require (stored.sha256 = composed.sha256)
    (.compositionArtifactError "composition artifact unavailable")
  let sha256 ← validated (PatternText.validate composed.sha256)
  validated <| CompositionGenerated.validate runId sha256 artifactId composed.layers now

/-! ## The service -/

structure CompositionService (κ : Type) where
  repository : Repository κ
  studio : Studio κ

namespace CompositionService

variable (service : CompositionService κ)

def fail (code : CompositionServiceErrorCode) : Program (World κ) Exc α :=
  .raise (.compositionServiceError code)

/-- What the service reads before it composes anything. -/
structure Prerequisites where
  run : ProjectRun
  request : RunCreate
  analysis : Option AdAnalysis
  confirmation : Option BrandLockConfirmationRecord
  draft : Option DraftRecord

/-- A stored composition ends the request; otherwise everything is read, one
transaction at a time. -/
def prepare (runId : UUID) :
    Program (World κ) Exc (CompositionGenerated ⊕ Prerequisites) :=
  Program.tryCatch
    (do
      match ← service.repository.getComposition runId with
      | some existing => return .inl existing
      | none =>
          let run ← service.repository.get runId
          let request ← service.repository.getRequest runId
          let analysis ← service.repository.getAnalysis runId
          let confirmation ← service.repository.getConfirmedBrandLock runId
          let draft ← service.repository.getDraft runId
          return .inr ⟨run, request, analysis, confirmation, draft⟩)
    fun
    | .projectRunNotFoundError _ => fail .runNotFound
    | error => .raise error

/-- Compose and store the artifact of version 1. -/
def produce (run : ProjectRun) (lock : BrandLock) (draft : DraftRecord) (artifactId : UUID)
    (now : Datetime) : Program (World κ) Exc CompositionGenerated :=
  Program.tryCatch
    (do
      let composed ← service.studio.render run lock draft.brief draft.adCopy
      let stored ← service.studio.saveArtifact artifactId composed now
      Program.ofExcept (describeArtifact run.id artifactId composed stored now))
    fun
    | .compositionError | .fixtureAssetError | .imageProviderError | .indexError
    | .validationError => fail .outputInvalid
    | .compositionArtifactError _ => do
        let _ ← outside (service.studio.artifactStore.delete artifactId)
        fail .persistenceFailed
    | error => .raise error

/-- Store the composition; the loser of a race answers with the winner's. -/
def persist (runId artifactId : UUID) (summary : CompositionGenerated) :
    Program (World κ) Exc CompositionGenerated :=
  Program.tryCatch (service.repository.saveComposition runId summary) fun error => do
    let _ ← outside (service.studio.artifactStore.delete artifactId)
    match error with
    | .compositionImmutableError _ =>
        let replay ← Program.tryCatch (service.repository.getComposition runId) fun
          | .projectRunNotFoundError _ => pure none
          | error => .raise error
        match replay with
        | some replay => return replay
        | none => fail .persistenceFailed
    | .invalidRunStateError _ => fail .invalidRunState
    | _ => fail .persistenceFailed

def generate (runId : UUID) : Program (World κ) Exc CompositionGenerated := do
  match ← service.prepare runId with
  | .inl existing => return existing
  | .inr ⟨run, request, analysis, confirmation, draft⟩ =>
      if run.status ≠ .inProgress ∨ analysis = none then fail .invalidRunState
      else if request.executionMode ≠ .fixture then fail .invalidRunState
      else
        match confirmation, draft with
        | none, _ => fail .brandLockUnconfirmed
        | some _, none => fail .draftUnavailable
        | some confirmation, some draft => do
            let artifactId ← outside service.studio.uuid4
            let now ← service.repository.now
            let summary ← service.produce run confirmation.brandLock draft artifactId now
            service.persist runId artifactId summary

end CompositionService

end CultureShift
