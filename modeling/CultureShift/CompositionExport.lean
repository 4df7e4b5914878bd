/-
# Exporting a version

A stored composition is exported as its rendered artifact or as canonical JSON.
Which version is exported is looked up in the table that keeps it.
-/

import CultureShift.CompositionService
import CultureShift.Serialization.Text

namespace CultureShift

open Serialization Relational Concurrent

variable {κ α : Type}

structure ExportedComposition where
  pngBytes : List UInt8
  sha256 : String
  sizeBytes : Nat

/-- What an image library reports about an opened image. -/
structure OpenedImage where
  format : String
  width : Nat
  height : Nat

inductive ResultVersion
  | first | second
deriving DecidableEq

structure CompositionExportService (κ : Type) where
  repository : Repository κ
  artifactStore : CompositionArtifactStore κ
  openImage : List UInt8 → Program κ Exc OpenedImage

namespace CompositionExportService

variable (service : CompositionExportService κ)

def fail (code : CompositionExportErrorCode) : Program (World κ) Exc α :=
  .raise (.compositionExportError code)

/-- `_summary`. -/
def summary (runId : UUID) (version : ResultVersion) :
    Program (World κ) Exc CompositionGenerated := do
  let stored ← Program.tryCatch
    (match version with
      | .first => service.repository.getComposition runId
      | .second => do
          let revision ← service.repository.getRevision runId
          return revision.map (·.composition))
    fun
    | .projectRunNotFoundError _ => fail .runNotFound
    | error => .raise error
  match stored with
  | some summary => return summary
  | none => fail .compositionUnavailable

def exportPng (runId : UUID) (version : ResultVersion) :
    Program (World κ) Exc ExportedComposition := do
  let summary ← service.summary runId version
  let unavailable : Exc := .compositionArtifactError "composition artifact unavailable"
  let loaded ← Program.tryCatch
    (do
      let loaded ← outside (service.artifactStore.load summary.artifactId)
      Program.ofExcept <| require
        (loaded.record.artifactId = summary.artifactId ∧
          loaded.record.sha256 = summary.renderedSha256.text ∧
          loaded.record.sizeBytes = loaded.pngBytes.length)
        unavailable
      let image ← outside (service.openImage loaded.pngBytes)
      Program.ofExcept <| require
        (image.format = "PNG" ∧ image.width = 1600 ∧ image.height = 900) unavailable
      return loaded)
    fun
    | .compositionArtifactError _ | .osError => fail .artifactUnavailable
    | error => .raise error
  return ⟨loaded.pngBytes, loaded.record.sha256, loaded.record.sizeBytes⟩

def exportJson (runId : UUID) (version : ResultVersion) : Program (World κ) Exc String := do
  let summary ← service.summary runId version
  return (encode summary).canonical ++ "\n"

end CompositionExportService

end CultureShift
