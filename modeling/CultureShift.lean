import CultureShift.Lifecycle.Invariants
import CultureShift.Lifecycle.Exporting
import CultureShift.Repository.WriteOnce
import CultureShift.Repository.StatusChanges
import CultureShift.Lifecycle.Stranding
import CultureShift.CapabilityTokens
import CultureShift.CloudCompositionStorage
import CultureShift.Web.StudioEvidence
import CultureShift.Repository.Chronology
import CultureShift.Repository.RoundTrips
import CultureShift.Web.FixtureContracts
import CultureShift.Repository.Migration
import CultureShift.RateLimits
import CultureShift.AnalysisAttempts
import CultureShift.CriticVerdict
import CultureShift.Repository.Conflicts
import CultureShift.CompositionWrapping
import CultureShift.Repository.Failures
import CultureShift.TextUnits
import CultureShift.RequestFingerprints
import CultureShift.AssetStores
import CultureShift.Web.StructuralEquality
import CultureShift.DemoManifest
import CultureShift.ImageProvider
import CultureShift.Web.BrandLockForm
import CultureShift.DraftAcceptance
import CultureShift.AssetStoreCalls
import CultureShift.Concurrent.History
import CultureShift.Lifecycle.Reviewing
import CultureShift.Lifecycle.SecondVersion
import CultureShift.Lifecycle.Replaying
import CultureShift.AssetLifecycle
import CultureShift.AssetHistory
import CultureShift.Lifecycle.LocalShelf
import CultureShift.Lifecycle.Artifacts
import CultureShift.Lifecycle.Analysing
import CultureShift.Lifecycle.Authority
import CultureShift.Lifecycle.Refusing
import CultureShift.Repository.Attempts
import CultureShift.Concurrent.Undisturbed
import CultureShift.Lifecycle.Composing
