/-
# Histories of a local asset

What has become of an identifier is told from the calls so far and what they
did to the directory: it was closed by the call after which its tombstone
stands, and it was stored last by the last upload that was accepted. An open
identifier is loaded until a day after it was stored last, and a closed one is
neither loaded nor stored until a purge a week after it was closed.
-/

import CultureShift.AssetLifecycle

namespace CultureShift

open Serialization Relational Storage Sequential

namespace AssetStorage

open CompositionStorage (FileContent)

/-! ## What the calls have done -/

section Cells

variable {hexdigest : List UInt8 → Sha256} {calls : List LifecycleCall} {call : LifecycleCall}
  {assetId : UUID} {upload : Upload} {stored : StoredAsset} {since now : Datetime}

end Cells

/-! ## The demo upload in its week -/

namespace Demo

variable {now expiresAt : Datetime}

end Demo

/-! ## The lifecycle -/

end AssetStorage

end CultureShift
