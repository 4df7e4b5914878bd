/-
# Who may change what

An endpoint for a run looks for a token in the request before anything else,
and goes on only if the token service accepts it for that run. So a run is
changed only by requests that hold such a token, and an asset that is stored is
removed only by a deletion that holds one for the asset.
-/

import CultureShift.Endpoints
import CultureShift.Lifecycle.Demo
import CultureShift.Lifecycle.Effects

namespace CultureShift

open Serialization Relational Concurrent

variable {κ α ν : Type} {kept : Database → Database → Prop} {seen : κ → ν}
  {grants : String → Capability → String → Prop}

/-! ## Tokens -/

/-- The request carries a token that is accepted for the subject. -/
def HttpRequest.Holds (request : HttpRequest) (grants : String → Capability → String → Prop)
    (required : Capability) (subject : UUID) : Prop :=
  ∃ token, bearerToken request.authorization = some token ∧ grants token required subject.text

/-- The capability that an endpoint requires, and the request that has to carry it. -/
def Request.requires? : Request → Option (Capability × HttpRequest)
  | .createRun _ | .feedbackCall _ _ | .retryCall _ _ => none
  | .analyzeRun _ request => some (.analyzeProjectRun, request)
  | .confirmBrandLock _ _ request | .generateDraft _ request | .generateComposition _ request
  | .runCritic _ request | .submitFeedback _ _ request | .retryRevision _ _ request =>
      some (.updateProjectRun, request)

/-- The claims that the token service verifies are those it grants. -/
def App.Verifies (app : App κ) (grants : String → Capability → String → Prop) : Prop :=
  ∀ token required, (app.tokens.verify token required).Returns fun claims =>
    grants token required claims.subject

namespace App

variable {app : App κ} (hrefl : ∀ db, kept db db)
  (hspares : ∀ token required, Elsewhere seen (app.tokens.verify token required))
  (hverify : app.Verifies grants)
include hrefl hspares hverify

/-- Nobody gets past the check without a token for the subject. -/
theorem holds_requireCapability (required : Capability) (subject : UUID) (request : HttpRequest) :
    Writes kept seen (fun _ => request.Holds grants required subject)
      (app.requireCapability required subject request) := by
  unfold requireCapability
  split
  · exact .raise _
  · next token htoken =>
      have hclaims : Writes kept seen (fun claims => grants token required claims.subject)
          (outside (app.tokens.verify token required)) :=
        .outside_returns hrefl (hspares _ _) (hverify _ _)
      refine .bind (.tryCatch hclaims fun failure => ?_) fun claims hgrants => ?_
      · cases failure <;> exact .raise _
      · split_ifs with hsubject
        · exact .ret ⟨token, htoken, hsubject ▸ hgrants⟩
        · exact .raise _

/-- An endpoint does nothing for a request without a token. -/
theorem writes_of_not_holds {required : Capability} {subject : UUID} {request : HttpRequest}
    (hholds : ¬request.Holds grants required subject) (rest : Program (World κ) Exc α) :
    Writes kept seen (fun _ => True) (do
      app.requireCapability required subject request
      rest) :=
  .bind (holds_requireCapability hrefl hspares hverify required subject request)
    fun _ h => absurd h hholds

/-- Nor does a request to the workflow. -/
theorem writes_handle_of_not_holds {request : Request} {runId : UUID} {required : Capability}
    {http : HttpRequest} (hrun : request.runId? = some runId)
    (hrequires : request.requires? = some (required, http))
    (hholds : ¬http.Holds grants required runId) :
    Writes kept seen (fun _ => True) (app.handle request) := by
  have hrespond {γ : Type} {rest : Program (World κ) Exc γ} {respond : γ → Response} :
      Writes kept seen (fun _ => True) ((do
        app.requireCapability required runId http
        rest) >>= fun value => .ret (respond value)) :=
    .bind (writes_of_not_holds hrefl hspares hverify hholds rest) fun _ _ => .ret trivial
  cases request with
  | createRun body => cases hrequires
  | feedbackCall feedback key => cases hrequires
  | retryCall retry key => cases hrequires
  | _ =>
      cases hrun
      cases hrequires
      exact hrespond

end App

/-! ## Tokens that were issued -/

section Issued

variable {φ : Type} (digest : List Byte → List Byte → List Byte)
  (libraries : CapabilityTokens.Libraries φ) (service : CapabilityTokens.CapabilityTokenService)
  (calls : Set CapabilityTokens.IssueCall)

/-- The application gets only claims that the service has verified, whatever the time was. -/
def App.VerifiesWith (app : App κ) : Prop :=
  ∀ token required, (app.tokens.verify token required).Returns fun claims =>
    ∃ utcnow verified, service.verify digest libraries (.ofString token) required none utcnow =
      .ok verified ∧ verified.subject = .str (.ofString claims.subject)

/-- Unless its code was forged, the token was issued by one of the calls, for the subject and with
the capability. -/
def Issued (token : String) (required : Capability) (subject : String) : Prop :=
  CapabilityTokens.Unforgeable digest calls service (.ofString token) →
    ∃ call ∈ calls, call.issue digest = .ok (.ofString token) ∧
      call.service.secret = service.secret ∧ required ∈ call.capabilities ∧
      call.subject.normalize = .ofString subject

/-- What is granted was issued. -/
theorem App.verifies_issued {app : App κ} (happ : app.VerifiesWith digest libraries service) :
    app.Verifies (Issued digest service calls) := by
  intro token required
  refine Program.meets_mono (happ token required) (fun claims hclaims hunforgeable => ?_)
    fun _ h => h
  obtain ⟨utcnow, verified, hverify, hsubject⟩ := hclaims
  rcases service.verify_eq_error_or_issued libraries hunforgeable with
    herror | ⟨call, hcall, hissue, hsecret⟩
  · rw [herror] at hverify
    cases hverify
  · rw [service.verify_issued libraries hissue hsecret] at hverify
    split_ifs at hverify with hgrant
    obtain ⟨-, -, hrequired, -⟩ := hgrant
    cases hverify
    exact ⟨call, hcall, hissue, hsecret, hrequired, Document.str.inj hsubject⟩

end Issued

/-! ## Exports -/

structure CompositionExportService.Spares (service : CompositionExportService κ) (seen : κ → ν) :
    Prop where
  repository : service.repository.Elsewhere seen
  load : ∀ artifactId, Elsewhere seen (service.artifactStore.load artifactId)
  openImage : ∀ pngBytes, Elsewhere seen (service.openImage pngBytes)

namespace CompositionExportService

theorem spares_of_unseen (service : CompositionExportService κ) : service.Spares fun _ => () where
  repository := service.repository.elsewhere_of_unseen
  load _ := .of_unseen _
  openImage _ := .of_unseen _

variable {service : CompositionExportService κ} (hrefl : ∀ db, kept db db)
  (hservice : service.Spares seen) (runId : UUID) (version : ResultVersion)
include hrefl hservice

theorem writes_summary : Writes kept seen (fun _ => True) (service.summary runId version) := by
  refine .bind (.tryCatch ?_ fun failure => ?_) fun stored (_ : True) => ?_
  · cases version with
    | first => exact .read hrefl hservice.repository _
    | second => exact .bind (.read hrefl hservice.repository _) fun _ _ => .ret trivial
  · cases failure <;> exact .raise _
  · cases stored with
    | none => exact .raise _
    | some summary => exact .ret trivial

theorem writes_exportPng : Writes kept seen (fun _ => True) (service.exportPng runId version) := by
  refine .bind (writes_summary hrefl hservice runId version) fun summary _ =>
    .bind (.tryCatch ?_ fun failure => ?_) fun _ (_ : True) => .ret trivial
  · exact .bind (.outside hrefl (hservice.load _)) fun _ _ =>
      .bind (.ofExcept fun _ _ => trivial) fun _ (_ : True) =>
        .bind (.outside hrefl (hservice.openImage _)) fun _ _ =>
          .bind (.ofExcept fun _ _ => trivial) fun _ (_ : True) => .ret trivial
  · cases failure <;> exact .raise _

theorem writes_exportJson : Writes kept seen (fun _ => True) (service.exportJson runId version) :=
  .bind (writes_summary hrefl hservice runId version) fun _ _ => .ret trivial

end CompositionExportService

/-! ## All endpoints -/

namespace Api

/-- A request to any of the endpoints, or straight to the revision service. -/
inductive Request
  | workflow (request : CultureShift.Request)
  | getRun (runId : UUID) (request : HttpRequest)
  | exportCompositionPng (runId : UUID) (version : ResultVersion) (request : HttpRequest)
  | exportCompositionJson (runId : UUID) (version : ResultVersion) (request : HttpRequest)
  | uploadAsset (request : UploadRequest)
  | deleteAsset (assetId : UUID) (request : HttpRequest)

inductive Response
  | workflow (response : CultureShift.Response)
  | snapshot (snapshot : RunSnapshot)
  | downloaded (download : Download)
  | uploaded (uploaded : AssetUploaded)
  | deleted

variable (api : Api κ)

/-- What a request runs. -/
def handle : Request → Program (World κ) Exc Response
  | .workflow request => do return .workflow (← api.toApp.handle request)
  | .getRun runId request => do return .snapshot (← api.getRun runId request)
  | .exportCompositionPng runId version request => do
      return .downloaded (← api.exportCompositionPng runId version request)
  | .exportCompositionJson runId version request => do
      return .downloaded (← api.exportCompositionJson runId version request)
  | .uploadAsset request => do return .uploaded (← api.uploadAsset request)
  | .deleteAsset assetId request => do
      api.deleteAsset assetId request
      return .deleted

/-- With a token that is verified in one step, a deletion takes that step first. -/
theorem handle_deleteAsset_of_verify {assetId : UUID} {request : HttpRequest}
    {token : String} {effect : κ → κ} {next : κ → Program κ Exc CapabilityClaims}
    (htoken : bearerToken request.authorization = some token)
    (hverify : api.tokens.verify token .deleteAsset = .atomic effect next) :
    ∃ later, api.handle (.deleteAsset assetId request) =
        .atomic (fun world => { world with rest := effect world.rest }) later ∧
      ∀ (world : World κ) {claims : CapabilityClaims}, next world.rest = .ret claims →
        claims.subject = assetId.text →
        later world = ((outside (api.removeAsset assetId "deleted")).tryCatch fun
            | .assetStorageError _ => App.httpError 500 "asset_deletion_failed"
            | error => .raise error) >>= fun _ => .ret .deleted := by
  unfold handle deleteAsset App.requireCapability
  dsimp only
  rw [htoken]
  dsimp only
  rw [hverify]
  refine ⟨_, rfl, fun world claims hclaims hsubject => ?_⟩
  show ((((next world.rest).within World.rest fun rest world => { world with rest }).tryCatch _ >>=
    fun claims => if claims.subject = assetId.text then pure () else _) >>= _) >>= _ = _
  rw [hclaims]
  show ((if claims.subject = assetId.text then pure () else _) >>= _) >>= _ = _
  rw [if_pos hsubject, Program.pure_eq_ret, Program.bind_ret, Program.bind_assoc]
  rfl

section Reading

variable {api} (hrefl : ∀ db, kept db db) (hruns : api.runs.Elsewhere seen)
  (hspares : ∀ token required, Elsewhere seen (api.tokens.verify token required))
  (hverify : api.toApp.Verifies grants) (runId : UUID) (request : HttpRequest)
include hrefl hspares hverify

include hruns in
theorem writes_getRun : Writes kept seen (fun _ => True) (api.getRun runId request) :=
  .bind (App.holds_requireCapability hrefl hspares hverify _ _ _) fun _ _ =>
    .bind (App.writes_orNotFound (.read hrefl hruns _)) fun _ _ => .ofExcept fun _ _ => trivial

theorem writes_exporting {program : Program (World κ) Exc α}
    (hprogram : Writes kept seen (fun _ => True) program) :
    Writes kept seen (fun _ => True) (api.exporting runId request program) := by
  refine .bind (App.holds_requireCapability hrefl hspares hverify _ _ _) fun _ _ =>
    .tryCatch hprogram fun failure => ?_
  cases failure <;> exact .raise _

section Exports

variable (hexports : api.exports.Spares seen) (version : ResultVersion)
include hexports

theorem writes_exportCompositionPng :
    Writes kept seen (fun _ => True) (api.exportCompositionPng runId version request) :=
  .bind (writes_exporting hrefl hspares hverify runId request
    (CompositionExportService.writes_exportPng hrefl hexports runId version))
    fun _ _ => .ret trivial

theorem writes_exportCompositionJson :
    Writes kept seen (fun _ => True) (api.exportCompositionJson runId version request) :=
  .bind (writes_exporting hrefl hspares hverify runId request
    (CompositionExportService.writes_exportJson hrefl hexports runId version))
    fun _ _ => .ret trivial

end Exports

/-- An asset is removed for who holds a token to delete it. -/
theorem writes_deleteAsset {assetId : UUID}
    (hremove : request.Holds grants .deleteAsset assetId →
      Elsewhere seen (api.removeAsset assetId "deleted")) :
    Writes kept seen (fun _ => True) (api.deleteAsset assetId request) := by
  refine .bind (App.holds_requireCapability hrefl hspares hverify _ _ _) fun _ hholds =>
    .bind (.tryCatch (.outside hrefl (hremove hholds)) fun failure => ?_) fun _ _ => .ret trivial
  cases failure <;> exact .raise _

end Reading

end Api

/-! ## What is stored about a run -/

namespace Database

variable {db db' : Database} {runId other : UUID}

/-- Everything that is stored about the run is as it was. -/
structure SameRun (runId : UUID) (db db' : Database) : Prop where
  runs : db'.runs.find runId = db.runs.find runId
  contexts : db'.contexts.find runId = db.contexts.find runId
  revisions : db'.revisions.find runId = db.revisions.find runId
  operations : db'.operations.ofRun runId = db.operations.ofRun runId

theorem SameRun.refl (runId : UUID) (db : Database) : SameRun runId db db := ⟨rfl, rfl, rfl, rfl⟩

theorem SameRun.trans {db'' : Database} (h : SameRun runId db db') (h' : SameRun runId db' db'') :
    SameRun runId db db'' where
  runs := h'.runs.trans h.runs
  contexts := h'.contexts.trans h.contexts
  revisions := h'.revisions.trans h.revisions
  operations := h'.operations.trans h.operations

theorem Frame.sameRun (h : Frame runId db db') (hne : other ≠ runId) : SameRun other db db' :=
  ⟨h.runs other hne, h.contexts other hne, h.revisions other hne, h.operations other hne⟩

/-- A run is created only where there is none. -/
theorem create_sameRun {id : UUID} {body : RunCreate} {now : Datetime} {done : Unit}
    (hcommit : db.create (.new id body.direction now) (some body) = .ok (done, db'))
    (hexists : db.runs.find runId ≠ none) : SameRun runId db db' := by
  have hframe : Frame id db db' := (create_effect hcommit).frame
  refine hframe.sameRun ?_
  rintro rfl
  simp only [create, bind_eq_ok, orRaise_eq_ok] at hcommit
  obtain ⟨runs, hruns, -⟩ := hcommit
  exact hexists (Table.insert_eq_some hruns).1

end Database

namespace Api

/-- The request may change what is stored about the run: it creates the run, or it is a request
for the run that carries the token it has to. -/
def Request.MayChange (grants : String → Capability → String → Prop) (runId : UUID)
    (db : Database) : Request → Prop
  | .workflow (.createRun _) => db.runs.find runId = none
  | .workflow request => request.runId? = some runId ∧
      ∀ required http, request.requires? = some (required, http) → http.Holds grants required runId
  | _ => False

theorem mayChange_workflow {request : CultureShift.Request} {runId other : UUID} {db : Database}
    (hrun : request.runId? = some other) :
    (Request.workflow request).MayChange grants runId db ↔ other = runId ∧
      ∀ required http, request.requires? = some (required, http) →
        http.Holds grants required runId := by
  cases request with
  | createRun body => cases hrun
  | _ => exact and_congr_left' (by rw [hrun, Option.some_inj])

/-- The request may change what is held of the asset. -/
def Request.MayStore (grants : String → Capability → String → Prop) (assetId : UUID) :
    Request → Prop
  | .uploadAsset _ => True
  | .deleteAsset other http => other = assetId ∧ http.Holds grants .deleteAsset assetId
  | _ => False

/-- What is held of an asset is left alone by everything that does not store or remove assets, and
by the removal of another asset. -/
structure KeepsAssets (api : Api κ) (held : UUID → κ → ν) : Prop where
  spares : ∀ assetId, api.toApp.Spares (held assetId)
  issue : ∀ assetId subject capabilities,
    Elsewhere (held assetId) (api.tokens.issue subject capabilities)
  exports : ∀ assetId, api.exports.Spares (held assetId)
  removeAsset : ∀ {assetId other} reason, other ≠ assetId →
    Elsewhere (held assetId) (api.removeAsset other reason)

variable {api : Api κ} (hverify : api.toApp.Verifies grants)

theorem writes_uploadAsset (hrefl : ∀ db, kept db db) (request : UploadRequest) :
    Writes kept (fun _ : κ => ()) (fun _ => True) (api.uploadAsset request) := by
  refine .bind (.outside hrefl (.of_unseen _)) fun allowed _ => ?_
  split_ifs
  · exact .raise _
  · split
    · exact .raise _
    · refine .tryCatch (.bind (.outside hrefl (.of_unseen _)) fun stored _ =>
        .bind (.tryCatch (.outside hrefl (.of_unseen _)) fun failure => ?_) fun token _ =>
          .ofExcept fun _ _ => trivial) fun failure => .raise _
      exact .bind (.outside hrefl (.of_unseen _)) fun _ _ => .raise _

include hverify

theorem writes_workflow (runId : UUID) (request : CultureShift.Request) :
    Writes (fun db db' => Database.SameRun runId db db' ∨
      (Request.workflow request).MayChange grants runId db) (fun _ : κ => ()) (fun _ => True)
      (api.toApp.handle request) := by
  have happ := api.toApp.spares_of_unseen
  cases hrun : request.runId? with
  | none =>
      cases request with
      | createRun body =>
          refine .bind (api.toApp.writes_createRun body (fun db => .inl (.refl runId db)) happ
            (fun _ _ => .of_unseen _) fun {id now db done db'} hcommit => ?_)
            fun _ _ => .ret trivial
          by_cases hexists : db.runs.find runId = none
          · exact .inr hexists
          · exact .inl (Database.create_sameRun hcommit hexists)
      | _ => cases hrun
  | some other =>
      by_cases hother : other = runId
      · subst hother
        cases hrequires : request.requires? with
        | none =>
            refine .of_unseen (fun db _ => .inr ((mayChange_workflow hrun).mpr ⟨rfl, ?_⟩)) _
            rw [hrequires]
            rintro _ _ ⟨⟩
        | some credentials =>
            obtain ⟨required, http⟩ := credentials
            by_cases hholds : http.Holds grants required other
            · refine .of_unseen (fun db _ => .inr ((mayChange_workflow hrun).mpr ⟨rfl, ?_⟩)) _
              rw [hrequires]
              rintro _ _ ⟨⟩
              exact hholds
            · exact App.writes_handle_of_not_holds (fun db => .inl (.refl other db)) happ.verify
                hverify hrun hrequires hholds
      · have htransacts := (Database.transacts_effect other).mono fun db db' h =>
          (.inl (h.frame.sameRun (Ne.symm hother)) : Database.SameRun runId db db' ∨
            (Request.workflow request).MayChange grants runId db)
        exact api.toApp.writes_handle htransacts happ hrun

theorem writes_handle_run (runId : UUID) (request : Request) :
    Writes (fun db db' => Database.SameRun runId db db' ∨ request.MayChange grants runId db)
      (fun _ : κ => ()) (fun _ => True) (api.handle request) := by
  have hrefl (db : Database) : Database.SameRun runId db db ∨ request.MayChange grants runId db :=
    .inl (.refl runId db)
  have hspares (token : String) (required : Capability) :
      Elsewhere (fun _ : κ => ()) (api.tokens.verify token required) := .of_unseen _
  have hexports := api.exports.spares_of_unseen
  cases request with
  | workflow request => exact .bind (writes_workflow hverify runId request) fun _ _ => .ret trivial
  | getRun other http =>
      exact .bind (writes_getRun hrefl api.runs.elsewhere_of_unseen hspares hverify other http)
        fun _ _ => .ret trivial
  | exportCompositionPng other version http =>
      exact .bind (writes_exportCompositionPng hrefl hspares hverify other http hexports version)
        fun _ _ => .ret trivial
  | exportCompositionJson other version http =>
      exact .bind (writes_exportCompositionJson hrefl hspares hverify other http hexports version)
        fun _ _ => .ret trivial
  | uploadAsset upload =>
      exact .bind (writes_uploadAsset hrefl upload) fun _ _ => .ret trivial
  | deleteAsset assetId http =>
      exact .bind (writes_deleteAsset hrefl hspares hverify http fun _ => .of_unseen _)
        fun _ _ => .ret trivial

theorem writes_handle_asset {held : UUID → κ → ν} (hkeeps : api.KeepsAssets held) {assetId : UUID}
    {request : Request} (hmay : ¬request.MayStore grants assetId) :
    Writes (fun _ _ => True) (held assetId) (fun _ => True) (api.handle request) := by
  have happ := hkeeps.spares assetId
  have hrefl (_ : Database) : True := trivial
  have hexports := hkeeps.exports assetId
  cases request with
  | workflow request =>
      refine .bind (?_ : Writes _ _ (fun _ => True) _) fun _ _ => .ret trivial
      cases hrun : request.runId? with
      | none =>
          cases request with
          | createRun body =>
              exact .bind (api.toApp.writes_createRun body hrefl happ (hkeeps.issue assetId)
                fun _ => trivial) fun _ _ => .ret trivial
          | _ => cases hrun
      | some runId =>
          have htransacts : Transacts runId fun _ _ => True :=
            (Database.transacts_effect runId).mono fun _ _ _ => trivial
          exact api.toApp.writes_handle htransacts happ hrun
  | getRun other http =>
      exact .bind (writes_getRun hrefl happ.runs happ.verify hverify other http)
        fun _ _ => .ret trivial
  | exportCompositionPng other version http =>
      exact .bind (writes_exportCompositionPng hrefl happ.verify hverify other http hexports
        version) fun _ _ => .ret trivial
  | exportCompositionJson other version http =>
      exact .bind (writes_exportCompositionJson hrefl happ.verify hverify other http hexports
        version) fun _ _ => .ret trivial
  | uploadAsset upload => exact absurd trivial hmay
  | deleteAsset other http =>
      refine .bind (writes_deleteAsset hrefl happ.verify hverify http fun hholds =>
        hkeeps.removeAsset _ ?_) fun _ _ => .ret trivial
      rintro rfl
      exact hmay ⟨rfl, hholds⟩

/-- The requests are about to be handled. -/
def serving {ι : Type} (api : Api κ) (world : World κ) (inbox : ι → Request) :
    Config ι (World κ) Exc Response where
  state := world
  threads i := api.handle (inbox i)

end Api

/-! ## Every run -/

section Runs

variable {ι : Type} [DecidableEq ι] {api : Api κ} {held : UUID → κ → ν} {world : World κ}
  {inbox : ι → Api.Request} {config : Config ι (World κ) Exc Api.Response}
  {log : List (Event ι (World κ))}

/-- What a request may not change about a run, none of its steps changes. -/
theorem sameRun_or_mayChange (hverify : api.toApp.Verifies grants)
    (hruns : Runs (api.serving world inbox) log config) {event : Event ι (World κ)}
    (hevent : event ∈ log) (runId : UUID) :
    Database.SameRun runId event.before.database event.after.database ∨
      (inbox event.client).MayChange grants runId event.before.database := by
  have hwrites := Api.writes_handle_run hverify runId (inbox event.client)
  exact ((hruns.meets hwrites.meets fun _ _ _ => trivial).2 event hevent rfl).1

/-- However the requests interleave, a step that changes what is stored about a run belongs to a
request that may do so, and a step that changes what is held of an asset belongs to an upload or
to a deletion of that asset which may. -/
theorem changed_by_authority (hverify : api.toApp.Verifies grants) (hkeeps : api.KeepsAssets held)
    (hruns : Runs (api.serving world inbox) log config) {event : Event ι (World κ)}
    (hevent : event ∈ log) :
    (∀ runId, ¬Database.SameRun runId event.before.database event.after.database →
      (inbox event.client).MayChange grants runId event.before.database) ∧
    ∀ assetId, held assetId event.after.rest ≠ held assetId event.before.rest →
      (inbox event.client).MayStore grants assetId := by
  constructor
  · intro runId hchanged
    exact (sameRun_or_mayChange hverify hruns hevent runId).resolve_left hchanged
  · intro assetId hchanged
    by_contra hmay
    have hwrites := Api.writes_handle_asset hverify hkeeps hmay
    have hstep := (hruns.meets hwrites.meets fun _ _ _ => trivial).2 event hevent rfl
    exact hchanged hstep.2

/-- As long as no request may change a run that exists, it stays as it is. -/
theorem sameRun_of_runs (hverify : api.toApp.Verifies grants)
    (hruns : Runs (api.serving world inbox) log config) {runId : UUID}
    (hexists : world.database.runs.find runId ≠ none)
    (hnone : ∀ i db, db.runs.find runId ≠ none → ¬(inbox i).MayChange grants runId db) :
    Database.SameRun runId world.database config.state.database := by
  induction hruns with
  | refl => exact .refl runId world.database
  | @atomic log config i effect next prior hthread ih =>
      have hstep := sameRun_or_mayChange hverify (.atomic i prior hthread)
        (List.mem_append_right log (List.mem_singleton_self _)) runId
      refine ih.trans (hstep.resolve_right (hnone i _ ?_))
      rw [ih.runs]
      exact hexists
  | choose i answer prior hthread ih => exact ih

namespace Demo

/-- What lies outside the database: the time, and the assets that are held. -/
structure Outside where
  time : ℚ≥0
  held : List UUID

/-- The run or the asset that the claims of a token are for. -/
def subject? (document : Document Unit) : Option UUID :=
  [runId, assetId].find? fun subject => CapabilityTokens.isText (.ofString subject.text) document

/-- What the token service makes of a token at this time. -/
def judge (token : String) (required : Capability) (outside : Outside) :
    Program Outside Exc CapabilityClaims :=
  match CapabilityTokens.Demo.service.verify CapabilityTokens.Demo.digest
    CapabilityTokens.Demo.libraries (.ofString token) required none outside.time with
  | .error _ => .raise .capabilityTokenError
  | .ok claims =>
      match subject? claims.subject with
      | none => .raise .capabilityTokenError
      | some subject => .ret ⟨subject.text⟩

def signedTokens : CapabilityTokenService Outside where
  issue _ _ := pure "demo-capability-token"
  verify token required := .atomic id (judge token required)

/-- The demo, with its tokens and with the assets that are held. -/
def holdingApi : Api Outside where
  toApp := { app [] noWarnings answeringStore (revisionService fixtureEngine answeringStore) with
    tokens := signedTokens }
  allowUpload _ := pure true
  storeAsset _ _ _ _ :=
    .atomic (fun outside => { outside with held := assetId :: outside.held })
      fun _ => .ret ⟨sourceAsset, content.length, now⟩
  removeAsset other _ :=
    .atomic (fun outside => { outside with held := outside.held.erase other })
      fun outside => .ret (decide (other ∈ outside.held))

theorem eq_of_isText {text : Text} {document : Document Unit}
    (h : CapabilityTokens.isText text document = true) : document = .str text := by
  cases document with
  | str other => exact congrArg Document.str (of_decide_eq_true h)
  | _ => cases h

theorem verifiesWith_holdingApi : holdingApi.toApp.VerifiesWith CapabilityTokens.Demo.digest
    CapabilityTokens.Demo.libraries CapabilityTokens.Demo.service := by
  intro token required outside _
  refine ⟨trivial, ?_⟩
  unfold judge
  split
  · trivial
  · next claims hverify =>
      split
      · trivial
      · next subject hsubject =>
          have htext := List.find?_some hsubject
          exact ⟨outside.time, claims, hverify, eq_of_isText htext⟩

theorem keepsAssets_holdingApi :
    holdingApi.KeepsAssets fun assetId (outside : Outside) => assetId ∈ outside.held where
  spares assetId :=
    { runs := ⟨trivial, trivial⟩
      verify := fun token required => by
        intro outside _
        refine ⟨rfl, ?_⟩
        unfold judge
        split
        · trivial
        · split <;> trivial
      assets := fun _ => trivial
      provider := fun _ _ => trivial
      copywriter := fun _ _ => trivial
      compositions := ⟨⟨trivial, trivial⟩, ⟨trivial, fun _ => trivial, fun _ => trivial,
        fun _ => trivial, fun _ _ _ => trivial, fun _ => trivial⟩⟩
      review := elsewhere_review (.ret now) id
      revisions := ⟨⟨trivial, trivial⟩, fun _ _ _ => .ofExcept _, ⟨trivial, fun _ => trivial,
        fun _ => trivial, fun _ => trivial, fun _ _ _ => trivial, fun _ => trivial⟩,
        elsewhere_review (.ret now) id⟩
      uuid4 := trivial
      pipelineNow := trivial }
  issue _ _ _ := trivial
  exports _ := ⟨⟨trivial, trivial⟩, fun _ => trivial, fun _ => trivial⟩
  removeAsset _ hne := fun outside _ =>
    ⟨propext (List.mem_erase_of_ne (Ne.symm hne)), trivial⟩

/-! ### A token for the source ad -/

/-- The call that issues a token to delete the source ad. -/
def deletionCall : CapabilityTokens.IssueCall :=
  { CapabilityTokens.Demo.issueCall (.ofString assetId.text) with capabilities := {.deleteAsset} }

/-- The token as a header carries it. -/
def deletionToken : String :=
  String.ofList ((deletionCall.encoded ++ CapabilityTokens.dot :: CapabilityTokens.signature
    CapabilityTokens.Demo.digest deletionCall.service.secret deletionCall.message).map
      fun c => Char.ofNat c.val)

def deletionRequest : HttpRequest := ⟨"Bearer " ++ deletionToken, "demo-idempotency-key", []⟩

theorem ofString_ofList {text : Text} (h : ∀ c ∈ text, c.val < 128) :
    Text.ofString (String.ofList (text.map fun c => Char.ofNat c.val)) = text := by
  rw [Text.ofString, String.toList_ofList, List.map_map]
  conv_rhs => rw [← List.map_id text]
  refine List.map_congr_left fun c hc => Fin.ext ?_
  have hvalid : c.val.isValidChar := .inl (lt_trans (h c hc) (by decide))
  show (Char.ofNat c.val).toNat = c.val
  rw [Char.ofNat, dif_pos hvalid]
  rfl

theorem lt_of_mem_encode {value : List Byte} {c : CodePoint}
    (h : c ∈ CapabilityTokens.encode value) : c.val < 128 := by
  obtain ⟨b, hb, rfl⟩ := List.mem_map.mp h
  exact ((Base64.strip_urlsafeEncode value).1 b hb).1

theorem ofString_deletionToken : Text.ofString deletionToken =
    deletionCall.encoded ++ CapabilityTokens.dot :: CapabilityTokens.signature
      CapabilityTokens.Demo.digest deletionCall.service.secret deletionCall.message := by
  apply ofString_ofList
  intro c hc
  rcases List.mem_append.mp hc with hencoded | hc
  · exact lt_of_mem_encode hencoded
  · rcases List.mem_cons.mp hc with rfl | hsignature
    · decide
    · exact lt_of_mem_encode hsignature

theorem issue_deletionCall : deletionCall.issue CapabilityTokens.Demo.digest =
    .ok (.ofString deletionToken) := by
  have hsubject : ¬(deletionCall.subject = [] ∨ deletionCall.capabilities = ∅) :=
    not_or.mpr ⟨by decide, Finset.singleton_ne_empty _⟩
  have httl : ¬deletionCall.ttl ≤ 0 := by
    show ¬(300 : ℚ) ≤ 0
    norm_num
  rw [CapabilityTokens.IssueCall.issue, if_neg hsubject, if_neg httl, if_neg Bool.noConfusion,
    ofString_deletionToken]

theorem bearerToken_append {token : String} (h : token.toList ≠ []) :
    bearerToken ("Bearer " ++ token) = some token := by
  unfold bearerToken
  rw [String.toList_append]
  refine (if_pos ⟨?_, h⟩).trans ?_
  · exact congrArg some String.ofList_toList
  · rfl

theorem bearerToken_deletionRequest :
    bearerToken deletionRequest.authorization = some deletionToken := by
  apply bearerToken_append
  intro hempty
  have htext := ofString_deletionToken
  rw [Text.ofString, hempty] at htext
  exact List.append_ne_nil_of_right_ne_nil _ (List.cons_ne_nil _ _) htext.symm

/-- A minute after the token was issued. -/
def minuteLater (held : List UUID) : Outside := ⟨CapabilityTokens.Demo.laterTime, held⟩

theorem verify_deletionToken (held : List UUID) : ∃ claims,
    CapabilityTokens.Demo.service.verify CapabilityTokens.Demo.digest
        CapabilityTokens.Demo.libraries (.ofString deletionToken) .deleteAsset none
        (minuteLater held).time = .ok claims ∧
      subject? claims.subject = some assetId := by
  have haudience : CapabilityTokens.Demo.service.audience.normalize =
      CapabilityTokens.Demo.service.audience := Text.normalize_of_pairFree (by decide)
  have hfloor : ⌊((minuteLater held).time : ℚ)⌋ < ⌊deletionCall.expiry⌋ :=
    CapabilityTokens.Demo.later_lt_expiry (.ofString assetId.text)
  have htime : CapabilityTokens.truncate (minuteLater held).time <
      CapabilityTokens.truncate deletionCall.expiry := by
    have hexpiry : 0 ≤ deletionCall.expiry := add_nonneg (NNRat.cast_nonneg _)
      (le_of_lt (CapabilityTokens.issue_eq_ok issue_deletionCall).1)
    rw [CapabilityTokens.truncate_of_nonneg (NNRat.cast_nonneg _),
      CapabilityTokens.truncate_of_nonneg hexpiry]
    exact hfloor
  refine ⟨deletionCall.claims, ?_, ?_⟩
  · refine (CapabilityTokens.Demo.service.verify_issued CapabilityTokens.Demo.libraries
      issue_deletionCall rfl).trans (if_pos ⟨rfl, haudience, ?_, htime⟩)
    exact Finset.mem_singleton_self _
  · have hsubject : (Text.ofString assetId.text).normalize = Text.ofString assetId.text :=
      Text.normalize_of_pairFree (by decide)
    show subject? (.str (Text.ofString assetId.text).normalize) = _
    rw [hsubject]
    decide

theorem judge_deletionToken (held : List UUID) :
    judge deletionToken .deleteAsset (minuteLater held) = .ret ⟨assetId.text⟩ := by
  obtain ⟨claims, hverify, hsubject⟩ := verify_deletionToken held
  rw [judge, hverify]
  dsimp only
  rw [hsubject]

/-- First the clock is read to verify the token, then the source ad is removed. -/
theorem handle_deleteAsset : ∃ next,
    holdingApi.handle (.deleteAsset assetId deletionRequest) =
      .atomic (fun world => { world with rest := id world.rest }) next ∧
    ∀ db, next ⟨db, minuteLater [assetId]⟩ =
      .atomic (fun world => { world with
        rest := { world.rest with held := world.rest.held.erase assetId } })
        fun _ => .ret .deleted := by
  obtain ⟨next, hhandle, hnext⟩ :=
    holdingApi.handle_deleteAsset_of_verify bearerToken_deletionRequest rfl
  refine ⟨next, hhandle, fun db => ?_⟩
  rw [hnext ⟨db, minuteLater [assetId]⟩ (judge_deletionToken [assetId]) rfl]
  rfl

/-- The source ad is deleted while a run is created. -/
def twoRequests : Bool → Api.Request
  | true => .deleteAsset assetId deletionRequest
  | false => .workflow (.createRun runCreate)

theorem exec_createRun {db : Database} (outside : Outside) (habsent : db.Absent runId) :
    ∃ response db', (holdingApi.handle (.workflow (.createRun runCreate))).exec ⟨db, outside⟩ =
        some (.ok response, ⟨db', outside⟩) ∧
      db'.At now runId (.pending runCreate) := by
  obtain ⟨token, response, htoken, hresponse⟩ :
      ∃ token response, holdingApi.tokens.issue runId.text
          [.readProjectRun, .analyzeProjectRun, .updateProjectRun] = pure token ∧
        RunCreated.validate runId .pending token now = some response := exists_runCreated
  obtain ⟨db', hcreated, hat⟩ := holdingApi.toApp.exec_createRun rfl rfl htoken hresponse habsent
  exact ⟨_, db', Program.exec_bind (Program.exec_bind hcreated), hat⟩

def otherRunId : UUID := ⟨0xb4444444444444448444444444444444, by decide⟩

/-- Between the check of the token and the removal of the source ad the other client creates its
run. There is another run from the start. -/
theorem exists_deletion : ∃ db log config created removed,
    Runs (holdingApi.serving ⟨db, minuteLater [assetId]⟩ twoRequests) log config ∧
    created ∈ log ∧ removed ∈ log ∧ created.client = false ∧ removed.client = true ∧
    created.before.database.runs.find runId = none ∧
    created.after.database.runs.find runId ≠ none ∧
    assetId ∈ removed.before.rest.held ∧ assetId ∉ removed.after.rest.held ∧
    db.runs.find otherRunId ≠ none := by
  obtain ⟨db, hcommit, hother⟩ := Database.create_of_absent
    (ProjectRun.new otherRunId .chinaToUk now) runCreate (empty_absent _) rfl rfl rfl (le_refl now)
  have hne : runId ≠ otherRunId := by decide
  have habsent : db.Absent runId :=
    (Database.create_commits (empty_absent _) rfl hcommit).frame.absent hne (empty_absent _)
  have hexists : db.runs.find otherRunId ≠ none := by
    obtain ⟨row, hrow, -⟩ := hother.row
    exact fun hnone => Option.some_ne_none row (hrow.symm.trans hnone)
  -- The deletion reads the clock.
  let outside := minuteLater [assetId]
  obtain ⟨next, hhandle, hnext⟩ := handle_deleteAsset
  let start := holdingApi.serving ⟨db, outside⟩ twoRequests
  have hthread : start.threads true =
      .atomic (fun world => { world with rest := id world.rest }) next := hhandle
  have hchecked := Runs.atomic true (.refl : Runs start [] start) hthread
  -- The other client creates its run.
  let checked := start.move true ⟨db, outside⟩ (next ⟨db, outside⟩)
  have hwaiting : checked.threads false = start.threads false :=
    start.move_threads_ne _ _ Bool.false_ne_true
  obtain ⟨response, db', hexec, hat⟩ := exec_createRun outside habsent
  obtain ⟨log, hcreated, hclient⟩ := runs_of_solo (Program.solo_of_exec hexec) hwaiting rfl
  let between := checked.move false ⟨db', outside⟩ (.ofExcept (.ok response))
  let exists' : World Outside → Prop := fun world => world.database.runs.find runId ≠ none
  have hnone : ¬exists' checked.state := not_not.mpr habsent.run
  have hsome : exists' between.state := by
    obtain ⟨row, hrow, -⟩ := hat.row
    exact fun hnone => Option.some_ne_none row (hrow.symm.trans hnone)
  obtain ⟨created, hmem, hbefore, hafter⟩ := hcreated.exists_change hnone hsome
  -- The deletion removes the source ad.
  have hnext' : between.threads true = next ⟨db, outside⟩ :=
    (checked.move_threads_ne _ _ (by decide)).trans (start.move_threads_self _ _ _)
  have hruns := Runs.atomic true (hchecked.trans hcreated) (hnext'.trans (hnext db))
  have hremoved : assetId ∉ [assetId].erase assetId := by simp
  exact ⟨db, _, _, created, _, hruns, List.mem_append_left _ (List.mem_append_right _ hmem),
    List.mem_append_right _ (List.mem_singleton_self _), hclient created hmem, rfl,
    not_not.mp hbefore, hafter, List.mem_singleton_self _, hremoved, hexists⟩

end Demo

/-- The one step belongs to a request that creates the run, the other to one with a token that was
issued for the source ad. A run that was there before is left alone. -/
theorem changed_by_authority_deletion : ∃ db log config created removed,
    Runs (Demo.holdingApi.serving ⟨db, Demo.minuteLater [Demo.assetId]⟩ Demo.twoRequests) log
      config ∧
    created ∈ log ∧ removed ∈ log ∧ created.client = false ∧ removed.client = true ∧
    created.before.database.runs.find Demo.runId = none ∧
    created.after.database.runs.find Demo.runId ≠ none ∧
    Demo.assetId ∈ removed.before.rest.held ∧ Demo.assetId ∉ removed.after.rest.held ∧
    (∃ token, ∃ call : CapabilityTokens.IssueCall,
      bearerToken Demo.deletionRequest.authorization = some token ∧
      call.issue CapabilityTokens.Demo.digest = .ok (.ofString token) ∧
      .deleteAsset ∈ call.capabilities ∧ call.subject.normalize = .ofString Demo.assetId.text) ∧
    db.runs.find Demo.otherRunId ≠ none ∧
    Database.SameRun Demo.otherRunId db config.state.database := by
  obtain ⟨db, log, config, created, removed, hruns, hcreated, hremoved, hcreator, hremover, hbefore,
    hafter, hheld, hgone, hexists⟩ := Demo.exists_deletion
  have hverify := App.verifies_issued CapabilityTokens.Demo.digest CapabilityTokens.Demo.libraries
    CapabilityTokens.Demo.service {Demo.deletionCall} Demo.verifiesWith_holdingApi
  have hcreates := (changed_by_authority hverify Demo.keepsAssets_holdingApi hruns hcreated).1
    Demo.runId fun hsame => hafter (hsame.runs.trans hbefore)
  rw [hcreator] at hcreates
  have hdeletes := (changed_by_authority hverify Demo.keepsAssets_holdingApi hruns hremoved).2
    Demo.assetId fun heq => hgone (heq.mpr hheld)
  rw [hremover] at hdeletes
  obtain ⟨-, token, htoken, hissued⟩ := hdeletes
  have hgenuine : Demo.deletionToken = token :=
    Option.some.inj (Demo.bearerToken_deletionRequest.symm.trans htoken)
  obtain ⟨call, -, hissue, -, hrequired, hsubject⟩ := hissued
    (hgenuine ▸ CapabilityTokens.unforgeable_issued Demo.issue_deletionCall)
  refine ⟨db, log, config, created, removed, hruns, hcreated, hremoved, hcreator, hremover,
    hcreates, hafter, hheld, hgone, ⟨token, call, htoken, hissue, hrequired, hsubject⟩, hexists, ?_⟩
  apply sameRun_of_runs hverify hruns hexists
  intro i db' hexists' hchanges
  cases i with
  | true => exact hchanges
  | false => exact hexists' hchanges

end Runs

end CultureShift
