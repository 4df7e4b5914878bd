/-
# Claiming an operation

A call to the revision service is answered by what an earlier call with the same
key and the same request stored, or it makes the one claim of its kind and
carries it out. Either way the response it returns is the stored one; and unless
the collaborators misbehave, a claim whose call raises has failed.
-/

import CultureShift.Lifecycle.Revising

namespace CultureShift

open Serialization Relational Concurrent

variable {κ : Type} {certifies : CriticRequest → CritiqueReport → Prop}

/-! ## The claims of a run that is absent, and failed claims -/

namespace Database

variable {db db' : Database} {runId : UUID}

theorem Absent.claimFeedbackOperation (h : db.Absent runId)
    {keyDigest fingerprint feedbackDigest : String} {requestedChanges : List RevisionChange}
    {claimedAt : Datetime} {record : OperationRecord} :
    db.claimFeedbackOperation runId keyDigest fingerprint requestedChanges feedbackDigest
      claimedAt ≠ .ok (record, db') := by
  rw [Database.claimFeedbackOperation, OperationTable.find_eq_ofRun, OperationTable.find_eq_ofRun,
    h.operations, h.revision, h.run]
  intro hcommit
  cases hcommit

theorem Absent.claimRetryOperation (h : db.Absent runId) {keyDigest fingerprint : String}
    {claimedAt : Datetime} {record : OperationRecord} :
    db.claimRetryOperation runId keyDigest fingerprint claimedAt ≠ .ok (record, db') := by
  rw [Database.claimRetryOperation, OperationTable.find_eq_ofRun, h.operations, h.run]
  intro hcommit
  cases hcommit

/-- The service has a code of its own for a refused claim; anything else is a
fault of the database. -/
theorem claimFeedbackOperation_error {keyDigest fingerprint feedbackDigest : String}
    {requestedChanges : List RevisionChange} {claimedAt : Datetime} {failure : Exc}
    (h : db.claimFeedbackOperation runId keyDigest fingerprint requestedChanges feedbackDigest
      claimedAt = .error failure) :
    RevisionService.isClaimError failure ∨ failure.isForeign := by
  unfold Database.claimFeedbackOperation at h
  split at h
  · rcases bind_eq_error.mp h with hreplay | ⟨_, -, h⟩
    · rcases replay_eq_error hreplay with ⟨_, rfl⟩ | ⟨_, rfl⟩ <;> exact .inl rfl
    · cases h
  · simp only [bind_eq_error, require_eq_error, orRaise_eq_error] at h
    rcases h with ⟨-, rfl⟩ | ⟨_, -, ⟨-, rfl⟩ | ⟨_, -, ⟨-, rfl⟩ | ⟨_, -, ⟨-, rfl⟩ | ⟨_, -, ⟨-, rfl⟩ |
      ⟨row, -, ⟨-, rfl⟩ | ⟨_, -, hrecord | ⟨_, -, h⟩⟩⟩⟩⟩⟩⟩
    · exact .inl rfl
    · exact .inl rfl
    · exact .inl rfl
    · exact .inl rfl
    · exact .inr rfl
    · exact .inl rfl
    · exact absurd hrecord operationRecord_ne_error
    · cases h

theorem claimRetryOperation_error {keyDigest fingerprint : String} {claimedAt : Datetime}
    {failure : Exc}
    (h : db.claimRetryOperation runId keyDigest fingerprint claimedAt = .error failure) :
    RevisionService.isClaimError failure ∨ failure.isForeign := by
  unfold Database.claimRetryOperation at h
  split at h
  · rcases bind_eq_error.mp h with hreplay | ⟨_, -, h⟩
    · rcases replay_eq_error hreplay with ⟨_, rfl⟩ | ⟨_, rfl⟩ <;> exact .inl rfl
    · cases h
  · simp only [bind_eq_error, require_eq_error, orRaise_eq_error] at h
    rcases h with ⟨-, rfl⟩ | ⟨_, -, ⟨-, rfl⟩ | ⟨_, -, ⟨-, rfl⟩ | ⟨source, -, hrecord |
      ⟨_, -, ⟨-, rfl⟩ | ⟨row, -, hrecord | ⟨_, -, h⟩⟩⟩⟩⟩⟩
    · exact .inl rfl
    · exact .inl rfl
    · exact .inl rfl
    · exact absurd hrecord operationRecord_ne_error
    · exact .inr rfl
    · exact absurd hrecord operationRecord_ne_error
    · cases h

theorem publicResponse_of_operationRecord {row : OperationRow} {record : OperationRecord}
    (h : operationRecord row = .ok record) {response : RevisionCompleted}
    (hresponse : row.progress.publicResponse = some (.dump response)) :
    record.publicResponse = some response := by
  simp only [operationRecord, hresponse, loadOption, load_dump, Except.map, bind_eq_ok] at h
  obtain ⟨_, -, _, hload, hvalue⟩ := h
  cases hvalue
  exact (Except.ok.inj hload).symm

/-- Whatever is stored of a run can be read. -/
def Readable (db : Database) : Prop :=
  ∀ runId failure, db.get runId = .error failure → failure = .projectRunNotFoundError runId

end Database

/-! ## What a claim is answered with -/

/-- A claim was made with this key, for this request. -/
def Database.Claimed (db : Database) (retrying : Bool) (runId : UUID)
    (keyDigest fingerprint : String) : Prop :=
  ∃ claim, db.Has runId (Stage.claim? retrying) claim ∧ claim.keyDigest = keyDigest ∧
    claim.fingerprint = fingerprint

theorem Database.Claimed.of_le {world found : World κ} {retrying : Bool} {runId : UUID}
    {keyDigest fingerprint : String}
    (h : world.database.Claimed retrying runId keyDigest fingerprint)
    (hle : (requests certifies).le world found) :
    found.database.Claimed retrying runId keyDigest fingerprint := by
  obtain ⟨claim, hclaim, hkey, hfingerprint⟩ := h
  exact ⟨claim, hclaim.of_le (Stage.persistent_claim? retrying) hle, hkey, hfingerprint⟩

/-- A claim that committed at `stage`: an earlier success was found, or the
claim was made. -/
inductive Database.ClaimCommit (retrying : Bool) (runId : UUID) (keyDigest fingerprint : String)
    (stage : Stage) (record : OperationRecord) (db db' : Database) : Prop
  | replayed (unchanged : db' = db) (row : OperationRow) (mem : row ∈ stage.operations runId)
      (kind : decide (row.kind = .retry) = retrying) (key : row.keyDigest = keyDigest)
      (request : row.fingerprint = fingerprint) (state : row.progress.state = .succeeded)
      (read : operationRecord row = .ok record)
  | claimed (stage' : Stage) (evidence : Reviewed) (claim : Claim)
      (advances : Advances runId db db' stage') (step : stage.Step stage')
      (free : stage.hold? = none) (held : stage'.hold? = some (heldBy record.id retrying))
      (reviewed : stage'.reviewed? = some evidence) (same : stage'.reviewed? = stage.reviewed?)
      (unrevised : stage'.revised? = stage.revised?)
      (claims : stage'.claim? retrying = some claim) (key : claim.keyDigest = keyDigest)
      (request : claim.fingerprint = fingerprint)
      (taken : ∀ other ∈ stage'.taken,
        other ∈ stage.taken ∨ other = heldBy record.id retrying)
      (run : record.runId = runId) (state : record.state = .inProgress)
      (decision : retrying = true → record.retryCondition = some .connectionBeforeAcceptance ∧
        record.retryAction = some .retryOnce)

section Commit

variable {db db' : Database} {runId : UUID} {stage : Stage} {keyDigest fingerprint : String}
  {claimedAt : Datetime} {record : OperationRecord}

theorem Database.Shows.feedbackClaim (h : db.Shows runId stage) {feedbackDigest : String}
    {requestedChanges : List RevisionChange}
    (hcommit : db.claimFeedbackOperation runId keyDigest fingerprint requestedChanges
      feedbackDigest claimedAt = .ok (record, db')) :
    ClaimCommit false runId keyDigest fingerprint stage record db db' := by
  rcases h.claimFeedbackOperation hcommit with
    ⟨hsame, row, hrow, hkind, hkey, hfingerprint, hstate, hread⟩ |
    ⟨evidence, feedback, rfl, hkey, hfingerprint, hrecord, hadvances⟩
  · exact .replayed hsame row hrow (by simp [hkind]) hkey hfingerprint hstate hread
  · refine .claimed _ evidence.toReviewed feedback.toClaim hadvances (.claimFeedback _ _) rfl ?_ rfl
      rfl rfl rfl hkey hfingerprint (fun other hother => ?_) hrecord.runId hrecord.state nofun
    · rw [hrecord.id]
      rfl
    · rw [hrecord.id]
      simpa [Stage.taken, Stage.feedback?, Stage.retried?, heldBy] using hother

theorem Database.Shows.retryClaim (h : db.Shows runId stage)
    (hcommit : db.claimRetryOperation runId keyDigest fingerprint claimedAt = .ok (record, db')) :
    ClaimCommit true runId keyDigest fingerprint stage record db db' := by
  rcases h.claimRetryOperation hcommit with
    ⟨hsame, row, hrow, hkind, hkey, hfingerprint, hstate, hread⟩ |
    ⟨evidence, feedback, failedAt, retry, rfl, hkey, hfingerprint, hrecord, hcondition, haction,
      hadvances⟩
  · exact .replayed hsame row hrow (by simp [hkind]) hkey hfingerprint hstate hread
  · refine .claimed _ evidence.toReviewed retry hadvances (.claimRetry _ _ _ _) rfl ?_ rfl rfl rfl
      rfl hkey hfingerprint (fun other hother => ?_) hrecord.runId hrecord.state
      fun _ => ⟨hcondition, haction⟩
    · rw [hrecord.id]
      rfl
    · rw [hrecord.id]
      simpa [Stage.taken, Stage.feedback?, Stage.retried?, heldBy, or_assoc] using hother

end Commit

/-- The tokens of a request that has claimed nothing. -/
def NoReceipt (tokens : Set Token) : Prop := ∀ runId hold, Token.receipt runId hold ∉ tokens

theorem noReceipt_empty : NoReceipt ∅ := fun _ _ h => h

theorem NoReceipt.only {tokens : Set Token} (h : NoReceipt tokens) (runId : UUID) (hold : Hold) :
    OnlyReceipt runId hold tokens := fun runId' hold' hmem => absurd hmem (h runId' hold')

/-- The answer to a claim, for as long as the request lasts. -/
inductive ClaimAnswer (retrying : Bool) (runId : UUID) (record : OperationRecord)
    (tokens : Set Token) (later : World κ) : Prop
  | replayed (revision : Revised) (state : record.state = .succeeded)
      (response : record.publicResponse = some revision.response)
      (revised : later.database.Has runId Stage.revised? revision) (receipts : NoReceipt tokens)
  | claimed (evidence : Reviewed) (run : record.runId = runId) (state : record.state = .inProgress)
      (tends : Tends runId (heldBy record.id retrying) evidence tokens later)
      (receipts : OnlyReceipt runId (heldBy record.id retrying) tokens)
      (decision : retrying = true → record.retryCondition = some .connectionBeforeAcceptance ∧
        record.retryAction = some .retryOnce)

section Claim

variable {assumes : World κ → Prop} {tokens : Set Token} {world : World κ} {retrying : Bool}
  {runId : UUID} {keyDigest fingerprint : String} (repository : Repository κ)

/-- A claim keeps the discipline, whichever of the two it is. -/
theorem safe_claim {body : Database → Except Exc (OperationRecord × Database)}
    (habsent : ∀ db db' record, db.Absent runId → body db ≠ .ok (record, db'))
    (hshows : ∀ db db' record stage, db.Shows runId stage → body db = .ok (record, db') →
      Database.ClaimCommit retrying runId keyDigest fingerprint stage record db db')
    (herror : ∀ db failure, body db = .error failure →
      RevisionService.isClaimError failure ∨ failure.isForeign)
    (hnone : NoReceipt tokens) :
    Discipline.Safe (requests certifies) assumes
      (fun record tokens' later => ClaimAnswer retrying runId record tokens' later ∧
        later.database.Claimed retrying runId keyDigest fingerprint)
      (fun failure tokens' _ => NoReceipt tokens' ∧
        (RevisionService.isClaimError failure ∨ failure.isForeign))
      tokens world (repository.transaction body) := by
  refine safe_transaction repository.connect_raises
    (fun found record db' hfound _ hcommit => ?_)
    (fun found failure later _ _ hfailure _ => ⟨hnone, herror _ _ hfailure⟩)
    fun failure later hconnect _ => ⟨hnone, .inr (by rw [hconnect]; rfl)⟩
  rcases hfound.inv runId with hnothing | ⟨stage, hstage, hcertified⟩
  · exact absurd hcommit (habsent _ _ _ hnothing)
  · cases hshows _ _ _ _ hstage hcommit with
    | replayed unchanged row mem kind key request state read =>
        subst unchanged
        obtain ⟨revision, claim, hrevised, hresponse, hclaim, hkey, hrequest⟩ :=
          Stage.revised_of_succeeded mem state
        obtain ⟨-, -, -, hstate, -, -⟩ := Database.of_operationRecord read
        rw [kind] at hclaim
        refine ⟨Discipline.guarantee_self hfound.inv, fun later hlater => ⟨?_, ?_⟩⟩
        · refine .replayed revision (hstate.trans state) ?_
            (Database.Has.of_rely ⟨stage, hstage, hrevised⟩ Stage.persistent_revised? hlater) ?_
          · exact Database.publicResponse_of_operationRecord read hresponse
          · rintro runId' hold' ⟨hheld, hmine | hfresh⟩
            · exact hnone runId' hold' hmine
            · exact hfresh hheld
        · exact Database.Claimed.of_le
            ⟨claim, ⟨stage, hstage, hclaim⟩, hkey.trans key, hrequest.trans request⟩ hlater.le
    | claimed stage' evidence claim advances step free held reviewed same unrevised claims key
        request taken run state decision =>
        refine ⟨guarantee_of_advances hfound.inv hstage advances (.single step)
          (hcertified.of_eq same unrevised) (by simp [free]), fun later hlater => ⟨?_, ?_⟩⟩
        · refine .claimed evidence run state (Tends.of_rely ⟨⟨⟨stage', advances.shows, held⟩, ?_⟩,
            ⟨stage', advances.shows, reviewed⟩⟩ hlater)
            ((hnone.only _ _).after hstage advances taken) decision
          right
          rintro ⟨before, hbefore, hheld⟩
          obtain rfl := hstage.unique hbefore
          rw [free] at hheld
          cases hheld
        · exact Database.Claimed.of_le
            ⟨claim, ⟨stage', advances.shows, claims⟩, key, request⟩ hlater.le

theorem safe_claimFeedbackOperation (feedbackDigest : String)
    (requestedChanges : List RevisionChange) (claimedAt : Datetime) (hnone : NoReceipt tokens) :
    Discipline.Safe (requests certifies) assumes
      (fun record tokens' later => ClaimAnswer false runId record tokens' later ∧
        later.database.Claimed false runId keyDigest fingerprint)
      (fun failure tokens' _ => NoReceipt tokens' ∧
        (RevisionService.isClaimError failure ∨ failure.isForeign))
      tokens world
      (repository.claimFeedbackOperation runId keyDigest fingerprint requestedChanges
        feedbackDigest claimedAt) :=
  safe_claim repository (fun _ _ _ habsent => habsent.claimFeedbackOperation)
    (fun _ _ _ _ hshows => hshows.feedbackClaim)
    (fun _ _ => Database.claimFeedbackOperation_error) hnone

theorem safe_claimRetryOperation (claimedAt : Datetime) (hnone : NoReceipt tokens) :
    Discipline.Safe (requests certifies) assumes
      (fun record tokens' later => ClaimAnswer true runId record tokens' later ∧
        later.database.Claimed true runId keyDigest fingerprint)
      (fun failure tokens' _ => NoReceipt tokens' ∧
        (RevisionService.isClaimError failure ∨ failure.isForeign))
      tokens world
      (repository.claimRetryOperation runId keyDigest fingerprint claimedAt) :=
  safe_claim repository (fun _ _ _ habsent => habsent.claimRetryOperation)
    (fun _ _ _ _ hshows => hshows.retryClaim)
    (fun _ _ => Database.claimRetryOperation_error) hnone

end Claim

/-! ## The two calls -/

/-- Whatever the call has claimed is of its run and of its kind. -/
def ReceiptsOf (retrying : Bool) (runId : UUID) (tokens : Set Token) : Prop :=
  ∀ runId' hold', Token.receipt runId' hold' ∈ tokens →
    runId' = runId ∧ ∃ operationId, hold' = heldBy operationId retrying

theorem NoReceipt.receiptsOf {retrying : Bool} {runId : UUID} {tokens : Set Token}
    (h : NoReceipt tokens) : ReceiptsOf retrying runId tokens :=
  fun runId' hold' hmem => absurd hmem (h runId' hold')

theorem OnlyReceipt.receiptsOf {retrying : Bool} {runId : UUID} {operationId : Nat}
    {tokens : Set Token} (h : OnlyReceipt runId (heldBy operationId retrying) tokens) :
    ReceiptsOf retrying runId tokens := by
  intro runId' hold' hmem
  obtain ⟨hrun, hhold⟩ := h runId' hold' hmem
  exact ⟨hrun, operationId, hhold⟩

/-- A call that has returned: its response is stored under its key. -/
structure Completes (service : RevisionService κ) (retrying : Bool) (runId : UUID) (key : String)
    (fingerprint : String) (response : RevisionCompleted) (tokens : Set Token) (later : World κ) :
    Prop where
  receipts : ReceiptsOf retrying runId tokens
  revised : ∃ revision, later.database.Has runId Stage.revised? revision ∧
    revision.response = response
  claimed : ∃ keyDigest, service.keyDigest key = .ok keyDigest ∧
    later.database.Claimed retrying runId keyDigest fingerprint

/-- A call that has raised: what it claimed has failed, if nothing misbehaved. -/
structure Declines (condition : Prop) (retrying : Bool) (runId : UUID) (failure : Exc)
    (tokens : Set Token) (later : World κ) : Prop where
  receipts : ReceiptsOf retrying runId tokens
  failed : condition → ∀ runId' hold', Token.receipt runId' hold' ∈ tokens →
    later.database.Failed runId' hold'
  reported : condition →
    failure = .revisionServiceError (RevisionService.failureCode retrying) →
    ∃ operationId, later.database.Failed runId (heldBy operationId retrying)

theorem Completes.of_rely {service : RevisionService κ} {retrying : Bool} {runId : UUID}
    {key fingerprint : String} {response : RevisionCompleted} {tokens : Set Token}
    {world found : World κ}
    (h : Completes service retrying runId key fingerprint response tokens world)
    (hrely : (requests certifies).Rely tokens world found) :
    Completes service retrying runId key fingerprint response tokens found := by
  obtain ⟨revision, hrevised, hresponse⟩ := h.revised
  obtain ⟨keyDigest, hkey, hclaimed⟩ := h.claimed
  exact ⟨h.receipts, ⟨revision, hrevised.of_rely Stage.persistent_revised? hrely, hresponse⟩,
    keyDigest, hkey, hclaimed.of_le hrely.le⟩

theorem Declines.of_rely {condition : Prop} {retrying : Bool} {runId : UUID} {failure : Exc}
    {tokens : Set Token} {world found : World κ}
    (h : Declines condition retrying runId failure tokens world)
    (hrely : (requests certifies).Rely tokens world found) :
    Declines condition retrying runId failure tokens found := by
  refine ⟨h.receipts, fun hcondition runId' hold' hmem => ?_, fun hcondition hfailure => ?_⟩
  · exact (h.failed hcondition runId' hold' hmem).of_rely hrely
  · obtain ⟨operationId, hfailed⟩ := h.reported hcondition hfailure
    exact ⟨operationId, hfailed.of_rely hrely⟩

/-- What well behaved means for a call: the collaborators raise only what
releases the operation, and a retry can read its run when it looks at it. -/
def RevisionService.Dependable (service : RevisionService κ) (retrying : Bool)
    (assumes : World κ → Prop) : Prop :=
  service.WellBehaved ∧ (retrying = true → ∀ found, assumes found → found.database.Readable)

section Calls

variable {assumes : World κ → Prop} {tokens : Set Token} {world : World κ} {runId : UUID}
  {retrying : Bool} (service : RevisionService κ)

theorem NoReceipt.declines {failure : Exc} (h : NoReceipt tokens)
    (hother : failure ≠ .revisionServiceError (RevisionService.failureCode retrying)) :
    Declines (service.Dependable retrying assumes) retrying runId failure tokens world :=
  ⟨h.receiptsOf, fun _ runId' hold' hmem => absurd hmem (h runId' hold'),
    fun _ heq => absurd heq hother⟩

theorem Abandons.declines {operationId : Nat} {failure : Exc}
    (h : Abandons service runId (heldBy operationId retrying) tokens world) :
    Declines (service.Dependable retrying assumes) retrying runId failure tokens world := by
  refine ⟨h.receipts.receiptsOf, fun hservice runId' hold' hmem => ?_,
    fun hservice _ => ⟨operationId, h.failed hservice.1⟩⟩
  obtain ⟨rfl, rfl⟩ := h.receipts runId' hold' hmem
  exact h.failed hservice.1

/-- A refused claim is not reported as a failed revision. -/
theorem safe_translating {post : OperationRecord → Set Token → World κ → Prop}
    {claim : Program (World κ) Exc OperationRecord}
    (hclaim : Discipline.Safe (requests certifies) assumes post
      (fun failure tokens' _ => NoReceipt tokens' ∧
        (RevisionService.isClaimError failure ∨ failure.isForeign)) tokens world claim) :
    Discipline.Safe (requests certifies) assumes post
      (Declines (service.Dependable retrying assumes) retrying runId) tokens world
      (RevisionService.translating claim) := by
  refine Discipline.safe_tryCatch (hclaim.mono (fun _ _ _ h => h) fun failure tokens' later h => ?_)
  obtain ⟨hnone, hkind⟩ := h
  split_ifs with hclaimed
  · refine Discipline.safe_raise fun _ _ => hnone.declines service fun heq => ?_
    have hcode := Exc.revisionServiceError.inj heq
    cases retrying <;> cases failure <;> cases hcode
  · refine Discipline.safe_raise fun _ _ => hnone.declines service fun heq => ?_
    subst heq
    rcases hkind with hkind | hkind
    · exact hclaimed hkind
    · cases hkind

/-- A claimed operation is carried out. -/
theorem safe_carryOut {operation : OperationRecord} {key keyDigest fingerprint : String}
    {evidence : Reviewed}
    (hreview : ∀ request, (service.review request).Returns (certifies request))
    (hkey : service.keyDigest key = .ok keyDigest) (hrun : operation.runId = runId)
    (htends : Tends runId (heldBy operation.id retrying) evidence tokens world)
    (honly : OnlyReceipt runId (heldBy operation.id retrying) tokens)
    (hclaimed : world.database.Claimed retrying runId keyDigest fingerprint) :
    Discipline.Safe (requests certifies) assumes
      (Completes service retrying runId key fingerprint)
      (Declines (service.Dependable retrying assumes) retrying runId) tokens world
      (service.execute operation retrying) := by
  refine ((safe_execute service hrun htends honly hreview).since
    ((requests certifies).le_refl world)).mono (fun response tokens' later h => ?_)
    fun _ _ _ h => h.1.declines service
  obtain ⟨⟨honly', hrevised⟩, hle⟩ := h
  exact ⟨honly'.receiptsOf, hrevised, keyDigest, hkey, hclaimed.of_le hle⟩

/-- An earlier success is answered with the stored response. -/
theorem safe_replay {revision : Revised} {key keyDigest fingerprint : String}
    (hkey : service.keyDigest key = .ok keyDigest)
    (hrevised : world.database.Has runId Stage.revised? revision) (hnone : NoReceipt tokens)
    (hclaimed : world.database.Claimed retrying runId keyDigest fingerprint) :
    Discipline.Safe (requests certifies) assumes
      (Completes service retrying runId key fingerprint)
      (Declines (service.Dependable retrying assumes) retrying runId) tokens world
      (.ret revision.response) :=
  Discipline.safe_ret fun _ hlater =>
    ⟨hnone.receiptsOf, ⟨revision, hrevised.of_rely Stage.persistent_revised? hlater, rfl⟩,
      keyDigest, hkey, hclaimed.of_le hlater.le⟩

theorem safe_keyDigest {post : String → Set Token → World κ → Prop} {key : String}
    (hnone : NoReceipt tokens)
    (hpost : ∀ keyDigest later, service.keyDigest key = .ok keyDigest →
      post keyDigest tokens later) :
    Discipline.Safe (requests certifies) assumes post
      (Declines (service.Dependable retrying assumes) retrying runId) tokens world
      (.ofExcept (service.keyDigest key)) := by
  refine safe_ofExcept (fun keyDigest later hdigest _ => hpost keyDigest later hdigest)
    fun failure later hfailure _ => hnone.declines service ?_
  simp only [RevisionService.keyDigest, bind_eq_error, require_eq_error] at hfailure
  rcases hfailure with ⟨-, rfl⟩ | ⟨_, -, hfailure⟩
  · intro hcode
    cases retrying <;> cases hcode
  · cases hfailure

theorem safe_submitFeedback (request : FeedbackRequest) (key : String) (hnone : NoReceipt tokens)
    (hreview : ∀ request, (service.review request).Returns (certifies request)) :
    Discipline.Safe (requests certifies) assumes
      (Completes service false request.runId key (service.fingerprint request))
      (Declines (service.Dependable false assumes) false request.runId) tokens world
      (service.submitFeedback request key) := by
  refine Discipline.safe_bind (safe_keyDigest service hnone fun keyDigest _ hkey => ?_)
  refine Discipline.safe_bind (safe_outside (Program.returns_true _)
    service.repository.utcNow_raises (fun now _ _ _ => ?_)
    fun failure _ hforeign _ =>
      hnone.declines service fun heq => by rw [heq] at hforeign; cases hforeign)
  refine Discipline.safe_bind (safe_translating service ((safe_claimFeedbackOperation
    service.repository _ _ _ hnone).mono (fun operation tokens' later h => ?_) fun _ _ _ h => h))
  obtain ⟨hanswer, hclaimed⟩ := h
  cases hanswer with
  | replayed revision state response revised receipts =>
      simp only [RevisionService.replayed, state, response, if_true]
      exact safe_replay service hkey revised receipts hclaimed
  | claimed evidence run state tends receipts decision =>
      simp only [RevisionService.replayed, state, reduceCtorEq, if_false]
      exact safe_carryOut service hreview hkey run tends receipts hclaimed

/-- The count that the retry reads back counts the retry itself. -/
theorem technicalAttemptCount_of_retrying {db : Database} {stage : Stage} {operationId : Nat}
    {run : ProjectRun} (hshows : db.Shows runId stage)
    (hheld : stage.hold? = some (.retry operationId)) (hget : db.get runId = .ok run) :
    run.technicalAttemptCount = 1 := by
  rw [(hshows.get hget).technicalAttemptCount]
  cases stage <;> first | rfl | cases hheld

theorem safe_retry (request : RetryRequest) (key : String) (hnone : NoReceipt tokens)
    (hreview : ∀ request, (service.review request).Returns (certifies request)) :
    Discipline.Safe (requests certifies) assumes
      (Completes service true request.runId key (service.fingerprint request))
      (Declines (service.Dependable true assumes) true request.runId) tokens world
      (service.retry request key) := by
  refine Discipline.safe_bind (safe_keyDigest service hnone fun keyDigest _ hkey => ?_)
  refine Discipline.safe_bind (safe_translating service (Discipline.safe_bind (safe_outside
    (Program.returns_true _) service.repository.utcNow_raises (fun now _ _ _ =>
      (safe_claimRetryOperation service.repository now hnone).mono
        (fun operation tokens' later h => ?_)
        fun _ _ _ h => h) fun _ _ hforeign _ => ⟨hnone, .inr hforeign⟩)))
  obtain ⟨hanswer, hclaimed⟩ := h
  cases hanswer with
  | replayed revision state response revised receipts =>
      simp only [RevisionService.replayed, state, response, if_true]
      exact safe_replay service hkey revised receipts hclaimed
  | claimed evidence run state tends receipts decision =>
      obtain ⟨hcondition, haction⟩ := decision rfl
      simp only [RevisionService.replayed, state, reduceCtorEq, if_false, hcondition, haction]
      -- The run is read once more before the retry is carried out.
      have hfault {failure : Exc} {found : World κ}
          (hfault : service.Dependable true assumes → False) :
          Declines (service.Dependable true assumes) true request.runId failure tokens' found :=
        ⟨receipts.receiptsOf, fun hservice => (hfault hservice).elim,
          fun hservice => (hfault hservice).elim⟩
      refine Discipline.safe_bind (safe_query
        (raises_of_imp RevisionService.WellBehaved.connect)
        (fun found current later' hfound _ hget hlater => ?_)
        (fun found failure later' hfound hassumed hfailure _ => hfault fun hservice => ?_)
        fun failure _ hconnect _ => hfault fun hservice => hconnect hservice.1)
      · obtain ⟨stage, hshows, hheld, -⟩ := tends.shows hfound
        rw [technicalAttemptCount_of_retrying hshows hheld hget]
        exact safe_carryOut service hreview hkey run (tends.of_rely (hfound.trans hlater)) receipts
          (hclaimed.of_le (hfound.trans hlater).le)
      · obtain ⟨stage, hshows, -⟩ := tends.shows hfound
        have habsent := hservice.2 rfl found hassumed _ _ hfailure
        rw [hshows.get_error hfailure] at habsent
        cases habsent

end Calls

end CultureShift
