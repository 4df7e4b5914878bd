/-
# The lifecycle of a local asset

An upload can be loaded until it expires, and its identifier can be used again
a week after it was closed. Whatever calls came before it, a call on the
directory is answered as a map with expiry and closing answers it.
-/

import CultureShift.AssetPurging
import CultureShift.AssetStoreCalls
import CultureShift.Sequential.Keyed

namespace CultureShift

open Serialization Relational Storage Sequential

namespace AssetStorage

open CompositionStorage (FileContent)

open FileProgram

variable {hexdigest : List UInt8 → Sha256} {files : Files AssetPath FileContent}
  {slots : UUID → Slot} {cells : UUID → AssetCell} {assetId : UUID}

/-! ## Calls -/

inductive LifecycleCall
  | store (upload : Upload)
  | load (assetId : UUID) (now : Datetime)
  | delete (assetId : UUID) (now : Datetime)
  | purge (now : Datetime)

def LifecycleCall.time : LifecycleCall → Datetime
  | .store upload => upload.now
  | .load _ now => now
  | .delete _ now => now
  | .purge now => now

inductive LifecycleOutcome
  | stored (result : Except Exc StoredAsset)
  | loaded (result : Except Exc LoadedAsset)
  | deleted (result : Except Exc Bool)
  | purged (result : Except Exc Nat)

/-- What a call does in the directory. -/
def serveCall (hexdigest : List UInt8 → Sha256) (files : Files AssetPath FileContent) :
    LifecycleCall → LifecycleOutcome × Files AssetPath FileContent
  | .store upload => (FileProgram.run (store hexdigest upload) files none).map .stored id
  | .load assetId now => (FileProgram.run (load hexdigest assetId now) files none).map .loaded id
  | .delete assetId now =>
      (FileProgram.run (delete hexdigest assetId now "deleted") files none).map .deleted id
  | .purge now => (FileProgram.run (purgeExpired hexdigest now) files none).map .purged id

/-- What a call changes in the map. -/
def changesOf (hexdigest : List UInt8 → Sha256) :
    LifecycleCall → List (Change UUID LoadedAsset Datetime)
  | .store upload => storeChanges hexdigest upload
  | .load _ _ => []
  | .delete assetId now => [.close assetId now]
  | .purge now => (now.daysBefore? 7).toList.map (.purge now)

/-- What the map answers. -/
noncomputable def answer (hexdigest : List UInt8 → Sha256) (cells : UUID → AssetCell) :
    LifecycleCall → LifecycleOutcome
  | .store upload => .stored (storeAnswer hexdigest cells upload)
  | .load assetId now => .loaded (loadAnswer cells assetId now)
  | .delete assetId _ => .deleted (.ok (cells assetId).isLive)
  | .purge now => .purged (.ok {assetId | (cells assetId).Expired now}.ncard)

noncomputable def answerCall (hexdigest : List UInt8 → Sha256) (cells : UUID → AssetCell)
    (call : LifecycleCall) : LifecycleOutcome × (UUID → AssetCell) :=
  (answer hexdigest cells call, after change cells (changesOf hexdigest call))

/-- The calls come in the order of their times, and a purge has a week before it. -/
structure InOrder (calls : List LifecycleCall) : Prop where
  times : calls.Pairwise fun call later => call.time ≤ later.time
  weeks : ∀ now, .purge now ∈ calls → ∃ cutoff, now.daysBefore? 7 = some cutoff

/-- A call answers as the map does, and the directory goes on keeping what the map has. -/
theorem Keeps.serve (hinjective : Function.Injective (tombstoneDigest hexdigest))
    (h : Keeps hexdigest files slots cells) {call : LifecycleCall}
    (hcreated : CreatedBy slots call.time)
    (hweek : ∀ now, call = .purge now → ∃ cutoff, now.daysBefore? 7 = some cutoff) :
    (serveCall hexdigest files call).1 = (answerCall hexdigest cells call).1 ∧
      ∃ slots', Keeps hexdigest (serveCall hexdigest files call).2 slots'
          (answerCall hexdigest cells call).2 ∧
        ∀ later, call.time ≤ later → CreatedBy slots' later := by
  have hbefore {later : Datetime} (hlater : call.time ≤ later) : CreatedBy slots later :=
    fun assetId upload hupload => (hcreated assetId upload hupload).trans hlater
  cases call with
  | store upload =>
      obtain ⟨files', hrun, hkeeps⟩ := h.store upload
      rw [serveCall, hrun]
      refine ⟨rfl, _, hkeeps, fun later hlater assetId other hother => ?_⟩
      cases hcheck : upload.check hexdigest with
      | error error =>
          rw [storeSlots, hcheck] at hother
          exact hbefore hlater assetId other hother
      | ok checked =>
          rw [storeSlots_of_check hcheck] at hother
          by_cases heq : assetId = upload.assetId
          · rw [heq, Function.update_self] at hother
            cases hslot : slots upload.assetId with
            | closed => rw [hslot] at hother; cases hother
            | absent => rw [hslot] at hother; cases hother; exact hlater
            | present held => rw [hslot] at hother; cases hother; exact hlater
          · rw [Function.update_of_ne heq] at hother
            exact hbefore hlater assetId other hother
  | load assetId now =>
      have hnow : CreatedBy slots now := hcreated
      rw [serveCall, h.load hnow]
      exact ⟨rfl, slots, h, fun later => hbefore⟩
  | delete assetId now =>
      obtain ⟨files', hrun, hkeeps⟩ := h.delete hinjective assetId now "deleted"
      rw [serveCall, hrun]
      refine ⟨rfl, _, hkeeps, fun later hlater other upload hupload => ?_⟩
      by_cases heq : other = assetId
      · rw [heq, Function.update_self] at hupload
        cases hupload
      · rw [Function.update_of_ne heq] at hupload
        exact hbefore hlater other upload hupload
  | purge now =>
      obtain ⟨cutoff, hcutoff⟩ := hweek now rfl
      obtain ⟨files', slots', hrun, hkeeps, hmono⟩ := h.purge hinjective hcutoff
      rw [serveCall, hrun, answerCall, changesOf, hcutoff]
      exact ⟨rfl, slots', hkeeps, fun later hlater => hmono later (hbefore hlater)⟩

namespace Demo

/-- The upload at another time. -/
def uploadAt (now : Datetime) : Upload := { upload with now := now }

def nextWeek : Datetime :=
  { CultureShift.Demo.now with month := 9, day := 1, date_valid := by decide }

def dayAfter : Datetime := { nextWeek with day := 2, date_valid := by decide }

theorem daysBefore?_nextWeek : nextWeek.daysBefore? 7 = some CultureShift.Demo.now := rfl

theorem nextDay?_nextWeek : nextWeek.nextDay? = some dayAfter := rfl

theorem check_uploadAt {now expiresAt : Datetime} (h : now.nextDay? = some expiresAt) :
    ∃ stored, (uploadAt now).check hexdigest = .ok (.png, stored) ∧
      stored.asset.expiresAt = some expiresAt := by
  have hvalid (reference : PublicReference) :
      PatternText.validate reference.text = some reference := PatternText.validate_text reference
  have htype : (StrEnum.ofValue? (uploadAt now).declaredMediaType : Option AssetType) =
      some .png := rfl
  have hprovenance : (PatternText.validate (uploadAt now).provenanceRef : Option PublicReference) =
      some CultureShift.Demo.sourceAsset.provenanceRef := hvalid _
  have hrights : (PatternText.validate (uploadAt now).rightsRef : Option PublicReference) =
      some CultureShift.Demo.sourceAsset.rightsRef := hvalid _
  have hexpiry : (uploadAt now).now.nextDay? = some expiresAt := h
  have hdata : (uploadAt now).data ≠ [] := List.cons_ne_nil _ _
  have hsmall : (uploadAt now).data.length ≤ maxAssetBytes :=
    (by decide : upload.data.length ≤ maxAssetBytes)
  have hsniffed : detectMediaType (uploadAt now).data =
      some (StrEnum.value (AssetType.png)) :=
    (by decide : detectMediaType upload.data = some (StrEnum.value (AssetType.png)))
  rw [Upload.check, htype, hprovenance, hrights, hexpiry, orRaise_some, ok_bind,
    require_of _ hdata, require_of _ hsmall, require_of _ hsniffed]
  exact ⟨_, rfl, rfl⟩

/-- An upload, loaded and deleted on the same day, stored again in vain, and a purge a week later,
after which it is stored once more. -/
def week : List LifecycleCall :=
  [.store upload, .load upload.assetId upload.now, .delete upload.assetId upload.now,
    .store upload, .purge nextWeek, .store (uploadAt nextWeek)]

theorem inOrder_week : InOrder week where
  times := by decide
  weeks now hnow := by
    simp [week] at hnow
    exact hnow ▸ ⟨_, daysBefore?_nextWeek⟩

end Demo

/-! ## Every history of calls -/

/-- The directory after these calls. -/
def filesAfter (hexdigest : List UInt8 → Sha256) (files : Files AssetPath FileContent)
    (calls : List LifecycleCall) : Files AssetPath FileContent :=
  calls.foldl (fun files call => (serveCall hexdigest files call).2) files

/-- The map after these calls. -/
def cellsAfter (hexdigest : List UInt8 → Sha256) (cells : UUID → AssetCell)
    (calls : List LifecycleCall) : UUID → AssetCell :=
  after change cells (calls.flatMap (changesOf hexdigest))

theorem cellsAfter_cons (call : LifecycleCall) (calls : List LifecycleCall) :
    cellsAfter hexdigest cells (call :: calls) =
      cellsAfter hexdigest (answerCall hexdigest cells call).2 calls := by
  rw [cellsAfter, List.flatMap_cons, after, List.foldl_append]
  rfl

theorem InOrder.tail {call : LifecycleCall} {calls : List LifecycleCall}
    (h : InOrder (call :: calls)) : InOrder calls where
  times := (List.pairwise_cons.mp h.times).2
  weeks now hnow := h.weeks now (List.mem_cons_of_mem _ hnow)

/-- All the calls answer as the map does, and the directory keeps what the map has. -/
theorem Keeps.serve_all (hinjective : Function.Injective (tombstoneDigest hexdigest))
    {calls : List LifecycleCall} (horder : InOrder calls) (h : Keeps hexdigest files slots cells)
    (hcreated : ∀ call ∈ calls, CreatedBy slots call.time) :
    Sequential.serve (serveCall hexdigest) files calls =
        Sequential.serve (answerCall hexdigest) cells calls ∧
      ∃ slots', Keeps hexdigest (filesAfter hexdigest files calls) slots'
          (cellsAfter hexdigest cells calls) ∧
        ∀ later, CreatedBy slots later → (∀ call ∈ calls, call.time ≤ later) →
          CreatedBy slots' later := by
  induction calls generalizing files slots cells with
  | nil => exact ⟨rfl, slots, h, fun later hlater _ => hlater⟩
  | cons call calls ih =>
      obtain ⟨hanswer, slots₁, hkeeps, hcreated₁⟩ := h.serve hinjective
        (hcreated call List.mem_cons_self) fun now hnow =>
          horder.weeks now (hnow ▸ List.mem_cons_self)
      have hlater := (List.pairwise_cons.mp horder.times).1
      obtain ⟨hserved, slots', hkeeps', hcreated'⟩ := ih horder.tail hkeeps fun later hmem =>
        hcreated₁ later.time (hlater later hmem)
      refine ⟨?_, slots', ?_, fun later hbefore hall => hcreated' later ?_ ?_⟩
      · rw [Sequential.serve, Sequential.serve, hanswer, hserved]
      · rw [cellsAfter_cons]
        exact hkeeps'
      · exact hcreated₁ later (hall call List.mem_cons_self)
      · exact fun other hother => hall other (List.mem_cons_of_mem _ hother)

/-- Whatever calls are made on an empty directory, each is answered as the map answers it. -/
theorem serve_eq_answers (hinjective : Function.Injective (tombstoneDigest hexdigest))
    {calls : List LifecycleCall} (horder : InOrder calls) :
    Sequential.serve (serveCall hexdigest) ∅ calls =
      Sequential.serve (answerCall hexdigest) (fun _ => .absent) calls :=
  ((keeps_empty hexdigest).serve_all hinjective horder fun _ _ _ _ hslot => nomatch hslot).1

theorem serve_eq_answers_week :
    Sequential.serve (serveCall Demo.hexdigest) ∅ Demo.week =
      Sequential.serve (answerCall Demo.hexdigest) (fun _ => .absent) Demo.week :=
  serve_eq_answers Demo.tombstoneDigest_injective Demo.inOrder_week

/-! ## What a history leaves -/

/-- The outcome of a call after these calls. -/
def outcomeAfter (hexdigest : List UInt8 → Sha256) (calls : List LifecycleCall)
    (call : LifecycleCall) : LifecycleOutcome :=
  (serveCall hexdigest (filesAfter hexdigest ∅ calls) call).1

theorem InOrder.append_left {calls later : List LifecycleCall} (h : InOrder (calls ++ later)) :
    InOrder calls where
  times := (List.pairwise_append.mp h.times).1
  weeks now hnow := h.weeks now (List.mem_append_left _ hnow)

theorem cellsAfter_append (calls later : List LifecycleCall) :
    cellsAfter hexdigest cells (calls ++ later) =
      cellsAfter hexdigest (cellsAfter hexdigest cells calls) later := by
  rw [cellsAfter, List.flatMap_append, after, List.foldl_append]
  rfl

/-- An empty directory after these calls. -/
theorem keeps_after (hinjective : Function.Injective (tombstoneDigest hexdigest))
    {calls : List LifecycleCall} (horder : InOrder calls) :
    ∃ slots, Keeps hexdigest (filesAfter hexdigest ∅ calls) slots
        (cellsAfter hexdigest (fun _ => .absent) calls) ∧
      ∀ later, (∀ call ∈ calls, call.time ≤ later) → CreatedBy slots later := by
  obtain ⟨-, slots, hkeeps, hcreated⟩ :=
    (keeps_empty hexdigest).serve_all hinjective horder fun _ _ _ _ hslot => nomatch hslot
  exact ⟨slots, hkeeps, fun later => hcreated later fun _ _ hslot => nomatch hslot⟩

theorem outcomeAfter_eq (hinjective : Function.Injective (tombstoneDigest hexdigest))
    {calls : List LifecycleCall} {call : LifecycleCall} (horder : InOrder (calls ++ [call])) :
    outcomeAfter hexdigest calls call =
      answer hexdigest (cellsAfter hexdigest (fun _ => .absent) calls) call := by
  obtain ⟨slots, hkeeps, hcreated⟩ := keeps_after hinjective horder.append_left
  have hbefore : ∀ earlier ∈ calls, earlier.time ≤ call.time := fun earlier hearlier =>
    (List.pairwise_append.mp horder.times).2.2 earlier hearlier call (List.mem_singleton_self call)
  refine (hkeeps.serve hinjective (hcreated call.time hbefore) fun now hnow => ?_).1
  exact horder.weeks now (hnow ▸ List.mem_append_right _ (List.mem_singleton_self call))

/-- A tombstone stands exactly where a key is closed. -/
theorem Keeps.closed_iff (h : Keeps hexdigest files slots cells) (assetId : UUID) :
    files.get? (.tombstone (tombstoneDigest hexdigest assetId)) ≠ none ↔
      ∃ since, cells assetId = .closed since := by
  have hslot := h.holds.slot assetId
  have hown := h.cell assetId
  cases hheld : slots assetId with
  | absent =>
      rw [hheld] at hslot hown
      rw [hown.absent_iff.mp rfl]
      simp [hslot.1]
  | closed =>
      rw [hheld] at hslot hown
      generalize cells assetId = cell at hown ⊢
      cases hown with
      | closed since => exact iff_of_true hslot.1 ⟨since, rfl⟩
  | present upload =>
      rw [hheld] at hslot hown
      obtain ⟨rfl, -, -, type, stored, hholding⟩ := hslot
      generalize cells upload.assetId = cell at hown ⊢
      cases hown with
      | live => simp [hholding.is_open]

/-- No purge among these calls takes away a tombstone of this age. -/
def NoneReopens (since : Datetime) (calls : List LifecycleCall) : Prop :=
  ∀ now cutoff, .purge now ∈ calls → now.daysBefore? 7 = some cutoff → cutoff < since

theorem not_reopens_of_noneReopens {since : Datetime} {calls : List LifecycleCall}
    (h : NoneReopens since calls) :
    ∀ made ∈ calls.flatMap (changesOf hexdigest), ¬made.Reopens since := by
  intro made hmade
  obtain ⟨call, hcall, hchange⟩ := List.mem_flatMap.mp hmade
  cases call with
  | store upload =>
      rw [changesOf, storeChanges] at hchange
      cases hcheck : upload.check hexdigest with
      | error error =>
          rw [hcheck] at hchange
          cases hchange
      | ok checked =>
          rw [hcheck] at hchange
          obtain ⟨expiresAt, -, rfl⟩ := List.mem_map.mp hchange
          exact id
  | load assetId now => cases hchange
  | delete assetId now =>
      obtain rfl := List.mem_singleton.mp hchange
      exact id
  | purge now =>
      obtain ⟨cutoff, hcutoff, rfl⟩ := List.mem_map.mp hchange
      exact not_le.mpr (h now cutoff hcall (Option.mem_toList.mp hcutoff))

/-- Storing puts the upload in the map. -/
theorem answerCall_store {upload : Upload} {type : AssetType} {stored : StoredAsset}
    {expiresAt : Datetime} (hcheck : upload.check hexdigest = .ok (type, stored))
    (hexpires : stored.asset.expiresAt = some expiresAt) :
    (answerCall hexdigest cells (.store upload)).2 upload.assetId =
      (cells upload.assetId).put ⟨stored.asset, upload.data⟩ expiresAt := by
  simp only [answerCall, changesOf, storeChanges_of_check hcheck hexpires]
  exact Function.update_self _ _ _

section Closed

variable {before between : List LifecycleCall} {since : Datetime}

/-- A deletion of an open identifier closes it until a purge finds its tombstone old enough. -/
theorem cells_closed (hinjective : Function.Injective (tombstoneDigest hexdigest))
    (horder : InOrder (before ++ .delete assetId since :: between))
    (hopen : (filesAfter hexdigest ∅ before).get?
      (.tombstone (tombstoneDigest hexdigest assetId)) = none)
    (hyoung : NoneReopens since between) :
    cellsAfter hexdigest (fun _ => .absent) (before ++ .delete assetId since :: between) assetId =
      .closed since := by
  obtain ⟨slots, hkeeps, -⟩ := keeps_after hinjective horder.append_left
  have hclosed := (hkeeps.closed_iff assetId).not.mp (not_not.mpr hopen)
  rw [cellsAfter_append, cellsAfter_cons]
  apply after_of_closed _ (not_reopens_of_noneReopens hyoung)
  have hdeleted (cells : UUID → AssetCell) :
      (answerCall hexdigest cells (.delete assetId since)).2 assetId =
        (cells assetId).close since := Function.update_self _ _ _
  rw [hdeleted]
  cases hcell : cellsAfter hexdigest (fun _ => .absent) before assetId with
  | absent => rfl
  | live value expiresAt => rfl
  | closed since' => exact absurd ⟨since', hcell⟩ hclosed

/-- From its deletion on, nothing is loaded or stored under an identifier until a purge a week
later; after that purge it is free again. -/
theorem closed_until_purged (hinjective : Function.Injective (tombstoneDigest hexdigest))
    (hopen : (filesAfter hexdigest ∅ before).get?
      (.tombstone (tombstoneDigest hexdigest assetId)) = none)
    (hyoung : NoneReopens since between) :
    (∀ now, InOrder (before ++ .delete assetId since :: between ++ [.load assetId now]) →
      outcomeAfter hexdigest (before ++ .delete assetId since :: between) (.load assetId now) =
        .loaded (.error .assetLifecycleClosedError)) ∧
    (∀ upload checked, upload.assetId = assetId → upload.check hexdigest = .ok checked →
      InOrder (before ++ .delete assetId since :: between ++ [.store upload]) →
        outcomeAfter hexdigest (before ++ .delete assetId since :: between) (.store upload) =
          .stored (.error .assetLifecycleClosedError)) ∧
    ∀ now cutoff upload type stored, now.daysBefore? 7 = some cutoff → since ≤ cutoff →
      upload.assetId = assetId → upload.check hexdigest = .ok (type, stored) →
      InOrder (before ++ .delete assetId since :: between ++ [.purge now] ++ [.store upload]) →
        outcomeAfter hexdigest (before ++ .delete assetId since :: between ++ [.purge now])
          (.store upload) = .stored (.ok stored) := by
  refine ⟨fun now horder => ?_, ?_, ?_⟩
  · rw [outcomeAfter_eq hinjective horder, answer, loadAnswer,
      cells_closed hinjective horder.append_left hopen hyoung]
    rfl
  · rintro upload checked rfl hcheck horder
    rw [outcomeAfter_eq hinjective horder, answer, storeAnswer, hcheck, ok_bind,
      cells_closed hinjective horder.append_left hopen hyoung]
  · rintro now cutoff upload type stored hcutoff hold rfl hcheck horder
    have hclosed := cells_closed hinjective horder.append_left.append_left hopen hyoung
    have hfree : cellsAfter hexdigest (fun _ => .absent)
        (before ++ .delete upload.assetId since :: between ++ [.purge now]) upload.assetId =
          .absent := by
      rw [cellsAfter_append]
      simp only [cellsAfter, List.flatMap_cons, List.flatMap_nil, List.append_nil, changesOf,
        hcutoff, Option.toList_some, List.map_cons, List.map_nil, after, List.foldl_cons,
        List.foldl_nil] at hclosed ⊢
      change Cell.purge now cutoff _ = _
      rw [hclosed, Cell.purge_closed, if_pos hold]
    rw [outcomeAfter_eq hinjective horder, answer, storeAnswer, hcheck, ok_bind, hfree]

/-- No tombstone stands for an asset that was uploaded once. -/
theorem Demo.open_uploaded {now expiresAt : Datetime} (h : now.nextDay? = some expiresAt) :
    (filesAfter Demo.hexdigest ∅ [.store (Demo.uploadAt now)]).get?
      (.tombstone (tombstoneDigest Demo.hexdigest Demo.upload.assetId)) = none := by
  have horder : InOrder [.store (Demo.uploadAt now)] :=
    ⟨List.pairwise_singleton _ _, fun now h => nomatch List.mem_singleton.mp h⟩
  obtain ⟨slots, hkeeps, -⟩ := keeps_after Demo.tombstoneDigest_injective horder
  apply not_not.mp
  rw [← ne_eq, hkeeps.closed_iff]
  rintro ⟨since, hclosed⟩
  obtain ⟨stored, hcheck, hexpires⟩ := check_uploadAt h
  rw [cellsAfter_cons, cellsAfter, List.flatMap_nil] at hclosed
  exact nomatch (answerCall_store hcheck hexpires).symm.trans hclosed

theorem closed_until_purged_week :
    outcomeAfter Demo.hexdigest [.store Demo.upload,
        .delete Demo.upload.assetId Demo.upload.now] (.load Demo.upload.assetId Demo.upload.now) =
      .loaded (.error .assetLifecycleClosedError) ∧
    outcomeAfter Demo.hexdigest [.store Demo.upload,
        .delete Demo.upload.assetId Demo.upload.now] (.store Demo.upload) =
      .stored (.error .assetLifecycleClosedError) ∧
    ∃ stored, outcomeAfter Demo.hexdigest [.store Demo.upload,
        .delete Demo.upload.assetId Demo.upload.now, .purge Demo.nextWeek]
        (.store (Demo.uploadAt Demo.nextWeek)) = .stored (.ok stored) := by
  obtain ⟨stored, hcheck, -⟩ := Demo.check_uploadAt Demo.nextDay?_nextWeek
  obtain ⟨first, hfirst, -⟩ := Demo.check_uploadAt CultureShift.Demo.nextDay?_now
  have hyoung : NoneReopens Demo.upload.now [] := fun _ _ h => nomatch h
  obtain ⟨hload, hstore, hfree⟩ := closed_until_purged Demo.tombstoneDigest_injective
    (Demo.open_uploaded CultureShift.Demo.nextDay?_now) hyoung
  refine ⟨hload Demo.upload.now ⟨by decide, fun now h => ?_⟩,
    hstore Demo.upload _ rfl hfirst ⟨by decide, fun now h => ?_⟩, stored,
    hfree Demo.nextWeek _ _ _ stored Demo.daysBefore?_nextWeek le_rfl rfl hcheck
      ⟨by decide, fun now h => ?_⟩⟩
  · simp at h
  · simp at h
  · simp at h
    exact h ▸ ⟨_, Demo.daysBefore?_nextWeek⟩

end Closed

section Stored

variable {before between : List LifecycleCall} {upload : Upload} {type : AssetType}
  {stored : StoredAsset} {expiresAt : Datetime}

/-- The call neither stores under this identifier nor deletes it. -/
def LifecycleCall.Leaves (hexdigest : List UInt8 → Sha256) (assetId : UUID) :
    LifecycleCall → Prop
  | .store upload => upload.assetId = assetId → ∃ error, upload.check hexdigest = .error error
  | .delete other _ => other ≠ assetId
  | _ => True

theorem leaves_of_changesOf {call : LifecycleCall} (h : call.Leaves hexdigest assetId)
    {made : Change UUID LoadedAsset Datetime} (hmade : made ∈ changesOf hexdigest call) :
    made.Leaves assetId := by
  cases call with
  | store upload =>
      rw [changesOf, storeChanges] at hmade
      cases hcheck : upload.check hexdigest with
      | error error =>
          rw [hcheck] at hmade
          cases hmade
      | ok checked =>
          rw [hcheck] at hmade
          obtain ⟨expiresAt, -, rfl⟩ := List.mem_map.mp hmade
          intro heq
          obtain ⟨error, herror⟩ := h heq
          rw [hcheck] at herror
          cases herror
  | load other now => cases hmade
  | delete other now =>
      obtain rfl := List.mem_singleton.mp hmade
      exact h
  | purge now =>
      obtain ⟨cutoff, -, rfl⟩ := List.mem_map.mp hmade
      exact trivial

theorem purge_of_changesOf {call : LifecycleCall} {now cutoff : Datetime}
    (h : .purge now cutoff ∈ changesOf hexdigest call) : call = .purge now := by
  cases call with
  | store upload =>
      rw [changesOf, storeChanges] at h
      cases hcheck : upload.check hexdigest with
      | error error =>
          rw [hcheck] at h
          cases h
      | ok checked =>
          rw [hcheck] at h
          obtain ⟨expiresAt, -, heq⟩ := List.mem_map.mp h
          cases heq
  | load other now' => cases h
  | delete other now' => cases List.mem_singleton.mp h
  | purge now' =>
      obtain ⟨cutoff', -, heq⟩ := List.mem_map.mp h
      cases heq
      rfl

/-- What was stored is loaded until it expires, and not afterwards. -/
theorem loaded_until_expiry (hinjective : Function.Injective (tombstoneDigest hexdigest))
    (hcheck : upload.check hexdigest = .ok (type, stored))
    (hexpires : stored.asset.expiresAt = some expiresAt)
    (hopen : (filesAfter hexdigest ∅ before).get?
      (.tombstone (tombstoneDigest hexdigest upload.assetId)) = none)
    (hleaves : ∀ call ∈ between, call.Leaves hexdigest upload.assetId) {now : Datetime}
    (horder : InOrder (before ++ .store upload :: between ++ [.load upload.assetId now])) :
    (now < expiresAt →
      outcomeAfter hexdigest (before ++ .store upload :: between) (.load upload.assetId now) =
        .loaded (.ok ⟨stored.asset, upload.data⟩)) ∧
    (expiresAt ≤ now → ∃ error,
      outcomeAfter hexdigest (before ++ .store upload :: between) (.load upload.assetId now) =
        .loaded (.error error)) := by
  let loaded : LoadedAsset := ⟨stored.asset, upload.data⟩
  obtain ⟨slots, hkeeps, -⟩ := keeps_after hinjective horder.append_left.append_left
  have hclosed := (hkeeps.closed_iff upload.assetId).not.mp (not_not.mpr hopen)
  let cells := cellsAfter hexdigest (fun _ => .absent) before
  let cells' := (answerCall hexdigest cells (.store upload)).2
  have hstored : cells' upload.assetId = .live loaded expiresAt := by
    have hput : cells' upload.assetId = (cells upload.assetId).put loaded expiresAt :=
      answerCall_store hcheck hexpires
    rw [hput]
    cases hcell : cells upload.assetId with
    | absent => rfl
    | live value expiresAt' => rfl
    | closed since => exact absurd ⟨since, hcell⟩ hclosed
  have hchanges : ∀ made ∈ between.flatMap (changesOf hexdigest), made.Leaves upload.assetId := by
    intro made hmade
    obtain ⟨call, hcall, hchange⟩ := List.mem_flatMap.mp hmade
    exact leaves_of_changesOf (hleaves call hcall) hchange
  rw [outcomeAfter_eq hinjective horder, answer, loadAnswer, cellsAfter_append, cellsAfter_cons]
  constructor
  · intro hfresh
    have hlive : cellsAfter hexdigest cells' between upload.assetId = .live loaded expiresAt := by
      apply after_of_live hstored
      intro made hmade
      apply (hchanges made hmade).spares
      rintro purgedAt cutoff rfl
      obtain ⟨call, hcall, hchange⟩ := List.mem_flatMap.mp hmade
      obtain rfl := purge_of_changesOf hchange
      have hmem : .purge purgedAt ∈ before ++ LifecycleCall.store upload :: between :=
        List.mem_append_right _ (List.mem_cons_of_mem _ hcall)
      exact lt_of_le_of_lt ((List.pairwise_append.mp horder.times).2.2 _ hmem _
        (List.mem_singleton_self _)) hfresh
    rw [hlive, Cell.read, if_pos hfresh]
  · intro hexpired
    have hfades := after_of_leaves (fun _ => hstored) hchanges
    cases hcell : cellsAfter hexdigest cells' between upload.assetId with
    | absent => exact ⟨_, rfl⟩
    | closed since => exact ⟨_, rfl⟩
    | live value expiresAt' =>
        have hsame : Cell.live value expiresAt' = .live loaded expiresAt :=
          hcell.symm.trans (hfades (congrArg Cell.isLive hcell))
        rw [hsame, Cell.read, if_neg (not_lt.mpr hexpired)]
        exact ⟨_, rfl⟩

theorem loaded_until_expiry_week :
    (∃ stored, outcomeAfter Demo.hexdigest [.store Demo.upload, .load Demo.upload.assetId
        Demo.upload.now] (.load Demo.upload.assetId Demo.upload.now) = .loaded (.ok stored)) ∧
    ∃ error, outcomeAfter Demo.hexdigest [.store Demo.upload, .load Demo.upload.assetId
        Demo.upload.now] (.load Demo.upload.assetId Demo.nextWeek) = .loaded (.error error) := by
  obtain ⟨stored, hcheck, hexpires⟩ := Demo.check_uploadAt CultureShift.Demo.nextDay?_now
  have hleaves : ∀ call ∈ [LifecycleCall.load Demo.upload.assetId Demo.upload.now],
      call.Leaves Demo.hexdigest Demo.upload.assetId := by
    intro call hcall
    obtain rfl := List.mem_singleton.mp hcall
    exact trivial
  have hopen : (filesAfter Demo.hexdigest ∅ []).get?
      (.tombstone (tombstoneDigest Demo.hexdigest (Demo.uploadAt Demo.upload.now).assetId)) =
        none := rfl
  constructor
  · exact ⟨_, (loaded_until_expiry Demo.tombstoneDigest_injective hcheck hexpires hopen hleaves
      ⟨by decide, fun now h => by simp at h⟩).1 (by decide)⟩
  · exact (loaded_until_expiry Demo.tombstoneDigest_injective hcheck hexpires hopen hleaves
      ⟨by decide, fun now h => by simp at h⟩).2 (by decide)

end Stored

/-- A file of the directory under this identifier. -/
def HasFile (files : Files AssetPath FileContent) (assetId : UUID) : Prop :=
  ∃ path ∈ assetPaths assetId, files.get? path ≠ none

/-- Nothing has expired right after a purge. -/
theorem not_expired_purged (hexdigest : List UInt8 → Sha256) (calls : List LifecycleCall)
    {now cutoff : Datetime} (hcutoff : now.daysBefore? 7 = some cutoff) (assetId : UUID) :
    cellsAfter hexdigest (fun _ => .absent) (calls ++ [.purge now]) assetId =
        (cellsAfter hexdigest (fun _ => .absent) calls assetId).purge now cutoff ∧
      ¬(cellsAfter hexdigest (fun _ => .absent) (calls ++ [.purge now]) assetId).Expired now := by
  have hpurged : cellsAfter hexdigest (fun _ => .absent) (calls ++ [.purge now]) assetId =
      (cellsAfter hexdigest (fun _ => .absent) calls assetId).purge now cutoff := by
    rw [cellsAfter_append, cellsAfter, List.flatMap_cons, changesOf, hcutoff]
    rfl
  refine ⟨hpurged, ?_⟩
  rw [hpurged]
  exact Cell.not_expired_reopen Cell.not_expired_expire

theorem hasFile_purged (hinjective : Function.Injective (tombstoneDigest hexdigest))
    {calls : List LifecycleCall} {now : Datetime} (horder : InOrder (calls ++ [.purge now]))
    {assetId : UUID} (h : HasFile (filesAfter hexdigest ∅ (calls ++ [.purge now])) assetId) :
    ∃ stored expiresAt, (filesAfter hexdigest ∅ (calls ++ [.purge now])).get?
        (.metadata assetId) = some (.text (metadata stored)) ∧
      stored.asset.expiresAt = some expiresAt ∧ now < expiresAt := by
  obtain ⟨cutoff, hcutoff⟩ :=
    horder.weeks now (List.mem_append_right _ (List.mem_singleton_self _))
  obtain ⟨slots, hkeeps, -⟩ := keeps_after hinjective horder
  obtain ⟨path, hpath, hfile⟩ := h
  have hslot := hkeeps.holds.slot assetId
  have hown := hkeeps.cell assetId
  obtain ⟨-, hunexpired⟩ := not_expired_purged hexdigest calls hcutoff assetId
  cases hheld : slots assetId with
  | absent =>
      rw [hheld] at hslot
      exact absurd (hslot.2 path hpath) hfile
  | closed =>
      rw [hheld] at hslot
      exact absurd (hslot.2 path hpath) hfile
  | present upload =>
      rw [hheld] at hslot hown
      obtain ⟨rfl, -, -, type, stored, hholding⟩ := hslot
      generalize cellsAfter hexdigest _ _ upload.assetId = cell at hown hunexpired
      cases hown with
      | live hcheck hexpires =>
          rw [hholding.check] at hcheck
          cases hcheck
          exact ⟨stored, _, hholding.metadata, hexpires, not_le.mp hunexpired⟩

theorem purge_again (hinjective : Function.Injective (tombstoneDigest hexdigest))
    {calls : List LifecycleCall} {now : Datetime} (horder : InOrder (calls ++ [.purge now])) :
    serveCall hexdigest (filesAfter hexdigest ∅ (calls ++ [.purge now])) (.purge now) =
      (.purged (.ok 0), filesAfter hexdigest ∅ (calls ++ [.purge now])) := by
  obtain ⟨cutoff, hcutoff⟩ :=
    horder.weeks now (List.mem_append_right _ (List.mem_singleton_self _))
  obtain ⟨slots, hkeeps, -⟩ := keeps_after hinjective horder
  have hpurged (assetId : UUID) := not_expired_purged hexdigest calls hcutoff assetId
  have hidle : Yields (purgeExpired hexdigest now) _ (.ok 0) :=
    hkeeps.purge_idle hcutoff (fun assetId => (hpurged assetId).2) fun assetId since hclosed => by
      rw [(hpurged assetId).1] at hclosed
      exact Cell.lt_of_purge_closed hclosed
  rw [serveCall, hidle.run]
  rfl

/-- After a purge, whatever files an asset has are those of one that has not expired; and the
same purge again removes nothing and changes no file. -/
theorem purged_once (hinjective : Function.Injective (tombstoneDigest hexdigest))
    {calls : List LifecycleCall} {now : Datetime} (horder : InOrder (calls ++ [.purge now])) :
    (∀ assetId, HasFile (filesAfter hexdigest ∅ (calls ++ [.purge now])) assetId →
      ∃ stored expiresAt, (filesAfter hexdigest ∅ (calls ++ [.purge now])).get?
          (.metadata assetId) = some (.text (metadata stored)) ∧
        stored.asset.expiresAt = some expiresAt ∧ now < expiresAt) ∧
    serveCall hexdigest (filesAfter hexdigest ∅ (calls ++ [.purge now])) (.purge now) =
      (.purged (.ok 0), filesAfter hexdigest ∅ (calls ++ [.purge now])) :=
  ⟨fun _ => hasFile_purged hinjective horder, purge_again hinjective horder⟩

/-- An upload and its deletion. -/
def Demo.deletion : List LifecycleCall :=
  [.store upload, .delete upload.assetId upload.now]

theorem purged_once_week :
    (∀ assetId, HasFile (filesAfter Demo.hexdigest ∅ (Demo.deletion ++ [.purge Demo.nextWeek]))
        assetId → ∃ stored expiresAt,
      (filesAfter Demo.hexdigest ∅ (Demo.deletion ++ [.purge Demo.nextWeek])).get?
          (.metadata assetId) = some (.text (metadata stored)) ∧
        stored.asset.expiresAt = some expiresAt ∧ Demo.nextWeek < expiresAt) ∧
    serveCall Demo.hexdigest
        (filesAfter Demo.hexdigest ∅ (Demo.deletion ++ [.purge Demo.nextWeek]))
        (.purge Demo.nextWeek) =
      (.purged (.ok 0), filesAfter Demo.hexdigest ∅ (Demo.deletion ++ [.purge Demo.nextWeek])) := by
  refine purged_once Demo.tombstoneDigest_injective ⟨by decide, fun now h => ?_⟩
  simp [Demo.deletion] at h
  exact h ▸ ⟨_, Demo.daysBefore?_nextWeek⟩

end AssetStorage

end CultureShift
