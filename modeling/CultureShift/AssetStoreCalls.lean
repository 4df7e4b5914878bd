/-
# Calls on two asset stores

From empty stores, the same calls have the same outcomes as long as nothing is
stored over an upload and nothing is loaded before it was created. A store that
raises removes by name what it may have written, and with it what was there.
-/

import CultureShift.AssetStores
import CultureShift.FixtureDemo

namespace CultureShift

open Serialization Relational Storage

namespace AssetStorage

open CompositionStorage (FileContent)

namespace Stores

variable {hexdigest : List UInt8 → Sha256} {stores : Stores}

theorem slots_store_absent {upload : Upload} {checked : AssetType × StoredAsset}
    (hcheck : upload.check hexdigest = .ok checked)
    (habsent : stores.slots upload.assetId = .absent) :
    (stores.step hexdigest (.store upload)).slots upload.assetId = .present upload := by
  show storeSlots hexdigest stores.slots upload upload.assetId = _
  rw [storeSlots, hcheck, habsent]
  exact Function.update_self ..

theorem slots_load (assetId : UUID) (now : Datetime) :
    (stores.step hexdigest (.load assetId now)).slots = stores.slots := rfl

theorem slots_delete (assetId : UUID) (now : Datetime) :
    (stores.step hexdigest (.delete assetId now)).slots assetId = .closed :=
  Function.update_self ..

/-- A store of what was deleted is refused in both. -/
theorem not_distinguishes_of_closed {upload : Upload}
    (h : stores.slots upload.assetId = .closed) :
    ¬Distinguishes hexdigest stores (.store upload) := by
  rintro ⟨-, hpresent⟩
  rw [h] at hpresent
  cases hpresent

theorem isPresent_of_not_distinguishes {upload : Upload} {checked : AssetType × StoredAsset}
    (hcheck : upload.check hexdigest = .ok checked)
    (h : ¬Distinguishes hexdigest stores (.store upload)) :
    (stores.slots upload.assetId).isPresent = false := by
  rw [← Bool.not_eq_true]
  exact fun hpresent => h ⟨⟨checked, hcheck⟩, hpresent⟩

/-- A call that does not tell the stores apart keeps them in agreement. -/
theorem Agree.step (hinjective : Function.Injective (tombstoneDigest hexdigest))
    (h : Agree hexdigest stores) {call : Call} (hsame : ¬Distinguishes hexdigest stores call) :
    Agree hexdigest (stores.step hexdigest call) := by
  cases call with
  | store upload =>
      cases hcheck : upload.check hexdigest with
      | error error => exact (h.store_refused hcheck).2
      | ok checked => exact (h.store upload (isPresent_of_not_distinguishes hcheck hsame)).2
  | load assetId now => exact h.load assetId now
  | delete assetId now => exact (h.delete hinjective assetId now).2

/-- Where the stores agree, the state alone decides whether a call tells them apart. -/
theorem Agree.sameOutcome_iff (hinjective : Function.Injective (tombstoneDigest hexdigest))
    (h : Agree hexdigest stores) (call : Call) :
    SameOutcome hexdigest stores call ↔ ¬Distinguishes hexdigest stores call := by
  cases call with
  | store upload =>
      constructor
      · intro hsame hdistinguishes
        exact h.store_present hdistinguishes hsame
      · intro hsame
        cases hcheck : upload.check hexdigest with
        | error error => exact (h.store_refused hcheck).1
        | ok checked => exact (h.store upload (isPresent_of_not_distinguishes hcheck hsame)).1
  | load assetId now => exact h.load_iff assetId now
  | delete assetId now =>
      constructor
      · intro _ hdistinguishes
        exact hdistinguishes
      · intro _
        exact (h.delete hinjective assetId now).1

end Stores

/-- From empty stores, every call of a sequence has the same outcome in both exactly when none
stores over an upload or loads one before its creation. -/
theorem calls_agree_iff (hexdigest : List UInt8 → Sha256)
    (hinjective : Function.Injective (tombstoneDigest hexdigest)) (calls : List Call) :
    Sequential.EachStep (Stores.step hexdigest) (Stores.SameOutcome hexdigest) Stores.empty calls ↔
      Sequential.EachStep (Stores.step hexdigest)
        (fun stores call => ¬stores.Distinguishes hexdigest call) Stores.empty calls := by
  apply Sequential.eachStep_iff_eachStep (Stores.Agree hexdigest) Stores.agree_empty
  · intro stores call hagree hsame
    exact hagree.step hinjective hsame
  · intro stores call hagree
    exact hagree.sameOutcome_iff hinjective call

/-! ## The upload of the demo -/

/-- The class `[a-f0-9]` has the digits up to base 16, and no space. -/
theorem digitChar_hex {digit : Nat} (h : digit < 16) :
    (('a' ≤ Nat.digitChar digit && Nat.digitChar digit ≤ 'f') || isDigit (Nat.digitChar digit)) =
      true ∧ isSpace (Nat.digitChar digit) = false := by
  interval_cases digit <;> decide

theorem isSha256_digits {n : Nat} (h : n < 16 ^ 64) : isSha256 (digits 16 64 n) = true := by
  rw [isSha256, digits_length, beq_self_eq_true, Bool.true_and, List.all_eq_true]
  intro c hc
  obtain ⟨digit, hdigit, rfl⟩ := exists_of_mem_digits h hc
  exact (digitChar_hex hdigit).1

theorem isUnpadded_digits {width n : Nat} (h : n < 16 ^ width) :
    isUnpadded (digits 16 width n) = true := by
  have hspace : ∀ c ∈ digits 16 width n, isSpace c = false := by
    intro c hc
    obtain ⟨digit, hdigit, rfl⟩ := exists_of_mem_digits h hc
    exact (digitChar_hex hdigit).2
  rw [isUnpadded, Bool.and_eq_true, Option.all_eq_true, Option.all_eq_true]
  constructor
  · intro c hc
    rw [hspace c (List.mem_of_head? hc), Bool.not_false]
  · intro c hc
    rw [hspace c (List.mem_of_getLast? hc), Bool.not_false]

namespace Demo

/-- An identifier, filled up with zeros to the length of a digest. -/
def padded (assetId : UUID) : Sha256 :=
  have hbound : assetId.value < 16 ^ 64 :=
    assetId.bounded.trans_le (Nat.pow_le_pow_right (by decide) (by decide))
  ⟨String.ofList (digits 16 64 assetId.value), strip_ofList (isUnpadded_digits hbound),
    accepts_ofList (isSha256_digits hbound)⟩

theorem padded_injective : Function.Injective padded := by
  intro first second heq
  have hdigits := String.ofList_injective (congrArg PatternText.text heq)
  have hread (assetId : UUID) :
      readDigits 16 64 0 (digits 16 64 assetId.value) = some (assetId.value, []) := by
    have hbound : assetId.value < 16 ^ 64 :=
      assetId.bounded.trans_le (Nat.pow_le_pow_right (by decide) (by decide))
    simpa using readDigits_digits (le_refl 16) 64 0 assetId.value [] hbound
  have hvalue := (hread first).symm.trans ((congrArg _ hdigits).trans (hread second))
  cases first
  cases second
  simpa using hvalue

/-- The SHA-256 digest of the text of the identifier. -/
def assetIdDigest : Sha256 :=
  ⟨"9fd0348ef3655bee7fd76d668ba22c20a29a76cbc5a51f382018fc1c7b33e48b", strip_ofList (by decide),
    accepts_ofList (by decide)⟩

/-- The SHA-256 digest of the PNG signature. -/
def signatureDigest : Sha256 :=
  ⟨"4c4b6a3be1314ab86138bef4314dde022e600960d8689a2c8f8631802d20dab6", strip_ofList (by decide),
    accepts_ofList (by decide)⟩

/-- A digest that tells identifiers apart, which is the SHA-256 digest for the identifier and the
content of the demo. -/
def hexdigest (bytes : List UInt8) : Sha256 :=
  match (String.fromUTF8? ⟨bytes.toArray⟩).bind UUID.ofText? with
  | some assetId =>
      Equiv.swap (padded CultureShift.Demo.assetId) assetIdDigest (padded assetId)
  | none => signatureDigest

theorem tombstoneDigest_hexdigest (assetId : UUID) :
    tombstoneDigest hexdigest assetId =
      Equiv.swap (padded CultureShift.Demo.assetId) assetIdDigest (padded assetId) := by
  have hread : String.fromUTF8? assetId.text.toUTF8 = some assetId.text :=
    dif_pos assetId.text.isValidUTF8
  rw [tombstoneDigest, hexdigest]
  have hbytes : (⟨assetId.text.toUTF8.data.toList.toArray⟩ : ByteArray) = assetId.text.toUTF8 := by
    rw [Array.toArray_toList]
  rw [hbytes, hread, Option.bind_some, UUID.ofText?_text]

theorem tombstoneDigest_injective : Function.Injective (tombstoneDigest hexdigest) := by
  intro first second heq
  rw [tombstoneDigest_hexdigest, tombstoneDigest_hexdigest] at heq
  exact padded_injective ((Equiv.injective _) heq)

/-- The PNG signature, as the source ad of the demo. -/
def upload : Upload where
  data := [0x89, 0x50, 0x4E, 0x47, 0x0D, 0x0A, 0x1A, 0x0A]
  declaredMediaType := "image/png"
  provenanceRef := CultureShift.Demo.sourceAsset.provenanceRef.text
  rightsRef := CultureShift.Demo.sourceAsset.rightsRef.text
  now := CultureShift.Demo.now
  assetId := CultureShift.Demo.assetId

theorem check_upload : ∃ checked, upload.check hexdigest = .ok checked := by
  have hvalid (reference : PublicReference) :
      PatternText.validate reference.text = some reference := PatternText.validate_text reference
  have htype : (StrEnum.ofValue? upload.declaredMediaType : Option AssetType) = some .png := rfl
  have hprovenance : (PatternText.validate upload.provenanceRef : Option PublicReference) =
      some CultureShift.Demo.sourceAsset.provenanceRef := hvalid _
  have hrights : (PatternText.validate upload.rightsRef : Option PublicReference) =
      some CultureShift.Demo.sourceAsset.rightsRef := hvalid _
  have hexpiry : upload.now.nextDay? = some CultureShift.Demo.tomorrow :=
    CultureShift.Demo.nextDay?_now
  rw [Upload.check, htype, hprovenance, hrights, hexpiry, orRaise_some, ok_bind,
    require_of _ (by decide), require_of _ (by decide), require_of _ (by decide)]
  exact ⟨_, rfl⟩

theorem slots_upload :
    (Stores.empty.step hexdigest (.store upload)).slots upload.assetId = .present upload := by
  obtain ⟨checked, hcheck⟩ := check_upload
  exact Stores.slots_store_absent hcheck rfl

end Demo

/-- An upload, loaded as soon as it is stored, deleted, loaded again and stored again. -/
theorem calls_agree_upload :
    Sequential.EachStep (Stores.step Demo.hexdigest) (Stores.SameOutcome Demo.hexdigest)
      Stores.empty
      [.store Demo.upload, .load Demo.upload.assetId Demo.upload.now,
        .delete Demo.upload.assetId Demo.upload.now,
        .load Demo.upload.assetId Demo.upload.now, .store Demo.upload] := by
  apply (calls_agree_iff Demo.hexdigest Demo.tombstoneDigest_injective _).mpr
  refine ⟨?_, ?_, ?_, ?_, ?_, trivial⟩
  · rintro ⟨-, hpresent⟩
    cases hpresent
  · rintro ⟨held, hslot, hearly⟩
    cases Demo.slots_upload.symm.trans hslot
    exact lt_irrefl _ hearly
  · exact id
  · rintro ⟨held, hslot, -⟩
    cases (Stores.slots_delete _ _).symm.trans hslot
  · apply Stores.not_distinguishes_of_closed
    rw [Stores.slots_load]
    exact Stores.slots_delete _ _

/-- Only the cloud store refuses the same upload the second time. -/
theorem not_calls_agree :
    ¬Sequential.EachStep (Stores.step Demo.hexdigest) (Stores.SameOutcome Demo.hexdigest)
      Stores.empty [.store Demo.upload, .store Demo.upload] := by
  rintro ⟨-, hsame, -⟩
  have hagree : Stores.Agree Demo.hexdigest
      (Stores.empty.step Demo.hexdigest (.store Demo.upload)) :=
    (Stores.agree_empty.store Demo.upload rfl).2
  have hpresent : ((Stores.empty.step Demo.hexdigest (.store Demo.upload)).slots
      Demo.upload.assetId).isPresent = true := by
    rw [Demo.slots_upload]
    rfl
  exact hagree.store_present ⟨Demo.check_upload, hpresent⟩ hsame

/-! ## A store that raises -/

/-- A store that raises destroys an asset exactly when it has passed its checks, its identifier
names an asset that can be loaded, and the one failure does not stop it in time: neither the
request for the tombstone, nor a cleanup that it keeps from removing what a load needs. -/
theorem raised_store_keeps_iff (hexdigest : List UInt8 → Sha256) (upload : Upload)
    (fault : Option (Fault FileContent)) :
    (∀ files error, (FileProgram.run (store hexdigest upload) files fault).1 = .error error →
      (Kept hexdigest files (FileProgram.run (store hexdigest upload) files fault).2 ↔
        (∃ refused, upload.check hexdigest = .error refused) ∨
          (¬∃ now loaded, Loads hexdigest files upload.assetId now loaded) ∨
          ∃ type stored, upload.check hexdigest = .ok (type, stored) ∧
            StoppedInTime hexdigest files fault upload.assetId type)) ∧
    ∀ objects error,
      (FileProgram.run (Cloud.store hexdigest upload) objects fault).1 = .error error →
      (Cloud.Kept hexdigest objects
          (FileProgram.run (Cloud.store hexdigest upload) objects fault).2 ↔
        (∃ refused, upload.check hexdigest = .error refused) ∨
          (¬∃ now loaded, Cloud.Loads hexdigest objects upload.assetId now loaded) ∨
          ∃ type stored, upload.check hexdigest = .ok (type, stored) ∧
            Cloud.StoppedInTime hexdigest objects fault upload.assetId type) := by
  constructor
  · intro files error hraised
    exact kept_iff hraised
  · intro objects error _
    exact Cloud.kept_iff

section

variable {hexdigest : List UInt8 → Sha256} {files : Files AssetPath FileContent} {upload : Upload}
  {checked : AssetType × StoredAsset}

/-- Where no tombstone stands, a store fails when the write of its part does. -/
theorem store_struck (hcheck : upload.check hexdigest = .ok checked)
    (hopen : files.get? (.tombstone (tombstoneDigest hexdigest upload.assetId)) = none)
    (damage : Damage FileContent) :
    (FileProgram.run (store hexdigest upload) files (some ⟨1, damage⟩)).1 =
      .error writeFailed := by
  have hstore : FileProgram.Ensures (store hexdigest upload) ⟨files, some ⟨1, damage⟩⟩
      (fun _ _ => False) fun error _ => error = writeFailed := by
    rw [store_of_check hcheck]
    apply FileProgram.ensures_bind
    apply ensures_requireOpen _ fun hclosed => absurd hopen hclosed
    intro _
    apply FileProgram.ensures_bind
    apply FileProgram.ensures_tryCatch
    apply FileProgram.ensures_bind
    apply FileProgram.ensures_mkdir_struck
    · exact fun hfirst => absurd (hfirst.unique ⟨damage, rfl⟩) (by decide)
    · intro _
      apply FileProgram.ensures_bind
      exact rfl
  rcases hstore.run with ⟨_, _, -, hfalse⟩ | ⟨error, _, hrun, rfl⟩
  · exact hfalse.elim
  · rw [hrun]

/-- A store that finds a part in its way fails when its first unlink does. -/
theorem store_blocked (hcheck : upload.check hexdigest = .ok checked)
    (hopen : files.get? (.tombstone (tombstoneDigest hexdigest upload.assetId)) = none)
    (hpart : files.get? (.part upload.assetId) ≠ none) (damage : Damage FileContent) :
    (FileProgram.run (store hexdigest upload) files (some ⟨2, damage⟩)).1 = .error .osError := by
  have hstore : FileProgram.Ensures (store hexdigest upload) ⟨files, some ⟨2, damage⟩⟩
      (fun _ _ => False) fun error _ => error = .osError := by
    rw [store_of_check hcheck]
    apply FileProgram.ensures_bind
    apply ensures_requireOpen _ fun hclosed => absurd hopen hclosed
    intro _
    apply FileProgram.ensures_bind
    apply FileProgram.ensures_tryCatch
    unfold place
    rw [(checked_of_check hcheck).assetId]
    apply FileProgram.ensures_bind
    apply FileProgram.ensures_mkdir_struck
    · exact fun hfirst => absurd (hfirst.unique ⟨damage, rfl⟩) (by decide)
    · intro _
      apply FileProgram.ensures_bind
      apply FileProgram.ensures_exclusiveWrite_taken hpart
      · intro hfirst
        have hzero : 0 = 1 := hfirst.unique ⟨damage, rfl⟩
        cases hzero
      · exact fun _ => rfl
  rcases hstore.run with ⟨_, _, -, hfalse⟩ | ⟨error, _, hrun, rfl⟩
  · exact hfalse.elim
  · rw [hrun]

end

/-- Both stores load an upload that they hold as soon as it was stored. -/
theorem Stores.Agree.loads {hexdigest : List UInt8 → Sha256} {stores : Stores} {held : Upload}
    {assetId : UUID} {expiresAt : Datetime} (h : Agree hexdigest stores)
    (hslot : stores.slots assetId = .present held)
    (hexpires : held.now.nextDay? = some expiresAt) (hlater : held.now < expiresAt) :
    (∃ now loaded, Loads hexdigest stores.files assetId now loaded) ∧
      ∃ now loaded, Cloud.Loads hexdigest stores.objects assetId now loaded := by
  have hheld := h.1.slot assetId
  rw [hslot] at hheld
  obtain ⟨rfl, -, -, type, stored, hholding⟩ := hheld
  have hchecked := checked_of_check hholding.check
  obtain ⟨date, hdate, hnext⟩ := hchecked.expiresAt
  obtain rfl : expiresAt = date := Option.some.inj (hexpires.symm.trans hnext)
  have hresult (early : Exc) : loadResult hexdigest early stores.slots held.assetId held.now =
      .ok ⟨stored.asset, held.data⟩ := by
    rw [loadResult, hslot]
    dsimp only
    rw [hholding.check, ok_bind]
    dsimp only
    rw [loadedAt, require_of _ hchecked.createdAt.le, ok_bind, requireFresh, hdate]
    dsimp only
    rw [require_of _ hlater, ok_bind]
    rfl
  refine ⟨⟨held.now, ⟨stored.asset, held.data⟩, ?_⟩, held.now, ⟨stored.asset, held.data⟩, ?_⟩
  · rw [Loads, h.1.load, hresult]
  · rw [Cloud.Loads, h.2.load, hresult]

/-- The stores after the upload of the demo. -/
def Demo.held : Stores := Stores.empty.step Demo.hexdigest (.store Demo.upload)

theorem Demo.agree_held : Stores.Agree Demo.hexdigest Demo.held :=
  (Stores.agree_empty.store Demo.upload rfl).2

theorem Demo.loads_held :
    (∃ now loaded, Loads Demo.hexdigest Demo.held.files Demo.upload.assetId now loaded) ∧
      ∃ now loaded, Cloud.Loads Demo.hexdigest Demo.held.objects Demo.upload.assetId now loaded :=
  Demo.agree_held.loads Demo.slots_upload CultureShift.Demo.nextDay?_now (by decide)

theorem Demo.open_held :
    Demo.held.files.get? (.tombstone (tombstoneDigest Demo.hexdigest Demo.upload.assetId)) =
      none := by
  have hheld := Demo.agree_held.1.slot Demo.upload.assetId
  rw [Demo.held, Demo.slots_upload] at hheld
  obtain ⟨-, -, -, type, stored, hholding⟩ := hheld
  exact hholding.is_open

/-- A second store of the upload whose first write fails. -/
theorem Demo.store_held :
    (FileProgram.run (store Demo.hexdigest Demo.upload) Demo.held.files (some ⟨1, .none⟩)).1 =
      .error writeFailed := by
  obtain ⟨checked, hcheck⟩ := Demo.check_upload
  exact store_struck hcheck Demo.open_held .none

/-- What is held, and a part that an interrupted store has left. -/
def Demo.heldFiles : Files AssetPath FileContent :=
  Demo.held.files.write (.part Demo.upload.assetId) .torn

theorem Demo.not_refused : ¬∃ refused, Demo.upload.check Demo.hexdigest = .error refused := by
  rintro ⟨refused, hrefused⟩
  obtain ⟨checked, hcheck⟩ := Demo.check_upload
  cases hcheck.symm.trans hrefused

theorem Demo.not_stoppedInTime (type : AssetType) :
    ¬StoppedInTime Demo.hexdigest Demo.held.files (some ⟨1, .none⟩) Demo.upload.assetId type := by
  rintro ⟨start, count, hstart, hstrikes, -⟩
  have hcount : start + count = 1 := hstrikes.unique ⟨.none, rfl⟩
  have hbound := two_le_cleanupOperation hstart
  omega

/-- When its first write fails, the local store destroys what it holds; when a part is in its way
and its first unlink fails, it does not, and neither does the cloud store when its first request
fails. -/
theorem raised_store_keeps_held :
    ¬Kept Demo.hexdigest Demo.held.files
        (FileProgram.run (store Demo.hexdigest Demo.upload) Demo.held.files
          (some ⟨1, .none⟩)).2 ∧
      Kept Demo.hexdigest Demo.heldFiles
        (FileProgram.run (store Demo.hexdigest Demo.upload) Demo.heldFiles
          (some ⟨2, .none⟩)).2 ∧
      Cloud.Kept Demo.hexdigest Demo.held.objects
        (FileProgram.run (Cloud.store Demo.hexdigest Demo.upload) Demo.held.objects
          (some ⟨0, .none⟩)).2 := by
  obtain ⟨⟨type, stored⟩, hcheck⟩ := Demo.check_upload
  refine ⟨?_, ?_, ?_⟩
  · rw [(raised_store_keeps_iff Demo.hexdigest Demo.upload _).1 _ _ Demo.store_held]
    rintro (hrefused | hnone | ⟨type, stored, -, hstopped⟩)
    · exact Demo.not_refused hrefused
    · exact hnone Demo.loads_held.1
    · exact Demo.not_stoppedInTime type hstopped
  · have hopen : Demo.heldFiles.get?
        (.tombstone (tombstoneDigest Demo.hexdigest Demo.upload.assetId)) = none := by
      rw [Demo.heldFiles, Files.get?_write, if_neg nofun]
      exact Demo.open_held
    have hpart : Demo.heldFiles.get? (.part Demo.upload.assetId) = some .torn := by
      rw [Demo.heldFiles, Files.get?_write, if_pos rfl]
    have hstart : cleanupOperation Demo.heldFiles Demo.upload.assetId = some 2 := by
      rw [cleanupOperation, hpart]
      rfl
    rw [(raised_store_keeps_iff Demo.hexdigest Demo.upload _).1 _ _
      (store_blocked hcheck hopen (by simp [hpart]) .none)]
    refine Or.inr (Or.inr ⟨type, stored, hcheck, 2, 0, hstart, ⟨.none, rfl⟩, ?_, Or.inl ?_⟩)
    · exact Nat.succ_pos _
    · exact Nat.zero_le _
  · have hraised : (FileProgram.run (Cloud.store Demo.hexdigest Demo.upload) Demo.held.objects
        (some ⟨0, .none⟩)).1 = .error .objectStorageError := by
      rw [Cloud.store_of_check hcheck]
      rfl
    rw [(raised_store_keeps_iff Demo.hexdigest Demo.upload _).2 _ _ hraised]
    exact Or.inr (Or.inr ⟨type, stored, hcheck, Or.inl ⟨.none, rfl⟩⟩)

/-- A second store of the same upload destroys what is held: in the local store when its first
write fails, in the cloud store without any failure. -/
theorem not_raised_store_keeps :
    (∃ error, (FileProgram.run (store Demo.hexdigest Demo.upload) Demo.held.files
        (some ⟨1, .none⟩)).1 = .error error) ∧
      ¬Kept Demo.hexdigest Demo.held.files
        (FileProgram.run (store Demo.hexdigest Demo.upload) Demo.held.files
          (some ⟨1, .none⟩)).2 ∧
      (∃ error, (FileProgram.run (Cloud.store Demo.hexdigest Demo.upload) Demo.held.objects
        none).1 = .error error) ∧
      ¬Cloud.Kept Demo.hexdigest Demo.held.objects
        (FileProgram.run (Cloud.store Demo.hexdigest Demo.upload) Demo.held.objects none).2 := by
  refine ⟨⟨_, Demo.store_held⟩, ?_, ?_, ?_⟩
  · rw [kept_iff Demo.store_held]
    rintro (hrefused | hnone | ⟨type, stored, -, hstopped⟩)
    · exact Demo.not_refused hrefused
    · exact hnone Demo.loads_held.1
    · exact Demo.not_stoppedInTime type hstopped
  · obtain ⟨⟨type, stored⟩, hcheck⟩ := Demo.check_upload
    exact Demo.agree_held.2.store_present Demo.slots_upload hcheck
  · rw [Cloud.kept_iff]
    rintro (hrefused | hnone | ⟨_, _, -, hstrikes | ⟨_, ⟨⟩, -⟩⟩)
    · exact Demo.not_refused hrefused
    · exact hnone Demo.loads_held.2
    · exact FileProgram.not_strikes_none hstrikes

end AssetStorage

end CultureShift
