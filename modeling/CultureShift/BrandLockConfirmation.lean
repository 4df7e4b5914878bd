/-
# Confirming a Brand Lock

The only edits a confirmation may make to the analysed Brand Lock: reorder the
benefits, and withdraw some of the localizable fields.
-/

import CultureShift.Contracts.Artifacts
import CultureShift.FixtureDemo
import CultureShift.Relational.Transaction

namespace CultureShift

open Relational

/-- The fields a confirmation must leave as they were analysed. -/
def LockedFieldsKept (proposed analyzed : BrandLock) : Prop :=
  proposed.logoAssetId = analyzed.logoAssetId ∧ proposed.productName = analyzed.productName ∧
    proposed.verifiedProductFacts = analyzed.verifiedProductFacts ∧
    proposed.productUiAssetIds = analyzed.productUiAssetIds ∧
    proposed.ctaActionMeaning = analyzed.ctaActionMeaning ∧
    proposed.layoutTemplateAssetId = analyzed.layoutTemplateAssetId

instance (proposed analyzed : BrandLock) : Decidable (LockedFieldsKept proposed analyzed) :=
  inferInstanceAs (Decidable (_ ∧ _ ∧ _ ∧ _ ∧ _ ∧ _))

/-- Equality of the sets of elements. -/
def SameElements {α : Type} (first second : List α) : Prop :=
  (∀ value ∈ first, value ∈ second) ∧ ∀ value ∈ second, value ∈ first

instance {α : Type} [DecidableEq α] (first second : List α) :
    Decidable (SameElements first second) :=
  inferInstanceAs (Decidable (_ ∧ _))

/-- `validate_brand_lock_confirmation`. -/
def validateBrandLockConfirmation (proposed analyzed : BrandLock) : Except Exc BrandLock := do
  require (LockedFieldsKept proposed analyzed) (.brandLockConfirmationError .lockedFieldChanged)
  require
    (proposed.benefitOrder.length = analyzed.benefitOrder.length ∧
      SameElements proposed.benefitOrder analyzed.benefitOrder)
    (.brandLockConfirmationError .benefitOrderInvalid)
  require (∀ field ∈ proposed.localizableFields, field ∈ analyzed.localizableFields)
    (.brandLockConfirmationError .localizableFieldsInvalid)
  return proposed

/-- What a confirmation has in common with the analysed Brand Lock. -/
structure Confirms (confirmed analyzed : BrandLock) : Prop where
  locked : LockedFieldsKept confirmed analyzed
  benefits : confirmed.benefitOrder.length = analyzed.benefitOrder.length ∧
    SameElements confirmed.benefitOrder analyzed.benefitOrder
  localizable : ∀ field ∈ confirmed.localizableFields, field ∈ analyzed.localizableFields

/-- The validator accepts exactly the confirmations, and returns them as
proposed. -/
theorem validateBrandLockConfirmation_eq_ok_iff {proposed analyzed validated : BrandLock} :
    validateBrandLockConfirmation proposed analyzed = .ok validated ↔
      validated = proposed ∧ Confirms proposed analyzed := by
  simp only [validateBrandLockConfirmation, bind_eq_ok, require_eq_ok]
  constructor
  · rintro ⟨-, hlocked, -, hbenefits, -, hfields, hvalue⟩
    exact ⟨(Except.ok.inj hvalue).symm, hlocked, hbenefits, hfields⟩
  · rintro ⟨rfl, hconfirms⟩
    exact ⟨(), hconfirms.locked, (), hconfirms.benefits, (), hconfirms.localizable, rfl⟩

/-! ## What a confirmation admits -/

/-- Without duplicates, lists with the same elements are permutations of each other. -/
theorem sameElements_iff_perm {α : Type} {first second : List α} (hfirst : first.Nodup)
    (hsecond : second.Nodup) : SameElements first second ↔ first.Perm second := by
  rw [List.perm_ext_iff_of_nodup hfirst hsecond]
  constructor
  · intro h value
    exact ⟨h.1 value, h.2 value⟩
  · intro h
    exact ⟨fun value => (h value).mp, fun value => (h value).mpr⟩

/-- Some of the values, at least one, each once. -/
def SelectionOf {α : Type} (selected available : List α) : Prop :=
  selected ≠ [] ∧ selected.Nodup ∧ selected ⊆ available

/-- The edits that are admitted: the benefits in another order, and some of the fields. -/
structure Edits (proposed analyzed : BrandLock) : Prop where
  logo : proposed.logoAssetId = analyzed.logoAssetId
  productName : proposed.productName = analyzed.productName
  facts : proposed.verifiedProductFacts = analyzed.verifiedProductFacts
  productUi : proposed.productUiAssetIds = analyzed.productUiAssetIds
  ctaActionMeaning : proposed.ctaActionMeaning = analyzed.ctaActionMeaning
  layoutTemplate : proposed.layoutTemplateAssetId = analyzed.layoutTemplateAssetId
  benefits : proposed.benefitOrder.Perm analyzed.benefitOrder
  fields : SelectionOf proposed.localizableFields analyzed.localizableFields

/-- The contract keeps the sequences of both free of duplicates. -/
theorem confirms_iff_edits {proposed analyzed : BrandLock} :
    Confirms proposed analyzed ↔ Edits proposed analyzed := by
  have hbenefits := sameElements_iff_perm proposed.sequences_unique.2.2.1
    analyzed.sequences_unique.2.2.1
  constructor
  · intro h
    obtain ⟨hlogo, hname, hfacts, hui, hcta, hlayout⟩ := h.locked
    have hsome : proposed.localizableFields ≠ [] :=
      List.ne_nil_of_length_pos proposed.lengths_valid.2.2.2.1
    exact ⟨hlogo, hname, hfacts, hui, hcta, hlayout, hbenefits.mp h.benefits.2, hsome,
      proposed.sequences_unique.2.2.2, h.localizable⟩
  · intro h
    exact ⟨⟨h.logo, h.productName, h.facts, h.productUi, h.ctaActionMeaning, h.layoutTemplate⟩,
      ⟨h.benefits.length_eq, hbenefits.mpr h.benefits⟩, h.fields.2.2⟩

theorem Edits.refl (lock : BrandLock) : Edits lock lock := by
  have hsome : lock.localizableFields ≠ [] :=
    List.ne_nil_of_length_pos lock.lengths_valid.2.2.2.1
  exact ⟨rfl, rfl, rfl, rfl, rfl, rfl, .refl _, hsome, lock.sequences_unique.2.2.2,
    List.Subset.refl _⟩

theorem Edits.trans {first second third : BrandLock} (h : Edits first second)
    (hnext : Edits second third) : Edits first third where
  logo := h.logo.trans hnext.logo
  productName := h.productName.trans hnext.productName
  facts := h.facts.trans hnext.facts
  productUi := h.productUi.trans hnext.productUi
  ctaActionMeaning := h.ctaActionMeaning.trans hnext.ctaActionMeaning
  layoutTemplate := h.layoutTemplate.trans hnext.layoutTemplate
  benefits := h.benefits.trans hnext.benefits
  fields := ⟨h.fields.1, h.fields.2.1, List.Subset.trans h.fields.2.2 hnext.fields.2.2⟩

/-- Exactly the admitted edits are accepted, as they were proposed. Every Brand Lock can be
confirmed as it was analyzed, and an edit of an edit is an edit. -/
theorem confirmation_admits_iff :
    (∀ proposed analyzed validated : BrandLock,
      validateBrandLockConfirmation proposed analyzed = .ok validated ↔
        validated = proposed ∧ Edits proposed analyzed) ∧
    (∀ lock, validateBrandLockConfirmation lock lock = .ok lock) ∧
    ∀ first second third : BrandLock,
      validateBrandLockConfirmation first second = .ok first →
      validateBrandLockConfirmation second third = .ok second →
      validateBrandLockConfirmation first third = .ok first := by
  have haccepts : ∀ proposed analyzed validated : BrandLock,
      validateBrandLockConfirmation proposed analyzed = .ok validated ↔
        validated = proposed ∧ Edits proposed analyzed := by
    intro proposed analyzed validated
    rw [validateBrandLockConfirmation_eq_ok_iff, confirms_iff_edits]
  refine ⟨haccepts, ?_, ?_⟩
  · intro lock
    exact (haccepts lock lock lock).mpr ⟨rfl, Edits.refl lock⟩
  · intro first second third hfirst hsecond
    have hedits := ((haccepts first second first).mp hfirst).2
    exact (haccepts first third first).mpr
      ⟨rfl, hedits.trans ((haccepts second third second).mp hsecond).2⟩

theorem confirmation_admits_reordered :
    validateBrandLockConfirmation Demo.reorderedLock Demo.lock = .ok Demo.reorderedLock := by
  have hswap : Demo.reorderedLock.benefitOrder.Perm Demo.lock.benefitOrder := .swap _ _ []
  have hlock := Edits.refl Demo.lock
  exact (confirmation_admits_iff.1 Demo.reorderedLock Demo.lock Demo.reorderedLock).mpr
    ⟨rfl, hlock.logo, hlock.productName, hlock.facts, hlock.productUi, hlock.ctaActionMeaning,
      hlock.layoutTemplate, hswap, hlock.fields⟩

end CultureShift
