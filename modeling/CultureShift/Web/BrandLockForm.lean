/-
# The form that confirms a Brand Lock

The form starts from the analyzed Brand Lock, of which the benefits can be moved
and the localizable fields withdrawn. What it submits is an edit of the Brand
Lock that the confirmation admits, as long as only benefits of the list are
moved: a neighbour of the list has no value, and swapping it in takes a benefit
out.
-/

import CultureShift.BrandLockConfirmation
import CultureShift.Sequential.Reducer

namespace CultureShift

namespace Web

open Relational Sequential

/-! ## Arrays -/

/-- `values[index]`. Where there is no element, there is no value. -/
def element {α : Type} (values : List (Option α)) (index : Int) : Option α :=
  if index < 0 then none else (values[index.toNat]?).join

/-- `values[index] = value`. Behind the end the array grows; in front of it the assignment
makes no element. -/
def assign {α : Type} (values : List (Option α)) (index : Int) (value : Option α) :
    List (Option α) :=
  if index < 0 then values
  else if index.toNat < values.length then values.set index.toNat value
  else values ++ List.replicate (index.toNat - values.length) none ++ [value]

/-- `[values[index], values[target]] = [values[target], values[index]]`. -/
def swap {α : Type} (values : List (Option α)) (index target : Int) : List (Option α) :=
  assign (assign values index (element values target)) target (element values index)

/-! ## The form -/

inductive FormStatus
  | ready | pending | confirmed | error
deriving DecidableEq

/-- One place towards the front or towards the back. -/
inductive Offset
  | up | down
deriving DecidableEq

def Offset.value : Offset → Int
  | up => -1
  | down => 1

structure FormState where
  benefits : List (Option ShortText)
  localizable : List LocalizableField
  acknowledged : Bool
  status : FormStatus
deriving DecidableEq

namespace FormState

def initial (lock : BrandLock) : FormState :=
  ⟨lock.benefitOrder.map some, lock.localizableFields, false, .ready⟩

def Disabled (state : FormState) : Prop := state.status = .pending ∨ state.status = .confirmed

instance (state : FormState) : Decidable state.Disabled := inferInstanceAs (Decidable (_ ∨ _))

def moveBenefit (state : FormState) (index : Int) (offset : Offset) : FormState :=
  let target := index + offset.value
  if target < 0 ∨ target ≥ state.benefits.length ∨ state.Disabled then state
  else { state with benefits := swap state.benefits index target }

/-- A field that is taken back takes its place in the analyzed order. -/
def toggleLocalizable (lock : BrandLock) (state : FormState) (field : LocalizableField) :
    FormState :=
  if state.Disabled then state
  else
    { state with
      localizable :=
        if field ∈ state.localizable then state.localizable.filter (· ≠ field)
        else lock.localizableFields.filter fun value => value ∈ state.localizable ∨ value = field }

/-- The checkbox, which is disabled with the rest of the form. -/
def acknowledge (state : FormState) (acknowledged : Bool) : FormState :=
  if state.Disabled then state else { state with acknowledged }

end FormState

/-- What is sent: the analyzed Brand Lock with the benefits and fields of the form. -/
structure Snapshot where
  lock : BrandLock
  benefitOrder : List (Option ShortText)
  localizableFields : List LocalizableField

/-- The contract of a Brand Lock, which has a place for texts only. -/
def Snapshot.validate (snapshot : Snapshot) : Option BrandLock :=
  (snapshot.benefitOrder.mapM id).bind fun benefitOrder =>
    BrandLock.validate snapshot.lock.logoAssetId snapshot.lock.productName
      snapshot.lock.verifiedProductFacts snapshot.lock.productUiAssetIds benefitOrder
      snapshot.lock.ctaActionMeaning snapshot.lock.layoutTemplateAssetId
      snapshot.localizableFields

/-- The check in front of `confirmBrandLock`, and what is sent if it passes. -/
def FormState.submitted? (lock : BrandLock) (state : FormState) : Option Snapshot :=
  if state.localizable = [] ∨ state.acknowledged = false ∨ state.Disabled then none
  else some ⟨lock, state.benefits, state.localizable⟩

inductive FormEvent
  | moveBenefit (index : Int) (offset : Offset)
  | toggleLocalizable (field : LocalizableField)
  | acknowledge (acknowledged : Bool)
  | submit
  /-- The server has confirmed what was sent, or it has not. -/
  | settle (confirmed : Bool)
deriving DecidableEq

def formReducer (lock : BrandLock) (state : FormState) : FormEvent → FormState
  | .moveBenefit index offset => state.moveBenefit index offset
  | .toggleLocalizable field => state.toggleLocalizable lock field
  | .acknowledge acknowledged => state.acknowledge acknowledged
  | .submit =>
      match state.submitted? lock with
      | none => state
      | some _ => { state with status := .pending }
  | .settle confirmed =>
      if state.status = .pending then
        { state with status := if confirmed then .confirmed else .error }
      else state

/-! ## Moving a benefit -/

section

variable {α : Type} {values : List α}

theorem element_map_some {index : Nat} (h : index < values.length) :
    element (values.map some) index = some values[index] := by
  rw [element, if_neg (by omega), Int.toNat_natCast, List.getElem?_map,
    List.getElem?_eq_getElem h]
  rfl

theorem assign_map_some {index : Nat} (h : index < values.length) (value : α) :
    assign (values.map some) index (some value) = (values.set index value).map some := by
  have hlength : (index : Int).toNat < (values.map some).length := by simpa using h
  rw [assign, if_neg (by omega), if_pos hlength, Int.toNat_natCast, List.map_set]

/-- Benefits of the list change places. -/
theorem exists_swap {index target : Nat} (hindex : index < values.length)
    (htarget : target < values.length) :
    ∃ swapped : List α, swap (values.map some) index target = swapped.map some ∧
      swapped.Perm values := by
  refine ⟨(values.set index values[target]).set target values[index], ?_,
    List.set_set_perm hindex htarget⟩
  have htarget' : target < (values.set index values[target]).length := by simpa using htarget
  rw [swap, element_map_some hindex, element_map_some htarget, assign_map_some hindex,
    assign_map_some htarget']

end

/-- The event moves no neighbour of the list into it. -/
def Listed (lock : BrandLock) : FormEvent → Prop
  | .moveBenefit index .up => index ≠ lock.benefitOrder.length
  | .moveBenefit index .down => index ≠ -1
  | _ => True

/-- What the form never changes: which benefits it shows, and which fields it can have. -/
structure Arranges (lock : BrandLock) (state : FormState) : Prop where
  benefits : ∃ order : List ShortText, state.benefits = order.map some ∧
    order.Perm lock.benefitOrder
  localizable : state.localizable.Sublist lock.localizableFields

variable {lock : BrandLock} {state : FormState} {snapshot : Snapshot}

theorem Arranges.initial (lock : BrandLock) : Arranges lock (.initial lock) :=
  ⟨⟨lock.benefitOrder, rfl, .refl _⟩, .refl _⟩

theorem Arranges.moveBenefit (h : Arranges lock state) {index : Int} {offset : Offset}
    (hlisted : Listed lock (.moveBenefit index offset)) :
    Arranges lock (state.moveBenefit index offset) := by
  obtain ⟨order, horder, hperm⟩ := h.benefits
  rw [FormState.moveBenefit]
  by_cases hguard : index + offset.value < 0 ∨ index + offset.value ≥ state.benefits.length ∨
      state.Disabled
  · rw [if_pos hguard]
    exact h
  · rw [if_neg hguard]
    have hlength : state.benefits.length = order.length := by rw [horder, List.length_map]
    obtain ⟨target, htarget⟩ : ∃ target : Nat, index + offset.value = target :=
      Int.eq_ofNat_of_zero_le (by omega)
    -- Next to a target in the list only the neighbours of the list are outside of it.
    obtain ⟨source, hsource, hinside⟩ : ∃ source : Nat, index = source ∧ source < order.length := by
      have hcount := hperm.length_eq
      cases offset with
      | up =>
          simp only [Listed, Offset.value] at hlisted hguard htarget
          exact ⟨index.toNat, by omega, by omega⟩
      | down =>
          simp only [Listed, Offset.value] at hlisted hguard htarget
          exact ⟨index.toNat, by omega, by omega⟩
    obtain ⟨swapped, hswapped, hsame⟩ := exists_swap hinside (by omega : target < order.length)
    refine ⟨⟨swapped, ?_, hsame.trans hperm⟩, h.localizable⟩
    rw [← hswapped, ← htarget, ← hsource, horder]

theorem Arranges.toggleLocalizable (h : Arranges lock state) (field : LocalizableField) :
    Arranges lock (state.toggleLocalizable lock field) := by
  rw [FormState.toggleLocalizable]
  by_cases hdisabled : state.Disabled
  · rw [if_pos hdisabled]
    exact h
  · rw [if_neg hdisabled]
    refine ⟨h.benefits, ?_⟩
    by_cases hfield : field ∈ state.localizable
    · rw [if_pos hfield]
      exact List.filter_sublist.trans h.localizable
    · rw [if_neg hfield]
      exact List.filter_sublist

/-- One event keeps the arrangement. -/
theorem Arranges.step (h : Arranges lock state) {event : FormEvent} (hlisted : Listed lock event) :
    Arranges lock (formReducer lock state event) := by
  cases event with
  | moveBenefit index offset => exact h.moveBenefit hlisted
  | toggleLocalizable field => exact h.toggleLocalizable field
  | acknowledge acknowledged =>
      rw [formReducer, FormState.acknowledge]
      split
      · exact h
      · exact ⟨h.benefits, h.localizable⟩
  | submit =>
      rw [formReducer]
      split
      · exact h
      · exact ⟨h.benefits, h.localizable⟩
  | settle confirmed =>
      rw [formReducer]
      split
      · exact ⟨h.benefits, h.localizable⟩
      · exact h

theorem Arranges.after (h : Arranges lock state) {events : List FormEvent}
    (hlisted : ∀ event ∈ events, Listed lock event) :
    Arranges lock (after (formReducer lock) state events) := by
  induction events generalizing state with
  | nil => exact h
  | cons event events ih =>
      obtain ⟨hfirst, hrest⟩ := List.forall_mem_cons.mp hlisted
      exact ih (h.step hfirst) hrest

/-! ## What is submitted -/

theorem mapM_id_map_some {α : Type} (values : List α) :
    (values.map some).mapM id = some values := by
  induction values with
  | nil => rfl
  | cons value values ih => simp [ih]

/-- An arrangement that passes the check of the form is an edit that the confirmation admits. -/
theorem Arranges.confirmable (h : Arranges lock state)
    (hsubmitted : state.submitted? lock = some snapshot) :
    ∃ proposed, snapshot.validate = some proposed ∧
      validateBrandLockConfirmation proposed lock = .ok proposed := by
  obtain ⟨order, horder, hperm⟩ := h.benefits
  rw [FormState.submitted?] at hsubmitted
  by_cases hguard : state.localizable = [] ∨ state.acknowledged = false ∨ state.Disabled
  · rw [if_pos hguard] at hsubmitted
    cases hsubmitted
  · rw [if_neg hguard] at hsubmitted
    obtain rfl := Option.some.inj hsubmitted
    have hsome : state.localizable ≠ [] := fun hnone => hguard (.inl hnone)
    obtain ⟨hfacts, hui, hbenefits, hfields⟩ := lock.lengths_valid
    obtain ⟨hfactsUnique, huiUnique, hbenefitsUnique, hfieldsUnique⟩ := lock.sequences_unique
    have hlengths : (1 ≤ order.length ∧ order.length ≤ 16) ∧
        1 ≤ state.localizable.length ∧ state.localizable.length ≤ 4 := by
      rw [hperm.length_eq]
      exact ⟨hbenefits, List.length_pos_of_ne_nil hsome,
        h.localizable.length_le.trans hfields.2⟩
    have hunique : order.Nodup ∧ state.localizable.Nodup :=
      ⟨hperm.nodup_iff.mpr hbenefitsUnique, h.localizable.nodup hfieldsUnique⟩
    refine ⟨⟨lock.logoAssetId, lock.productName, lock.verifiedProductFacts,
      lock.productUiAssetIds, order, lock.ctaActionMeaning, lock.layoutTemplateAssetId,
      state.localizable, ⟨hfacts, hui, hlengths⟩, hfactsUnique, huiUnique, hunique⟩, ?_, ?_⟩
    · rw [Snapshot.validate, horder, mapM_id_map_some]
      exact dif_pos ⟨⟨hfacts, hui, hlengths⟩, hfactsUnique, huiUnique, hunique⟩
    · rw [validateBrandLockConfirmation_eq_ok_iff, confirms_iff_edits]
      exact ⟨rfl, rfl, rfl, rfl, rfl, rfl, rfl, hperm, hsome, hunique.2, h.localizable.subset⟩

/-- Whatever is done with the form, if only benefits of the list are moved, what it submits is a
Brand Lock that the confirmation accepts. -/
theorem submits_confirmable {events : List FormEvent}
    (hlisted : ∀ event ∈ events, Listed lock event)
    (hsubmitted : (after (formReducer lock) (.initial lock) events).submitted? lock =
      some snapshot) :
    ∃ proposed, snapshot.validate = some proposed ∧
      validateBrandLockConfirmation proposed lock = .ok proposed :=
  ((Arranges.initial lock).after hlisted).confirmable hsubmitted

namespace Demo

open CultureShift.Demo

/-- The second benefit is moved up and one of the fields is withdrawn. -/
def edits : List FormEvent :=
  [.moveBenefit 1 .up, .toggleLocalizable .narrative, .acknowledge true]

def edited : Snapshot where
  lock := CultureShift.Demo.lock
  benefitOrder := [some organize, some summarize]
  localizableFields := [.useScenario, .trustInformation, .language]

/-- What is behind the second of two benefits is moved up. -/
def strayEdits : List FormEvent := [.moveBenefit 2 .up, .acknowledge true]

def strayEdited : Snapshot where
  lock := CultureShift.Demo.lock
  benefitOrder := [some summarize, none, some organize]
  localizableFields := CultureShift.Demo.lock.localizableFields

end Demo

theorem submits_confirmable_edited :
    ∃ proposed, Demo.edited.validate = some proposed ∧
      validateBrandLockConfirmation proposed CultureShift.Demo.lock = .ok proposed := by
  have hlisted : ∀ event ∈ Demo.edits, Listed CultureShift.Demo.lock event := by
    simp [Demo.edits, Listed, CultureShift.Demo.lock, CultureShift.Demo.brandLock]
  exact submits_confirmable hlisted rfl

/-- There is no second neighbour to swap with: the list gets a hole, which is no Brand Lock. -/
theorem not_submits_confirmable :
    ¬∀ (lock : BrandLock) (events : List FormEvent) (snapshot : Snapshot),
      (after (formReducer lock) (.initial lock) events).submitted? lock = some snapshot →
        ∃ proposed, snapshot.validate = some proposed ∧
          validateBrandLockConfirmation proposed lock = .ok proposed := by
  intro h
  obtain ⟨proposed, hvalid, -⟩ :=
    h CultureShift.Demo.lock Demo.strayEdits Demo.strayEdited rfl
  have hnone : Demo.strayEdited.validate = none := rfl
  rw [hnone] at hvalid
  cases hvalid

end Web

end CultureShift
