/-
# Structural equality is equality of JSON

A JSON value denotes itself with its objects read as maps from names to values.
Two values are structurally equal exactly when they denote the same, whatever
the order in which their objects list their members.
-/

import CultureShift.Web.FixtureValidation

namespace Serialization

/-- What a value denotes. An object is a map: its members have no order. -/
inductive Meaning
  | undefined
  | null
  | bool (value : Bool)
  | number (value : Number)
  | str (value : Text)
  | arr (items : List Meaning)
  | obj (members : Text → Option Meaning)

namespace Value

mutual

def meaning : Value → Meaning
  | undefined => .undefined
  | null => .null
  | bool value => .bool value
  | number value => .number value
  | str value => .str value
  | arr items => .arr (meaningItems items)
  | obj members => .obj fun name => (meaningMembers members).lookup name

def meaningItems : List Value → List Meaning
  | [] => []
  | item :: items => meaning item :: meaningItems items

def meaningMembers : List (Text × Value) → List (Text × Meaning)
  | [] => []
  | (name, value) :: members => (name, meaning value) :: meaningMembers members

end

/-- What `JSON.parse` gives back: nothing is undefined in it, and the members of an object have
different names. -/
inductive IsJson : Value → Prop
  | null : IsJson .null
  | bool (value : Bool) : IsJson (.bool value)
  | number (value : Number) : IsJson (.number value)
  | str (value : Text) : IsJson (.str value)
  | arr {items : List Value} (hitems : ∀ item ∈ items, IsJson item) : IsJson (.arr items)
  | obj {members : List (Text × Value)} (hunique : (members.map Prod.fst).Nodup)
      (hmembers : ∀ member ∈ members, IsJson member.2) : IsJson (.obj members)

end Value

/-- A JSON value. -/
structure JsonValue where
  value : Value
  isJson : value.IsJson

/-- What a JSON value denotes. -/
def JsonValue.meaning (json : JsonValue) : Meaning := json.value.meaning

/-! ## Members by their names -/

variable {κ α β : Type} [BEq κ] [LawfulBEq κ]

/-- With different names, each member is the one found under its name. -/
theorem lookup_eq_some_iff_mem {members : List (κ × α)} (hunique : (members.map Prod.fst).Nodup)
    {name : κ} {value : α} : members.lookup name = some value ↔ (name, value) ∈ members := by
  induction members with
  | nil => simp
  | cons member members ih =>
      obtain ⟨first, held⟩ := member
      obtain ⟨hnew, hrest⟩ := List.nodup_cons.mp hunique
      by_cases heq : name = first
      · subst heq
        have habsent : (name, value) ∉ members := fun hmem =>
          hnew (List.mem_map.mpr ⟨_, hmem, rfl⟩)
        simp [habsent, eq_comm]
      · simp [List.lookup_cons, beq_eq_false_iff_ne.mpr heq, heq, ih hrest]

omit [LawfulBEq κ] in
theorem lookup_map_snd (f : α → β) (members : List (κ × α)) (name : κ) :
    (members.map fun member => (member.1, f member.2)).lookup name =
      (members.lookup name).map f := by
  induction members with
  | nil => rfl
  | cons member members ih =>
      rw [List.map_cons, List.lookup_cons, List.lookup_cons, ih]
      cases name == member.1 <;> rfl

theorem mem_names_iff {members : List (κ × α)} {name : κ} :
    name ∈ members.map Prod.fst ↔ (members.lookup name).isSome = true := by
  rw [List.lookup_isSome_iff, List.mem_map]
  constructor
  · rintro ⟨member, hmem, rfl⟩
    exact ⟨member, hmem, beq_self_eq_true _⟩
  · rintro ⟨member, hmem, heq⟩
    exact ⟨member, hmem, (eq_of_beq heq).symm⟩

/-- Which names there are is seen in which names are found. -/
theorem names_perm_of_isSome {members : List (κ × α)} {members' : List (κ × α)}
    (hunique : (members.map Prod.fst).Nodup) (hunique' : (members'.map Prod.fst).Nodup)
    (h : ∀ name, (members.lookup name).isSome = (members'.lookup name).isSome) :
    (members.map Prod.fst).Perm (members'.map Prod.fst) := by
  rw [List.perm_ext_iff_of_nodup hunique hunique']
  intro name
  rw [mem_names_iff, mem_names_iff, h]

/-- Items are compared only with items. -/
theorem forall₂_iff_of_mem {R S : α → β → Prop} {items : List α} {items' : List β}
    (h : ∀ item ∈ items, ∀ item' ∈ items', (R item item' ↔ S item item')) :
    List.Forall₂ R items items' ↔ List.Forall₂ S items items' := by
  rw [List.forall₂_iff_zip, List.forall₂_iff_zip]
  apply and_congr_right
  intro _
  constructor
  · intro hzip item item' hmem
    obtain ⟨hleft, hright⟩ := List.of_mem_zip hmem
    exact (h item hleft item' hright).mp (hzip hmem)
  · intro hzip item item' hmem
    obtain ⟨hleft, hright⟩ := List.of_mem_zip hmem
    exact (h item hleft item' hright).mpr (hzip hmem)

namespace Value

theorem meaningItems_eq_map (items : List Value) : meaningItems items = items.map meaning := by
  induction items with
  | nil => rfl
  | cons item items ih => rw [meaningItems, ih, List.map_cons]

theorem meaningMembers_eq_map (members : List (Text × Value)) :
    meaningMembers members = members.map fun member => (member.1, meaning member.2) := by
  induction members with
  | nil => rfl
  | cons member members ih => rw [meaningMembers, ih, List.map_cons]

theorem meaning_arr (items : List Value) : (arr items).meaning = .arr (items.map meaning) := by
  rw [meaning, meaningItems_eq_map]

theorem meaning_obj (members : List (Text × Value)) :
    (obj members).meaning = .obj fun name => (members.lookup name).map meaning := by
  rw [meaning]
  congr 1
  funext name
  rw [meaningMembers_eq_map, lookup_map_snd]

end Value

end Serialization

namespace CultureShift

namespace Web

open Serialization

/-! ## Names and members -/

theorem structuralEqualItems_iff {left right : List Value} :
    structuralEqualItems left right = true ↔
      List.Forall₂ (fun item item' => structuralEqual item item' = true) left right := by
  induction left generalizing right with
  | nil => cases right <;> simp [structuralEqualItems]
  | cons item left ih => cases right <;> simp [structuralEqualItems, ih]

theorem structuralEqualMembers_iff {left right : List (Text × Value)} :
    structuralEqualMembers left right = true ↔
      ∀ member ∈ left, structuralEqual member.2 (Value.lookup right member.1) = true := by
  induction left with
  | nil => simp [structuralEqualMembers]
  | cons member left ih =>
      rw [structuralEqualMembers, Bool.and_eq_true, ih, List.forall_mem_cons]

theorem structuralEqual_arr {left right : List Value} :
    structuralEqual (.arr left) (.arr right) = true ↔
      List.Forall₂ (fun item item' => structuralEqual item item' = true) left right := by
  rw [structuralEqual, structuralEqualItems_iff]

theorem structuralEqual_obj {left right : List (Text × Value)} :
    structuralEqual (.obj left) (.obj right) = true ↔
      (left.map Prod.fst).Perm (right.map Prod.fst) ∧
        ∀ member ∈ left, structuralEqual member.2 (Value.lookup right member.1) = true := by
  rw [structuralEqual, Bool.and_eq_true, sameKeys, List.isPerm_iff, structuralEqualMembers_iff]

theorem structuralEqual_arr_obj {items : List Value} {members : List (Text × Value)} :
    structuralEqual (.arr items) (.obj members) = false := rfl

theorem structuralEqual_obj_arr {items : List Value} {members : List (Text × Value)} :
    structuralEqual (.obj members) (.arr items) = false := rfl

/-! ## Equality of what is denoted -/

/-- Objects are equal when each name stands for equal values in both, or for none. -/
theorem structuralEqual_obj_iff_meaning {left right : List (Text × Value)}
    (hunique : (left.map Prod.fst).Nodup) (hunique' : (right.map Prod.fst).Nodup)
    (hvalues : ∀ member ∈ left, ∀ member' ∈ right,
      (structuralEqual member.2 member'.2 = true ↔ member.2.meaning = member'.2.meaning)) :
    structuralEqual (.obj left) (.obj right) = true ↔
      ∀ name, (left.lookup name).map Value.meaning = (right.lookup name).map Value.meaning := by
  rw [structuralEqual_obj]
  constructor
  · rintro ⟨hnames, hmembers⟩ name
    cases hleft : left.lookup name with
    | none =>
        have hright : (right.lookup name).isSome ≠ true := by
          rw [Ne, ← mem_names_iff, ← hnames.mem_iff, mem_names_iff, hleft]
          exact Bool.false_ne_true
        rw [Option.not_isSome_iff_eq_none.mp hright]
    | some value =>
        have hmem := (lookup_eq_some_iff_mem hunique).mp hleft
        obtain ⟨⟨_, value'⟩, hmem', rfl⟩ :=
          List.mem_map.mp (hnames.mem_iff.mp (List.mem_map_of_mem hmem))
        have hright := (lookup_eq_some_iff_mem hunique').mpr hmem'
        have hequal := hmembers _ hmem
        rw [Value.lookup, hright, Option.getD_some, hvalues _ hmem _ hmem'] at hequal
        rw [hright, Option.map_some, Option.map_some, hequal]
  · intro h
    refine ⟨names_perm_of_isSome hunique hunique' ?_, ?_⟩
    · intro name
      rw [← Option.isSome_map (f := Value.meaning), h, Option.isSome_map]
    · intro member hmem
      have hsame := h member.1
      rw [(lookup_eq_some_iff_mem hunique).mpr hmem] at hsame
      obtain ⟨value', hright, hmeaning⟩ := Option.map_eq_some_iff.mp hsame.symm
      rw [Value.lookup, hright, Option.getD_some,
        hvalues _ hmem _ ((lookup_eq_some_iff_mem hunique').mp hright), hmeaning]

/-- The induction is on the left value: its parts are compared with parts of the other. -/
theorem structuralEqual_iff_meaning {left right : Value} (hleft : left.IsJson)
    (hright : right.IsJson) :
    structuralEqual left right = true ↔ left.meaning = right.meaning := by
  induction hleft generalizing right with
  | null => cases hright <;> simp [structuralEqual, same, Value.meaning]
  | bool value => cases hright <;> simp [structuralEqual, same, Value.meaning]
  | number value => cases hright <;> simp [structuralEqual, same, Value.meaning]
  | str value => cases hright <;> simp [structuralEqual, same, Value.meaning]
  | @arr items hitems ih =>
      cases hright with
      | @arr items' hitems' =>
          rw [structuralEqual_arr, Value.meaning_arr, Value.meaning_arr, Meaning.arr.injEq,
            ← List.forall₂_eq_eq_eq, List.forall₂_map_left_iff, List.forall₂_map_right_iff]
          exact forall₂_iff_of_mem fun item hmem item' hmem' => ih item hmem (hitems' item' hmem')
      | _ => simp [structuralEqual, same, Value.meaning]
  | @obj members hunique hmembers ih =>
      cases hright with
      | @obj members' hunique' hmembers' =>
          rw [Value.meaning_obj, Value.meaning_obj, Meaning.obj.injEq, funext_iff]
          apply structuralEqual_obj_iff_meaning hunique hunique'
          intro member hmem member' hmem'
          exact ih member hmem (hmembers' member' hmem')
      | _ => simp [structuralEqual, same, Value.meaning]

/-- Listing the members of an object in another order denotes the same. -/
theorem structuralEqual_perm {members members' : List (Text × Value)}
    (hjson : (Value.obj members).IsJson) (hperm : members.Perm members') :
    structuralEqual (.obj members) (.obj members') = true := by
  cases hjson with
  | obj hunique hmembers =>
      have hunique' : (members'.map Prod.fst).Nodup := (hperm.map _).nodup_iff.mp hunique
      have hjson' : (Value.obj members').IsJson :=
        .obj hunique' fun member hmem => hmembers member (hperm.mem_iff.mpr hmem)
      rw [structuralEqual_iff_meaning (.obj hunique hmembers) hjson', Value.meaning_obj,
        Value.meaning_obj]
      congr 1
      funext name
      congr 1
      ext value
      rw [lookup_eq_some_iff_mem hunique, lookup_eq_some_iff_mem hunique', hperm.mem_iff]

/-- Structural equality is equality of JSON: of JSON values it holds exactly when they denote the
same. So it is an equivalence that does not see the order of members, sees the order of items and
tells arrays from objects. -/
theorem structuralEqual_json :
    (∀ left right : JsonValue,
      structuralEqual left.value right.value = true ↔ left.meaning = right.meaning) ∧
    Equivalence (fun left right : JsonValue =>
      structuralEqual left.value right.value = true) ∧
    (∀ members members' : List (Text × Value), (Value.obj members).IsJson →
      members.Perm members' → structuralEqual (.obj members) (.obj members') = true) ∧
    (∀ items items' : List Value, structuralEqual (.arr items) (.arr items') = true ↔
      List.Forall₂ (fun item item' => structuralEqual item item' = true) items items') ∧
    ∀ (items : List Value) (members : List (Text × Value)),
      structuralEqual (.arr items) (.obj members) = false ∧
      structuralEqual (.obj members) (.arr items) = false := by
  have hmeaning (left right : JsonValue) :
      structuralEqual left.value right.value = true ↔ left.meaning = right.meaning :=
    structuralEqual_iff_meaning left.isJson right.isJson
  refine ⟨hmeaning, ⟨?_, ?_, ?_⟩, ?_, ?_, ?_⟩
  · intro json
    rw [hmeaning]
  · intro left right h
    rw [hmeaning] at h ⊢
    exact h.symm
  · intro first second third h h'
    rw [hmeaning] at h h' ⊢
    exact h.trans h'
  · intro members members'
    exact structuralEqual_perm
  · intro items items'
    exact structuralEqual_arr
  · intro items members
    exact ⟨structuralEqual_arr_obj, structuralEqual_obj_arr⟩

namespace Demo

/-- `{"benefit_order": ["Summarize", "Organize"], "disclosure": null}` -/
def members : List (Text × Value) :=
  [(Text.ofString "benefit_order", .arr [.ofString "Summarize", .ofString "Organize"]),
    (Text.ofString "disclosure", .null)]

theorem isJson_members : (Value.obj members).IsJson := by
  apply Value.IsJson.obj
  · decide
  · simp only [members, List.forall_mem_cons, List.not_mem_nil, false_implies, implies_true,
      and_true]
    refine ⟨.arr ?_, .null⟩
    simp only [List.forall_mem_cons, List.not_mem_nil, false_implies, implies_true, and_true]
    exact ⟨.str _, .str _⟩

end Demo

theorem structuralEqual_json_reversed :
    structuralEqual (.obj Demo.members) (.obj Demo.members.reverse) = true ∧
      structuralEqual (.arr []) (.obj []) = false :=
  ⟨structuralEqual_json.2.2.1 _ _ Demo.isJson_members (List.reverse_perm _).symm,
    (structuralEqual_json.2.2.2.2 [] []).1⟩

end Web

end CultureShift
