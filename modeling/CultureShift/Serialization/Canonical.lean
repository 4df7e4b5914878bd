/-
# Canonical text is unambiguous

No value's text continues another value's text: where a value and what follows
it spell the same characters as another value and what follows that one, the
values are the same. So the canonical text of a value determines the value, up
to the order of the members of its objects.
-/

import CultureShift.Serialization.Document
import CultureShift.Serialization.Text

namespace Serialization

namespace Json

open Document (Delimited renderInt)

/-! ## Strings -/

/-- What one character is written as is read as that character. -/
theorem scanUnits_escape (c : Char) (rest : List Char) :
    scanUnits (escape c ++ rest) =
      (scanUnits rest).map fun (units, rest) => (CodePoint.ofChar c :: units, rest) := by
  have hletter {letter : Char} (hne : letter ≠ 'u')
      (hunit : unescape? letter = some (CodePoint.ofChar c)) :
      scanUnits (['\\', letter] ++ rest) =
        (scanUnits rest).map fun (units, rest) => (CodePoint.ofChar c :: units, rest) :=
    scanUnits_letter hne hunit rest
  unfold escape
  by_cases hquote : c = '"'
  · subst hquote
    exact hletter (by decide) rfl
  by_cases hbackslash : c = '\\'
  · subst hbackslash
    exact hletter (by decide) rfl
  by_cases hnewline : c = '\n'
  · subst hnewline
    exact hletter (by decide) rfl
  by_cases hreturn : c = '\r'
  · subst hreturn
    exact hletter (by decide) rfl
  by_cases htab : c = '\t'
  · subst htab
    exact hletter (by decide) rfl
  rw [if_neg hquote, if_neg hbackslash, if_neg hnewline, if_neg hreturn, if_neg htab]
  by_cases hbackspace : c.toNat = 0x08
  · rw [if_pos hbackspace]
    exact hletter (by decide) (congrArg some (Fin.ext hbackspace.symm))
  by_cases hfeed : c.toNat = 0x0C
  · rw [if_neg hbackspace, if_pos hfeed]
    exact hletter (by decide) (congrArg some (Fin.ext hfeed.symm))
  rw [if_neg hbackspace, if_neg hfeed]
  by_cases hcontrol : c.toNat < 0x20
  · rw [if_pos hcontrol]
    have hplane : (CodePoint.ofChar c).val < 0x10000 := Nat.lt_trans hcontrol (by decide)
    exact scanUnits_unicodeEscape hplane rest
  · rw [if_neg hcontrol]
    exact scanUnits_plain hquote hbackslash hcontrol rest

theorem scanUnits_quote_text (text : String) (rest : List Char) :
    scanUnits (text.toList.flatMap escape ++ '"' :: rest) = some (Text.ofString text, rest) := by
  unfold Text.ofString
  induction text.toList with
  | nil => exact scanUnits_quote rest
  | cons c cs ih =>
      rw [List.flatMap_cons, List.append_assoc, scanUnits_escape, ih]
      rfl

theorem ofChar_injective : Function.Injective CodePoint.ofChar := by
  intro first second heq
  have hvalue : first.toNat = second.toNat :=
    congrArg (fun c : CodePoint => c.val) heq
  exact Char.toNat_inj.mp hvalue

theorem ofString_injective : Function.Injective Text.ofString := by
  intro first second heq
  exact String.toList_inj.mp (List.map_injective_iff.mpr ofChar_injective heq)

/-- A quoted string ends at its closing quote. -/
theorem quote_append_inj {first second : String} {rest rest' : List Char}
    (h : quote first ++ rest = quote second ++ rest') : first = second ∧ rest = rest' := by
  have hbody : first.toList.flatMap escape ++ '"' :: rest =
      second.toList.flatMap escape ++ '"' :: rest' := by
    simpa [quote] using h
  have hscan := scanUnits_quote_text first rest
  rw [hbody, scanUnits_quote_text] at hscan
  obtain ⟨htext, hrest⟩ := Prod.mk.inj (Option.some.inj hscan)
  exact ⟨(ofString_injective htext).symm, hrest.symm⟩

/-! ## Numbers -/

theorem toList_toString (value : Int) : (toString value).toList = renderInt value := by
  rw [Int.toString_eq_repr, Int.repr_eq_if, renderInt]
  by_cases hneg : value < 0
  · have habs : (-value).toNat = value.natAbs := by omega
    rw [if_neg (not_le.mpr hneg), if_pos hneg, String.toList_append, Nat.toList_repr, habs]
    rfl
  · have habs : value.toNat = value.natAbs := by omega
    rw [if_pos (not_lt.mp hneg), if_neg hneg, Nat.toList_repr, habs]

/-- The digits of a number end where there are no more digits. -/
theorem toDigits_append_inj {m n : Nat} {rest rest' : List Char} (hrest : Delimited rest)
    (hrest' : Delimited rest') (h : Nat.toDigits 10 m ++ rest = Nat.toDigits 10 n ++ rest') :
    m = n ∧ rest = rest' := by
  have hall (k : Nat) : ∀ c ∈ Nat.toDigits 10 k, c.isDigit = true :=
    fun _ hc => Document.isDigit_of_mem_toDigits hc
  have hread := Document.takeWhile_digits (hall m) hrest
  have hread' := Document.takeWhile_digits (hall n) hrest'
  rw [h] at hread
  have hdigits : Nat.toDigits 10 m = Nat.toDigits 10 n := hread.1.symm.trans hread'.1
  refine ⟨?_, hread.2.symm.trans hread'.2⟩
  rw [← Nat.ofDigitChars_ten_toDigits (n := m), hdigits, Nat.ofDigitChars_ten_toDigits]

theorem renderInt_append_inj {first second : Int} {rest rest' : List Char}
    (hrest : Delimited rest) (hrest' : Delimited rest')
    (h : renderInt first ++ rest = renderInt second ++ rest') : first = second ∧ rest = rest' := by
  have hsign {n : Nat} {tail cs : List Char} : '-' :: cs ≠ Nat.toDigits 10 n ++ tail := by
    intro heq
    cases hdigits : Nat.toDigits 10 n with
    | nil => exact Nat.toDigits_ne_nil hdigits
    | cons c digits =>
        rw [hdigits] at heq
        have hdigit : c.isDigit = true :=
          Document.isDigit_of_mem_toDigits (hdigits ▸ List.mem_cons_self)
        rw [← (List.cons.inj heq).1] at hdigit
        cases hdigit
  unfold renderInt at h
  by_cases hneg : first < 0
  · by_cases hneg' : second < 0
    · rw [if_pos hneg, if_pos hneg'] at h
      obtain ⟨habs, htail⟩ := toDigits_append_inj hrest hrest' (List.cons.inj h).2
      exact ⟨by omega, htail⟩
    · rw [if_pos hneg, if_neg hneg'] at h
      exact absurd h hsign
  · by_cases hneg' : second < 0
    · rw [if_neg hneg, if_pos hneg'] at h
      exact absurd h.symm hsign
    · rw [if_neg hneg, if_neg hneg'] at h
      obtain ⟨habs, htail⟩ := toDigits_append_inj hrest hrest' h
      exact ⟨by omega, htail⟩

/-! ## Values -/

/-- What the first character of a text tells about its value. -/
inductive Kind
  | null | bool | int | str | arr | obj
deriving DecidableEq

def Kind.ofChar (c : Char) : Kind :=
  if c = 'n' then .null
  else if c = 't' ∨ c = 'f' then .bool
  else if c = '"' then .str
  else if c = '[' then .arr
  else if c = '{' then .obj
  else .int

def kind : Json → Kind
  | null => .null
  | bool _ => .bool
  | int _ => .int
  | str _ => .str
  | arr _ => .arr
  | obj _ => .obj

theorem exists_render_cons (json : Json) :
    ∃ c tail, json.render = c :: tail ∧ Kind.ofChar c = json.kind ∧ c ≠ ']' := by
  cases json with
  | null => exact ⟨_, _, rfl, rfl, by decide⟩
  | bool value =>
      cases value with
      | true => exact ⟨_, _, rfl, rfl, by decide⟩
      | false => exact ⟨_, _, rfl, rfl, by decide⟩
  | int value =>
      obtain ⟨c, tail, hcons, hdigit⟩ := Document.exists_renderInt_cons value []
      rw [List.append_nil] at hcons
      have hstart : ∀ other : Char, other.isDigit = false → other ≠ '-' → c ≠ other := by
        rintro other hother hsign rfl
        rcases hdigit with hdigit | ⟨heq, -⟩
        · rw [hdigit] at hother
          cases hother
        · exact hsign heq
      refine ⟨c, tail, by rw [render, toList_toString, hcons], ?_, hstart ']' rfl (by decide)⟩
      unfold Kind.ofChar
      rw [if_neg (hstart 'n' rfl (by decide)), if_neg, if_neg (hstart '"' rfl (by decide)),
        if_neg (hstart '[' rfl (by decide)), if_neg (hstart '{' rfl (by decide))]
      · rfl
      · rintro (rfl | rfl)
        · exact hstart 't' rfl (by decide) rfl
        · exact hstart 'f' rfl (by decide) rfl
  | str text => exact ⟨_, _, rfl, rfl, by decide⟩
  | arr items => exact ⟨_, _, rfl, rfl, by decide⟩
  | obj members => exact ⟨_, _, rfl, rfl, by decide⟩

/-- Texts that begin alike are of values of the same kind. -/
theorem kind_eq_of_render {first second : Json} {rest rest' : List Char}
    (h : first.render ++ rest = second.render ++ rest') : first.kind = second.kind := by
  obtain ⟨c, tail, hcons, hkind, -⟩ := exists_render_cons first
  obtain ⟨c', tail', hcons', hkind', -⟩ := exists_render_cons second
  rw [hcons, hcons'] at h
  rw [← hkind, ← hkind', (List.cons.inj h).1]

/-- What comes behind an item: the end of the array, or the next item. -/
def behindItem (items : List Json) (rest : List Char) : List Char :=
  match items with
  | [] => ']' :: rest
  | item :: items => ',' :: (renderItems (item :: items) ++ ']' :: rest)

/-- What comes behind a member: the end of the object, or the next member. -/
def behindMember (members : List (String × Json)) (rest : List Char) : List Char :=
  match members with
  | [] => '}' :: rest
  | member :: members => ',' :: (renderMembers (member :: members) ++ '}' :: rest)

theorem renderItems_cons (item : Json) (items : List Json) (rest : List Char) :
    renderItems (item :: items) ++ ']' :: rest = item.render ++ behindItem items rest := by
  cases items with
  | nil => rfl
  | cons next items => simp [renderItems, behindItem]

theorem renderMembers_cons (name : String) (value : Json) (members : List (String × Json))
    (rest : List Char) :
    renderMembers ((name, value) :: members) ++ '}' :: rest =
      quote name ++ ':' :: (value.render ++ behindMember members rest) := by
  cases members with
  | nil => simp [renderMembers, behindMember]
  | cons next members => simp [renderMembers, behindMember]

theorem delimited_behindItem (items : List Json) (rest : List Char) :
    Delimited (behindItem items rest) := by
  cases items with
  | nil => exact Document.delimited_cons (.inr (.inl rfl)) _
  | cons item items => exact Document.delimited_cons (.inl rfl) _

theorem delimited_behindMember (members : List (String × Json)) (rest : List Char) :
    Delimited (behindMember members rest) := by
  cases members with
  | nil => exact Document.delimited_cons (.inr (.inr rfl)) _
  | cons member members => exact Document.delimited_cons (.inl rfl) _

mutual

/-- Two values and what follows them spell the same text only if they are the same. -/
theorem render_append_inj (first second : Json) {rest rest' : List Char} (hrest : Delimited rest)
    (hrest' : Delimited rest') (h : first.render ++ rest = second.render ++ rest') :
    first = second ∧ rest = rest' := by
  have hkind := kind_eq_of_render h
  cases first with
  | null =>
      cases second with
      | null => exact ⟨rfl, List.append_cancel_left h⟩
      | _ => cases hkind
  | bool value =>
      cases second with
      | bool value' =>
          cases value with
          | true =>
              cases value' with
              | true => exact ⟨rfl, List.append_cancel_left h⟩
              | false => cases (List.cons.inj h).1
          | false =>
              cases value' with
              | true => cases (List.cons.inj h).1
              | false => exact ⟨rfl, List.append_cancel_left h⟩
      | _ => cases hkind
  | int value =>
      cases second with
      | int value' =>
          rw [render, render, toList_toString, toList_toString] at h
          obtain ⟨rfl, htail⟩ := renderInt_append_inj hrest hrest' h
          exact ⟨rfl, htail⟩
      | _ => cases hkind
  | str text =>
      cases second with
      | str text' =>
          obtain ⟨rfl, htail⟩ := quote_append_inj h
          exact ⟨rfl, htail⟩
      | _ => cases hkind
  | arr items =>
      cases second with
      | arr items' =>
          have hitems : renderItems items ++ ']' :: rest = renderItems items' ++ ']' :: rest' := by
            simpa [render] using h
          obtain ⟨rfl, htail⟩ := renderItems_append_inj items items' hitems
          exact ⟨rfl, htail⟩
      | _ => cases hkind
  | obj members =>
      cases second with
      | obj members' =>
          have hmembers :
              renderMembers members ++ '}' :: rest = renderMembers members' ++ '}' :: rest' := by
            simpa [render] using h
          obtain ⟨rfl, htail⟩ := renderMembers_append_inj members members' hmembers
          exact ⟨rfl, htail⟩
      | _ => cases hkind

theorem renderItems_append_inj (first second : List Json) {rest rest' : List Char}
    (h : renderItems first ++ ']' :: rest = renderItems second ++ ']' :: rest') :
    first = second ∧ rest = rest' := by
  have hempty (item : Json) (items : List Json) {rest rest' : List Char} :
      ']' :: rest ≠ renderItems (item :: items) ++ ']' :: rest' := by
    obtain ⟨c, tail, hcons, -, hclose⟩ := exists_render_cons item
    rw [renderItems_cons, hcons]
    exact fun heq => hclose (List.cons.inj heq).1.symm
  cases first with
  | nil =>
      cases second with
      | nil => exact ⟨rfl, (List.cons.inj h).2⟩
      | cons item' items' => exact absurd h (hempty item' items')
  | cons item items =>
      cases second with
      | nil => exact absurd h.symm (hempty item items)
      | cons item' items' =>
          rw [renderItems_cons, renderItems_cons] at h
          obtain ⟨rfl, hbehind⟩ := render_append_inj item item' (delimited_behindItem _ _)
            (delimited_behindItem _ _) h
          cases items with
          | nil =>
              cases items' with
              | nil => exact ⟨rfl, (List.cons.inj hbehind).2⟩
              | cons next' items' => cases (List.cons.inj hbehind).1
          | cons next items =>
              cases items' with
              | nil => cases (List.cons.inj hbehind).1
              | cons next' items' =>
                  obtain ⟨heq, htail⟩ := renderItems_append_inj (next :: items) (next' :: items')
                    (List.cons.inj hbehind).2
                  exact ⟨congrArg (item :: ·) heq, htail⟩

theorem renderMembers_append_inj (first second : List (String × Json)) {rest rest' : List Char}
    (h : renderMembers first ++ '}' :: rest = renderMembers second ++ '}' :: rest') :
    first = second ∧ rest = rest' := by
  have hempty (name : String) (value : Json) (members : List (String × Json))
      {rest rest' : List Char} :
      '}' :: rest ≠ renderMembers ((name, value) :: members) ++ '}' :: rest' := by
    rw [renderMembers_cons]
    intro heq
    cases (List.cons.inj heq).1
  cases first with
  | nil =>
      cases second with
      | nil => exact ⟨rfl, (List.cons.inj h).2⟩
      | cons member' members' => exact absurd h (hempty member'.1 member'.2 members')
  | cons member members =>
      cases second with
      | nil => exact absurd h.symm (hempty member.1 member.2 members)
      | cons member' members' =>
          obtain ⟨name, value⟩ := member
          obtain ⟨name', value'⟩ := member'
          rw [renderMembers_cons, renderMembers_cons] at h
          obtain ⟨rfl, hvalue⟩ := quote_append_inj h
          obtain ⟨rfl, hbehind⟩ := render_append_inj value value' (delimited_behindMember _ _)
            (delimited_behindMember _ _) (List.cons.inj hvalue).2
          cases members with
          | nil =>
              cases members' with
              | nil => exact ⟨rfl, (List.cons.inj hbehind).2⟩
              | cons next' members' => cases (List.cons.inj hbehind).1
          | cons next members =>
              cases members' with
              | nil => cases (List.cons.inj hbehind).1
              | cons next' members' =>
                  obtain ⟨heq, htail⟩ := renderMembers_append_inj (next :: members)
                    (next' :: members') (List.cons.inj hbehind).2
                  exact ⟨congrArg ((name, value) :: ·) heq, htail⟩

end

/-! ## Canonical text -/

/-- Two values have the same canonical text exactly when they differ in nothing but the order of
members. -/
theorem canonical_eq_iff {first second : Json} :
    first.canonical = second.canonical ↔ first.sortKeys = second.sortKeys := by
  constructor
  · intro h
    have htext := String.ofList_injective h
    have hnone : Delimited [] := fun c hc => absurd hc (Option.not_mem_none c)
    rw [← List.append_nil first.sortKeys.render, ← List.append_nil second.sortKeys.render] at htext
    exact (render_append_inj _ _ hnone hnone htext).1
  · intro h
    rw [canonical, canonical, h]

/-- Keyed values in the order of the same keys, each once, are permutations of each other only if
they are the same. -/
theorem eq_of_perm_of_keys {κ α : Type} {first second : List (κ × α)} (h : first.Perm second)
    (hkeys : first.map Prod.fst = second.map Prod.fst) (hunique : (first.map Prod.fst).Nodup) :
    first = second := by
  induction first generalizing second with
  | nil => exact h.nil_eq
  | cons entry first ih =>
      cases second with
      | nil => cases hkeys
      | cons entry' second =>
          obtain ⟨-, hrest⟩ := List.cons.inj hkeys
          obtain ⟨hnew, hunique⟩ := List.nodup_cons.mp hunique
          have hsame : entry = entry' := by
            rcases List.mem_cons.mp (h.subset List.mem_cons_self) with heq | hmem
            · exact heq
            · rw [hrest] at hnew
              exact absurd (List.mem_map_of_mem hmem) hnew
          subst hsame
          rw [ih h.cons_inv hrest hunique]

theorem map_fst_sortMembers (members : List (String × Json)) :
    (sortMembers members).map Prod.fst = members.map Prod.fst := by
  induction members with
  | nil => rfl
  | cons member members ih =>
      rw [sortMembers, List.map_cons, List.map_cons, ih]

/-- Objects with the same names in the same order, each once, are the same up to the order of
members only if their members are. -/
theorem sortMembers_inj {first second : List (String × Json)}
    (hnames : first.map Prod.fst = second.map Prod.fst) (hunique : (first.map Prod.fst).Nodup)
    (h : (obj first).sortKeys = (obj second).sortKeys) :
    sortMembers first = sortMembers second := by
  rw [sortKeys, sortKeys] at h
  have hsort (members : List (String × Json)) :
      (members.insertionSort fun first second => first.1 ≤ second.1).Perm members :=
    List.perm_insertionSort _ members
  have hperm : (sortMembers first).Perm (sortMembers second) := by
    have hsorted := hsort (sortMembers first)
    rw [Json.obj.inj h] at hsorted
    exact hsorted.symm.trans (hsort (sortMembers second))
  apply eq_of_perm_of_keys hperm
  · rw [map_fst_sortMembers, map_fst_sortMembers, hnames]
  · rwa [map_fst_sortMembers]

@[simp]
theorem sortKeys_str (text : String) : (str text).sortKeys = str text := rfl

/-- There is nothing to sort in an array of strings. -/
@[simp]
theorem sortKeys_strs (texts : List String) :
    (arr (texts.map str)).sortKeys = arr (texts.map str) := by
  rw [sortKeys]
  congr 1
  induction texts with
  | nil => rfl
  | cons text texts ih => rw [List.map_cons, sortItems, ih, sortKeys_str]

end Json

end Serialization
