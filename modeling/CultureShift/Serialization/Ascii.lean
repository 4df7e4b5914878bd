/-
# ASCII text as bytes

Written documents are ASCII, so their UTF-8 bytes are the characters themselves,
and encoded bytes are text again.
-/

import CultureShift.Serialization.Base64
import CultureShift.Serialization.Document

namespace Serialization

/-! ## Bytes and strings -/

namespace Text

/-- `bytes.decode("ascii")` on ASCII bytes. -/
def ofAscii (bytes : List Byte) : Text := bytes.map fun b => ⟨b.val, by omega⟩

/-- `str.encode("ascii")` -/
def encodeAscii? : Text → Option (List Byte)
  | [] => some []
  | c :: text =>
      if h : c.val < 128 then (encodeAscii? text).map (⟨c.val, by omega⟩ :: ·) else none

theorem encodeAscii?_ofAscii {bytes : List Byte} (h : ∀ b ∈ bytes, b.val < 128) :
    encodeAscii? (ofAscii bytes) = some bytes := by
  induction bytes with
  | nil => rfl
  | cons b bytes ih =>
      have hb : b.val < 128 := h b List.mem_cons_self
      have htail := ih fun other hother => h other (List.mem_cons_of_mem _ hother)
      rw [ofAscii] at htail
      rw [ofAscii, List.map_cons, encodeAscii?, dif_pos hb, htail]
      rfl

/-- Text that can be encoded is the text of its bytes. -/
theorem ofAscii_of_encodeAscii? {text : Text} {bytes : List Byte}
    (h : encodeAscii? text = some bytes) : ofAscii bytes = text := by
  induction text generalizing bytes with
  | nil =>
      cases h
      rfl
  | cons c text ih =>
      rw [encodeAscii?] at h
      by_cases hc : c.val < 128
      · rw [dif_pos hc, Option.map_eq_some_iff] at h
        obtain ⟨tail, htail, rfl⟩ := h
        rw [ofAscii, List.map_cons, ← ofAscii, ih htail]
      · rw [dif_neg hc] at h
        cases h

end Text

/-! ## Bytes and characters -/

/-- The UTF-8 bytes of one character. -/
def utf8 (c : Char) : List Byte :=
  let n := c.toNat
  let tail (n : Nat) : Byte := ⟨128 + n % 64, by omega⟩
  if n < 0x80 then [⟨n % 128, by omega⟩]
  else if n < 0x800 then [⟨192 + n / 64 % 32, by omega⟩, tail n]
  else if n < 0x10000 then [⟨224 + n / 4096 % 16, by omega⟩, tail (n / 64), tail n]
  else [⟨240 + n / 262144 % 8, by omega⟩, tail (n / 4096), tail (n / 64), tail n]

/-- `str.encode()` -/
def encodeUtf8 (text : List Char) : List Byte := text.flatMap utf8

/-- Bytes that are plain ASCII, without the byte zero, as characters. -/
def plainText? : List Byte → Option (List Char)
  | [] => some []
  | b :: bytes =>
      if 0 < b.val ∧ b.val < 128 then (plainText? bytes).map (Char.ofNat b.val :: ·) else none

def IsPlain (c : Char) : Prop := 0 < c.toNat ∧ c.toNat < 128

instance (c : Char) : Decidable (IsPlain c) := inferInstanceAs (Decidable (_ ∧ _))

theorem plainText?_encodeUtf8 {text : List Char} (h : ∀ c ∈ text, IsPlain c) :
    plainText? (encodeUtf8 text) = some text := by
  induction text with
  | nil => rfl
  | cons c text ih =>
      have hc : 0 < c.toNat ∧ c.toNat < 128 := h c List.mem_cons_self
      have hmod : c.toNat % 128 = c.toNat := Nat.mod_eq_of_lt hc.2
      have hbyte : utf8 c = [⟨c.toNat % 128, by omega⟩] := if_pos hc.2
      have htail := ih fun other hother => h other (List.mem_cons_of_mem _ hother)
      rw [encodeUtf8] at htail
      rw [encodeUtf8, List.flatMap_cons, hbyte, List.singleton_append, plainText?]
      simp only [hmod, if_pos hc, htail, Char.ofNat_toNat]
      rfl

/-! ## Written documents are plain -/

theorem isPlain_of_all {cs : List Char} (h : (cs.all fun c => decide (IsPlain c)) = true) :
    ∀ c ∈ cs, IsPlain c := by
  simpa using h

theorem digitChar_isPlain {digit : Nat} (h : digit < 16) : IsPlain (Nat.digitChar digit) := by
  interval_cases digit <;> decide

theorem isDigit_isPlain {c : Char} (h : c.isDigit = true) : IsPlain c := by
  simp only [Char.isDigit, Bool.and_eq_true, decide_eq_true_iff] at h
  have hlow : 48 ≤ c.toNat := h.1
  have hhigh : c.toNat ≤ 57 := h.2
  exact ⟨by omega, by omega⟩

theorem digits_isPlain {width n : Nat} (h : n < 16 ^ width) :
    ∀ c ∈ digits 16 width n, IsPlain c := by
  induction width generalizing n with
  | zero => exact fun c hc => by cases hc
  | succ width ih =>
      intro c hc
      obtain ⟨hdigit, hrest⟩ := leading_lt h
      rcases List.mem_cons.mp hc with rfl | hc
      · exact digitChar_isPlain hdigit
      · exact ih hrest c hc

theorem escapeAscii_isPlain (c : CodePoint) : ∀ d ∈ escapeAscii c, IsPlain d := by
  unfold escapeAscii
  cases hshort : shortEscape? c with
  | some letter =>
      intro d hd
      obtain ⟨-, hunit, -⟩ := unescape?_of_shortEscape? hshort
      rcases List.mem_pair.mp hd with rfl | rfl
      · decide
      · unfold unescape? at hunit
        split_ifs at hunit with h1 h2 h3 h4 h5 h6 h7 h8 <;> subst d <;> decide
  | none =>
      dsimp only
      by_cases hplain : 0x20 ≤ c.val ∧ c.val < 0x7F
      · rw [if_pos hplain]
        intro d hd
        rw [List.mem_singleton.mp hd]
        have hnat : (Char.ofNat c.val).toNat = c.val := toNat_ofNat (by omega)
        rw [IsPlain, hnat]
        omega
      · rw [if_neg hplain]
        intro d hd
        obtain ⟨unit, hunit, hd⟩ := List.mem_flatMap.mp hd
        simp only [unicodeEscape, List.mem_cons] at hd
        rcases hd with rfl | rfl | hd
        · decide
        · decide
        · exact digits_isPlain (by have := units_lt hunit; omega) d hd

theorem quoteAscii_isPlain (text : Text) : ∀ c ∈ quoteAscii text, IsPlain c := by
  intro c hc
  simp only [quoteAscii, List.mem_cons, List.mem_append, List.mem_flatMap, List.not_mem_nil,
    or_false] at hc
  rcases hc with rfl | ⟨point, -, hc⟩ | rfl
  · decide
  · exact escapeAscii_isPlain point c hc
  · decide

namespace Document

theorem renderInt_isPlain (value : Int) : ∀ c ∈ renderInt value, IsPlain c := by
  have hdigits : ∀ c ∈ Nat.toDigits 10 value.natAbs, IsPlain c :=
    fun c hc => isDigit_isPlain (isDigit_of_mem_toDigits hc)
  intro c hc
  by_cases hneg : value < 0
  · rw [renderInt, if_pos hneg] at hc
    rcases List.mem_cons.mp hc with rfl | hc
    · decide
    · exact hdigits c hc
  · rw [renderInt, if_neg hneg] at hc
    exact hdigits c hc

theorem member_isPlain (name : Text) {body : List Char} (h : ∀ c ∈ body, IsPlain c) :
    ∀ c ∈ quoteAscii name ++ ':' :: body, IsPlain c :=
  List.forall_mem_append.mpr
    ⟨quoteAscii_isPlain name, List.forall_mem_cons.mpr ⟨by decide, h⟩⟩

mutual

theorem render_isPlain : (document : Document Empty) → ∀ c ∈ document.render, IsPlain c
  | null => by
      rw [render]
      exact isPlain_of_all (by decide)
  | bool true => by
      rw [render]
      exact isPlain_of_all (by decide)
  | bool false => by
      rw [render]
      exact isPlain_of_all (by decide)
  | int value => by
      rw [render]
      exact renderInt_isPlain value
  | str value => by
      rw [render]
      exact quoteAscii_isPlain value
  | arr [] => by
      rw [render]
      exact isPlain_of_all (by decide)
  | arr (item :: items) => by
      rw [render, List.forall_mem_cons, List.forall_mem_append]
      exact ⟨by decide, render_isPlain item, renderItems_isPlain items⟩
  | obj [] => by
      rw [render]
      exact isPlain_of_all (by decide)
  | obj ((name, value) :: members) => by
      rw [render, List.forall_mem_cons]
      exact ⟨by decide, member_isPlain name <|
        List.forall_mem_append.mpr ⟨render_isPlain value, renderMembers_isPlain members⟩⟩

theorem renderItems_isPlain :
    (items : List (Document Empty)) → ∀ c ∈ renderItems items, IsPlain c
  | [] => by
      rw [renderItems]
      exact isPlain_of_all (by decide)
  | item :: items => by
      rw [renderItems, List.forall_mem_cons, List.forall_mem_append]
      exact ⟨by decide, render_isPlain item, renderItems_isPlain items⟩

theorem renderMembers_isPlain :
    (members : List (Text × Document Empty)) → ∀ c ∈ renderMembers members, IsPlain c
  | [] => by
      rw [renderMembers]
      exact isPlain_of_all (by decide)
  | (name, value) :: members => by
      rw [renderMembers, List.forall_mem_cons]
      exact ⟨by decide, member_isPlain name <|
        List.forall_mem_append.mpr ⟨render_isPlain value, renderMembers_isPlain members⟩⟩

end

end Document

end Serialization
