/-
# Fixed-width digits

Identifiers and timestamps are printed with a fixed number of digits in every
field. Reading back the printed field gives the number and leaves the text
behind it, whatever that text is; no separator is needed.
-/

import Mathlib.Data.Nat.Digits.Defs
import Mathlib.Tactic.IntervalCases
import Mathlib.Tactic.Ring

namespace Serialization

/-- The value of a lower-case digit, up to base 16. -/
def digitValue? (c : Char) : Option Nat :=
  "0123456789abcdef".toList.idxOf? c

theorem digitValue?_digitChar {digit : Nat} (h : digit < 16) :
    digitValue? (Nat.digitChar digit) = some digit := by
  interval_cases digit <;> decide

theorem digitChar_ne_hyphen {digit : Nat} (h : digit < 16) : Nat.digitChar digit ≠ '-' := by
  interval_cases digit <;> decide

/-- `n` in the given base with exactly `width` digits. -/
def digits (base : Nat) : Nat → Nat → List Char
  | 0, _ => []
  | width + 1, n => Nat.digitChar (n / base ^ width) :: digits base width (n % base ^ width)

/-- Read exactly `width` digits behind what `acc` already stands for. -/
def readDigits (base : Nat) : Nat → Nat → List Char → Option (Nat × List Char)
  | 0, acc, rest => some (acc, rest)
  | width + 1, acc, c :: rest =>
      match digitValue? c with
      | some digit =>
          if digit < base then readDigits base width (acc * base + digit) rest else none
      | none => none
  | _ + 1, _, [] => none

/-- The leading digit is a digit, and the remaining ones fit their width. -/
theorem leading_lt {base width n : Nat} (h : n < base ^ (width + 1)) :
    n / base ^ width < base ∧ n % base ^ width < base ^ width := by
  have hpow : 0 < base ^ width := by
    refine Nat.pos_of_ne_zero fun hzero => ?_
    rw [pow_succ, hzero, Nat.zero_mul] at h
    exact absurd h (Nat.not_lt_zero n)
  exact ⟨Nat.div_lt_of_lt_mul (by rwa [← pow_succ]), Nat.mod_lt n hpow⟩

theorem readDigits_digits {base : Nat} (hbase : base ≤ 16) (width acc n : Nat)
    (rest : List Char) (h : n < base ^ width) :
    readDigits base width acc (digits base width n ++ rest) =
      some (acc * base ^ width + n, rest) := by
  induction width generalizing acc n with
  | zero =>
      obtain rfl : n = 0 := by simpa using h
      simp [readDigits, digits]
  | succ width ih =>
      obtain ⟨hdigit, hrest⟩ := leading_lt h
      have hvalue : (acc * base + n / base ^ width) * base ^ width + n % base ^ width =
          acc * base ^ (width + 1) + n := by
        conv_rhs => rw [← Nat.div_add_mod n (base ^ width)]
        ring
      simp only [digits, List.cons_append, readDigits,
        digitValue?_digitChar (lt_of_lt_of_le hdigit hbase), if_pos hdigit]
      rw [ih _ _ hrest, hvalue]

@[simp]
theorem digits_length (base width n : Nat) : (digits base width n).length = width := by
  induction width generalizing n with
  | zero => rfl
  | succ width ih => simp [digits, ih]

theorem exists_of_mem_digits {base width n : Nat} {c : Char} (h : n < base ^ width)
    (hmem : c ∈ digits base width n) : ∃ digit < base, c = Nat.digitChar digit := by
  induction width generalizing n with
  | zero => simp [digits] at hmem
  | succ width ih =>
      obtain ⟨hdigit, hrest⟩ := leading_lt h
      rcases List.mem_cons.mp hmem with heq | hmem
      · exact ⟨_, hdigit, heq⟩
      · exact ih hrest hmem

theorem hyphen_not_mem_digits {base : Nat} (hbase : base ≤ 16) (width n : Nat)
    (h : n < base ^ width) : '-' ∉ digits base width n := by
  intro hmem
  obtain ⟨digit, hdigit, heq⟩ := exists_of_mem_digits h hmem
  exact digitChar_ne_hyphen (lt_of_lt_of_le hdigit hbase) heq.symm

/-! ## Universally unique identifiers -/

/-- A 128-bit identifier. -/
structure UUID where
  value : Nat
  bounded : value < 16 ^ 32
deriving DecidableEq, Repr

namespace UUID

/-- Separate groups of the given lengths by hyphens. -/
def hyphenate : List Nat → List Char → List Char
  | [], cs => cs
  | width :: widths, cs => cs.take width ++ '-' :: hyphenate widths (cs.drop width)

theorem filter_hyphenate (widths : List Nat) {cs : List Char} (h : '-' ∉ cs) :
    (hyphenate widths cs).filter (· ≠ '-') = cs := by
  have hclean : ∀ {ds : List Char}, '-' ∉ ds → ds.filter (· ≠ '-') = ds := by
    intro ds hds
    rw [List.filter_eq_self]
    intro c hc
    simpa using fun heq : c = '-' => hds (heq ▸ hc)
  induction widths generalizing cs with
  | nil => exact hclean h
  | cons width widths ih =>
      have htake : '-' ∉ cs.take width := fun hmem => h (List.mem_of_mem_take hmem)
      have hdrop : '-' ∉ cs.drop width := fun hmem => h (List.mem_of_mem_drop hmem)
      rw [hyphenate, List.filter_append, hclean htake, List.filter_cons_of_neg (by simp),
        ih hdrop, List.take_append_drop]

/-- The canonical 8-4-4-4-12 text. -/
def text (id : UUID) : String :=
  String.ofList (hyphenate [8, 4, 4, 4] (digits 16 32 id.value))

/-- Read an identifier, wherever the hyphens stand. -/
def ofText? (text : String) : Option UUID :=
  match readDigits 16 32 0 (text.toList.filter (· ≠ '-')) with
  | some (value, []) => if h : value < 16 ^ 32 then some ⟨value, h⟩ else none
  | _ => none

@[simp]
theorem ofText?_text (id : UUID) : ofText? id.text = some id := by
  have hhex : '-' ∉ digits 16 32 id.value :=
    hyphen_not_mem_digits (le_refl 16) 32 id.value id.bounded
  have hread : readDigits 16 32 0 (digits 16 32 id.value) = some (id.value, []) := by
    simpa using readDigits_digits (le_refl 16) 32 0 id.value [] id.bounded
  rw [ofText?, text, String.toList_ofList, filter_hyphenate _ hhex, hread]
  exact dif_pos id.bounded

end UUID

end Serialization
