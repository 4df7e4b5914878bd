/-
# Base64 for URLs

Three bytes are four characters of six bits each; a shorter end is padded.
Encoded text is often carried without its padding, which its length determines.
Encoded characters are bytes, too.
-/

import Mathlib.Data.List.DropRight
import Mathlib.Tactic.SplitIfs

namespace Serialization

abbrev Byte := Fin 256

namespace Base64

def pad : Byte := 61

/-- The character of six bits. -/
def sextet (n : Nat) : Byte :=
  if n < 26 then ⟨(65 + n) % 256, by omega⟩
  else if n < 52 then ⟨(71 + n) % 256, by omega⟩
  else if n < 62 then ⟨(n - 4) % 256, by omega⟩
  else if n = 62 then 45
  else 95

/-- The six bits of a character. Two of them have a second spelling. -/
def sextet? (c : Byte) : Option Nat :=
  if 65 ≤ c.val ∧ c.val ≤ 90 then some (c.val - 65)
  else if 97 ≤ c.val ∧ c.val ≤ 122 then some (c.val - 71)
  else if 48 ≤ c.val ∧ c.val ≤ 57 then some (c.val + 4)
  else if c.val = 45 ∨ c.val = 43 then some 62
  else if c.val = 95 ∨ c.val = 47 then some 63
  else none

/-- `base64.urlsafe_b64encode` -/
def urlsafeEncode : List Byte → List Byte
  | [] => []
  | [a] => [sextet (a.val / 4), sextet (a.val % 4 * 16), pad, pad]
  | [a, b] =>
      [sextet (a.val / 4), sextet (a.val % 4 * 16 + b.val / 16), sextet (b.val % 16 * 4), pad]
  | a :: b :: c :: rest =>
      sextet (a.val / 4) :: sextet (a.val % 4 * 16 + b.val / 16) ::
        sextet (b.val % 16 * 4 + c.val / 64) :: sextet (c.val % 64) :: urlsafeEncode rest

def firstByte (w x : Nat) : Byte := ⟨(w * 4 + x / 16) % 256, by omega⟩

def secondByte (x y : Nat) : Byte := ⟨(x * 16 + y / 4) % 256, by omega⟩

def thirdByte (y z : Nat) : Byte := ⟨(y * 64 + z) % 256, by omega⟩

/-- `base64.b64decode(…, altchars=b"-_", validate=True)` -/
def urlsafeDecode : List Byte → Option (List Byte)
  | [] => some []
  | p :: q :: r :: s :: rest => do
      let w ← sextet? p
      let x ← sextet? q
      if s = pad ∧ rest = [] then
        if r = pad then some [firstByte w x]
        else do
          let y ← sextet? r
          some [firstByte w x, secondByte x y]
      else
        let y ← sextet? r
        let z ← sextet? s
        -- Behind a full group the padding counts for nothing, however long it is.
        let bytes ← (if rest.all (· = pad) then some [] else urlsafeDecode rest)
        some (firstByte w x :: secondByte x y :: thirdByte y z :: bytes)
  | _ => none

theorem sextet?_sextet {n : Nat} (h : n < 64) : sextet? (sextet n) = some n := by
  unfold sextet
  split_ifs with h26 h52 h62 h63
  · rw [sextet?, if_pos]
    · exact congrArg some (by dsimp only; omega)
    · dsimp only
      omega
  · rw [sextet?, if_neg, if_pos]
    · exact congrArg some (by dsimp only; omega)
    · dsimp only
      omega
    · dsimp only
      omega
  · rw [sextet?, if_neg, if_neg, if_pos]
    · exact congrArg some (by dsimp only; omega)
    · dsimp only
      omega
    · dsimp only
      omega
    · dsimp only
      omega
  · subst h63
    rfl
  · obtain rfl : n = 63 := by omega
    rfl

/-- Encoded characters are ASCII, and none of them is the padding or a point. -/
theorem sextet_val (n : Nat) :
    (sextet n).val < 128 ∧ (sextet n).val ≠ 61 ∧ (sextet n).val ≠ 46 := by
  unfold sextet
  split_ifs with h26 h52 h62 h63
  · dsimp only
    omega
  · dsimp only
    omega
  · dsimp only
    omega
  · decide
  · decide

theorem sextet_ne_pad (n : Nat) : sextet n ≠ pad := by
  intro heq
  exact (sextet_val n).2.1 (congrArg Fin.val heq)

theorem firstByte_eq (a : Byte) (low : Nat) (h : low < 16) :
    firstByte (a.val / 4) (a.val % 4 * 16 + low) = a := by
  apply Fin.ext
  simp only [firstByte]
  omega

theorem secondByte_eq (a b : Byte) (low : Nat) (h : low < 4) :
    secondByte (a.val % 4 * 16 + b.val / 16) (b.val % 16 * 4 + low) = b := by
  apply Fin.ext
  simp only [secondByte]
  omega

theorem thirdByte_eq (b c : Byte) :
    thirdByte (b.val % 16 * 4 + c.val / 64) (c.val % 64) = c := by
  apply Fin.ext
  simp only [thirdByte]
  omega

/-- Only of no bytes at all is the encoding nothing but padding. -/
theorem urlsafeEncode_all_pad {bytes : List Byte}
    (h : (urlsafeEncode bytes).all (· = pad) = true) : bytes = [] := by
  cases bytes using urlsafeEncode.fun_cases with
  | case1 => rfl
  | case2 | case3 | case4 => simp [urlsafeEncode, sextet_ne_pad] at h

/-- What was encoded is decoded. -/
theorem urlsafeDecode_urlsafeEncode (bytes : List Byte) :
    urlsafeDecode (urlsafeEncode bytes) = some bytes := by
  induction bytes using urlsafeEncode.induct with
  | case1 => rfl
  | case2 a =>
      have hfirst : firstByte (a.val / 4) (a.val % 4 * 16) = a := firstByte_eq a 0 (by omega)
      rw [urlsafeEncode, urlsafeDecode, sextet?_sextet (by omega), sextet?_sextet (by omega)]
      simp [hfirst]
  | case3 a b =>
      have hfirst := firstByte_eq a (b.val / 16) (by omega)
      have hsecond : secondByte (a.val % 4 * 16 + b.val / 16) (b.val % 16 * 4) = b :=
        secondByte_eq a b 0 (by omega)
      rw [urlsafeEncode, urlsafeDecode, sextet?_sextet (by omega), sextet?_sextet (by omega),
        sextet?_sextet (by omega)]
      simp [hfirst, hsecond, sextet_ne_pad]
  | case4 a b c rest ih =>
      have hfirst := firstByte_eq a (b.val / 16) (by omega)
      have hsecond := secondByte_eq a b (c.val / 64) (by omega)
      have hrest : (if (urlsafeEncode rest).all (· = pad) then some []
          else urlsafeDecode (urlsafeEncode rest)) = some rest := by
        split_ifs with hpads
        · exact congrArg some (urlsafeEncode_all_pad hpads).symm
        · exact ih
      rw [urlsafeEncode, urlsafeDecode, sextet?_sextet (by omega), sextet?_sextet (by omega),
        sextet?_sextet (by omega), sextet?_sextet (by omega), hrest]
      simp [hfirst, hsecond, thirdByte_eq, sextet_ne_pad]

/-! ## Without the padding -/

/-- How much padding a text of this length lacks. -/
def missing (length : Nat) : Nat := (4 - length % 4) % 4

def strip (text : List Byte) : List Byte := text.rdropWhile fun c => c = pad

/-- The text without its padding: ASCII characters, and no point among them. -/
theorem exists_unpadded (bytes : List Byte) :
    ∃ body : List Byte, urlsafeEncode bytes = body ++ List.replicate (missing body.length) pad ∧
      ∀ c ∈ body, c.val < 128 ∧ c.val ≠ 61 ∧ c.val ≠ 46 := by
  induction bytes using urlsafeEncode.induct with
  | case1 => exact ⟨[], rfl, fun c hc => by cases hc⟩
  | case2 a =>
      refine ⟨[_, _], rfl, ?_⟩
      intro c hc
      rcases List.mem_pair.mp hc with rfl | rfl <;> exact sextet_val _
  | case3 a b =>
      refine ⟨[_, _, _], rfl, ?_⟩
      intro c hc
      simp only [List.mem_cons, List.not_mem_nil, or_false] at hc
      rcases hc with rfl | rfl | rfl <;> exact sextet_val _
  | case4 a b c rest ih =>
      obtain ⟨body, hbody, hchars⟩ := ih
      refine ⟨sextet (a.val / 4) :: sextet (a.val % 4 * 16 + b.val / 16) ::
        sextet (b.val % 16 * 4 + c.val / 64) :: sextet (c.val % 64) :: body, ?_, ?_⟩
      · have hmissing : missing (body.length + 1 + 1 + 1 + 1) = missing body.length := by
          unfold missing
          omega
        simp only [List.length_cons, List.cons_append, hmissing]
        rw [urlsafeEncode, hbody]
      · intro d hd
        simp only [List.mem_cons] at hd
        rcases hd with rfl | rfl | rfl | rfl | hd
        · exact sextet_val _
        · exact sextet_val _
        · exact sextet_val _
        · exact sextet_val _
        · exact hchars d hd

theorem strip_append_replicate {body : List Byte} (h : ∀ c ∈ body, c.val ≠ 61) (count : Nat) :
    strip (body ++ List.replicate count pad) = body := by
  induction count with
  | zero =>
      rw [List.replicate_zero, List.append_nil, strip, List.rdropWhile_eq_self_iff]
      intro hne hpad
      exact h _ (List.getLast_mem hne) (congrArg Fin.val (of_decide_eq_true hpad))
  | succ count ih =>
      have hpad : decide (pad = pad) = true := rfl
      rw [List.replicate_succ', ← List.append_assoc, strip, List.rdropWhile_concat, if_pos hpad]
      exact ih

/-- The stripped text is ASCII without a point, and the padding that it lacks can be
put back. -/
theorem strip_urlsafeEncode (bytes : List Byte) :
    (∀ c ∈ strip (urlsafeEncode bytes), c.val < 128 ∧ c.val ≠ 46) ∧
      strip (urlsafeEncode bytes) ++
          List.replicate (missing (strip (urlsafeEncode bytes)).length) pad =
        urlsafeEncode bytes := by
  obtain ⟨body, hbody, hchars⟩ := exists_unpadded bytes
  have hstrip : strip (urlsafeEncode bytes) = body := by
    rw [hbody]
    exact strip_append_replicate (fun c hc => (hchars c hc).2.1) _
  rw [hstrip]
  exact ⟨fun c hc => ⟨(hchars c hc).1, (hchars c hc).2.2⟩, hbody.symm⟩

end Base64

end Serialization
