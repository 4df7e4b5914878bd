/-
# Rate limits

A window opens with the first call that is allowed after the one before has
ended, and admits a fixed number of calls. The windows are not aligned with
anything, so an interval of the same length can meet two of them, but never the
call with which the first of them opened.
-/

import CultureShift.Errors
import CultureShift.Sequential.Keyed
import Mathlib.Tactic.SplitIfs

namespace CultureShift

open Sequential

/-- The last microsecond that a `datetime` can name, counted from the epoch. -/
def datetimeMax : Int := 253402300799999999

structure FixedWindowRateLimiter where
  limit : Nat
  window : Int
  limit_positive : 1 ≤ limit
  window_positive : 0 < window

namespace FixedWindowRateLimiter

/-- A call of `allow`, with the time that it was given or read from the clock. -/
structure Call where
  key : String
  checkedAt : Int
  aware : Bool
  representable : checkedAt ≤ datetimeMax

/-- The window of a key: its start and how many calls it has admitted. -/
abbrev Entry := Option (Int × Nat)

abbrev Entries := String → Entry

variable (limiter : FixedWindowRateLimiter)

/-- `FixedWindowRateLimiter.allow` -/
def allow (entries : Entries) (call : Call) : Except Exc Bool × Entries :=
  if call.key = "" then (.error (.valueError "rate-limit key is required"), entries)
  else if call.aware = false then
    (.error (.valueError "now must be timezone-aware"), entries)
  else
    let (windowStart, count) := (entries call.key).getD (call.checkedAt, 0)
    if datetimeMax < windowStart + limiter.window then (.error .overflowError, entries)
    else
      let (windowStart, count) :=
        if windowStart + limiter.window ≤ call.checkedAt then (call.checkedAt, 0)
        else (windowStart, count)
      if limiter.limit ≤ count then (.ok false, entries)
      else (.ok true, Function.update entries call.key (some (windowStart, count + 1)))

/-- The calls, each with the answer to it. -/
def answers (calls : List Call) : List (Call × Except Exc Bool) :=
  serve limiter.allow (fun _ => none) calls

/-! ## One key -/

/-- What `allow` does with the window of the key of the call. -/
def check (entry : Entry) (call : Call) : Except Exc Bool × Entry :=
  if call.key = "" then (.error (.valueError "rate-limit key is required"), entry)
  else if call.aware = false then (.error (.valueError "now must be timezone-aware"), entry)
  else
    let (windowStart, count) := entry.getD (call.checkedAt, 0)
    if datetimeMax < windowStart + limiter.window then (.error .overflowError, entry)
    else
      let (windowStart, count) :=
        if windowStart + limiter.window ≤ call.checkedAt then (call.checkedAt, 0)
        else (windowStart, count)
      if limiter.limit ≤ count then (.ok false, entry)
      else (.ok true, some (windowStart, count + 1))

/-- The limiter keeps a window for every key. -/
theorem allow_eq_keyed : limiter.allow = keyed Call.key limiter.check := by
  funext entries call
  have hself : Function.update entries call.key (entries call.key) = entries :=
    Function.update_eq_self _ _
  unfold allow keyed check
  by_cases hkey : call.key = ""
  · rw [if_pos hkey, if_pos hkey, hself]
  rw [if_neg hkey, if_neg hkey]
  by_cases haware : call.aware = false
  · rw [if_pos haware, if_pos haware, hself]
  rw [if_neg haware, if_neg haware]
  dsimp only
  split_ifs <;> simp only [hself]

variable {limiter} {entry : Entry} {call : Call}

/-- A call is refused and changes nothing, opens a window, or is counted in the window that
is open. -/
theorem check_cases (limiter : FixedWindowRateLimiter) (entry : Entry) (call : Call) :
    ((limiter.check entry call).1 ≠ .ok true ∧ (limiter.check entry call).2 = entry) ∨
    (limiter.check entry call = (.ok true, some (call.checkedAt, 1)) ∧
      ∀ start count, entry = some (start, count) → start + limiter.window ≤ call.checkedAt) ∨
    ∃ start count, entry = some (start, count) ∧ call.checkedAt < start + limiter.window ∧
      count < limiter.limit ∧ limiter.check entry call = (.ok true, some (start, count + 1)) := by
  unfold check
  by_cases hkey : call.key = ""
  · exact .inl ⟨by simp [hkey], by simp [hkey]⟩
  by_cases haware : call.aware = false
  · exact .inl ⟨by simp [hkey, haware], by simp [hkey, haware]⟩
  rw [if_neg hkey, if_neg haware]
  have hpositive := limiter.limit_positive
  have hwindow := limiter.window_positive
  cases entry with
  | none =>
      by_cases hover : datetimeMax < call.checkedAt + limiter.window
      · exact .inl ⟨by simp [hover], by simp [hover]⟩
      · have hopen : ¬call.checkedAt + limiter.window ≤ call.checkedAt := by omega
        have hroom : ¬limiter.limit ≤ 0 := by omega
        refine .inr (.inl ⟨?_, ?_⟩)
        · simp only [Option.getD_none, if_neg hover, if_neg hopen, if_neg hroom]
        · rintro start count ⟨⟩
  | some window =>
      obtain ⟨start, count⟩ := window
      by_cases hover : datetimeMax < start + limiter.window
      · exact .inl ⟨by simp [hover], by simp [hover]⟩
      by_cases hopen : start + limiter.window ≤ call.checkedAt
      · have hroom : ¬limiter.limit ≤ 0 := by omega
        refine .inr (.inl ⟨?_, ?_⟩)
        · simp only [Option.getD_some, if_neg hover, if_pos hopen, if_neg hroom]
        · rintro _ _ ⟨⟩
          exact hopen
      by_cases hfull : limiter.limit ≤ count
      · exact .inl ⟨by simp [hover, hopen, hfull], by simp [hover, hopen, hfull]⟩
      · refine .inr (.inr ⟨start, count, rfl, not_le.mp hopen, not_le.mp hfull, ?_⟩)
        simp only [Option.getD_some, if_neg hover, if_neg hopen, if_neg hfull]

/-! ## Counting in an interval -/

/-- Whether the time lies in the half-open interval. -/
def isDuring (first length time : Int) : Bool := first ≤ time && time < first + length

def isAllowed : Except Exc Bool → Bool
  | .ok allowed => allowed
  | .error _ => false

/-- The times of the calls that were allowed. -/
def admitted (served : List (Call × Except Exc Bool)) : List Int :=
  (served.filter fun answer => isAllowed answer.2).map fun answer => answer.1.checkedAt

theorem admitted_append (past later : List (Call × Except Exc Bool)) :
    admitted (past ++ later) = admitted past ++ admitted later := by
  simp [admitted]

/-- A weaker condition counts more where an element meets it alone. -/
theorem countP_lt {α : Type} {p q : α → Bool} {l : List α} {a : α} (ha : a ∈ l)
    (himp : ∀ b, p b = true → q b = true) (hp : p a = false) (hq : q a = true) :
    l.countP p < l.countP q := by
  obtain ⟨before, after, rfl⟩ := List.append_of_mem ha
  have hbefore : before.countP p ≤ before.countP q := List.countP_mono_left fun b _ => himp b
  have hafter : after.countP p ≤ after.countP q := List.countP_mono_left fun b _ => himp b
  simp only [List.countP_append, List.countP_cons, hp, hq]
  simp only [Bool.false_eq_true, if_false, if_true]
  omega

/-- Every element that meets the condition meets one of two others. -/
theorem countP_le_add {α : Type} {p q r : α → Bool} {l : List α}
    (h : ∀ a, p a = true → q a = true ∨ r a = true) : l.countP p ≤ l.countP q + l.countP r := by
  induction l with
  | nil => simp
  | cons a l ih =>
      simp only [List.countP_cons]
      by_cases hp : p a = true
      · rcases h a hp with hq | hr
        · rw [if_pos hp, if_pos hq]
          omega
        · rw [if_pos hp, if_pos hr]
          omega
      · rw [if_neg hp]
        omega

/-- What the open window knows of the admitted times: how many it has admitted since it
opened, and that the window before has admitted one call early enough. -/
structure WindowOf (limiter : FixedWindowRateLimiter) (times : List Int) (start : Int)
    (count : Nat) : Prop where
  full : count ≤ limiter.limit
  opened : start ∈ times
  within : ∀ time ∈ times, time < start + limiter.window
  counted : times.countP (fun time => start ≤ time) = count
  previous : times.countP (fun time => time < start ∧ start < time + limiter.window) + 1 ≤
    limiter.limit

/-- The admitted times of one key. -/
structure Bounded (limiter : FixedWindowRateLimiter) (times : List Int) (entry : Entry) :
    Prop where
  sliding : ∀ first, times.countP (isDuring first limiter.window) + 1 ≤ 2 * limiter.limit
  fresh : entry = none → times = []
  window : ∀ start count, entry = some (start, count) → WindowOf limiter times start count

variable {times : List Int}

theorem bounded_empty (limiter : FixedWindowRateLimiter) : Bounded limiter [] none where
  sliding := by
    intro first
    have hpositive := limiter.limit_positive
    simp only [List.countP_nil]
    omega
  fresh := fun _ => rfl
  window := by
    rintro start count ⟨⟩

/-- An interval that reaches past the end of a window misses the call that opened it. -/
theorem countP_late {start late : Int} {count : Nat} (h : WindowOf limiter times start count)
    (hlate : start + limiter.window ≤ late) :
    times.countP (fun time => late < time + limiter.window) + 1 ≤ limiter.limit := by
  have hfewer : times.countP (fun time => late < time + limiter.window) <
      times.countP (fun time => start ≤ time) := by
    apply countP_lt h.opened
    · intro time htime
      simp only [decide_eq_true_eq] at htime ⊢
      omega
    · simpa using hlate
    · simp
  have hcounted := h.counted
  have hfull := h.full
  omega

/-- An admitted call, where the intervals that contain it hold few enough others. -/
theorem sliding_append (h : Bounded limiter times entry) {now : Int}
    (hfew : ∀ first, first ≤ now → now < first + limiter.window →
      times.countP (isDuring first limiter.window) + 2 ≤ 2 * limiter.limit) (first : Int) :
    (times ++ [now]).countP (isDuring first limiter.window) + 1 ≤ 2 * limiter.limit := by
  rw [List.countP_append, List.countP_singleton]
  by_cases hnow : isDuring first limiter.window now = true
  · simp only [isDuring, Bool.and_eq_true, decide_eq_true_eq] at hnow
    have hcount := hfew first hnow.1 hnow.2
    have hin : isDuring first limiter.window now = true := by
      simpa [isDuring] using hnow
    rw [if_pos hin]
    omega
  · rw [if_neg hnow]
    exact h.sliding first

/-- The call opens a window. -/
theorem Bounded.opens (h : Bounded limiter times entry) {now : Int}
    (hended : ∀ start count, entry = some (start, count) → start + limiter.window ≤ now) :
    Bounded limiter (times ++ [now]) (some (now, 1)) := by
  have hpositive := limiter.limit_positive
  have hwindow := limiter.window_positive
  have hfew : times.countP (fun time => now < time + limiter.window) + 1 ≤ limiter.limit := by
    cases hentry : entry with
    | none =>
        rw [h.fresh hentry, List.countP_nil]
        omega
    | some window =>
        obtain ⟨start, count⟩ := window
        exact countP_late (h.window start count hentry) (hended start count hentry)
  constructor
  · apply sliding_append h
    intro first _ hnow
    have hmono : times.countP (isDuring first limiter.window) ≤
        times.countP (fun time => now < time + limiter.window) := by
      apply List.countP_mono_left
      intro time _ htime
      simp only [isDuring, Bool.and_eq_true, decide_eq_true_eq] at htime ⊢
      omega
    omega
  · rintro ⟨⟩
  · rintro start count ⟨⟩
    have hearlier : ∀ time ∈ times, time < now := by
      intro time htime
      cases hentry : entry with
      | none =>
          rw [h.fresh hentry] at htime
          cases htime
      | some window =>
          obtain ⟨start, count⟩ := window
          exact ((h.window start count hentry).within time htime).trans_le
            (hended start count hentry)
    constructor
    · exact hpositive
    · simp
    · intro time htime
      rcases List.mem_append.mp htime with htime | htime
      · have hlt := hearlier time htime
        omega
      · obtain rfl := List.mem_singleton.mp htime
        omega
    · have hnone : times.countP (fun time => now ≤ time) = 0 := by
        rw [List.countP_eq_zero]
        intro time htime
        simpa using hearlier time htime
      rw [List.countP_append, hnone, List.countP_singleton]
      simp
    · have hmono : times.countP (fun time => time < now ∧ now < time + limiter.window) ≤
          times.countP (fun time => now < time + limiter.window) := by
        apply List.countP_mono_left
        intro time _ htime
        simp only [decide_eq_true_eq] at htime ⊢
        exact htime.2
      rw [List.countP_append, List.countP_singleton]
      simp only [lt_self_iff_false, false_and, decide_false, Bool.false_eq_true, if_false]
      omega

/-- The call is counted in the open window. -/
theorem Bounded.counts {start : Int} {count : Nat} (h : Bounded limiter times (some (start, count)))
    {now : Int} (hpast : ∀ time ∈ times, time ≤ now) (hnow : now < start + limiter.window)
    (hroom : count < limiter.limit) :
    Bounded limiter (times ++ [now]) (some (start, count + 1)) := by
  have hwindow := h.window start count rfl
  have hstart : start ≤ now := hpast start hwindow.opened
  constructor
  · apply sliding_append h
    intro first _ hend
    -- The interval holds calls of this window and of the one before.
    have hsplit : times.countP (isDuring first limiter.window) ≤
        times.countP (fun time => time < start ∧ start < time + limiter.window) +
          times.countP (fun time => start ≤ time) := by
      apply countP_le_add
      intro time htime
      simp only [isDuring, Bool.and_eq_true, decide_eq_true_eq] at htime ⊢
      omega
    have hprevious := hwindow.previous
    have hcounted := hwindow.counted
    omega
  · rintro ⟨⟩
  · rintro _ _ ⟨⟩
    constructor
    · exact hroom
    · exact List.mem_append_left _ hwindow.opened
    · intro time htime
      rcases List.mem_append.mp htime with htime | htime
      · exact hwindow.within time htime
      · obtain rfl := List.mem_singleton.mp htime
        exact hnow
    · rw [List.countP_append, hwindow.counted, List.countP_singleton]
      simp [hstart]
    · have hprevious := hwindow.previous
      rw [List.countP_append, List.countP_singleton]
      simp only [not_lt.mpr hstart, false_and, decide_false, Bool.false_eq_true, if_false]
      omega

/-- Every call keeps the bound. -/
theorem bounded_check {past : List (Call × Except Exc Bool)}
    (h : Bounded limiter (admitted past) entry)
    (hpast : ∀ served ∈ past, served.1.checkedAt ≤ call.checkedAt) :
    Bounded limiter (admitted (past ++ [(call, (limiter.check entry call).1)]))
      (limiter.check entry call).2 := by
  have hbefore : ∀ time ∈ admitted past, time ≤ call.checkedAt := by
    intro time htime
    obtain ⟨served, hserved, rfl⟩ := List.mem_map.mp htime
    exact hpast served (List.mem_of_mem_filter hserved)
  rw [admitted_append]
  rcases check_cases limiter entry call with
    ⟨hrefused, hsame⟩ | ⟨hallowed, hended⟩ | ⟨start, count, rfl, hnow, hroom, hallowed⟩
  · have hnone : admitted [(call, (limiter.check entry call).1)] = [] := by
      have hfalse : isAllowed (limiter.check entry call).1 = false := by
        cases hanswer : (limiter.check entry call).1 with
        | error _ => rfl
        | ok allowed =>
            cases allowed with
            | false => rfl
            | true => exact absurd hanswer hrefused
      simp [admitted, hfalse]
    rw [hnone, List.append_nil, hsame]
    exact h
  · rw [hallowed]
    exact h.opens hended
  · rw [hallowed]
    exact h.counts hbefore hnow hroom

/-- The calls for one key that are allowed in a half-open interval of the length of the
window. -/
def allowedDuring (limiter : FixedWindowRateLimiter) (calls : List Call) (key : String)
    (first : Int) : List (Call × Except Exc Bool) :=
  (limiter.answers calls).filter fun served =>
    isDuring first limiter.window served.1.checkedAt && isAllowed served.2 && served.1.key = key

/-- The answers for one key are those to the calls for that key. -/
theorem answers_filter (limiter : FixedWindowRateLimiter) (calls : List Call) (key : String) :
    (limiter.answers calls).filter (fun served => served.1.key = key) =
      limiter.answers (calls.filter fun call => call.key = key) := by
  rw [answers, answers, allow_eq_keyed, filter_serve_keyed Call.key key]

/-- The bound on a single window length. -/
theorem length_allowedDuring_le {calls : List Call}
    (hordered : calls.Pairwise fun first second => first.checkedAt ≤ second.checkedAt)
    (key : String) (first : Int) :
    (allowedDuring limiter calls key first).length ≤ 2 * limiter.limit - 1 := by
  have hstep : ∀ (past : List (Call × Except Exc Bool)) (entry : Entry) (call : Call),
      Bounded limiter (admitted past) entry →
      (∀ served ∈ past, served.1.checkedAt ≤ call.checkedAt) →
      Bounded limiter (admitted (past ++ [(call, (limiter.check entry call).1)]))
        (limiter.check entry call).2 :=
    fun past entry call h hpast => bounded_check h hpast
  have hcalls := hordered.filter fun call => decide (call.key = key)
  have hinit : Bounded limiter (admitted []) none := bounded_empty limiter
  obtain ⟨last, hlast⟩ := serve_invariant _ hstep hcalls hinit fun _ hserved => by cases hserved
  have hsliding := hlast.sliding first
  have hcount : (allowedDuring limiter calls key first).length =
      (admitted ([] ++ serve limiter.check none (calls.filter fun call => call.key = key))).countP
        (isDuring first limiter.window) := by
    rw [List.nil_append, ← serve_keyed Call.key key (fun _ => none) calls, ← allow_eq_keyed,
      admitted, List.countP_map, List.countP_filter, List.countP_eq_length_filter,
      List.filter_filter]
    rfl
  omega

/-- Every half-open interval of the length of the window has fewer than twice the limit of
allowed calls for a key. A call at or after the end of the window is allowed, a rejected call
changes nothing, and the other keys have no part in the answers. -/
theorem allow_bounds (limiter : FixedWindowRateLimiter) (calls : List Call)
    (hordered : calls.Pairwise fun first second => first.checkedAt ≤ second.checkedAt) :
    (∀ key first, (allowedDuring limiter calls key first).length ≤ 2 * limiter.limit - 1) ∧
    (∀ (entries : Entries) (call : Call) (start : Int) (count : Nat),
      call.key ≠ "" → call.aware = true → entries call.key = some (start, count) →
      start + limiter.window ≤ call.checkedAt → (limiter.allow entries call).1 = .ok true) ∧
    (∀ (entries : Entries) (call : Call), (limiter.allow entries call).1 = .ok false →
      (limiter.allow entries call).2 = entries) ∧
    ∀ key, (limiter.answers calls).filter (fun served => served.1.key = key) =
      limiter.answers (calls.filter fun call => call.key = key) := by
  refine ⟨fun key first => length_allowedDuring_le hordered key first, ?_, ?_,
    fun key => answers_filter limiter calls key⟩
  · intro entries call start count hkey haware hentry hended
    have hin : ¬datetimeMax < start + limiter.window := by
      have hcall := call.representable
      omega
    have hpositive := limiter.limit_positive
    have hroom : ¬limiter.limit ≤ 0 := by omega
    unfold allow
    rw [if_neg hkey, if_neg (by simp [haware]), hentry]
    simp only [Option.getD_some, if_neg hin, if_pos hended, if_neg hroom]
  · intro entries call hrejected
    rw [allow_eq_keyed] at hrejected ⊢
    have hself : Function.update entries call.key (entries call.key) = entries :=
      Function.update_eq_self _ _
    have hanswer : (limiter.check (entries call.key) call).1 = .ok false := hrejected
    rcases check_cases limiter (entries call.key) call with
      ⟨-, hsame⟩ | ⟨hallowed, -⟩ | ⟨_, _, -, -, -, hallowed⟩
    · rw [keyed, hsame]
      exact hself
    · rw [hallowed] at hanswer
      cases hanswer
    · rw [hallowed] at hanswer
      cases hanswer

/-- Two calls a minute. -/
def perMinute : FixedWindowRateLimiter := ⟨2, 60000000, by decide, by decide⟩

theorem allow_bounds_perMinute :
    (allowedDuring perMinute
      [⟨"client-a", 0, true, by decide⟩, ⟨"client-a", 59000000, true, by decide⟩,
        ⟨"client-a", 60000000, true, by decide⟩, ⟨"client-a", 61000000, true, by decide⟩]
      "client-a" 1).length ≤ 3 :=
  (allow_bounds perMinute
    [⟨"client-a", 0, true, by decide⟩, ⟨"client-a", 59000000, true, by decide⟩,
      ⟨"client-a", 60000000, true, by decide⟩, ⟨"client-a", 61000000, true, by decide⟩]
    (by simp)).1 "client-a" 1

end FixedWindowRateLimiter

end CultureShift
