/-
# Instants in UTC

A `Datetime` is kept as its calendar fields, the way it is printed. The order
of instants is the lexicographic order of the fields, and a day later is the
same time of day on the next date, unless the calendar ends there.
-/

import CultureShift.Serialization.Digits
import Mathlib.Order.Lattice
import Mathlib.Order.Basic

namespace Serialization

/-- Days in a month of the proleptic Gregorian calendar. -/
def daysInMonth (year month : Nat) : Nat :=
  if month = 2 then
    if year % 4 = 0 ∧ (year % 100 ≠ 0 ∨ year % 400 = 0) then 29 else 28
  else if month = 4 ∨ month = 6 ∨ month = 9 ∨ month = 11 then 30
  else 31

/-- An instant in UTC with microsecond resolution, years 1 to 9999. -/
structure Datetime where
  year : Nat
  month : Nat
  day : Nat
  hour : Nat
  minute : Nat
  second : Nat
  microsecond : Nat
  date_valid : 1 ≤ year ∧ year ≤ 9999 ∧ 1 ≤ month ∧ month ≤ 12 ∧ 1 ≤ day ∧
    day ≤ daysInMonth year month
  time_valid : hour < 24 ∧ minute < 60 ∧ second < 60 ∧ microsecond < 1000000
deriving DecidableEq, Repr

theorem daysInMonth_le (year month : Nat) : daysInMonth year month ≤ 31 := by
  unfold daysInMonth
  split_ifs <;> omega

namespace Datetime

/-- One number that orders instants; the steps leave room for every field. -/
def rank (t : Datetime) : Nat :=
  (((((t.year * 13 + t.month) * 32 + t.day) * 24 + t.hour) * 60 + t.minute) * 60 + t.second) *
    1000000 + t.microsecond

theorem rank_injective : Function.Injective rank := by
  rintro ⟨y, m, d, h, mi, s, us, hdate, htime⟩ ⟨y', m', d', h', mi', s', us', hdate', htime'⟩ heq
  have hd := daysInMonth_le y m
  have hd' := daysInMonth_le y' m'
  simp only [rank] at heq
  obtain ⟨rfl, rfl, rfl, rfl, rfl, rfl, rfl⟩ :
      y = y' ∧ m = m' ∧ d = d' ∧ h = h' ∧ mi = mi' ∧ s = s' ∧ us = us' := by omega
  rfl

instance : LinearOrder Datetime := LinearOrder.lift' rank rank_injective

/-- The instant 24 hours later, if the calendar has one. -/
def nextDay? (t : Datetime) : Option Datetime :=
  if hday : t.day < daysInMonth t.year t.month then
    some { t with
      day := t.day + 1
      date_valid := by have := t.date_valid; omega }
  else if hmonth : t.month < 12 then
    some { t with
      month := t.month + 1
      day := 1
      date_valid := by
        have hlen : 28 ≤ daysInMonth t.year (t.month + 1) := by
          unfold daysInMonth
          split_ifs <;> omega
        have := t.date_valid
        omega }
  else if hyear : t.year < 9999 then
    some { t with
      year := t.year + 1
      month := 1
      day := 1
      date_valid := by
        have hlen : 28 ≤ daysInMonth (t.year + 1) 1 := by
          unfold daysInMonth
          split_ifs <;> omega
        have := t.date_valid
        omega }
  else none

/-- The instant 24 hours earlier, if the calendar has one. -/
def previousDay? (t : Datetime) : Option Datetime :=
  if hday : 1 < t.day then
    some { t with
      day := t.day - 1
      date_valid := by have := t.date_valid; omega }
  else if hmonth : 1 < t.month then
    some { t with
      month := t.month - 1
      day := daysInMonth t.year (t.month - 1)
      date_valid := by
        have hlen : 28 ≤ daysInMonth t.year (t.month - 1) := by
          unfold daysInMonth
          split_ifs <;> omega
        have := t.date_valid
        omega }
  else if hyear : 1 < t.year then
    some { t with
      year := t.year - 1
      month := 12
      day := 31
      date_valid := by
        have hlen : daysInMonth (t.year - 1) 12 = 31 := rfl
        have := t.date_valid
        omega }
  else none

/-- The instant this many days earlier, if the calendar has one. -/
def daysBefore? (t : Datetime) : Nat → Option Datetime
  | 0 => some t
  | days + 1 => (t.daysBefore? days).bind previousDay?

/-- ISO 8601 with the given zone designator; microseconds stand there only
when they are not zero. -/
def isoformat (t : Datetime) (zone : List Char) : String :=
  String.ofList
    (digits 10 4 t.year ++ '-' :: (digits 10 2 t.month ++ '-' :: (digits 10 2 t.day ++
      'T' :: (digits 10 2 t.hour ++ ':' :: (digits 10 2 t.minute ++
        ':' :: (digits 10 2 t.second ++
          if t.microsecond = 0 then zone else '.' :: (digits 10 6 t.microsecond ++ zone)))))))

/-- Read a field of the given width and the separator behind it. -/
def field? (width : Nat) (separator : Char) (cs : List Char) : Option (Nat × List Char) :=
  match readDigits 10 width 0 cs with
  | some (n, c :: rest) => if c = separator then some (n, rest) else none
  | _ => none

/-- Read the microseconds, when they are printed. -/
def fraction? : List Char → Option (Nat × List Char)
  | '.' :: rest => readDigits 10 6 0 rest
  | rest => some (0, rest)

/-- The instant with these calendar fields, if the calendar has it. -/
def ofFields? (year month day hour minute second microsecond : Nat) : Option Datetime :=
  if h : (1 ≤ year ∧ year ≤ 9999 ∧ 1 ≤ month ∧ month ≤ 12 ∧ 1 ≤ day ∧
      day ≤ daysInMonth year month) ∧
      (hour < 24 ∧ minute < 60 ∧ second < 60 ∧ microsecond < 1000000) then
    some ⟨year, month, day, hour, minute, second, microsecond, h.1, h.2⟩
  else none

/-- Read what `isoformat` prints. -/
def ofIsoformat? (zone : List Char) (text : String) : Option Datetime := do
  let (year, rest) ← field? 4 '-' text.toList
  let (month, rest) ← field? 2 '-' rest
  let (day, rest) ← field? 2 'T' rest
  let (hour, rest) ← field? 2 ':' rest
  let (minute, rest) ← field? 2 ':' rest
  let (second, rest) ← readDigits 10 2 0 rest
  let (microsecond, rest) ← fraction? rest
  if rest = zone then ofFields? year month day hour minute second microsecond else none

theorem field?_digits (width n : Nat) (separator : Char) (rest : List Char)
    (h : n < 10 ^ width) :
    field? width separator (digits 10 width n ++ separator :: rest) = some (n, rest) := by
  simp [field?, readDigits_digits (by decide : 10 ≤ 16) width 0 n _ h]

theorem fraction?_printed {zone : List Char} (hzone : zone.head? ≠ some '.') {microsecond : Nat}
    (h : microsecond < 1000000) :
    fraction? (if microsecond = 0 then zone else '.' :: (digits 10 6 microsecond ++ zone)) =
      some (microsecond, zone) := by
  by_cases hzero : microsecond = 0
  · subst hzero
    rcases zone with _ | ⟨c, zone⟩
    · rfl
    · have hc : c ≠ '.' := by simpa using hzone
      simp [fraction?, hc]
  · simp [fraction?, hzero, readDigits_digits (by decide : 10 ≤ 16) 6 0 microsecond zone h]

/-- Reading a printed instant gives the instant back, in every zone notation
that cannot be mistaken for a fraction. -/
theorem ofIsoformat?_isoformat (t : Datetime) {zone : List Char} (hzone : zone.head? ≠ some '.') :
    ofIsoformat? zone (t.isoformat zone) = some t := by
  obtain ⟨y, m, d, h, mi, s, us, hdate, htime⟩ := t
  have hd := daysInMonth_le y m
  simp only [ofIsoformat?, isoformat, String.toList_ofList, Option.bind_eq_bind,
    field?_digits 4 y _ _ (by omega), field?_digits 2 m _ _ (by omega),
    field?_digits 2 d _ _ (by omega), field?_digits 2 h _ _ (by omega),
    field?_digits 2 mi _ _ (by omega), Option.bind_some,
    readDigits_digits (by decide : 10 ≤ 16) 2 0 s _ (by omega : s < 10 ^ 2),
    fraction?_printed hzone htime.2.2.2]
  simp [ofFields?, hdate, htime]

end Datetime

end Serialization
