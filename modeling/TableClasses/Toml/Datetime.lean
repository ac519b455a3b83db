import TableClasses.Decimal.Numeral

/-!
# Dates and times

A date, a time, or both with an optional offset from universal time. The letters between the parts
may be small, a space may stand for the `T`, the seconds may be left out, and a fraction keeps nine
places. `Datetime.text` is the one form in which they are written again; `Datetime.full` is the same
moment with its seconds.
-/

namespace TableClasses.Toml

open Decimal

structure Date where
  year : Nat
  month : Nat
  day : Nat
  deriving DecidableEq, Repr

/-- A time of day; the fraction is in nanoseconds. -/
structure Time where
  hour : Nat
  minute : Nat
  second : Option Nat
  fraction : Option Nat
  deriving DecidableEq, Repr

inductive Offset where
  | utc
  | minutes (east : Int)
  deriving DecidableEq, Repr

/-- A date, a time or both; only both together have an offset. -/
inductive Datetime where
  | date (d : Date)
  | time (t : Time)
  | both (d : Date) (t : Time)
  | instant (d : Date) (t : Time) (o : Offset)
  deriving DecidableEq, Repr

def isLeapYear (y : Nat) : Bool := (y % 4 == 0 && y % 100 != 0) || y % 400 == 0

def daysInMonth (year month : Nat) : Nat :=
  if month = 2 then (if isLeapYear year then 29 else 28)
  else if month = 4 ∨ month = 6 ∨ month = 9 ∨ month = 11 then 30
  else 31

/-! ## Reading -/

/-- Takes exactly `n` digits off the front. -/
def takeDigits (n : Nat) (s : List Char) : Option (Nat × List Char) :=
  let ds := s.take n
  if ds.length = n then (natOf? ds).map fun v => (v, s.drop n) else none

/-- Takes one character off the front. -/
def takeChar (c : Char) : List Char → Option (List Char)
  | d :: rest => if c = d then some rest else none
  | [] => none

def readDate (s : List Char) : Option (Date × List Char) := do
  let (year, s) ← takeDigits 4 s
  let s ← takeChar '-' s
  let (month, s) ← takeDigits 2 s
  let s ← takeChar '-' s
  let (day, s) ← takeDigits 2 s
  guard (decide (1 ≤ month) && decide (month ≤ 12))
  guard (decide (1 ≤ day) && decide (day ≤ daysInMonth year month))
  return (⟨year, month, day⟩, s)

/-- Digits after the point as nanoseconds; those beyond the ninth are ignored. -/
def nanoseconds (ds : List Char) : Nat :=
  digitsValue 0 (ds.take 9) * Nat.pow 10 (9 - ds.length)

def readFraction : List Char → Option (Option Nat × List Char)
  | '.' :: s =>
    let ds := s.takeWhile Char.isDigit
    if ds.isEmpty then none else some (some (nanoseconds ds), s.dropWhile Char.isDigit)
  | s => some (none, s)

/-- Reads a time; the second may be 60 for a leap second. -/
def readTime (s : List Char) : Option (Time × List Char) := do
  let (hour, s) ← takeDigits 2 s
  let s ← takeChar ':' s
  let (minute, s) ← takeDigits 2 s
  guard (decide (hour ≤ 23) && decide (minute ≤ 59))
  match s with
  | ':' :: s =>
    let (second, s) ← takeDigits 2 s
    guard (decide (second ≤ 60))
    let (fraction, s) ← readFraction s
    return (⟨hour, minute, some second, fraction⟩, s)
  | s => return (⟨hour, minute, none, none⟩, s)

/-- Reads an offset up to the end of the text; nothing stands for no offset. -/
def readOffset : List Char → Option (Option Offset)
  | [] => some none
  | ['Z'] => some (some .utc)
  | ['z'] => some (some .utc)
  | c :: s => do
    guard (c == '+' || c == '-')
    let (hours, s) ← takeDigits 2 s
    let s ← takeChar ':' s
    let (minutes, s) ← takeDigits 2 s
    guard (s.isEmpty && decide (hours ≤ 23) && decide (minutes ≤ 59))
    let total : Int := 60 * hours + minutes
    return some (.minutes (if c == '-' then -total else total))

/-- Reads a whole text as a date, a time or both. -/
def Datetime.read? (s : List Char) : Option Datetime :=
  match readDate s with
  | some (d, []) => some (.date d)
  | some (d, c :: s) => do
    guard (c == 'T' || c == 't' || c == ' ')
    let (t, s) ← readTime s
    match ← readOffset s with
    | some o => some (.instant d t o)
    | none => some (.both d t)
  | none =>
    match readTime s with
    | some (t, []) => some (.time t)
    | _ => none

/-! ## Writing -/

/-- The digits of a number with zeros before them up to the given width. -/
def padded (width n : Nat) : String :=
  let ds := Nat.toDigits 10 n
  String.ofList (List.replicate (width - ds.length) '0' ++ ds)

def Date.text (d : Date) : String :=
  padded 4 d.year ++ "-" ++ padded 2 d.month ++ "-" ++ padded 2 d.day

/-- The fraction without the zeros at its end, at least one digit. -/
def fractionText (n : Nat) : String :=
  let ds := Text.trimEnd (· == '0') (padded 9 n).toList
  if ds.isEmpty then "0" else String.ofList ds

def Time.text (t : Time) : String :=
  padded 2 t.hour ++ ":" ++ padded 2 t.minute
    ++ (match t.second with | some s => ":" ++ padded 2 s | none => "")
    ++ (match t.fraction with | some n => "." ++ fractionText n | none => "")

def Offset.text : Offset → String
  | utc => "Z"
  | minutes m =>
    (if m < 0 then "-" else "+") ++ padded 2 (m.natAbs / 60) ++ ":" ++ padded 2 (m.natAbs % 60)

def Datetime.text : Datetime → String
  | date d => d.text
  | time t => t.text
  | both d t => d.text ++ "T" ++ t.text
  | instant d t o => d.text ++ "T" ++ t.text ++ o.text

/-! ## Full form -/

/-- The time with its seconds and without a fraction of nothing. -/
def Time.full (t : Time) : Time :=
  { t with second := some (t.second.getD 0), fraction := t.fraction.filter (· != 0) }

/-- The same moment with its seconds. -/
def Datetime.full : Datetime → Datetime
  | date d => .date d
  | time t => .time t.full
  | both d t => .both d t.full
  | instant d t o => .instant d t.full o

theorem Time.full_full (t : Time) : t.full.full = t.full := by
  simp [full, Option.filter_filter]

theorem Datetime.full_full (d : Datetime) : d.full.full = d.full := by
  cases d <;> simp [full, Time.full_full]

end TableClasses.Toml
