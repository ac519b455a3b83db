import TableClasses.Decimal.Binary64

/-!
# The shortest digits of a binary number

A decimal reads back as `x` when it lies in the interval of reals that round to `x`; the ends of the
interval belong to it when the mantissa is even. `shortest` looks at the grids of one, two, up to
seventeen digits, tests the two neighbours of `x` on each, and takes the first grid with a hit. Of
two hits the nearer wins; an exact tie goes to the even digit or upwards, as `Tie` says.
-/

namespace TableClasses.Decimal

/-- Which of two equally near decimals is taken. -/
inductive Tie where
  | toEven
  | up
  deriving DecidableEq, Repr

/-- The decimal `digits · 10 ^ exponent`. -/
structure Digits where
  digits : Nat
  exponent : Int
  deriving DecidableEq, Repr

/-- A value and the ends of the interval that rounds to it, all in units of `10 ^ -places`. -/
structure Interval where
  low : Nat
  value : Nat
  high : Nat
  closed : Bool
  places : Nat
  deriving DecidableEq, Repr

namespace Interval

/-- The interval of `m · 2 ^ e`. Below the least mantissa of a binade the neighbour is only half as
far away. -/
def ofBinary (m : Nat) (e : Int) : Interval :=
  let narrow := m == Binary64.leastNormal && decide (Binary64.minExponent < e)
  let f := e - 2
  let unit := Nat.pow 2 f.toNat * Nat.pow 5 (-f).toNat
  { low := (4 * m - (if narrow then 1 else 2)) * unit
    value := 4 * m * unit
    high := (4 * m + 2) * unit
    closed := m % 2 == 0
    places := (-f).toNat }

/-- Whether a number of units rounds to the value. -/
def has (i : Interval) (n : Nat) : Bool :=
  if i.closed then decide (i.low ≤ n) && decide (n ≤ i.high)
  else decide (i.low < n) && decide (n < i.high)

/-- The number of digits of the value. -/
def width (i : Interval) : Nat := (Nat.toDigits 10 i.value).length

/-- The hit on the grid of `n` digits, if there is one. -/
def hit? (tie : Tie) (i : Interval) (n : Nat) : Option Digits :=
  let step := Nat.pow 10 (i.width - n)
  let below := i.value / step
  let rest := i.value % step
  let found (d : Nat) : Option Digits := some ⟨d, (i.width - n : Nat) - (i.places : Int)⟩
  let nearerAbove :=
    decide (step < 2 * rest)
      || (2 * rest == step && (match tie with | .up => true | .toEven => below % 2 == 1))
  match i.has (below * step), i.has ((below + 1) * step) with
  | true, true => if nearerAbove then found (below + 1) else found below
  | true, false => found below
  | false, true => found (below + 1)
  | false, false => none

end Interval

/-- The decimal without zeros at its end. -/
def Digits.stripZeros : Nat → Digits → Digits
  | 0, d => d
  | fuel + 1, d =>
    if d.digits != 0 && d.digits % 10 == 0 then stripZeros fuel ⟨d.digits / 10, d.exponent + 1⟩
    else d

/-- The shortest decimal that reads back as `m · 2 ^ e`. -/
def shortest (tie : Tie) (m : Nat) (e : Int) : Digits :=
  if m = 0 then ⟨0, 0⟩
  else
    let i := Interval.ofBinary m e
    match (List.range 17).findSome? (fun n => i.hit? tie (n + 1)) with
    | some d => d.stripZeros 20
    | none => ⟨i.value, -(i.places : Int)⟩

end TableClasses.Decimal
