/-!
# Binary floating-point numbers

The finite values of the 64-bit binary format, exactly: a finite value is `mantissa · 2 ^ exponent`
with a sign. `Binary64.nearest` rounds a quotient of natural numbers to the nearest value, an exact
half to the even mantissa; values too large become infinite. Everything is done on `Nat`, so the
results can be computed in proofs.
-/

namespace TableClasses.Decimal

/-- A value of the 64-bit binary format. -/
inductive Binary64 where
  | nan
  | infinite (negative : Bool)
  | finite (negative : Bool) (mantissa : Nat) (exponent : Int)
  deriving DecidableEq, Repr

namespace Binary64

/-- The least exponent. -/
def minExponent : Int := -1074

/-- The greatest exponent. -/
def maxExponent : Int := 971

/-- The mantissas of values above the smallest binade lie from here to twice this. -/
def leastNormal : Nat := Nat.pow 2 52

/-- The quotient to the nearest whole number, an exact half to the even one. -/
def roundDiv (num den : Nat) : Nat :=
  let q := num / den
  let twice := 2 * (num % den)
  if den < twice || (twice == den && q % 2 == 1) then q + 1 else q

/-- `num / den / 2 ^ e` as a quotient of natural numbers. -/
def scaled (num den : Nat) (e : Int) : Nat × Nat :=
  (num * Nat.pow 2 (-e).toNat, den * Nat.pow 2 e.toNat)

/-- The exponent at which the quotient has 53 bits, or the least one. -/
def exponentOf (num den : Nat) : Int :=
  let low := max ((num.log2 : Int) - den.log2 - 53) minExponent
  let (n, d) := scaled num den low
  if n / d < 2 * leastNormal then low else low + 1

/-- The value nearest to `num / den`, with the given sign. -/
def nearest (negative : Bool) (num den : Nat) : Binary64 :=
  if num = 0 then finite negative 0 minExponent
  else
    let e := exponentOf num den
    let (n, d) := scaled num den e
    let m := roundDiv n d
    let (m, e) := if m = 2 * leastNormal then (leastNormal, e + 1) else (m, e)
    if maxExponent < e then infinite negative else finite negative m e

/-- The value nearest to `digits · 10 ^ exponent`. -/
def ofDecimal (negative : Bool) (digits : Nat) (exponent : Int) : Binary64 :=
  nearest negative (digits * Nat.pow 10 exponent.toNat) (Nat.pow 10 (-exponent).toNat)

def ofNat (n : Nat) : Binary64 := nearest false n 1

def isZero : Binary64 → Bool
  | finite _ m _ => m == 0
  | _ => false

def isFinite : Binary64 → Bool
  | finite .. => true
  | _ => false

def neg : Binary64 → Binary64
  | nan => nan
  | infinite s => infinite (!s)
  | finite s m e => finite (!s) m e

/-- Numerator and denominator of `m · 2 ^ e`. -/
def ratio (m : Nat) (e : Int) : Nat × Nat := (m * Nat.pow 2 e.toNat, Nat.pow 2 (-e).toNat)

/-- The rounded product of two finite values; anything else gives `nan`. -/
def mul : Binary64 → Binary64 → Binary64
  | finite s m e, finite t n f =>
    let (num, den) := ratio (m * n) (e + f)
    nearest (s != t) num den
  | _, _ => nan

/-- The rounded quotient of two finite values, the second not zero; anything else gives `nan`. -/
def div : Binary64 → Binary64 → Binary64
  | finite s m e, finite t n f =>
    if n = 0 then nan
    else
      let (num, den) := ratio m (e - f)
      nearest (s != t) num (den * n)
  | _, _ => nan

/-- The whole number that a value is, without its sign, if it is one. -/
def whole? : Binary64 → Option Nat
  | finite _ m e =>
    let (num, den) := ratio m e
    if num % den = 0 then some (num / den) else none
  | _ => none

/-- The nearest natural number, an exact half upwards, between zero and a limit; no number counts as
zero. -/
def toCount (limit : Nat) : Binary64 → Nat
  | finite false m e =>
    let (num, den) := ratio m e
    min ((2 * num + den) / (2 * den)) limit
  | infinite false => limit
  | _ => 0

/-- Whether the sign is set, also on a zero. -/
def isNegative : Binary64 → Bool
  | nan => false
  | infinite s => s
  | finite s _ _ => s

end Binary64

end TableClasses.Decimal
