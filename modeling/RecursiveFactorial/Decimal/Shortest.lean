/-!
# The shortest decimal of a double

A positive double is `mantissa * 2 ^ exponent`. The reals that round to it form an interval around it, whose
ends belong to it when the mantissa is even. `shortest` finds the coarsest grid of multiples of a power of
ten that has a point in that interval, and on it the point nearest to the double. All arithmetic is exact.
-/
namespace RecursiveFactorial.Decimal

structure Binary where
  mantissa : Nat
  exponent : Int
  deriving DecidableEq, Repr

structure Scaled where
  digits : Nat
  exponent : Int
  deriving DecidableEq, Repr

/-- A ratio of naturals, compared by cross multiplication. -/
structure Ratio where
  num : Nat
  den : Nat
  deriving DecidableEq, Repr

def Ratio.lt (a b : Ratio) : Bool :=
  a.num * b.den < b.num * a.den

def Ratio.le (a b : Ratio) : Bool :=
  a.num * b.den ≤ b.num * a.den

def Ratio.ofPower (n base : Nat) (e : Int) : Ratio :=
  ⟨n * Nat.pow base e.toNat, Nat.pow base (-e).toNat⟩

/-- The reals that round to a double. -/
structure Interval where
  low : Ratio
  value : Ratio
  high : Ratio
  closed : Bool
  deriving DecidableEq, Repr

/-- The least mantissa of a double that is not in the least binade. -/
def leastMantissa : Nat := 0x10000000000000

/-- Half the gap to either neighbour. The gap below a power of two is half the gap above it, unless the
double is in the least binade. -/
def Binary.interval (b : Binary) : Interval :=
  let below := if b.mantissa = leastMantissa ∧ -1074 < b.exponent then 1 else 2
  let at4 (n : Nat) := Ratio.ofPower n 2 (b.exponent - 2)
  ⟨at4 (4 * b.mantissa - below), at4 (4 * b.mantissa), at4 (4 * b.mantissa + 2),
    b.mantissa % 2 = 0⟩

def Interval.holds (i : Interval) (r : Ratio) : Bool :=
  if i.closed then i.low.le r && r.le i.high else i.low.lt r && r.lt i.high

/-- The point of the grid of multiples of `10 ^ e` that lies in the interval and is nearest to the
value; of two at the same distance, the even one. -/
def Interval.onGrid (i : Interval) (e : Int) : Option Nat :=
  let point (d : Nat) := Ratio.ofPower d 10 e
  let unit := point 1
  let below := (i.value.num * unit.den) / (i.value.den * unit.num)
  let twiceValue := 2 * i.value.num * unit.den
  let twiceMiddle := (2 * below + 1) * unit.num * i.value.den
  match i.holds (point below), i.holds (point (below + 1)) with
  | true, false => some below
  | false, true => some (below + 1)
  | false, false => none
  | true, true =>
    if twiceValue < twiceMiddle then some below
    else if twiceMiddle < twiceValue then some (below + 1)
    else some (if below % 2 = 0 then below else below + 1)

/-- The coarsest grid with a point, among the grids `10 ^ (n - 1074)` and finer ones. Every double lies
on the grid `10 ^ (-1074)`. -/
def Interval.coarsest (i : Interval) : Nat → Scaled
  | 0 => ⟨(i.onGrid (-1074)).getD 0, -1074⟩
  | n + 1 =>
    match i.onGrid ((n + 1 : Nat) - 1074) with
    | some d => ⟨d, (n + 1 : Nat) - 1074⟩
    | none => i.coarsest n

/-- No double is above `10 ^ 309`, so grids coarser than that have no point. -/
def Binary.shortest (b : Binary) : Scaled :=
  b.interval.coarsest (309 + 1074)

end RecursiveFactorial.Decimal
