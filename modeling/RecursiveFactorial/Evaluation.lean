/-!
# Factorials of 32-bit integers

The recursion `0! = 1! = 1`, `n! = n * (n - 1)!` on signed 32-bit integers, in two modes: a product that does
not fit is reported, or it wraps. In both modes a negative argument is rejected, since its recursion
never reaches a base case.
-/
namespace RecursiveFactorial

/-- What becomes of a product that does not fit 32 bits. -/
inductive Mode where
  | checked
  | wrapping
  deriving DecidableEq, Repr, Inhabited

/-- Why an argument has no factorial. -/
inductive Rejection where
  | negative (n : Int32)
  | overflow (n : Int32)
  deriving DecidableEq, Repr

namespace Evaluation

def product? (a b : Int32) : Option Int32 :=
  let p := a.toInt * b.toInt
  if Int32.minValue.toInt ≤ p ∧ p ≤ Int32.maxValue.toInt then some (Int32.ofInt p) else none

def checkedRecursion : Nat → Option Int32
  | 0 => some 1
  | 1 => some 1
  | n + 2 =>
    match checkedRecursion (n + 1) with
    | none => none
    | some r => product? (Int32.ofNat (n + 2)) r

def wrappingRecursion : Nat → Int32
  | 0 => 1
  | 1 => 1
  | n + 2 => Int32.ofNat (n + 2) * wrappingRecursion (n + 1)

/-- The largest argument whose factorial fits. -/
def largestChecked : Int32 := 12

/-- From here on the factorial has at least 32 factors of two, and wraps to zero. -/
def vanishesFrom : Int32 := 34

def checkedFactorial (n : Int32) : Except Rejection Int32 :=
  if n < 0 then .error (.negative n)
  else if largestChecked < n then .error (.overflow n)
  else
    match checkedRecursion n.toInt.toNat with
    | some r => .ok r
    | none => .error (.overflow n)

def wrappingFactorial (n : Int32) : Except Rejection Int32 :=
  if n < 0 then .error (.negative n)
  else if vanishesFrom ≤ n then .ok 0
  else .ok (wrappingRecursion n.toInt.toNat)

end Evaluation

/-- The factorial in the given mode. -/
def Mode.eval : Mode → Int32 → Except Rejection Int32
  | .checked => Evaluation.checkedFactorial
  | .wrapping => Evaluation.wrappingFactorial

end RecursiveFactorial
