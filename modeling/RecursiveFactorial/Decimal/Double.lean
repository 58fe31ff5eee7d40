import RecursiveFactorial.Decimal.Shortest

/-!
# Doubles read from and written as decimals

A literal is read as its leading digits, at most as many as fit 64 bits, scaled by a power of ten with one
multiplication or division of doubles. It is written with the fewest digits that read back, positionally for
moderate sizes and with an exponent for the rest.
-/
namespace RecursiveFactorial.Decimal

/-- How a double is written. Positional notation serves values with a leading digit at a place from
`positionalFrom` up to below `positionalBelow`. -/
structure Layout where
  positionalFrom : Int
  positionalBelow : Int
  exponentMark : String
  plusSign : String

/-- Doubles in complaints: `0.00001` and `1e+16` are the first of their kind. -/
def complaintLayout : Layout :=
  ⟨-5, 16, "e", "+"⟩

def decimalDigits (n : Nat) : List Char :=
  Nat.toDigits 10 n

/-- Digits with a point after the first `whole` of them, and zeros wherever a place is missing. -/
def positional (digits : List Char) (whole : Int) : List Char :=
  if whole ≤ 0 then
    '0' :: '.' :: List.replicate (-whole).toNat '0' ++ digits
  else
    let n := whole.toNat
    let front := digits.take n ++ List.replicate (n - digits.length) '0'
    let back := digits.drop n
    front ++ '.' :: (if back = [] then ['0'] else back)

def withExponent (f : Layout) (digits : List Char) (place : Int) : List Char :=
  let fraction := digits.drop 1
  let sign := if place < 0 then "-" else f.plusSign
  digits.take 1 ++ (if fraction = [] then [] else '.' :: fraction) ++ f.exponentMark.toList ++
    sign.toList ++ decimalDigits place.natAbs

def Scaled.text (f : Layout) (s : Scaled) : List Char :=
  let digits := decimalDigits s.digits
  let place := s.exponent + digits.length - 1
  if f.positionalFrom ≤ place ∧ place < f.positionalBelow then positional digits (place + 1)
  else withExponent f digits place

/-- The magnitude of a finite double other than zero, from its bits. -/
def magnitude (bits : UInt64) : Binary :=
  let fraction : Nat := bits.toNat % leastMantissa
  let biased : Nat := bits.toNat / leastMantissa % 0x800
  if biased = 0 then ⟨fraction, -1074⟩ else ⟨fraction + leastMantissa, biased - 1075⟩

def signBit : Nat := 0x8000000000000000

def text (f : Layout) (bits : UInt64) : String :=
  let sign := if signBit ≤ bits.toNat then ['-'] else []
  let size := if bits.toNat % signBit = 0 then "0.0".toList else (magnitude bits).shortest.text f
  String.ofList (sign ++ size)

def powerOfTen (n : Nat) : Float :=
  Float.ofScientific 1 false n

def greatestPower : Nat := 308

/-- Divides by `10 ^ n`, in several steps when that power is no double. -/
def divideByPower (f : Float) (n : Nat) : Float :=
  if n ≤ greatestPower then f / powerOfTen n
  else if f == 0 then f
  else divideByPower (f / powerOfTen greatestPower) (n - greatestPower)
termination_by n
decreasing_by
  simp only [greatestPower] at *
  omega

/-- `significand * 10 ^ exponent` as a double, `none` when it is too large for one. -/
def scale? (significand : Nat) (exponent : Int) : Option Float :=
  let f := Float.ofScientific significand false 0
  if exponent < 0 then some (divideByPower f exponent.natAbs)
  else if exponent.toNat ≤ greatestPower then
    let g := f * powerOfTen exponent.toNat
    if g.isInf then none else some g
  else if f == 0 then some f
  else none

def signedBits (negative : Bool) (f : Float) : UInt64 :=
  (if negative then -f else f).toBits

end RecursiveFactorial.Decimal
