import RecursiveFactorial.Text.Blank

/-!
# Numbers on a line

A number is read off the front of a line: blanks, one sign, digits, and whatever else there is. The digits
count towards a 64-bit integer that stays at its limit once it is reached, and the low 32 bits of that are
the number. A line without digits reads as zero.
-/
namespace RecursiveFactorial.Number

/-- The decimal text of an integer. -/
def decimal : Int → String
  | .ofNat n => String.ofList (Nat.toDigits 10 n)
  | .negSucc n => String.ofList ('-' :: Nat.toDigits 10 (n + 1))

def least64 : Int := -0x8000000000000000

def greatest64 : Int := 0x7fffffffffffffff

/-- The nearest 64-bit integer. -/
def saturate (x : Int) : Int :=
  max least64 (min x greatest64)

def digitValue (c : Char) : Int :=
  (c.toNat - '0'.toNat : Nat)

/-- Ten times the value and one more digit away from zero, each step saturated. -/
def pushDigit (negative : Bool) (value : Int) (c : Char) : Int :=
  let tens := saturate (value * 10)
  saturate (if negative then tens - digitValue c else tens + digitValue c)

/-- The value of the digits in front. -/
def readDigits (negative : Bool) (cs : List Char) : Int :=
  (cs.takeWhile Char.isDigit).foldl (pushDigit negative) 0

/-- The 64-bit value on a line. -/
def readWide (s : String) : Int :=
  match s.toList.dropWhile Text.isBlank with
  | '-' :: cs => readDigits true cs
  | '+' :: cs => readDigits false cs
  | cs => readDigits false cs

def read (s : String) : Int32 :=
  Int32.ofInt (readWide s)

end RecursiveFactorial.Number
