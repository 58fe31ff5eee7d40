import RecursiveFactorial.Document.Text

/-!
# Numerals of a document

A numeral without fraction and exponent is a whole number if 64 bits hold it, and everything else is a double.
Of the digits before and after the point those count that keep the significand within 64 bits; a digit
before the point that does not count still moves the point. A minus sign makes zero a double, since no
integer is a negative zero.
-/
namespace RecursiveFactorial.Document

inductive Numeral where
  | whole (n : Int)
  | real (bits : UInt64)
  deriving DecidableEq, Repr

def Numeral.found : Numeral → Found
  | .whole n => .whole n
  | .real bits => .real bits

def isDigit (b : UInt8) : Bool :=
  '0'.toUInt8 ≤ b && b ≤ '9'.toUInt8

def digitValue (b : UInt8) : Nat :=
  b.toNat - '0'.toNat

def isExponentMark (b : UInt8) : Bool :=
  b == 'e'.toUInt8 || b == 'E'.toUInt8

/-- Appends digits to a value as long as it stays within the limit; also gives the digits that are
left over. -/
def pushDigits (limit value : Nat) : Octets → Nat × Octets
  | [] => (value, [])
  | b :: ds =>
    if value * 10 + digitValue b ≤ limit then pushDigits limit (value * 10 + digitValue b) ds
    else (value, b :: ds)

/-- The greatest significand. -/
def greatestSignificand : Nat := 0xffffffffffffffff

/-- The greatest exponent that a numeral may spell out. -/
def greatestExponent : Nat := 0x7fffffff

/-- The double `significand * 10 ^ exponent`, read up to `rest`. -/
def realNumeral (negative : Bool) (significand : Nat) (exponent : Int) (rest : Octets) :
    Except Fault (Numeral × Octets) :=
  match Decimal.scale? significand exponent with
  | some f => .ok (.real (Decimal.signedBits negative f), rest)
  | none => complain .numberOutOfRange rest

/-- The whole number with this significand and sign, if it is a 64-bit one. -/
def wholeNumeral (negative : Bool) (significand : Nat) (rest : Octets) :
    Except Fault (Numeral × Octets) :=
  if !negative then .ok (.whole significand, rest)
  else if significand = 0 ∨ 0x8000000000000000 < significand then realNumeral negative significand 0 rest
  else .ok (.whole (-significand), rest)

/-- An optional sign; `true` for a minus. -/
def readSign : Octets → Bool × Octets
  | [] => (false, [])
  | b :: s =>
    if b = '-'.toUInt8 then (true, s)
    else if b = '+'.toUInt8 then (false, s)
    else (false, b :: s)

/-- What follows an exponent mark. An exponent past its limit makes the numeral zero or out of range,
and the latter is known at the digit that passes the limit. -/
def readExponent (negative : Bool) (significand : Nat) (exponent : Int) (s : Octets) :
    Except Fault (Numeral × Octets) :=
  let (down, s) := readSign s
  match s with
  | [] => complain .endInValue []
  | b :: s =>
    if !isDigit b then complain .invalidNumber s
    else
      let (e, unused) := pushDigits greatestExponent (digitValue b) (s.takeWhile isDigit)
      let rest := s.dropWhile isDigit
      if unused = [] then
        realNumeral negative significand (if down then exponent - e else exponent + e) rest
      else if significand = 0 ∨ down then realNumeral negative 0 0 rest
      else complain .numberOutOfRange (unused.drop 1 ++ rest)

/-- What follows a point: at least one digit, and perhaps an exponent. -/
def readFraction (negative : Bool) (significand : Nat) (exponent : Int) (s : Octets) :
    Except Fault (Numeral × Octets) :=
  let digits := s.takeWhile isDigit
  let (significand, unused) := pushDigits greatestSignificand significand digits
  let exponent := exponent - (digits.length - unused.length : Nat)
  match digits, s.dropWhile isDigit with
  | [], [] => complain .endInValue []
  | [], rest => complainOfNext .invalidNumber rest
  | _ :: _, [] => realNumeral negative significand exponent []
  | _ :: _, b :: rest =>
    if isExponentMark b then readExponent negative significand exponent rest
    else realNumeral negative significand exponent (b :: rest)

/-- What follows the digits before the point, `unused` of which did not count. -/
def readAfterDigits (negative : Bool) (significand unused : Nat) (s : Octets) :
    Except Fault (Numeral × Octets) :=
  let plain :=
    if unused = 0 then wholeNumeral negative significand s
    else realNumeral negative significand unused s
  match s with
  | [] => plain
  | b :: rest =>
    if b = '.'.toUInt8 then readFraction negative significand unused rest
    else if isExponentMark b then readExponent negative significand unused rest
    else plain

/-- A numeral without its sign. A zero in front stands alone. -/
def readNumeral (negative : Bool) : Octets → Except Fault (Numeral × Octets)
  | [] => complain .endInValue []
  | b :: s =>
    if b = '0'.toUInt8 then
      if (s.head?.map isDigit).getD false then complainOfNext .invalidNumber s
      else readAfterDigits negative 0 0 s
    else if isDigit b then
      let (significand, unused) :=
        pushDigits greatestSignificand (digitValue b) (s.takeWhile isDigit)
      readAfterDigits negative significand unused.length (s.dropWhile isDigit)
    else complain .invalidNumber s

/-- Passes over what follows an exponent mark. -/
def skipExponent (s : Octets) : Except Fault Octets :=
  match (readSign s).2 with
  | [] => complain .invalidNumber []
  | b :: s => if isDigit b then .ok (s.dropWhile isDigit) else complain .invalidNumber s

/-- Passes over an exponent if there is one. -/
def skipExponentPart : Octets → Except Fault Octets
  | [] => .ok []
  | b :: s => if isExponentMark b then skipExponent s else .ok (b :: s)

/-- Passes over a fraction and an exponent, as far as there are any. -/
def skipAfterDigits : Octets → Except Fault Octets
  | [] => .ok []
  | b :: s =>
    if b = '.'.toUInt8 then
      if (s.head?.map isDigit).getD false then skipExponentPart (s.dropWhile isDigit)
      else complainOfNext .invalidNumber s
    else skipExponentPart (b :: s)

/-- Passes over a numeral without its sign. No size is too large here. -/
def skipNumeral : Octets → Except Fault Octets
  | [] => complain .invalidNumber []
  | b :: s =>
    if b = '0'.toUInt8 then
      if (s.head?.map isDigit).getD false then complainOfNext .invalidNumber s
      else skipAfterDigits s
    else if isDigit b then skipAfterDigits (s.dropWhile isDigit)
    else complain .invalidNumber s

theorem length_dropDigits_le (s : Octets) : (s.dropWhile isDigit).length ≤ s.length :=
  (List.dropWhile_sublist isDigit).length_le

theorem length_readSign_le (s : Octets) : (readSign s).2.length ≤ s.length := by
  unfold readSign
  split
  · simp
  · split
    · simp
    · split <;> simp

theorem eq_of_realNumeral {negative : Bool} {m : Nat} {e : Int} {s r : Octets} {n : Numeral}
    (h : realNumeral negative m e s = .ok (n, r)) : r = s := by
  unfold realNumeral at h
  split at h
  · simp only [Except.ok.injEq, Prod.mk.injEq] at h
    exact h.2.symm
  · simp at h

theorem length_readExponent_le {negative : Bool} {m : Nat} {e : Int} {s r : Octets} {n : Numeral}
    (h : readExponent negative m e s = .ok (n, r)) : r.length ≤ s.length := by
  have hs := length_readSign_le s
  simp only [readExponent] at h
  split at h
  · simp at h
  · rename_i b t ht
    have hd := length_dropDigits_le t
    rw [ht] at hs
    simp only [List.length_cons] at hs
    split at h
    · simp at h
    · split at h
      · rw [eq_of_realNumeral h]
        omega
      · split at h
        · rw [eq_of_realNumeral h]
          omega
        · simp at h

theorem length_readFraction_le {negative : Bool} {m : Nat} {e : Int} {s r : Octets} {n : Numeral}
    (h : readFraction negative m e s = .ok (n, r)) : r.length ≤ s.length := by
  have hd := length_dropDigits_le s
  simp only [readFraction] at h
  split at h
  · simp at h
  · simp at h
  · rw [eq_of_realNumeral h]
    simp
  · rename_i b rest ht
    rw [ht] at hd
    simp only [List.length_cons] at hd
    split at h
    · have := length_readExponent_le h
      omega
    · rw [eq_of_realNumeral h]
      simpa using hd

theorem eq_of_wholeNumeral {negative : Bool} {m : Nat} {s r : Octets} {n : Numeral}
    (h : wholeNumeral negative m s = .ok (n, r)) : r = s := by
  unfold wholeNumeral at h
  split at h
  · simp only [Except.ok.injEq, Prod.mk.injEq] at h
    exact h.2.symm
  · split at h
    · exact eq_of_realNumeral h
    · simp only [Except.ok.injEq, Prod.mk.injEq] at h
      exact h.2.symm

theorem length_readAfterDigits_le {negative : Bool} {m k : Nat} {s r : Octets} {n : Numeral}
    (h : readAfterDigits negative m k s = .ok (n, r)) : r.length ≤ s.length := by
  have plain : ∀ {t : Octets},
      (if k = 0 then wholeNumeral negative m t else realNumeral negative m k t) = .ok (n, r) →
        r = t := by
    intro t ht
    split at ht
    · exact eq_of_wholeNumeral ht
    · exact eq_of_realNumeral ht
  simp only [readAfterDigits] at h
  split at h
  · exact Nat.le_of_eq (congrArg List.length (plain h))
  · split at h
    · have := length_readFraction_le h
      simp only [List.length_cons]
      omega
    · split at h
      · have := length_readExponent_le h
        simp only [List.length_cons]
        omega
      · exact Nat.le_of_eq (congrArg List.length (plain h))

theorem length_readNumeral {negative : Bool} {s r : Octets} {n : Numeral}
    (h : readNumeral negative s = .ok (n, r)) : r.length < s.length := by
  unfold readNumeral at h
  split at h
  · simp at h
  · rename_i b t
    split at h
    · split at h
      · simp at h
      · have := length_readAfterDigits_le h
        simp only [List.length_cons]
        omega
    · split at h
      · have := length_readAfterDigits_le h
        have := length_dropDigits_le t
        simp only [List.length_cons]
        omega
      · simp at h

theorem length_skipExponent_le {s r : Octets} (h : skipExponent s = .ok r) :
    r.length ≤ s.length := by
  have hs := length_readSign_le s
  unfold skipExponent at h
  split at h
  · simp at h
  · rename_i b t ht
    have hd := length_dropDigits_le t
    rw [ht] at hs
    simp only [List.length_cons] at hs
    split at h
    · simp only [Except.ok.injEq] at h
      rw [← h]
      omega
    · simp at h

theorem length_skipExponentPart_le {s r : Octets} (h : skipExponentPart s = .ok r) :
    r.length ≤ s.length := by
  unfold skipExponentPart at h
  split at h
  · simp_all
  · split at h
    · have := length_skipExponent_le h
      simp only [List.length_cons]
      omega
    · simp only [Except.ok.injEq] at h
      simp [← h]

theorem length_skipAfterDigits_le {s r : Octets} (h : skipAfterDigits s = .ok r) :
    r.length ≤ s.length := by
  unfold skipAfterDigits at h
  split at h
  · simp_all
  · rename_i b t
    split at h
    · split at h
      · have := length_skipExponentPart_le h
        have := length_dropDigits_le t
        simp only [List.length_cons]
        omega
      · simp at h
    · exact length_skipExponentPart_le h

theorem length_skipNumeral {s r : Octets} (h : skipNumeral s = .ok r) : r.length < s.length := by
  unfold skipNumeral at h
  split at h
  · simp at h
  · rename_i b t
    have hd := length_dropDigits_le t
    split at h
    · split at h
      · simp at h
      · have := length_skipAfterDigits_le h
        simp only [List.length_cons]
        omega
    · split at h
      · have := length_skipAfterDigits_le h
        simp only [List.length_cons]
        omega
      · simp at h

end RecursiveFactorial.Document
