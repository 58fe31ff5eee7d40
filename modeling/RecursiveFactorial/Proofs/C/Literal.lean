import Mathlib.Data.List.TakeWhile
import RecursiveFactorial.Proofs.Text.Utf8

/-!
# String literals of C, octet by octet

A literal is read off the front of any octets, which need not be a text and may go on after it. A backslash and a
letter stand for one octet; so do a backslash and octal digits, of which as many are taken as there are, three at
most. There is no newline in a literal, and trigraphs are not replaced.
-/
namespace RecursiveFactorial.C

/-- The octet that a letter after a backslash stands for. -/
def letterEscape? (b : UInt8) : Option UInt8 :=
  if b = '"'.toUInt8 ∨ b = '\\'.toUInt8 then some b
  else if b = 'n'.toUInt8 then some '\n'.toUInt8
  else if b = 't'.toUInt8 then some '\t'.toUInt8
  else if b = 'r'.toUInt8 then some '\r'.toUInt8
  else none

def isOctalDigit (b : UInt8) : Bool :=
  '0'.toUInt8 ≤ b && b ≤ '7'.toUInt8

/-- The octal digits in front, three at most. -/
def octalRun (bs : Octets) : Octets :=
  (bs.take 3).takeWhile isOctalDigit

def octalValue (digits : Octets) : Nat :=
  digits.foldl (fun n d => 8 * n + (d.toNat - '0'.toNat)) 0

/-- The octet of an escape sequence and the length of the sequence, given what follows its backslash. -/
def escape? (bs : Octets) : Option (UInt8 × Nat) :=
  match bs.head?.bind letterEscape? with
  | some b => some (b, 1)
  | none =>
    let digits := octalRun bs
    if digits ≠ [] ∧ octalValue digits < 256 then some (UInt8.ofNat (octalValue digits), digits.length) else none

/-- Puts an octet in front of those that are read. -/
def pushOctet (b : UInt8) (r : Octets × Octets) : Octets × Octets :=
  (b :: r.1, r.2)

/-- The octets up to the closing quote, and what follows it. -/
def readQuoted? : Octets → Option (Octets × Octets)
  | [] => none
  | b :: bs =>
    if b = '"'.toUInt8 then some ([], bs)
    else if b = '\n'.toUInt8 then none
    else if b = '\\'.toUInt8 then
      match escape? bs with
      | some (octet, length) => (readQuoted? (bs.drop length)).map (pushOctet octet)
      | none => none
    else (readQuoted? bs).map (pushOctet b)
termination_by bs => bs.length
decreasing_by
  · simp only [List.length_drop, List.length_cons]
    omega
  · simp

/-- The octets of the literal in front, and what follows it. -/
def readLiteral? : Octets → Option (Octets × Octets)
  | [] => none
  | b :: bs => if b = '"'.toUInt8 then readQuoted? bs else none

theorem readQuoted?_quote (bs : Octets) : readQuoted? ('"'.toUInt8 :: bs) = some ([], bs) := by
  rw [readQuoted?, if_pos rfl]

theorem readQuoted?_escape {bs : Octets} {octet : UInt8} {length : Nat} (h : escape? bs = some (octet, length)) :
    readQuoted? ('\\'.toUInt8 :: bs) = (readQuoted? (bs.drop length)).map (pushOctet octet) := by
  rw [readQuoted?, if_neg (by decide), if_neg (by decide), if_pos rfl, h]

theorem readQuoted?_plain {b : UInt8} (hquote : b ≠ '"'.toUInt8) (hnewline : b ≠ '\n'.toUInt8)
    (hbackslash : b ≠ '\\'.toUInt8) (bs : Octets) : readQuoted? (b :: bs) = (readQuoted? bs).map (pushOctet b) := by
  rw [readQuoted?, if_neg hquote, if_neg hnewline, if_neg hbackslash]

theorem escape?_letter {b octet : UInt8} (h : letterEscape? b = some octet) (bs : Octets) :
    escape? (b :: bs) = some (octet, 1) := by
  simp [escape?, h]

theorem letterEscape?_octalDigit : ∀ b : UInt8, isOctalDigit b = true → letterEscape? b = none :=
  Utf8.forall_octet (by decide +kernel)

/-- Three digits are an escape sequence of their own, whatever follows them. -/
theorem escape?_octal {digits : Octets} {b : UInt8} (hlength : digits.length = 3)
    (hdigits : ∀ d ∈ digits, isOctalDigit d = true) (hvalue : octalValue digits = b.toNat) (bs : Octets) :
    escape? (digits ++ bs) = some (b, 3) := by
  have hne : digits ≠ [] := List.ne_nil_of_length_pos (by omega)
  have hletter : (digits ++ bs).head?.bind letterEscape? = none := by
    obtain ⟨d, ds, rfl⟩ := List.exists_cons_of_ne_nil hne
    exact letterEscape?_octalDigit d (hdigits d List.mem_cons_self)
  have hrun : octalRun (digits ++ bs) = digits := by
    rw [octalRun, ← hlength, List.take_left]
    exact List.takeWhile_eq_self_iff.mpr hdigits
  have hlt : octalValue digits < 256 := hvalue ▸ b.toNat_lt
  unfold escape?
  simp only [hletter, hrun]
  rw [if_pos ⟨hne, hlt⟩, hvalue, hlength, UInt8.ofNat_toNat]

end RecursiveFactorial.C
