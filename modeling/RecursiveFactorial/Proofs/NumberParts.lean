import Mathlib.Data.Nat.Digits.Defs
import RecursiveFactorial.Proofs.Number
import RecursiveFactorial.Proofs.Text.Ascii

/-!
# The parts of a number on a line

The octets of a line fall into blanks, a sign, digits and a rest in just one way. The number that is read is the exact
value of the digits with their sign, brought into the range of 64 bits and then cut down to 32. So the decimal text of
a 32-bit integer is read as that integer, whatever blanks stand before it and whatever but a digit stands behind it.
-/
namespace RecursiveFactorial.Number

inductive Sign where
  | plus
  | minus
  deriving DecidableEq, Repr

def Sign.octet : Sign → UInt8
  | .plus => 43
  | .minus => 45

def signOctets : Option Sign → Octets
  | none => []
  | some s => [s.octet]

theorem signOctets_injective {s t : Option Sign} (h : signOctets s = signOctets t) : s = t := by
  rcases s with - | - | - <;> rcases t with - | - | - <;> simp_all [signOctets, Sign.octet]

/-- All octets of a run are of a class, and what follows the run does not start with one of that class. -/
structure LongestRun (p : UInt8 → Bool) (run rest : Octets) : Prop where
  inside : ∀ b ∈ run, p b = true
  stops : ∀ b ∈ rest.head?, p b = false

section LongestRun

variable {p : UInt8 → Bool} {run rest : Octets}

theorem LongestRun.takeWhile (h : LongestRun p run rest) : (run ++ rest).takeWhile p = run := by
  rw [List.takeWhile_append_of_pos h.inside]
  cases rest with
  | nil => simp
  | cons b rest => simp [h.stops b rfl]

theorem LongestRun.dropWhile (h : LongestRun p run rest) : (run ++ rest).dropWhile p = rest := by
  rw [List.dropWhile_append_of_pos h.inside]
  cases rest with
  | nil => rfl
  | cons b rest => simp [h.stops b rfl]

theorem longestRun_takeWhile (p : UInt8 → Bool) (bs : Octets) : LongestRun p (bs.takeWhile p) (bs.dropWhile p) where
  inside _ hb := List.mem_takeWhile_imp hb
  stops b hb := by
    have h := List.head?_dropWhile_not p bs
    rw [Option.mem_def.mp hb] at h
    simpa using h

end LongestRun

/-- Octets, split as a number is read from them: the longest run of blanks, one sign if there is one, the longest
run of digits, and the rest. -/
@[ext]
structure Parts (bs : Octets) where
  blanks : Octets
  sign : Option Sign
  digits : Octets
  rest : Octets
  octets_eq : bs = blanks ++ (signOctets sign ++ (digits ++ rest))
  blanks_longest : LongestRun C.isSpace blanks (signOctets sign ++ (digits ++ rest))
  sign_taken : sign = none → ∀ s : Sign, (digits ++ rest).head? ≠ some s.octet
  digits_longest : LongestRun C.isDigit digits rest

/-- What follows the blanks starts with a sign or does not. -/
theorem exists_sign (bs : Octets) :
    ∃ sign more, bs = signOctets sign ++ more ∧ (sign = none → ∀ s : Sign, more.head? ≠ some s.octet) := by
  by_cases h : ∃ s : Sign, bs.head? = some s.octet
  · obtain ⟨s, hs⟩ := h
    obtain ⟨more, rfl⟩ := List.head?_eq_some_iff.mp hs
    exact ⟨some s, more, rfl, fun hnone => nomatch hnone⟩
  · exact ⟨none, bs, rfl, fun _ s hs => h ⟨s, hs⟩⟩

theorem nonempty_parts (bs : Octets) : Nonempty (Parts bs) := by
  obtain ⟨sign, more, hmore, hsign⟩ := exists_sign (bs.dropWhile C.isSpace)
  have hblanks := longestRun_takeWhile C.isSpace bs
  have hsplit : more.takeWhile C.isDigit ++ more.dropWhile C.isDigit = more := List.takeWhile_append_dropWhile
  rw [← hsplit] at hmore hsign
  exact ⟨{
    blanks := bs.takeWhile C.isSpace
    sign := sign
    digits := more.takeWhile C.isDigit
    rest := more.dropWhile C.isDigit
    octets_eq := by rw [← hmore, List.takeWhile_append_dropWhile]
    blanks_longest := hmore ▸ hblanks
    sign_taken := hsign
    digits_longest := longestRun_takeWhile C.isDigit more }⟩

namespace Parts

variable {bs : Octets}

theorem takeWhile_isSpace (parts : Parts bs) : bs.takeWhile C.isSpace = parts.blanks := by
  have h := parts.blanks_longest.takeWhile
  rwa [← parts.octets_eq] at h

theorem dropWhile_isSpace (parts : Parts bs) :
    bs.dropWhile C.isSpace = signOctets parts.sign ++ (parts.digits ++ parts.rest) := by
  have h := parts.blanks_longest.dropWhile
  rwa [← parts.octets_eq] at h

theorem signed_eq (parts : Parts bs) :
    C.signed (bs.dropWhile C.isSpace) = (decide (parts.sign = some .minus), parts.digits ++ parts.rest) := by
  rw [parts.dropWhile_isSpace]
  cases hsign : parts.sign with
  | some s =>
    cases s with
    | plus => rfl
    | minus => rfl
  | none =>
    -- Without a sign the first octet is neither of the two, whether it is a digit or belongs to the rest.
    have hfirst := parts.sign_taken hsign
    cases hmore : parts.digits ++ parts.rest with
    | nil => rfl
    | cons b more =>
      rw [hmore] at hfirst
      exact signed_of_ne (fun h => hfirst .minus (congrArg some h)) (fun h => hfirst .plus (congrArg some h)) more

/-- There is only one way to split octets so. -/
theorem eq_of_parts (a b : Parts bs) : a = b := by
  have hblanks : a.blanks = b.blanks := by rw [← a.takeWhile_isSpace, b.takeWhile_isSpace]
  have hmore : a.digits ++ a.rest = b.digits ++ b.rest := by
    have h := a.signed_eq
    rw [b.signed_eq] at h
    exact (Prod.mk.inj h).2.symm
  have hsign : signOctets a.sign = signOctets b.sign := by
    have h := a.dropWhile_isSpace
    rw [b.dropWhile_isSpace, hmore] at h
    exact (List.append_cancel_right h).symm
  have hdigits : a.digits = b.digits := by
    rw [← a.digits_longest.takeWhile, hmore, b.digits_longest.takeWhile]
  have hrest : a.rest = b.rest := by
    rw [← a.digits_longest.dropWhile, hmore, b.digits_longest.dropWhile]
  exact Parts.ext hblanks (signOctets_injective hsign) hdigits hrest

/-- The integer that the digits and the sign stand for, zero where there are no digits. -/
def value (parts : Parts bs) : Int :=
  let n : Nat := Nat.ofDigits 10 (parts.digits.reverse.map fun b => b.toNat - 48)
  if parts.sign = some .minus then -n else n

theorem digitsValue_eq_ofDigits (digits : Octets) :
    C.digitsValue digits = Nat.ofDigits 10 (digits.reverse.map fun b => b.toNat - 48) := by
  have hstep (n : Nat) (b : UInt8) : 10 * n + (b.toNat - 48) = (b.toNat - 48) + 10 * n := Nat.add_comm _ _
  rw [C.digitsValue, List.map_reverse, Nat.ofDigits_eq_foldr, List.foldr_reverse, List.foldl_map]
  simp only [hstep, Nat.cast_id]

theorem strtol_eq_saturate (parts : Parts bs) : C.strtol bs = saturate parts.value := by
  have hdigits : (parts.digits ++ parts.rest).takeWhile C.isDigit = parts.digits := parts.digits_longest.takeWhile
  rw [strtol_eq, parts.signed_eq, hdigits, digitsValue_eq_ofDigits]
  simp only [withSign, value, decide_eq_true_eq]

end Parts

/-- The 64-bit value of a text is that of its octets. -/
theorem readWide_eq_strtol (s : String) : readWide s = C.strtol (Utf8.encode s) := by
  rw [← readWide_decodeLossy, Utf8.encode_eq, Utf8.decodeLossy_encodeChars, String.ofList_toList]

/-- The octets of a text have parts in one way, and the text reads as the exact value of these parts, brought between
the least and the greatest integer of 64 bits and then cut down to its low 32 bits, with their sign. -/
theorem read_parts (s : String) :
    ∃ parts : Parts (Utf8.encode s), (∀ other : Parts (Utf8.encode s), other = parts) ∧
      (read s).toInt =
        Int.bmod (max (-9223372036854775808) (min parts.value 9223372036854775807)) 4294967296 := by
  obtain ⟨parts⟩ := nonempty_parts (Utf8.encode s)
  refine ⟨parts, fun other => other.eq_of_parts parts, ?_⟩
  rw [read, readWide_eq_strtol, parts.strtol_eq_saturate, Int32.toInt_ofInt]
  rfl

section Decimal

def digitOctets (n : Nat) : Octets :=
  Utf8.encodeChars (Nat.toDigits 10 n)

theorem isDigit_digitOctets (n : Nat) : ∀ b ∈ digitOctets n, C.isDigit b = true := by
  intro b hb
  obtain ⟨c, hc, hb⟩ := List.mem_flatMap.mp hb
  have hdigit : c.isDigit = true := Nat.isDigit_of_mem_toDigits (by decide) (by decide) hc
  have hascii : c.toNat < 0x80 := by
    apply Nat.lt_of_not_le
    intro hwide
    rw [asciiClass_digit.foreignChar c hwide] at hdigit
    cases hdigit
  rw [Utf8.utf8EncodeChar_of_lt hascii, List.mem_singleton] at hb
  rw [hb, ← asciiClass_digit.ascii _ (Utf8.toUInt8_lt hascii), Utf8.ofNat_toUInt8 hascii, hdigit]

theorem lt_of_isDigit {b : UInt8} (hb : C.isDigit b = true) : b < 0x80 := by
  rw [← UInt8.not_le]
  intro hwide
  rw [asciiClass_digit.foreignOctet b hwide] at hb
  cases hb

theorem digitsValue_digitOctets (n : Nat) : C.digitsValue (digitOctets n) = n := by
  have hchars : (digitOctets n).map (fun b => Char.ofNat b.toNat) = Nat.toDigits 10 n :=
    Utf8.asciiChars_encodeChars fun b hb => lt_of_isDigit (isDigit_digitOctets n b hb)
  rw [C.digitsValue, ← ofDigitChars_map, hchars, Nat.ofDigitChars_toDigits (by decide) (by decide)]

theorem isSpace_of_isDigit {b : UInt8} (hb : C.isDigit b = true) : C.isSpace b = false := by
  simp only [C.isDigit, Bool.and_eq_true, decide_eq_true_eq, UInt8.le_iff_toNat_le, UInt8.reduceToNat] at hb
  simp only [C.isSpace, Bool.or_eq_false_iff, Bool.and_eq_false_iff, beq_eq_false_iff_ne, decide_eq_false_iff_not,
    UInt8.le_iff_toNat_le, ne_eq, ← UInt8.toNat_inj, UInt8.reduceToNat]
  omega

theorem exists_digitOctets (n : Nat) : ∃ b bs, digitOctets n = b :: bs ∧ C.isDigit b = true := by
  have hne : digitOctets n ≠ [] := by
    obtain ⟨c, cs, hcs⟩ := List.exists_cons_of_ne_nil (Nat.toDigits_ne_nil (n := n) (b := 10))
    rw [digitOctets, hcs, Utf8.encodeChars_cons]
    simp
  obtain ⟨b, bs, hbs⟩ := List.exists_cons_of_ne_nil hne
  exact ⟨b, bs, hbs, isDigit_digitOctets n b (by simp [hbs])⟩

/-- The sign that an integer is written with. -/
def signOf (n : Int) : Option Sign :=
  if n < 0 then some .minus else none

theorem encode_decimal (n : Int) : Utf8.encode (decimal n) = signOctets (signOf n) ++ digitOctets n.natAbs := by
  cases n with
  | ofNat k =>
    rw [decimal, Utf8.encode_eq, String.toList_ofList]
    rfl
  | negSucc k =>
    rw [decimal, Utf8.encode_eq, String.toList_ofList, Utf8.encodeChars_ascii (by decide), signOf,
      if_pos (Int.negSucc_lt_zero k)]
    rfl

section

variable {blanks junk : Octets} (hblanks : ∀ b ∈ blanks, C.isSpace b = true)
  (hjunk : ∀ b ∈ junk.head?, C.isDigit b = false)

/-- The parts of a line with the decimal text of an integer. -/
def decimalParts (n : Int) : Parts (blanks ++ (Utf8.encode (decimal n) ++ junk)) where
  blanks := blanks
  sign := signOf n
  digits := digitOctets n.natAbs
  rest := junk
  octets_eq := by rw [encode_decimal, List.append_assoc]
  blanks_longest := by
    obtain ⟨b, bs, hbs, hb⟩ := exists_digitOctets n.natAbs
    refine ⟨hblanks, ?_⟩
    rw [hbs, signOf]
    split
    · intro a ha
      obtain rfl : 45 = a := Option.some.inj ha
      rfl
    · intro a ha
      obtain rfl : b = a := Option.some.inj ha
      exact isSpace_of_isDigit hb
  sign_taken := by
    obtain ⟨b, bs, hbs, hb⟩ := exists_digitOctets n.natAbs
    intro _ s hs
    rw [hbs] at hs
    obtain rfl : b = s.octet := Option.some.inj hs
    cases s <;> exact absurd hb (by decide)
  digits_longest := ⟨isDigit_digitOctets _, hjunk⟩

theorem value_decimalParts (n : Int) : (decimalParts hblanks hjunk n).value = n := by
  have hdigits := digitsValue_digitOctets n.natAbs
  rw [Parts.digitsValue_eq_ofDigits] at hdigits
  simp only [Parts.value, decimalParts, hdigits, signOf]
  split
  · simp only [if_true]
    omega
  · simp only [reduceCtorEq, if_false]
    omega

end

/-- The decimal text of a number is read as that number. -/
theorem read_decimal {blanks junk : Octets} (hblanks : ∀ b ∈ blanks, C.isSpace b = true)
    (hjunk : ∀ b ∈ junk.head?, C.isDigit b = false) (n : Int32) :
    read (Utf8.decodeLossy (blanks ++ (Utf8.encode (decimal n.toInt) ++ junk))) = n := by
  have hsaturate : saturate n.toInt = n.toInt := by
    have hlow := n.le_toInt
    have hhigh := n.toInt_lt
    simp only [saturate, least64, greatest64]
    omega
  rw [read, readWide_decodeLossy, (decimalParts hblanks hjunk n.toInt).strtol_eq_saturate, value_decimalParts,
    hsaturate, Int32.ofInt_toInt]

end Decimal

end RecursiveFactorial.Number
