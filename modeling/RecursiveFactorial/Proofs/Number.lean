import Mathlib.Data.List.TakeWhile
import RecursiveFactorial.Number
import RecursiveFactorial.Proofs.C.Library
import RecursiveFactorial.Proofs.Text.Lossy

/-!
# Numbers on a line of octets

Saturating after each digit gives the same as saturating the exact value once at the end. A number is read from the
characters of a line as from its octets, since blanks, signs and digits are ASCII, and a NUL ends it as any
other character does.
-/
namespace RecursiveFactorial.Number

/-- A number with its sign. -/
def withSign (negative : Bool) (n : Nat) : Int :=
  if negative then -n else n

theorem pushDigit_saturate (negative : Bool) (n : Nat) (c : Char) :
    pushDigit negative (saturate (withSign negative n)) c =
      saturate (withSign negative (10 * n + (c.toNat - '0'.toNat))) := by
  cases negative with
  | false =>
    simp only [pushDigit, saturate, withSign, least64, greatest64, digitValue, Bool.false_eq_true, if_false]
    omega
  | true =>
    simp only [pushDigit, saturate, withSign, least64, greatest64, digitValue, if_true]
    omega

theorem foldl_pushDigit (negative : Bool) (cs : List Char) (n : Nat) :
    cs.foldl (pushDigit negative) (saturate (withSign negative n)) =
      saturate (withSign negative (Nat.ofDigitChars 10 cs n)) := by
  induction cs generalizing n with
  | nil => rfl
  | cons c cs ih => rw [List.foldl_cons, pushDigit_saturate, ih, Nat.ofDigitChars_cons]

/-- The saturated steps come to the exact value, saturated. -/
theorem readDigits_eq (negative : Bool) (cs : List Char) :
    readDigits negative cs = saturate (withSign negative (Nat.ofDigitChars 10 (cs.takeWhile Char.isDigit) 0)) := by
  have hzero : saturate (withSign negative 0) = 0 := by
    cases negative <;> decide
  rw [readDigits, ← foldl_pushDigit, hzero]

theorem asciiClass_blank : Utf8.AsciiClass Text.isBlank C.isSpace where
  ascii := Utf8.forall_octet (by decide +kernel)
  foreignChar c hc := by
    have hne : c ≠ ' ' := by
      rintro rfl
      exact absurd hc (by decide)
    simp [Text.isBlank, hne]
    omega
  foreignOctet := Utf8.forall_octet (by decide +kernel)

theorem asciiClass_digit : Utf8.AsciiClass Char.isDigit C.isDigit where
  ascii := Utf8.forall_octet (by decide +kernel)
  foreignChar c hc := by
    have hlast : ¬ c.val ≤ 57 := fun h => by
      have hnat := UInt32.le_iff_toNat_le.1 h
      exact absurd (Nat.le_trans hc hnat) (by decide)
    simp [Char.isDigit, hlast]
  foreignOctet := Utf8.forall_octet (by decide +kernel)

theorem ofDigitChars_map (bs : Octets) (n : Nat) :
    Nat.ofDigitChars 10 (bs.map fun b => Char.ofNat b.toNat) n = bs.foldl (fun n b => 10 * n + (b.toNat - 48)) n := by
  induction bs generalizing n with
  | nil => rfl
  | cons b bs ih =>
    rw [List.map_cons, Nat.ofDigitChars_cons, Utf8.toNat_ofNat_toNat, ih]
    rfl

/-- Digits are read from characters as from octets. -/
theorem readDigits_lossyChars (negative : Bool) (bs : Octets) :
    readDigits negative (Utf8.lossyChars bs) =
      saturate (withSign negative (C.digitsValue (bs.takeWhile C.isDigit))) := by
  rw [readDigits_eq, asciiClass_digit.takeWhile, ofDigitChars_map]
  rfl

theorem strtol_eq (bs : Octets) :
    C.strtol bs =
      saturate (withSign (C.signed (bs.dropWhile C.isSpace)).1
        (C.digitsValue ((C.signed (bs.dropWhile C.isSpace)).2.takeWhile C.isDigit))) := by
  unfold C.strtol
  obtain ⟨negative, rest⟩ := C.signed (bs.dropWhile C.isSpace)
  cases negative with
  | false =>
    simp only [saturate, withSign, least64, greatest64, Bool.false_eq_true, if_false]
    omega
  | true =>
    simp only [saturate, withSign, least64, greatest64, if_true]
    omega

/-- A number without blanks in front. -/
def readSigned : List Char → Int
  | '-' :: cs => readDigits true cs
  | '+' :: cs => readDigits false cs
  | cs => readDigits false cs

theorem readWide_eq (s : String) : readWide s = readSigned (s.toList.dropWhile Text.isBlank) := rfl

theorem readSigned_of_ne {c : Char} (hminus : c ≠ '-') (hplus : c ≠ '+') (cs : List Char) :
    readSigned (c :: cs) = readDigits false (c :: cs) := by
  rw [readSigned]
  · intro _ h
    exact hminus (List.cons.inj h).1
  · intro _ h
    exact hplus (List.cons.inj h).1

theorem signed_of_ne {b : UInt8} (hminus : b ≠ 45) (hplus : b ≠ 43) (bs : Octets) :
    C.signed (b :: bs) = (false, b :: bs) := by
  rw [C.signed]
  · intro _ h
    exact hminus (List.cons.inj h).1
  · intro _ h
    exact hplus (List.cons.inj h).1

/-- The first character of a line is an ASCII character only if that is the first octet. -/
theorem exists_lossyChars_cons (b : UInt8) (bs : Octets) :
    ∃ c cs, Utf8.lossyChars (b :: bs) = c :: cs ∧ ∀ a : UInt8, a < 0x80 → c = Char.ofNat a.toNat → b = a := by
  by_cases hb : b < 0x80
  · refine ⟨_, _, Utf8.lossyChars_ascii hb bs, fun a _ h => ?_⟩
    have hnat := congrArg Char.toNat h
    rw [Utf8.toNat_ofNat_toNat, Utf8.toNat_ofNat_toNat] at hnat
    exact UInt8.toNat_inj.1 hnat
  · obtain ⟨c, cs, hcs, hc⟩ := Utf8.lossyChars_foreign (UInt8.not_lt.1 hb) bs
    refine ⟨c, cs, hcs, fun a ha h => ?_⟩
    rw [h, Utf8.toNat_ofNat_toNat] at hc
    exact absurd (UInt8.lt_iff_toNat_lt.1 ha) (Nat.not_lt.2 hc)

theorem readSigned_lossyChars (bs : Octets) :
    readSigned (Utf8.lossyChars bs) =
      saturate (withSign (C.signed bs).1 (C.digitsValue ((C.signed bs).2.takeWhile C.isDigit))) := by
  cases bs with
  | nil => exact readDigits_lossyChars false []
  | cons b bs =>
    by_cases hminus : b = 45
    · subst hminus
      rw [Utf8.lossyChars_ascii (by decide)]
      exact readDigits_lossyChars true bs
    by_cases hplus : b = 43
    · subst hplus
      rw [Utf8.lossyChars_ascii (by decide)]
      exact readDigits_lossyChars false bs
    obtain ⟨c, cs, hcs, hc⟩ := exists_lossyChars_cons b bs
    rw [signed_of_ne hminus hplus, ← readDigits_lossyChars, hcs, readSigned_of_ne]
    · exact fun h => hminus (hc 45 (by decide) h)
    · exact fun h => hplus (hc 43 (by decide) h)

/-- The 64-bit value of a line of octets is that of its characters. -/
theorem readWide_decodeLossy (bs : Octets) : readWide (Utf8.decodeLossy bs) = C.strtol bs := by
  rw [readWide_eq, Utf8.toList_decodeLossy, asciiClass_blank.dropWhile, strtol_eq, readSigned_lossyChars]

theorem dropWhile_takeWhile {p q : UInt8 → Bool} (h : ∀ b, p b = true → q b = true) (bs : Octets) :
    (bs.takeWhile q).dropWhile p = (bs.dropWhile p).takeWhile q := by
  induction bs with
  | nil => rfl
  | cons b bs ih =>
    by_cases hp : p b = true
    · simp [hp, h b hp, ih]
    · by_cases hq : q b = true
      · simp [hp, hq]
      · simp [hp, hq]

theorem signed_takeWhile (bs : Octets) :
    C.signed (bs.takeWhile (· != 0)) = ((C.signed bs).1, (C.signed bs).2.takeWhile (· != 0)) := by
  cases bs with
  | nil => rfl
  | cons b bs =>
    by_cases hminus : b = 45
    · subst hminus
      rfl
    by_cases hplus : b = 43
    · subst hplus
      rfl
    rw [signed_of_ne hminus hplus]
    by_cases hzero : b = 0
    · subst hzero
      rfl
    · rw [List.takeWhile_cons_of_pos (by simpa using hzero), signed_of_ne hminus hplus]

/-- A NUL ends a number. -/
theorem strtol_takeWhile (bs : Octets) : C.strtol (bs.takeWhile (· != 0)) = C.strtol bs := by
  have hspace (b : UInt8) (hb : C.isSpace b = true) : (b != 0) = true := by
    rw [bne_iff_ne]
    rintro rfl
    exact absurd hb (by decide)
  have hdigit (b : UInt8) : decide (C.isDigit b = true ∧ (b != 0) = true) = C.isDigit b := by
    by_cases hb : b = 0
    · subst hb
      rfl
    · simp [hb]
  rw [strtol_eq, strtol_eq, dropWhile_takeWhile hspace, signed_takeWhile, List.takeWhile_takeWhile]
  simp only [hdigit]

end RecursiveFactorial.Number
