import RecursiveFactorial.Proofs.Document.Text

/-!
# Reading and passing over numbers

A number has no end of its own, so it is read as far as it goes: what stands after it must not make it longer. Whole
numbers are read with their value as long as 64 bits hold them; every other number is only known to belong to the
grammar.
-/
namespace RecursiveFactorial.Document

open Json (Digits IsWhole IsFraction IsExponent IsNumeral IsNumber IsInteger)
open Utf8 (encodeChars encodeChars_ascii cons_of_encodeChars)

section Digits

variable {cs ds rest : List Char} {b : UInt8} {s : Octets}

theorem digit_class : Utf8.AsciiClass Char.isDigit isDigit :=
  .range (c := '0') (a := '9') (by decide) (by decide)

theorem exponentMark_class : Utf8.AsciiClass (fun c => c == 'e' || c == 'E') isExponentMark :=
  (Utf8.AsciiClass.single (by decide)).or (.single (by decide))

theorem toNat_lt_of_isDigit {c : Char} (hc : c.isDigit = true) : c.toNat < 0x80 :=
  Nat.lt_of_le_of_lt (Char.isDigit_iff_toNat.mp hc).2 (by decide)

theorem isDigit_toUInt8 {c : Char} (hc : c.isDigit = true) : isDigit c.toUInt8 = true := by
  rw [← digit_class.char (toNat_lt_of_isDigit hc), hc]

theorem digits_takeWhile (cs : List Char) : Digits (cs.takeWhile Char.isDigit) := by
  intro c hc
  exact List.all_eq_true.mp List.all_takeWhile c hc

/-- The characters do not start with a digit. -/
def NoDigit (cs : List Char) : Prop :=
  ∀ c ∈ cs.head?, c.isDigit = false

theorem takeWhile_digits (hds : Digits ds) (hrest : NoDigit rest) : (ds ++ rest).takeWhile Char.isDigit = ds := by
  rw [List.takeWhile_append_of_pos hds]
  cases rest with
  | nil => simp
  | cons c rest => rw [List.takeWhile_cons_of_neg (by simp [hrest c rfl]), List.append_nil]

theorem dropWhile_digits (hds : Digits ds) (hrest : NoDigit rest) : (ds ++ rest).dropWhile Char.isDigit = rest := by
  rw [List.dropWhile_append_of_pos hds]
  cases rest with
  | nil => rfl
  | cons c rest => rw [List.dropWhile_cons_of_neg (by simp [hrest c rfl])]

theorem dropDigits_append (hds : Digits ds) (hrest : NoDigit rest) :
    (encodeChars (ds ++ rest)).dropWhile isDigit = encodeChars rest := by
  rw [digit_class.dropWhile_encodeChars, dropWhile_digits hds hrest]

theorem takeDigits_append (hds : Digits ds) (hrest : NoDigit rest) :
    (encodeChars (ds ++ rest)).takeWhile isDigit = encodeChars ds := by
  rw [digit_class.takeWhile_encodeChars, takeWhile_digits hds hrest]

theorem head_digit_encodeChars (cs : List Char) :
    ((encodeChars cs).head?.map isDigit).getD false = (cs.head?.map Char.isDigit).getD false := by
  cases cs with
  | nil => rfl
  | cons c cs =>
    by_cases hc : c.toNat < 0x80
    · rw [encodeChars_ascii hc]
      simp [digit_class.char hc]
    · have hle := Nat.le_of_not_lt hc
      obtain ⟨b, s, hb, hs⟩ := Utf8.exists_encodeChars_foreign hle cs
      rw [hs]
      simp [digit_class.foreignChar c hle, digit_class.foreignOctet b hb]

theorem head_digit_eq_false (hcs : NoDigit cs) : ((encodeChars cs).head?.map isDigit).getD false = false := by
  rw [head_digit_encodeChars]
  cases cs with
  | nil => rfl
  | cons c cs => simp [hcs c rfl]

end Digits

section Passing

variable {cs n rest : List Char} {r : Octets}

theorem exponent_of_skipExponent (h : skipExponent (encodeChars cs) = .ok r) :
    ∃ sign d ds rest, sign ∈ [[], ['+'], ['-']] ∧ d.isDigit = true ∧ Digits ds ∧ cs = sign ++ d :: ds ++ rest ∧
      r = encodeChars rest := by
  have hsign : ∃ sign ds,
      sign ∈ [[], ['+'], ['-']] ∧ cs = sign ++ ds ∧ (readSign (encodeChars cs)).2 = encodeChars ds := by
    generalize hs : encodeChars cs = s
    unfold readSign
    split
    · exact ⟨[], cs, by simp, rfl, hs.symm⟩
    · split
      · next heq =>
        subst heq
        obtain ⟨ds, rfl, rfl⟩ := cons_of_encodeChars (a := '-') (by decide) hs
        exact ⟨['-'], ds, by simp, rfl, rfl⟩
      · split
        · next heq =>
          subst heq
          obtain ⟨ds, rfl, rfl⟩ := cons_of_encodeChars (a := '+') (by decide) hs
          exact ⟨['+'], ds, by simp, rfl, rfl⟩
        · exact ⟨[], cs, by simp, rfl, hs.symm⟩
  obtain ⟨sign, ds, hmem, rfl, hread⟩ := hsign
  unfold skipExponent at h
  rw [hread] at h
  generalize hs : encodeChars ds = s at h
  split at h
  · cases h
  · split at h
    · next hdigit =>
      obtain ⟨d, es, hd, rfl, rfl, rfl⟩ := digit_class.cons_of_encodeChars hdigit hs
      rw [digit_class.dropWhile_encodeChars] at h
      refine ⟨sign, d, es.takeWhile Char.isDigit, es.dropWhile Char.isDigit, hmem, hd, digits_takeWhile es, ?_,
        (Except.ok.inj h).symm⟩
      simp
    · cases h

theorem exponent_of_skipExponentPart (h : skipExponentPart (encodeChars cs) = .ok r) :
    ∃ e rest, IsExponent e ∧ cs = e ++ rest ∧ r = encodeChars rest := by
  generalize hs : encodeChars cs = s at h
  unfold skipExponentPart at h
  split at h
  · exact ⟨[], cs, .absent, rfl, by rw [hs, Except.ok.inj h]⟩
  · split at h
    · next hmark =>
      obtain ⟨mark, ds, hmem, rfl, rfl, rfl⟩ := exponentMark_class.cons_of_encodeChars hmark hs
      obtain ⟨sign, d, es, rest, hsign, hd, hes, rfl, rfl⟩ := exponent_of_skipExponent h
      refine ⟨mark :: (sign ++ d :: es), rest, .digits ?_ hsign hd hes, by simp, rfl⟩
      simpa using hmem
    · exact ⟨[], cs, .absent, rfl, by rw [hs, Except.ok.inj h]⟩

theorem fraction_of_skipAfterDigits (h : skipAfterDigits (encodeChars cs) = .ok r) :
    ∃ f e rest, IsFraction f ∧ IsExponent e ∧ cs = f ++ e ++ rest ∧ r = encodeChars rest := by
  generalize hs : encodeChars cs = s at h
  unfold skipAfterDigits at h
  split at h
  · exact ⟨[], [], cs, .absent, .absent, rfl, by rw [hs, Except.ok.inj h]⟩
  · split at h
    · next hpoint =>
      subst hpoint
      obtain ⟨ds, rfl, rfl⟩ := cons_of_encodeChars (a := '.') (by decide) hs
      split at h
      · next hdigit =>
        rw [head_digit_encodeChars] at hdigit
        rw [digit_class.dropWhile_encodeChars] at h
        cases ds with
        | nil => cases hdigit
        | cons d ds =>
          have hd : d.isDigit = true := by simpa using hdigit
          rw [List.dropWhile_cons_of_pos hd] at h
          obtain ⟨e, rest, he, hrest, rfl⟩ := exponent_of_skipExponentPart h
          refine ⟨'.' :: d :: ds.takeWhile Char.isDigit, e, rest, .digits hd (digits_takeWhile ds), he, ?_, rfl⟩
          rw [List.append_assoc, ← hrest]
          simp
      · cases h
    · rw [← hs] at h
      obtain ⟨e, rest, he, rfl, rfl⟩ := exponent_of_skipExponentPart h
      exact ⟨[], e, rest, .absent, he, rfl, rfl⟩

/-- What is passed over as a number is one. -/
theorem numeral_of_skipNumeral (h : skipNumeral (encodeChars cs) = .ok r) :
    ∃ n rest, IsNumeral n ∧ cs = n ++ rest ∧ r = encodeChars rest := by
  generalize hs : encodeChars cs = s at h
  unfold skipNumeral at h
  split at h
  · cases h
  · split at h
    · next hzero =>
      subst hzero
      obtain ⟨ds, rfl, rfl⟩ := cons_of_encodeChars (a := '0') (by decide) hs
      split at h
      · cases h
      · obtain ⟨f, e, rest, hf, he, rfl, rfl⟩ := fraction_of_skipAfterDigits h
        exact ⟨['0'] ++ f ++ e, rest, .mk .zero hf he, by simp, rfl⟩
    · next hzero =>
      split at h
      · next hdigit =>
        obtain ⟨d, ds, hd, rfl, rfl, rfl⟩ := digit_class.cons_of_encodeChars hdigit hs
        rw [digit_class.dropWhile_encodeChars] at h
        obtain ⟨f, e, rest, hf, he, hrest, rfl⟩ := fraction_of_skipAfterDigits h
        have hne : d ≠ '0' := by
          rintro rfl
          exact hzero rfl
        have hwhole := IsWhole.digits hd hne (digits_takeWhile ds)
        refine ⟨(d :: ds.takeWhile Char.isDigit) ++ f ++ e, rest, .mk hwhole hf he, ?_, rfl⟩
        rw [List.append_assoc, List.append_assoc, ← List.append_assoc f, ← hrest]
        simp
      · cases h

/-- No number before these characters goes on into them. -/
def Ends (cs : List Char) : Prop :=
  ∀ c ∈ cs.head?, c.isDigit = false ∧ c ≠ '.' ∧ c ≠ 'e' ∧ c ≠ 'E'

theorem Ends.noDigit (h : Ends rest) : NoDigit rest := by
  intro c hc
  exact (h c hc).1

/-- An octet that does not start the characters. -/
theorem octet_ne_of_head {a : Char} (ha : a.toNat < 0x80) (hhead : a ∉ cs.head?) {b : UInt8} {s : Octets}
    (hs : encodeChars cs = b :: s) : b ≠ a.toUInt8 := by
  rintro rfl
  obtain ⟨ds, rfl, -⟩ := cons_of_encodeChars ha hs
  exact hhead rfl

theorem skipExponentPart_ends (h : Ends rest) : skipExponentPart (encodeChars rest) = .ok (encodeChars rest) := by
  generalize hs : encodeChars rest = s
  unfold skipExponentPart
  split
  · rfl
  · next b t =>
    rw [if_neg]
    intro hmark
    obtain ⟨c, cs, hc, -, rfl, -⟩ := exponentMark_class.cons_of_encodeChars hmark hs
    obtain ⟨-, -, he, hE⟩ := h c rfl
    simp [he, hE] at hc

theorem skipExponent_digits {sign ds : List Char} {d : Char} (hsign : sign ∈ [[], ['+'], ['-']])
    (hd : d.isDigit = true) (hds : Digits ds) (hrest : NoDigit rest) :
    skipExponent (encodeChars (sign ++ d :: ds ++ rest)) = .ok (encodeChars rest) := by
  have hascii := toNat_lt_of_isDigit hd
  have hplain : (readSign (encodeChars (d :: (ds ++ rest)))).2 = encodeChars (d :: (ds ++ rest)) := by
    have hminus : d.toUInt8 ≠ '-'.toUInt8 := by
      rw [ne_eq, Utf8.toUInt8_inj hascii (by decide)]
      rintro rfl
      cases hd
    have hplus : d.toUInt8 ≠ '+'.toUInt8 := by
      rw [ne_eq, Utf8.toUInt8_inj hascii (by decide)]
      rintro rfl
      cases hd
    rw [encodeChars_ascii hascii, readSign, if_neg hminus, if_neg hplus]
  have hread : (readSign (encodeChars (sign ++ d :: ds ++ rest))).2 = encodeChars (d :: (ds ++ rest)) := by
    simp only [List.mem_cons, List.not_mem_nil, or_false] at hsign
    obtain rfl | rfl | rfl := hsign
    · simpa using hplain
    · rw [List.cons_append, List.cons_append, encodeChars_ascii (by decide), readSign, if_neg (by decide), if_pos rfl]
      rfl
    · rw [List.cons_append, List.cons_append, encodeChars_ascii (by decide), readSign, if_pos rfl]
      rfl
  rw [skipExponent, hread, encodeChars_ascii hascii]
  simp only [isDigit_toUInt8 hd, if_true, dropDigits_append hds hrest]

theorem skipExponentPart_append {e : List Char} (he : IsExponent e) (hrest : Ends rest) :
    skipExponentPart (encodeChars (e ++ rest)) = .ok (encodeChars rest) := by
  cases he with
  | absent => exact skipExponentPart_ends hrest
  | @digits mark d sign ds hmark hsign hd hds =>
    have hmark' : (mark == 'e' || mark == 'E') = true := by simpa using hmark
    have hascii : mark.toNat < 0x80 := by
      apply Nat.lt_of_not_le
      intro hle
      rw [exponentMark_class.foreignChar mark hle] at hmark'
      cases hmark'
    rw [List.cons_append, encodeChars_ascii hascii, skipExponentPart,
      if_pos (by rw [← exponentMark_class.char hascii, hmark'])]
    exact skipExponent_digits hsign hd hds hrest.noDigit

/-- An exponent starts neither with a digit nor with a point. -/
theorem head_exponent {e : List Char} (he : IsExponent e) (hrest : Ends rest) :
    NoDigit (e ++ rest) ∧ '.' ∉ (e ++ rest).head? := by
  cases he with
  | absent =>
    refine ⟨hrest.noDigit, ?_⟩
    intro hpoint
    exact (hrest '.' hpoint).2.1 rfl
  | @digits mark d sign ds hmark hsign hd hds =>
    simp only [List.mem_cons, List.not_mem_nil, or_false] at hmark
    obtain rfl | rfl := hmark
    · exact ⟨by intro c hc; cases hc; rfl, by simp⟩
    · exact ⟨by intro c hc; cases hc; rfl, by simp⟩

theorem skipAfterDigits_append {f e : List Char} (hf : IsFraction f) (he : IsExponent e) (hrest : Ends rest) :
    skipAfterDigits (encodeChars (f ++ (e ++ rest))) = .ok (encodeChars rest) := by
  obtain ⟨hdigit, hpoint⟩ := head_exponent he hrest
  have hskip := skipExponentPart_append he hrest
  cases hf with
  | absent =>
    rw [List.nil_append]
    generalize hs : encodeChars (e ++ rest) = s at hskip
    cases s with
    | nil => exact hskip
    | cons b s => rw [skipAfterDigits, if_neg (octet_ne_of_head (by decide) hpoint hs), hskip]
  | @digits d ds hd hds =>
    have hhead : ((encodeChars (d :: (ds ++ (e ++ rest)))).head?.map isDigit).getD false = true := by
      rw [head_digit_encodeChars]
      simp [hd]
    rw [List.cons_append, encodeChars_ascii (by decide), skipAfterDigits, if_pos rfl, List.cons_append, if_pos hhead,
      digit_class.dropWhile_encodeChars, List.dropWhile_cons_of_pos hd, dropWhile_digits hds hdigit, hskip]

/-- A fraction or an exponent starts with no digit. -/
theorem noDigit_fraction {f e : List Char} (hf : IsFraction f) (he : IsExponent e) (hrest : Ends rest) :
    NoDigit (f ++ (e ++ rest)) := by
  cases hf with
  | absent => exact (head_exponent he hrest).1
  | digits hd hds =>
    intro c hc
    cases hc
    rfl

/-- A number is passed over whole. -/
theorem skipNumeral_append (hn : IsNumeral n) (hrest : Ends rest) :
    skipNumeral (encodeChars (n ++ rest)) = .ok (encodeChars rest) := by
  cases hn with
  | @mk w f e hw hf he =>
    have hafter := skipAfterDigits_append hf he hrest
    have hdigit := noDigit_fraction hf he hrest
    rw [List.append_assoc, List.append_assoc]
    cases hw with
    | zero =>
      rw [List.singleton_append, encodeChars_ascii (by decide), skipNumeral, if_pos rfl, head_digit_eq_false hdigit]
      exact hafter
    | @digits d ds hd hzero hds =>
      have hascii := toNat_lt_of_isDigit hd
      have hne : d.toUInt8 ≠ '0'.toUInt8 := by
        rwa [ne_eq, Utf8.toUInt8_inj hascii (by decide)]
      rw [List.cons_append, encodeChars_ascii hascii, skipNumeral, if_neg hne, if_pos (isDigit_toUInt8 hd),
        dropDigits_append hds hdigit, hafter]

end Passing

section Whole

variable {cs w ds rest : List Char} {r s : Octets} {limit v : Nat}

theorem digitValue_toUInt8 {d : Char} (hd : d.isDigit = true) : digitValue d.toUInt8 = d.toNat - '0'.toNat := by
  rw [digitValue, Utf8.toNat_toUInt8 (toNat_lt_of_isDigit hd)]

theorem ofDigitChars_cons (d : Char) (ds : List Char) (v : Nat) :
    Nat.ofDigitChars 10 (d :: ds) v = Nat.ofDigitChars 10 ds (v * 10 + (d.toNat - '0'.toNat)) := by
  rw [Nat.mul_comm]
  rfl

theorem le_ofDigitChars (ds : List Char) (v : Nat) : v ≤ Nat.ofDigitChars 10 ds v := by
  induction ds generalizing v with
  | nil => exact Nat.le_refl v
  | cons d ds ih =>
    rw [ofDigitChars_cons]
    exact Nat.le_trans (by omega) (ih _)

/-- Digits of which none is left over have been counted. -/
theorem value_of_pushDigits (hds : Digits ds) (h : (pushDigits limit v (encodeChars ds)).2 = []) :
    (pushDigits limit v (encodeChars ds)).1 = Nat.ofDigitChars 10 ds v := by
  induction ds generalizing v with
  | nil => rfl
  | cons d ds ih =>
    have hd := hds d List.mem_cons_self
    rw [encodeChars_ascii (toNat_lt_of_isDigit hd), pushDigits] at h ⊢
    split at h
    · next hle =>
      rw [if_pos hle, ih (fun c hc => hds c (List.mem_cons_of_mem d hc)) h, ofDigitChars_cons, digitValue_toUInt8 hd]
    · cases h

theorem pushDigits_encodeChars (hds : Digits ds) (h : Nat.ofDigitChars 10 ds v ≤ limit) :
    pushDigits limit v (encodeChars ds) = (Nat.ofDigitChars 10 ds v, []) := by
  induction ds generalizing v with
  | nil => rfl
  | cons d ds ih =>
    have hd := hds d List.mem_cons_self
    rw [ofDigitChars_cons] at h ⊢
    have hle : v * 10 + digitValue d.toUInt8 ≤ limit := by
      rw [digitValue_toUInt8 hd]
      exact Nat.le_trans (le_ofDigitChars ds _) h
    rw [encodeChars_ascii (toNat_lt_of_isDigit hd), pushDigits, if_pos hle, digitValue_toUInt8 hd,
      ih (fun c hc => hds c (List.mem_cons_of_mem d hc)) h]

variable {negative : Bool} {n : Int} {m : Nat} {e : Int}

theorem realNumeral_ne_whole : realNumeral negative m e s ≠ .ok (.whole n, r) := by
  unfold realNumeral
  split <;> simp

theorem readExponent_ne_whole : readExponent negative m e s ≠ .ok (.whole n, r) := by
  simp only [readExponent]
  repeat' split
  all_goals simp [realNumeral_ne_whole]

theorem readFraction_ne_whole : readFraction negative m e s ≠ .ok (.whole n, r) := by
  simp only [readFraction]
  repeat' split
  all_goals simp [realNumeral_ne_whole, readExponent_ne_whole]

theorem whole_of_wholeNumeral (h : wholeNumeral negative m s = .ok (.whole n, r)) :
    r = s ∧ (negative = false ∧ n = m ∨ negative = true ∧ m ≠ 0 ∧ n = -m) := by
  unfold wholeNumeral at h
  split at h
  · next hplain =>
    cases h
    exact ⟨rfl, .inl ⟨by simpa using hplain, rfl⟩⟩
  · next hminus =>
    split at h
    · exact absurd h realNumeral_ne_whole
    · next hsmall =>
      cases h
      exact ⟨rfl, .inr ⟨by simpa using hminus, fun hzero => hsmall (.inl hzero), rfl⟩⟩

theorem whole_of_readAfterDigits {unused : Nat} (h : readAfterDigits negative m unused s = .ok (.whole n, r)) :
    unused = 0 ∧ r = s ∧ (negative = false ∧ n = m ∨ negative = true ∧ m ≠ 0 ∧ n = -m) := by
  have hplain {t : Octets} (ht : (if unused = 0 then wholeNumeral negative m t else realNumeral negative m unused t) =
      .ok (.whole n, r)) :
      unused = 0 ∧ r = t ∧ (negative = false ∧ n = m ∨ negative = true ∧ m ≠ 0 ∧ n = -m) := by
    split at ht
    · next hunused => exact ⟨hunused, whole_of_wholeNumeral ht⟩
    · exact absurd ht realNumeral_ne_whole
  simp only [readAfterDigits] at h
  split at h
  · exact hplain h
  · split at h
    · exact absurd h readFraction_ne_whole
    · split at h
      · exact absurd h readExponent_ne_whole
      · exact hplain h

/-- A whole number is read from its digits, and zero only without a sign. -/
theorem whole_of_readNumeral (h : readNumeral negative (encodeChars cs) = .ok (.whole n, r)) :
    ∃ w rest, IsWhole w ∧ cs = w ++ rest ∧ r = encodeChars rest ∧
      (negative = false ∧ n = Nat.ofDigitChars 10 w 0 ∨
        negative = true ∧ w ≠ ['0'] ∧ n = -(Nat.ofDigitChars 10 w 0 : Nat)) := by
  generalize hs : encodeChars cs = s at h
  unfold readNumeral at h
  split at h
  · cases h
  · split at h
    · next hzero =>
      subst hzero
      obtain ⟨ds, rfl, rfl⟩ := cons_of_encodeChars (a := '0') (by decide) hs
      split at h
      · cases h
      · obtain ⟨-, rfl, hn⟩ := whole_of_readAfterDigits h
        refine ⟨['0'], ds, .zero, rfl, rfl, ?_⟩
        obtain ⟨hplain, rfl⟩ | ⟨-, hne, -⟩ := hn
        · exact .inl ⟨hplain, rfl⟩
        · exact absurd rfl hne
    · next hzero =>
      split at h
      · next hdigit =>
        obtain ⟨d, ds, hd, rfl, rfl, rfl⟩ := digit_class.cons_of_encodeChars hdigit hs
        have hne : d ≠ '0' := by
          rintro rfl
          exact hzero rfl
        rw [digit_class.takeWhile_encodeChars, digit_class.dropWhile_encodeChars] at h
        obtain ⟨hunused, rfl, hn⟩ := whole_of_readAfterDigits h
        have hdigits := digits_takeWhile ds
        have hvalue := value_of_pushDigits hdigits (List.length_eq_zero_iff.mp hunused)
        rw [hvalue, digitValue_toUInt8 hd] at hn
        have hcons := ofDigitChars_cons d (ds.takeWhile Char.isDigit) 0
        rw [Nat.zero_mul, Nat.zero_add] at hcons
        refine ⟨d :: ds.takeWhile Char.isDigit, ds.dropWhile Char.isDigit, .digits hd hne hdigits, by simp, rfl, ?_⟩
        rw [hcons]
        obtain hplain | ⟨hminus, -, rfl⟩ := hn
        · exact .inl hplain
        · exact .inr ⟨hminus, by simp [hne], rfl⟩
      · cases h

theorem readAfterDigits_ends (hrest : Ends rest) :
    readAfterDigits negative m 0 (encodeChars rest) = wholeNumeral negative m (encodeChars rest) := by
  generalize hs : encodeChars rest = s
  cases s with
  | nil => rfl
  | cons b s =>
    have hpoint : '.' ∉ rest.head? := fun hmem => (hrest '.' hmem).2.1 rfl
    have hmark : ¬isExponentMark b = true := by
      intro hmark
      obtain ⟨c, cs, hc, -, rfl, -⟩ := exponentMark_class.cons_of_encodeChars hmark hs
      obtain ⟨-, -, he, hE⟩ := hrest c rfl
      simp [he, hE] at hc
    rw [readAfterDigits, if_neg (octet_ne_of_head (by decide) hpoint hs), if_neg hmark]
    rfl

/-- The digits of a whole number of 64 bits are read with their value. -/
theorem readNumeral_whole (negative : Bool) (hw : IsWhole w) (hrest : Ends rest)
    (hle : Nat.ofDigitChars 10 w 0 ≤ greatestSignificand) :
    readNumeral negative (encodeChars (w ++ rest)) =
      wholeNumeral negative (Nat.ofDigitChars 10 w 0) (encodeChars rest) := by
  cases hw with
  | zero =>
    rw [List.singleton_append, encodeChars_ascii (by decide), readNumeral, if_pos rfl,
      head_digit_eq_false hrest.noDigit]
    exact readAfterDigits_ends hrest
  | @digits d ds hd hzero hds =>
    have hascii := toNat_lt_of_isDigit hd
    have hne : d.toUInt8 ≠ '0'.toUInt8 := by
      rwa [ne_eq, Utf8.toUInt8_inj hascii (by decide)]
    rw [ofDigitChars_cons, Nat.zero_mul, Nat.zero_add] at hle ⊢
    rw [List.cons_append, encodeChars_ascii hascii, readNumeral, if_neg hne, if_pos (isDigit_toUInt8 hd),
      takeDigits_append hds hrest.noDigit, dropDigits_append hds hrest.noDigit, digitValue_toUInt8 hd,
      pushDigits_encodeChars hds hle]
    exact readAfterDigits_ends hrest

end Whole

end RecursiveFactorial.Document
