import RecursiveFactorial.Proofs.Document.Draft

/-!
# Values in any context

A value of the grammar need not have the type that a field asks for, and then it is complained of. What a reader makes
of a value, be it a result or a complaint, depends on the value alone: not on the blanks before it, and not on what
stands behind it, as long as a number does not go on there. Only the place of a complaint is another one.
-/
namespace RecursiveFactorial.Document

open Json
open Utf8 (encodeChars encodeChars_ascii cons_of_encodeChars)

section Gives

variable {α β : Type} {rest rest' : Octets} {r : Except Fault (α × Octets)} {x : Except Complaint α}

/-- Reading comes to this value and leaves `rest`, or comes to this complaint, wherever its place is. -/
inductive Gives (rest : Octets) : Except Fault (α × Octets) → Except Complaint α → Prop
  | value (a : α) : Gives rest (.ok (a, rest)) (.ok a)
  | complaint (c : Complaint) (n : Nat) : Gives rest (.error ⟨c, n⟩) (.error c)

theorem gives_complain (c : Complaint) (s : Octets) :
    Gives rest (complain c s : Except Fault (α × Octets)) (.error c) :=
  .complaint c _

theorem gives_complainOfNext (c : Complaint) (s : Octets) :
    Gives rest (complainOfNext c s : Except Fault (α × Octets)) (.error c) :=
  .complaint c _

theorem Gives.eq_ok {a : α} (h : Gives rest r (.ok a)) : r = .ok (a, rest) := by
  cases h
  rfl

theorem Gives.eq_error {c : Complaint} (h : Gives rest r (.error c)) : ∃ n, r = .error ⟨c, n⟩ := by
  cases h with
  | complaint c n => exact ⟨n, rfl⟩

theorem Gives.map (h : Gives rest r x) (f : α → β) : Gives rest (r.map fun (a, s) => (f a, s)) (x.map f) := by
  cases h with
  | value a => exact .value (f a)
  | complaint c n => exact .complaint c n

theorem bind_of_value {γ : Type} {y : Except Fault γ} {f : γ → Except Fault β} {a : γ} (h : y = .ok a) :
    y >>= f = f a := by
  rw [h]
  rfl

theorem bind_of_fault {γ : Type} {y : Except Fault γ} {f : γ → Except Fault β} {e : Fault} (h : y = .error e) :
    y >>= f = .error e := by
  rw [h]
  rfl

/-- The result without what is left, or the complaint without its place. -/
def verdict : Except Fault (α × Octets) → Except Complaint α
  | .ok (a, _) => .ok a
  | .error f => .error f.complaint

theorem Gives.verdict_eq (h : Gives rest r x) : verdict r = x := by
  cases h with
  | value a => rfl
  | complaint c n => rfl

/-- If reading comes to one result in all contexts `i`, and going on with it does too, then so do both in turn. -/
theorem gives_bind {ι : Type} {read : ι → Except Fault (α × Octets)} {between rest : ι → Octets}
    {f : α × Octets → Except Fault (β × Octets)} (h : ∃ x, ∀ i, Gives (between i) (read i) x)
    (hf : ∀ a, ∃ y, ∀ i, Gives (rest i) (f (a, between i)) y) : ∃ y, ∀ i, Gives (rest i) (read i >>= f) y := by
  obtain ⟨x, hx⟩ := h
  cases x with
  | error c =>
    refine ⟨.error c, fun i => ?_⟩
    obtain ⟨n, hn⟩ := (hx i).eq_error
    rw [bind_of_fault hn]
    exact .complaint c n
  | ok a =>
    obtain ⟨y, hy⟩ := hf a
    refine ⟨y, fun i => ?_⟩
    rw [bind_of_value (hx i).eq_ok]
    exact hy i

/-- Reading `v` comes to the same whatever stands behind it. -/
def Settled (read : Octets → Except Fault (α × Octets)) (v : List Char) : Prop :=
  ∃ x, ∀ rest, Ends rest → Gives (encodeChars rest) (read (encodeChars (v ++ rest))) x

theorem Settled.bind {read : Octets → Except Fault (α × Octets)} {v : List Char}
    {f : α × Octets → Except Fault (β × Octets)} (h : Settled read v) (hf : ∀ a, ∃ y, ∀ s, Gives s (f (a, s)) y) :
    Settled (fun s => read s >>= f) v := by
  obtain ⟨x, hx⟩ := h
  have hread : ∃ x, ∀ rest : { rest // Ends rest }, Gives (encodeChars rest.1) (read (encodeChars (v ++ rest.1))) x :=
    ⟨x, fun rest => hx rest.1 rest.2⟩
  have hbind := gives_bind hread fun a => (hf a).imp fun _ hy rest => hy (encodeChars rest.1)
  exact hbind.imp fun _ hy rest hrest => hy ⟨rest, hrest⟩

end Gives

section Octets

variable {w cs : List Char}

theorem skipBlanks_blanks (hw : Blanks w) (cs : List Char) :
    skipBlanks (encodeChars (w ++ cs)) = skipBlanks (encodeChars cs) := by
  rw [skipBlanks, skipBlanks, blank_class.dropWhile_encodeChars, blank_class.dropWhile_encodeChars,
    List.dropWhile_append_of_pos hw]

/-- The first octet of a character tells it from the other ones of ASCII. -/
theorem exists_octet (c : Char) (cs : List Char) :
    ∃ b s, encodeChars (c :: cs) = b :: s ∧ isDigit b = c.isDigit ∧
      ∀ a : Char, a.toNat < 0x80 → c ≠ a → b ≠ a.toUInt8 := by
  have hhead := head_digit_encodeChars (c :: cs)
  cases hs : encodeChars (c :: cs) with
  | nil => exact absurd (List.append_eq_nil_iff.mp hs).1 (by simp)
  | cons b s =>
    rw [hs] at hhead
    refine ⟨b, s, rfl, by simpa using hhead, fun a ha hca => octet_ne_of_head ha ?_ hs⟩
    intro hmem
    exact hca (Option.some.inj hmem)

end Octets

section Texts

variable {raw part ds : List Char} {n : Nat}

/-- What is read at `cs` before a closing quote is refused with one complaint. -/
def Refuses {α : Type} (read : Octets → Except Fault α) (cs : List Char) : Prop :=
  ∃ c, ∀ rest, ∃ n, read (encodeChars (cs ++ '"' :: rest)) = .error ⟨c, n⟩

theorem expectInEscape_of_ne {a c : Char} (ha : a.toNat < 0x80) (hc : c ≠ a) (cs : List Char) :
    ∃ n, expectInEscape a (encodeChars (c :: cs)) = .error ⟨.endOfHexEscape, n⟩ := by
  obtain ⟨b, s, hs, -, hne⟩ := exists_octet c cs
  rw [hs, expectInEscape, if_neg (hne a ha hc)]
  exact ⟨_, rfl⟩

/-- A leading surrogate is followed by a trailing one, or refused. -/
theorem trail_or_refuses (h : IsBody raw) :
    (∃ ds m raw', IsCode ds m ∧ 0xdc00 ≤ m ∧ m ≤ 0xdfff ∧ IsBody raw' ∧ raw = '\\' :: 'u' :: (ds ++ raw')) ∨
      Refuses readTrail raw := by
  have hother {c : Char} (hc : c ≠ '\\') (cs : List Char) :
      ∃ n, readTrail (encodeChars (c :: cs)) = .error ⟨.endOfHexEscape, n⟩ := by
    obtain ⟨n, hn⟩ := expectInEscape_of_ne (a := '\\') (by decide) hc cs
    exact ⟨n, bind_of_fault hn⟩
  have hescape (cs : List Char) : expectInEscape '\\' (encodeChars ('\\' :: cs)) = .ok (encodeChars cs) :=
    (expectInEscape_eq_ok (by decide)).mpr ⟨cs, rfl, rfl⟩
  cases h with
  | nil => exact .inr ⟨.endOfHexEscape, fun rest => hother (by decide) rest⟩
  | @cons part raw hpart hraw =>
    cases hpart with
    | @plain c hc =>
      have hne : c ≠ '\\' := by
        rintro rfl
        exact absurd hc (by decide)
      exact .inr ⟨.endOfHexEscape, fun rest => hother hne _⟩
    | @short e c he =>
      have hne : e ≠ 'u' := by
        rintro rfl
        cases he
      refine .inr ⟨.endOfHexEscape, fun rest => ?_⟩
      obtain ⟨n, hn⟩ := expectInEscape_of_ne (a := 'u') (by decide) hne (raw ++ '"' :: rest)
      exact ⟨n, (bind_of_value (hescape _)).trans (bind_of_fault hn)⟩
    | @code ds m hds =>
      by_cases htrail : 0xdc00 ≤ m ∧ m ≤ 0xdfff
      · exact .inl ⟨ds, m, raw, hds, htrail.1, htrail.2, hraw, rfl⟩
      · have hnot : isTrailSurrogate m = false := by
          rwa [← Bool.not_eq_true, isTrailSurrogate, Bool.and_eq_true, decide_eq_true_eq, decide_eq_true_eq]
        have hu (cs : List Char) : expectInEscape 'u' (encodeChars ('u' :: cs)) = .ok (encodeChars cs) :=
          (expectInEscape_eq_ok (by decide)).mpr ⟨cs, rfl, rfl⟩
        refine .inr ⟨.loneSurrogate, fun rest => ⟨(encodeChars (raw ++ '"' :: rest)).length, ?_⟩⟩
        rw [List.append_assoc, readTrail]
        refine (bind_of_value (hescape _)).trans ((bind_of_value (hu _)).trans ?_)
        refine (bind_of_value (readHex_of_code hds _)).trans ?_
        simp only [hnot]
        rfl

/-- A code is that of a character, with a second code if it is a leading surrogate, or refused. -/
theorem spelling_or_refuses (hds : IsCode ds n) (hraw : IsBody raw) :
    (∃ part c raw', Spelling ('\\' :: 'u' :: part) c ∧ IsBody raw' ∧ ds ++ raw = part ++ raw') ∨
      Refuses readCodePoint (ds ++ raw) := by
  have hhex (rest : List Char) :
      readHex (encodeChars (ds ++ raw ++ '"' :: rest)) = .ok (n, encodeChars (raw ++ '"' :: rest)) := by
    rw [List.append_assoc]
    exact readHex_of_code hds _
  have hlt := code_lt hds
  by_cases htrail : isTrailSurrogate n = true
  · refine .inr ⟨.loneSurrogate, fun rest => ⟨(encodeChars (raw ++ '"' :: rest)).length, ?_⟩⟩
    refine (bind_of_value (hhex rest)).trans ?_
    simp only [htrail]
    rfl
  by_cases hlead : isLeadSurrogate n = true
  · obtain ⟨es, m, raw', hes, hlow, hhigh, hraw', rfl⟩ | ⟨complaint, hrefuses⟩ := trail_or_refuses hraw
    · simp only [isLeadSurrogate, Bool.and_eq_true, decide_eq_true_eq] at hlead
      have hpair : Spelling ('\\' :: 'u' :: (ds ++ '\\' :: 'u' :: es)) (Char.ofNat (joinSurrogates n m)) := by
        refine .pair hds hes hlead.1 hlead.2 hlow hhigh ?_
        rw [Utf8.toNat_ofNat_of_isValidChar (.inr (by unfold joinSurrogates; omega)), joinSurrogates]
        omega
      exact .inl ⟨_, _, raw', hpair, hraw', by simp⟩
    · refine .inr ⟨complaint, fun rest => ?_⟩
      obtain ⟨k, hk⟩ := hrefuses rest
      refine ⟨k, (bind_of_value (hhex rest)).trans ?_⟩
      simp only [htrail, hlead, Bool.false_eq_true, if_false, if_true]
      exact bind_of_fault hk
  · simp only [isTrailSurrogate, isLeadSurrogate, Bool.and_eq_true, decide_eq_true_eq] at htrail hlead
    have hcode : Spelling ('\\' :: 'u' :: ds) (Char.ofNat n) := by
      apply Spelling.code
      rwa [Utf8.toNat_ofNat_of_isValidChar (by unfold Nat.isValidChar; omega)]
    exact .inl ⟨ds, _, raw, hcode, hraw, rfl⟩

theorem readOctets_escape_error {cs : List Char} {f : Fault} (h : readCodePoint (encodeChars cs) = .error f) :
    readOctets (encodeChars ('\\' :: 'u' :: cs)) = .error f := by
  have hescape : readEscape (encodeChars ('u' :: cs)) = .error f := by
    rw [encodeChars_ascii (by decide), readEscape, simpleEscape?_u, if_pos rfl, h]
  rw [encodeChars_ascii (by decide), readOctets, if_neg (by decide), if_pos rfl]
  split
  · next herror =>
    rw [hescape] at herror
    cases herror
    rfl
  · next hok =>
    rw [hescape] at hok
    cases hok

/-- What stands between quotes spells a text or is refused. -/
theorem spells_or_refuses (h : IsBody raw) : (∃ text, Spells raw text) ∨ Refuses readOctets raw := by
  -- Two surrogates are two parts but one character.
  induction hn : raw.length using Nat.strongRecOn generalizing raw with
  | ind n ih =>
    have hcons {part raw' : List Char} {c : Char} (hpart : Spelling part c) (hraw : IsBody raw')
        (hlt : raw'.length < n) : (∃ text, Spells (part ++ raw') text) ∨ Refuses readOctets (part ++ raw') := by
      obtain ⟨text, htext⟩ | ⟨complaint, hrefuses⟩ := ih _ hlt hraw rfl
      · exact .inl ⟨c :: text, .cons hpart htext⟩
      · refine .inr ⟨complaint, fun rest => ?_⟩
        obtain ⟨k, hk⟩ := hrefuses rest
        refine ⟨k, ?_⟩
        rw [List.append_assoc, readOctets_spelling hpart, hk]
        rfl
    cases h with
    | nil => exact .inl ⟨[], .nil⟩
    | @cons part raw hpart hraw =>
      cases hpart with
      | plain hc => exact hcons (.plain hc) hraw (by simp [← hn])
      | short he => exact hcons (.short he) hraw (by simp only [← hn, List.length_append, List.length_cons]; omega)
      | @code ds m hds =>
        obtain ⟨part, c, raw', hspelling, hraw', hsplit⟩ | ⟨complaint, hrefuses⟩ := spelling_or_refuses hds hraw
        · have hlength := congrArg List.length hsplit
          simp only [List.length_append] at hlength
          rw [List.cons_append, List.cons_append, hsplit]
          exact hcons hspelling hraw' (by simp only [← hn, List.length_append, List.length_cons]; omega)
        · refine .inr ⟨complaint, fun rest => ?_⟩
          obtain ⟨k, hk⟩ := hrefuses rest
          exact ⟨k, readOctets_escape_error hk⟩

/-- A text is read as one text, or refused with one complaint. -/
theorem readText_gives (h : IsBody raw) :
    ∃ x, ∀ rest, Gives (encodeChars rest) (readText (encodeChars (raw ++ '"' :: rest))) x := by
  obtain ⟨text, htext⟩ | ⟨complaint, hrefuses⟩ := spells_or_refuses h
  · refine ⟨.ok (String.ofList text), fun rest => ?_⟩
    rw [readText_spells htext]
    exact .value _
  · refine ⟨.error complaint, fun rest => ?_⟩
    obtain ⟨n, hn⟩ := hrefuses rest
    rw [readText, hn]
    exact .complaint complaint n

end Texts

section Numbers

variable {d : Char} {ds sign f w n : List Char}

theorem realNumeral_gives (negative : Bool) (m : Nat) (e : Int) :
    ∃ x, ∀ s, Gives s (realNumeral negative m e s) x := by
  cases hscale : Decimal.scale? m e with
  | some f =>
    refine ⟨.ok (.real (Decimal.signedBits negative f)), fun s => ?_⟩
    rw [realNumeral, hscale]
    exact .value _
  | none =>
    refine ⟨.error .numberOutOfRange, fun s => ?_⟩
    rw [realNumeral, hscale]
    exact gives_complain _ _

theorem wholeNumeral_gives (negative : Bool) (m : Nat) : ∃ x, ∀ s, Gives s (wholeNumeral negative m s) x := by
  unfold wholeNumeral
  split
  · exact ⟨_, fun s => .value _⟩
  · split
    · exact realNumeral_gives negative m 0
    · exact ⟨_, fun s => .value _⟩

theorem digit_octet_ne (hd : d.isDigit = true) {a : Char} (ha : a.toNat < 0x80) (hdigit : a.isDigit = false) :
    d.toUInt8 ≠ a.toUInt8 := by
  rw [ne_eq, Utf8.toUInt8_inj (toNat_lt_of_isDigit hd) ha]
  exact digit_ne hd hdigit

theorem readSign_digit (hsign : sign ∈ [[], ['+'], ['-']]) (hd : d.isDigit = true) :
    ∃ down, ∀ cs, readSign (encodeChars (sign ++ d :: cs)) = (down, encodeChars (d :: cs)) := by
  simp only [List.mem_cons, List.not_mem_nil, or_false] at hsign
  obtain rfl | rfl | rfl := hsign
  · refine ⟨false, fun cs => ?_⟩
    rw [List.nil_append, encodeChars_ascii (toNat_lt_of_isDigit hd), readSign,
      if_neg (digit_octet_ne hd (by decide) rfl), if_neg (digit_octet_ne hd (by decide) rfl)]
  · refine ⟨false, fun cs => ?_⟩
    rw [List.singleton_append, encodeChars_ascii (by decide), readSign, if_neg (by decide), if_pos rfl]
  · refine ⟨true, fun cs => ?_⟩
    rw [List.singleton_append, encodeChars_ascii (by decide), readSign, if_pos rfl]

/-- An exponent is read from its digits alone. -/
theorem readExponent_settled (negative : Bool) (m : Nat) (e : Int) (hsign : sign ∈ [[], ['+'], ['-']])
    (hd : d.isDigit = true) (hds : Digits ds) : Settled (readExponent negative m e) (sign ++ d :: ds) := by
  obtain ⟨down, hdown⟩ := readSign_digit hsign hd
  obtain ⟨k, unused, hpush⟩ : ∃ k unused, pushDigits greatestExponent (digitValue d.toUInt8) (encodeChars ds) =
    (k, unused) := ⟨_, _, rfl⟩
  have hread (rest : List Char) (hrest : Ends rest) :
      readExponent negative m e (encodeChars (sign ++ d :: ds ++ rest)) =
        if unused = [] then
          realNumeral negative m (if down then e - k else e + k) (encodeChars rest)
        else if m = 0 ∨ down then realNumeral negative 0 0 (encodeChars rest)
        else complain .numberOutOfRange (unused.drop 1 ++ encodeChars rest) := by
    rw [List.append_assoc, List.cons_append, readExponent, hdown, encodeChars_ascii (toNat_lt_of_isDigit hd)]
    simp only [isDigit_toUInt8 hd, takeDigits_append hds hrest.noDigit, dropDigits_append hds hrest.noDigit,
      Bool.not_true, Bool.false_eq_true, if_false, hpush]
  by_cases hunused : unused = []
  · obtain ⟨x, hx⟩ := realNumeral_gives negative m (if down then e - k else e + k)
    refine ⟨x, fun rest hrest => ?_⟩
    rw [hread rest hrest, if_pos hunused]
    exact hx _
  by_cases hsmall : m = 0 ∨ down
  · obtain ⟨x, hx⟩ := realNumeral_gives negative 0 0
    refine ⟨x, fun rest hrest => ?_⟩
    rw [hread rest hrest, if_neg hunused, if_pos hsmall]
    exact hx _
  · refine ⟨.error .numberOutOfRange, fun rest hrest => ?_⟩
    rw [hread rest hrest, if_neg hunused, if_neg hsmall]
    exact gives_complain _ _

/-- An exponent if there is one, and else what a number without one comes to. -/
def orExponent (negative : Bool) (m : Nat) (e : Int) (plain : Octets → Except Fault (Numeral × Octets)) :
    Octets → Except Fault (Numeral × Octets)
  | [] => plain []
  | b :: s => if isExponentMark b then readExponent negative m e s else plain (b :: s)

theorem orExponent_settled (negative : Bool) (m : Nat) (e : Int) {plain : Octets → Except Fault (Numeral × Octets)}
    (hplain : ∃ x, ∀ s, Gives s (plain s) x) {exponent : List Char} (h : IsExponent exponent) :
    Settled (orExponent negative m e plain) exponent := by
  cases h with
  | absent =>
    obtain ⟨x, hx⟩ := hplain
    refine ⟨x, fun rest hrest => ?_⟩
    have heq : orExponent negative m e plain (encodeChars rest) = plain (encodeChars rest) := by
      generalize hs : encodeChars rest = s
      cases s with
      | nil => rfl
      | cons b s =>
        have hmark : ¬isExponentMark b = true := by
          intro hmark
          obtain ⟨c, cs, hc, -, rfl, -⟩ := exponentMark_class.cons_of_encodeChars hmark hs
          obtain ⟨-, -, he, hE⟩ := hrest c rfl
          simp [he, hE] at hc
        rw [orExponent, if_neg hmark]
    rw [List.nil_append, heq]
    exact hx _
  | @digits mark d sign ds hmark hsign hd hds =>
    obtain ⟨x, hx⟩ := readExponent_settled negative m e hsign hd hds
    refine ⟨x, fun rest hrest => ?_⟩
    have heq : orExponent negative m e plain (encodeChars (mark :: (sign ++ d :: ds) ++ rest)) =
        readExponent negative m e (encodeChars (sign ++ d :: ds ++ rest)) := by
      simp only [List.mem_cons, List.not_mem_nil, or_false] at hmark
      obtain rfl | rfl := hmark
      · rw [List.cons_append, encodeChars_ascii (by decide), orExponent, if_pos (by decide)]
      · rw [List.cons_append, encodeChars_ascii (by decide), orExponent, if_pos (by decide)]
    rw [heq]
    exact hx rest hrest

theorem readFraction_digits (negative : Bool) (m : Nat) (e : Int) (hd : d.isDigit = true) (hds : Digits ds) :
    ∃ m' e', ∀ cs, NoDigit cs → readFraction negative m e (encodeChars (d :: ds ++ cs)) =
      orExponent negative m' e' (realNumeral negative m' e') (encodeChars cs) := by
  have hall : Digits (d :: ds) := List.forall_mem_cons.mpr ⟨hd, hds⟩
  refine ⟨(pushDigits greatestSignificand m (encodeChars (d :: ds))).1,
    e - ((encodeChars (d :: ds)).length - (pushDigits greatestSignificand m (encodeChars (d :: ds))).2.length : Nat),
    fun cs hcs => ?_⟩
  rw [readFraction, takeDigits_append hall hcs, dropDigits_append hall hcs, encodeChars_ascii (toNat_lt_of_isDigit hd)]
  cases encodeChars cs with
  | nil => rfl
  | cons b s => rfl

theorem readAfterDigits_eq (negative : Bool) (m unused : Nat) {cs : List Char} (hpoint : '.' ∉ cs.head?) :
    readAfterDigits negative m unused (encodeChars cs) =
      orExponent negative m unused
        (fun s => if unused = 0 then wholeNumeral negative m s else realNumeral negative m unused s)
        (encodeChars cs) := by
  generalize hs : encodeChars cs = s
  cases s with
  | nil => rfl
  | cons b s =>
    rw [readAfterDigits, if_neg (octet_ne_of_head (by decide) hpoint hs)]
    rfl

/-- What follows the digits of a number is read up to the end of the number. -/
theorem readAfterDigits_settled (negative : Bool) (m unused : Nat) {exponent : List Char} (hf : IsFraction f)
    (he : IsExponent exponent) : Settled (readAfterDigits negative m unused) (f ++ exponent) := by
  cases hf with
  | absent =>
    have hplain : ∃ x, ∀ s, Gives s
        (if unused = 0 then wholeNumeral negative m s else realNumeral negative m unused s) x := by
      split
      · exact wholeNumeral_gives negative m
      · exact realNumeral_gives negative m unused
    obtain ⟨x, hx⟩ := orExponent_settled negative m unused hplain he
    refine ⟨x, fun rest hrest => ?_⟩
    rw [List.nil_append, readAfterDigits_eq negative m unused (head_exponent he hrest).2]
    exact hx rest hrest
  | @digits d ds hd hds =>
    obtain ⟨m', e', hread⟩ := readFraction_digits negative m unused hd hds
    obtain ⟨x, hx⟩ := orExponent_settled negative m' e' (realNumeral_gives negative m' e') he
    refine ⟨x, fun rest hrest => ?_⟩
    have hpoint : readAfterDigits negative m unused (encodeChars ('.' :: d :: ds ++ exponent ++ rest)) =
        readFraction negative m unused (encodeChars (d :: ds ++ (exponent ++ rest))) := by
      rw [List.append_assoc, List.cons_append, encodeChars_ascii (by decide), readAfterDigits, if_pos rfl]
    rw [hpoint, hread _ (head_exponent he hrest).1]
    exact hx rest hrest

/-- A number is read as one number, or is out of range. -/
theorem readNumeral_settled (negative : Bool) (hn : IsNumeral n) : Settled (readNumeral negative) n := by
  cases hn with
  | @mk w f e hw hf he =>
    cases hw with
    | zero =>
      obtain ⟨x, hx⟩ := readAfterDigits_settled negative 0 0 hf he
      refine ⟨x, fun rest hrest => ?_⟩
      have hdigit := noDigit_fraction hf he hrest
      have hread := hx rest hrest
      rw [List.append_assoc] at hread
      rw [List.append_assoc, List.append_assoc, List.singleton_append, encodeChars_ascii (by decide), readNumeral,
        if_pos rfl, head_digit_eq_false hdigit]
      exact hread
    | @digits d ds hd hzero hds =>
      obtain ⟨m, unused, hpush⟩ : ∃ m unused, pushDigits greatestSignificand (digitValue d.toUInt8) (encodeChars ds) =
        (m, unused) := ⟨_, _, rfl⟩
      obtain ⟨x, hx⟩ := readAfterDigits_settled negative m unused.length hf he
      refine ⟨x, fun rest hrest => ?_⟩
      have hdigit := noDigit_fraction hf he hrest
      have hascii := toNat_lt_of_isDigit hd
      have hne : d.toUInt8 ≠ '0'.toUInt8 := by
        rwa [ne_eq, Utf8.toUInt8_inj hascii (by decide)]
      have hread := hx rest hrest
      rw [List.append_assoc] at hread
      rw [List.append_assoc, List.append_assoc, List.cons_append, encodeChars_ascii hascii, readNumeral, if_neg hne,
        if_pos (isDigit_toUInt8 hd), takeDigits_append hds hdigit, dropDigits_append hds hdigit, hpush]
      exact hread

end Numbers

section Refused

variable {α γ : Type} {v cs : List Char} {d : Char} {rest : Octets}

/-- The complaint about a value of another type: that of reading it, or that of its type. -/
def mistyped (found : γ → Found) (expected : Expected) : Except Complaint γ → Complaint
  | .ok a => .wrongType (found a) expected
  | .error c => c

theorem refuse_read {read : Except Fault (γ × Octets)} {x : Except Complaint γ} (h : Gives rest read x)
    (found : γ → Found) (expected : Expected) :
    ∃ n, (read >>= fun (a, s) => (complain (.wrongType (found a) expected) s : Except Fault α)) =
      .error ⟨mistyped found expected x, n⟩ := by
  cases h with
  | value a => exact ⟨_, rfl⟩
  | complaint c n => exact ⟨n, rfl⟩

theorem refuse_minus (expected : Expected) (cs : List Char) :
    (refuse expected (encodeChars ('-' :: cs)) : Except Fault α) =
      readNumeral true (encodeChars cs) >>= fun (n, s) => complain (.wrongType n.found expected) s := by
  rw [encodeChars_ascii (by decide), refuse, if_neg (by decide), if_neg (by decide), if_neg (by decide), if_pos rfl]

theorem refuse_digit (expected : Expected) (hd : d.isDigit = true) (cs : List Char) :
    (refuse expected (encodeChars (d :: cs)) : Except Fault α) =
      readNumeral false (encodeChars (d :: cs)) >>= fun (n, s) => complain (.wrongType n.found expected) s := by
  rw [encodeChars_ascii (toNat_lt_of_isDigit hd), refuse, if_neg (digit_octet_ne hd (by decide) rfl),
    if_neg (digit_octet_ne hd (by decide) rfl), if_neg (digit_octet_ne hd (by decide) rfl),
    if_neg (digit_octet_ne hd (by decide) rfl), if_pos (isDigit_toUInt8 hd)]

theorem quoted_append (raw cs : List Char) : quoted raw ++ cs = '"' :: (raw ++ '"' :: cs) := by
  simp [quoted]

theorem refuse_quote (expected : Expected) (cs : List Char) :
    (refuse expected (encodeChars ('"' :: cs)) : Except Fault α) =
      readText (encodeChars cs) >>= fun (t, s) => complain (.wrongType (.text t) expected) s := by
  rw [encodeChars_ascii (by decide), refuse, if_neg (by decide), if_neg (by decide), if_neg (by decide),
    if_neg (by decide), if_neg (by decide), if_pos rfl]

/-- A value is refused with one complaint, whatever stands behind it. -/
theorem refuse_settled (expected : Expected) (hv : IsValue v) :
    ∃ c, ∀ (α : Type) (rest : List Char), Ends rest →
      ∃ n, (refuse expected (encodeChars (v ++ rest)) : Except Fault α) = .error ⟨c, n⟩ := by
  have hword {word : String} (hword : (word.toList.all fun c => c.toNat < 0x80) = true) (rest : List Char) :
      readWord (Utf8.encode word) (encodeChars (word.toList ++ rest)) = .ok (encodeChars rest) :=
    (readWord_encode hword).mpr ⟨rest, rfl, rfl⟩
  cases hv with
  | null =>
    refine ⟨.wrongType .null expected, fun α rest _ => ⟨(encodeChars rest).length, ?_⟩⟩
    have hchars : "null".toList ++ rest = 'n' :: ("ull".toList ++ rest) := by simp
    rw [hchars, encodeChars_ascii (by decide), refuse, if_pos rfl]
    exact bind_of_value (hword (by decide) rest)
  | true =>
    refine ⟨.wrongType (.boolean true) expected, fun α rest _ => ⟨(encodeChars rest).length, ?_⟩⟩
    have hchars : "true".toList ++ rest = 't' :: ("rue".toList ++ rest) := by simp
    rw [hchars, encodeChars_ascii (by decide), refuse, if_neg (by decide), if_pos rfl]
    exact bind_of_value (hword (by decide) rest)
  | false =>
    refine ⟨.wrongType (.boolean false) expected, fun α rest _ => ⟨(encodeChars rest).length, ?_⟩⟩
    have hchars : "false".toList ++ rest = 'f' :: ("alse".toList ++ rest) := by simp
    rw [hchars, encodeChars_ascii (by decide), refuse, if_neg (by decide), if_neg (by decide), if_pos rfl]
    exact bind_of_value (hword (by decide) rest)
  | number hn =>
    cases hn with
    | plain hn =>
      obtain ⟨x, hx⟩ := readNumeral_settled false hn
      obtain ⟨d, ds, hd, rfl⟩ := head_numeral hn
      refine ⟨mistyped Numeral.found expected x, fun α rest hrest => ?_⟩
      rw [List.cons_append, refuse_digit expected hd]
      exact refuse_read (hx rest hrest) Numeral.found expected
    | negative hn =>
      obtain ⟨x, hx⟩ := readNumeral_settled true hn
      refine ⟨mistyped Numeral.found expected x, fun α rest hrest => ?_⟩
      rw [List.cons_append, refuse_minus]
      exact refuse_read (hx rest hrest) Numeral.found expected
  | text hraw =>
    obtain ⟨x, hx⟩ := readText_gives hraw
    refine ⟨mistyped .text expected x, fun α rest _ => ?_⟩
    rw [quoted_append, refuse_quote]
    exact refuse_read (hx rest) .text expected
  | @list es blanks =>
    refine ⟨.wrongType .list expected, fun α rest _ => ⟨(encodeChars (listChars es blanks ++ rest)).length, ?_⟩⟩
    rw [listChars, List.cons_append, encodeChars_ascii (by decide)]
    rfl
  | @object ms blanks =>
    refine ⟨.wrongType .object expected, fun α rest _ => ⟨(encodeChars (objectChars ms blanks ++ rest)).length, ?_⟩⟩
    rw [objectChars, List.cons_append, encodeChars_ascii (by decide)]
    rfl

end Refused

section Fields

variable {v w cs : List Char} {c : Char}

/-- The first character of a value tells its kind. -/
theorem kind_of_head (hv : IsValue v) :
    ∃ c cs, v = c :: cs ∧ Json.isBlank c = false ∧ (c = '-' ∨ c.isDigit = true → IsNumber v) ∧
      (c = 'n' → v = "null".toList) ∧ (c = '"' → ∃ raw, IsBody raw ∧ v = quoted raw) ∧
      (c = '\x7b' → ∃ ms blanks, (∀ m ∈ ms, m.Spaced) ∧ (∀ m ∈ ms, IsBody m.key) ∧ (∀ m ∈ ms, IsValue m.item.value) ∧
        Blanks blanks ∧ v = objectChars ms blanks) := by
  cases hv with
  | null => exact ⟨'n', "ull".toList, by simp, by decide, by simp, fun _ => rfl, by simp, by simp⟩
  | true => exact ⟨'t', "rue".toList, by simp, by decide, by simp, by simp, by simp, by simp⟩
  | false => exact ⟨'f', "alse".toList, by simp, by decide, by simp, by simp, by simp, by simp⟩
  | number hn =>
    cases hn with
    | plain hn =>
      obtain ⟨d, ds, hd, rfl⟩ := head_numeral hn
      exact ⟨d, ds, rfl, isBlank_digit hd, fun _ => .plain hn, fun h => absurd h (digit_ne hd rfl),
        fun h => absurd h (digit_ne hd rfl), fun h => absurd h (digit_ne hd rfl)⟩
    | negative hn => exact ⟨'-', _, rfl, by decide, fun _ => .negative hn, by simp, by simp, by simp⟩
  | text hraw => exact ⟨'"', _, rfl, by decide, by simp, by simp, fun _ => ⟨_, hraw, rfl⟩, by simp⟩
  | list => exact ⟨'[', _, rfl, by decide, by simp, by simp, by simp, by simp⟩
  | object hspaced hkey hvalue hblanks =>
    exact ⟨'\x7b', _, rfl, by decide, by simp, by simp, by simp,
      fun _ => ⟨_, _, hspaced, hkey, hvalue, hblanks, rfl⟩⟩

theorem skipBlanks_cons (hc : Json.isBlank c = false) (cs : List Char) :
    skipBlanks (encodeChars (c :: cs)) = encodeChars (c :: cs) :=
  skipBlanks_append blanks_nil hc

theorem settled_of_refuse {α : Type} {read : Octets → Except Fault (α × Octets)} (expected : Expected) (hv : IsValue v)
    (h : ∀ rest, read (encodeChars (v ++ rest)) = refuse expected (encodeChars (v ++ rest))) : Settled read v := by
  obtain ⟨c, hc⟩ := refuse_settled expected hv
  refine ⟨.error c, fun rest hrest => ?_⟩
  obtain ⟨n, hn⟩ := hc _ rest hrest
  rw [h, hn]
  exact .complaint c n

theorem narrow_gives (n : Numeral) : ∃ x, ∀ s, Gives s (narrow n s) x := by
  cases n with
  | real bits => exact ⟨_, fun s => gives_complain _ _⟩
  | whole n =>
    simp only [narrow]
    split
    · exact ⟨_, fun s => .value _⟩
    · exact ⟨_, fun s => gives_complain _ _⟩

theorem readWhole_minus (cs : List Char) :
    readWhole (encodeChars ('-' :: cs)) = readNumeral true (encodeChars cs) >>= fun x => narrow x.1 x.2 := by
  rw [readWhole, skipBlanks_cons (by decide), encodeChars_ascii (by decide)]
  rfl

theorem readWhole_digit (hc : c.isDigit = true) (cs : List Char) :
    readWhole (encodeChars (c :: cs)) = readNumeral false (encodeChars (c :: cs)) >>= fun x => narrow x.1 x.2 := by
  rw [readWhole, skipBlanks_cons (isBlank_digit hc), encodeChars_ascii (toNat_lt_of_isDigit hc)]
  simp only [if_neg (digit_octet_ne hc (a := '-') (by decide) rfl), if_pos (isDigit_toUInt8 hc)]

theorem readWhole_settled (hv : IsValue v) : Settled readWhole v := by
  obtain ⟨c, cs, rfl, hblank, hnumber, -⟩ := kind_of_head hv
  by_cases hc : c = '-' ∨ c.isDigit = true
  · cases hnumber hc with
    | plain hn =>
      obtain ⟨d, ds, hd, heq⟩ := head_numeral hn
      obtain ⟨x, hx⟩ := (readNumeral_settled false hn).bind (f := fun x => narrow x.1 x.2) narrow_gives
      refine ⟨x, fun rest hrest => ?_⟩
      have hread := hx rest hrest
      rw [heq, List.cons_append] at hread ⊢
      rw [readWhole_digit hd]
      exact hread
    | negative hn =>
      obtain ⟨x, hx⟩ := (readNumeral_settled true hn).bind (f := fun x => narrow x.1 x.2) narrow_gives
      refine ⟨x, fun rest hrest => ?_⟩
      rw [List.cons_append, readWhole_minus]
      exact hx rest hrest
  · obtain ⟨hminus, hdigit⟩ := not_or.mp hc
    refine settled_of_refuse .whole hv fun rest => ?_
    obtain ⟨b, s, hs, hb, hne⟩ := exists_octet c (cs ++ rest)
    rw [List.cons_append, readWhole, skipBlanks_cons hblank, hs]
    simp only [if_neg (hne '-' (by decide) hminus), hb, if_neg hdigit]

theorem readText_settled {raw : List Char} (hraw : IsBody raw) : Settled readText (raw ++ ['"']) := by
  obtain ⟨x, hx⟩ := readText_gives hraw
  refine ⟨x, fun rest _ => ?_⟩
  rw [List.append_assoc]
  exact hx rest

theorem readString_quote (cs : List Char) : readString (encodeChars ('"' :: cs)) = readText (encodeChars cs) := by
  rw [readString, skipBlanks_cons (by decide), encodeChars_ascii (by decide)]
  rfl

theorem readString_settled (hv : IsValue v) : Settled readString v := by
  obtain ⟨c, cs, rfl, hblank, -, -, htext, -⟩ := kind_of_head hv
  by_cases hc : c = '"'
  · obtain ⟨raw, hraw, heq⟩ := htext hc
    obtain ⟨x, hx⟩ := readText_settled hraw
    refine ⟨x, fun rest hrest => ?_⟩
    rw [heq, quoted, List.cons_append, readString_quote]
    exact hx rest hrest
  · refine settled_of_refuse .text hv fun rest => ?_
    obtain ⟨b, s, hs, -, hne⟩ := exists_octet c (cs ++ rest)
    rw [List.cons_append, readString, skipBlanks_cons hblank, hs]
    simp only [if_neg (hne '"' (by decide) hc)]

theorem modeNamed_gives (name : String) : ∃ x, ∀ s, Gives s (modeNamed name s) x := by
  unfold modeNamed
  split
  · exact ⟨_, fun s => .value _⟩
  · split
    · exact ⟨_, fun s => .value _⟩
    · exact ⟨_, fun s => gives_complain _ _⟩

/-- A null is passed over, and any other value is refused. -/
theorem expectNull_settled (hw : Blanks w) (hv : IsValue v) :
    (∀ rest, expectNull (encodeChars (w ++ (v ++ rest))) = .ok (encodeChars rest)) ∨
      ∃ c, ∀ rest, Ends rest → ∃ n, expectNull (encodeChars (w ++ (v ++ rest))) = .error ⟨c, n⟩ := by
  obtain ⟨c, cs, hhead, hblank, -, hnull, -⟩ := kind_of_head hv
  by_cases hc : c = 'n'
  · rw [hnull hc]
    exact .inl fun rest => expectNull_append hw
  · obtain ⟨complaint, hrefuse⟩ := refuse_settled .nothing hv
    refine .inr ⟨complaint, fun rest hrest => ?_⟩
    obtain ⟨n, hn⟩ := hrefuse Octets rest hrest
    subst hhead
    obtain ⟨b, s, hs, -, hne⟩ := exists_octet c (cs ++ rest)
    rw [List.cons_append, hs] at hn
    refine ⟨n, ?_⟩
    rw [List.cons_append, expectNull, skipBlanks_append hw hblank, hs]
    simp only [if_neg (hne 'n' (by decide) hc)]
    exact hn

/-- What follows the name in the object form of a mode. -/
def finishMode (mode : Mode) (s : Octets) : Except Fault (Mode × Octets) := do
  let s ← expectColon s
  let s ← expectNull s
  let s ← closeMode s
  .ok (mode, s)

/-- A member after its key, with the members that follow it. -/
def memberTail (m : Member) (ms : List Member) (blanks rest : List Char) : List Char :=
  m.between ++ ':' :: (m.item.before ++ (m.item.value ++ (m.item.after ++ (entries false (ms.map Member.chars) ++
    (blanks ++ '\x7d' :: rest)))))

theorem objectChars_cons (m : Member) (ms : List Member) (blanks rest : List Char) :
    objectChars (m :: ms) blanks ++ rest =
      '\x7b' :: (m.before ++ '"' :: (m.key ++ '"' :: memberTail m ms blanks rest)) := by
  simp [objectChars, separated, memberTail, entries, Member.chars, Item.chars, quoted]

theorem finishMode_gives (mode : Mode) {m : Member} (ms : List Member) {blanks : List Char} (hm : m.Spaced)
    (hvalue : IsValue m.item.value) (hblanks : Blanks blanks) :
    ∃ x, ∀ rest, Gives (encodeChars rest) (finishMode mode (encodeChars (memberTail m ms blanks rest))) x := by
  obtain ⟨-, hbetween, hbefore, hafter⟩ := hm
  obtain hnull | ⟨c, hrefuse⟩ := expectNull_settled hbefore hvalue
  · have hfinish (rest : List Char) : finishMode mode (encodeChars (memberTail m ms blanks rest)) =
        closeMode (encodeChars (m.item.after ++ (entries false (ms.map Member.chars) ++
          (blanks ++ '\x7d' :: rest)))) >>= fun s => .ok (mode, s) :=
      (bind_of_value (expectColon_append hbetween)).trans (bind_of_value (hnull _))
    cases ms with
    | nil =>
      refine ⟨.ok mode, fun rest => ?_⟩
      have hclose : closeMode (encodeChars (m.item.after ++ blanks ++ '\x7d' :: rest)) = .ok (encodeChars rest) :=
        closeMode_append (hafter.append hblanks)
      rw [List.append_assoc] at hclose
      rw [(hfinish rest).trans (bind_of_value hclose)]
      exact .value mode
    | cons m' ms =>
      refine ⟨.error .expectedValue, fun rest => ?_⟩
      rw [hfinish, List.map_cons, entries_cons, comma, if_neg (by decide), List.append_assoc, List.singleton_append,
        closeMode, skipBlanks_append hafter (by decide), encodeChars_ascii (by decide)]
      exact .complaint _ _
  · refine ⟨.error c, fun rest => ?_⟩
    have hclose : Ends ('\x7d' :: rest) := ends_cons (by simp)
    obtain ⟨n, hn⟩ := hrefuse _ (ends_blanks hafter (ends_entries (ms.map Member.chars) hblanks hclose))
    have hfinish : finishMode mode (encodeChars (memberTail m ms blanks rest)) = .error ⟨c, n⟩ :=
      (bind_of_value (expectColon_append hbetween)).trans (bind_of_fault hn)
    rw [hfinish]
    exact .complaint c n

theorem readMode_quote (cs : List Char) :
    readMode (encodeChars ('"' :: cs)) = readText (encodeChars cs) >>= fun x => modeNamed x.1 x.2 := by
  rw [readMode, skipBlanks_cons (by decide), encodeChars_ascii (by decide)]
  rfl

theorem readMode_brace (cs : List Char) : readMode (encodeChars ('\x7b' :: cs)) = readModeObject (encodeChars cs) := by
  rw [readMode, skipBlanks_cons (by decide), encodeChars_ascii (by decide)]
  rfl

theorem readModeObject_key (hw : Blanks w) (cs : List Char) :
    readModeObject (encodeChars (w ++ '"' :: cs)) =
      readText (encodeChars cs) >>= fun x => modeNamed x.1 x.2 >>= fun y => finishMode y.1 y.2 := by
  rw [readModeObject, skipBlanks_append hw (by decide), encodeChars_ascii (by decide)]
  rfl

theorem readMode_object_settled {ms : List Member} {blanks : List Char} (hspaced : ∀ m ∈ ms, m.Spaced)
    (hkey : ∀ m ∈ ms, IsBody m.key) (hvalue : ∀ m ∈ ms, IsValue m.item.value) (hblanks : Blanks blanks) :
    Settled readMode (objectChars ms blanks) := by
  cases ms with
  | nil =>
    refine ⟨.error .expectedValue, fun rest _ => ?_⟩
    have hchars : objectChars [] blanks ++ rest = '\x7b' :: (blanks ++ '\x7d' :: rest) := by
      simp [objectChars, separated]
    rw [hchars, readMode_brace, readModeObject, skipBlanks_append hblanks (by decide), encodeChars_ascii (by decide)]
    exact .complaint _ _
  | cons m ms =>
    obtain ⟨hm, -⟩ := List.forall_mem_cons.mp hspaced
    obtain ⟨hname, -⟩ := List.forall_mem_cons.mp hkey
    obtain ⟨hnull, -⟩ := List.forall_mem_cons.mp hvalue
    have htext : ∃ x, ∀ rest, Gives (encodeChars (memberTail m ms blanks rest))
        (readText (encodeChars (m.key ++ '"' :: memberTail m ms blanks rest))) x :=
      (readText_gives hname).imp fun _ hx rest => hx _
    have hmode (name : String) : ∃ x, ∀ rest, Gives (encodeChars (memberTail m ms blanks rest))
        (modeNamed name (encodeChars (memberTail m ms blanks rest))) x :=
      (modeNamed_gives name).imp fun _ hx rest => hx _
    obtain ⟨x, hx⟩ := gives_bind (f := fun x => modeNamed x.1 x.2 >>= fun y => finishMode y.1 y.2) htext fun name =>
      gives_bind (f := fun y => finishMode y.1 y.2) (hmode name) fun mode => finishMode_gives mode ms hm hnull hblanks
    refine ⟨x, fun rest _ => ?_⟩
    rw [objectChars_cons, readMode_brace, readModeObject_key hm.1]
    exact hx rest

theorem readMode_settled (hv : IsValue v) : Settled readMode v := by
  obtain ⟨c, cs, hhead, hblank, -, -, htext, hobject⟩ := kind_of_head hv
  by_cases hquote : c = '"'
  · obtain ⟨raw, hraw, rfl⟩ := htext hquote
    obtain ⟨x, hx⟩ := (readText_settled hraw).bind (f := fun x => modeNamed x.1 x.2) modeNamed_gives
    refine ⟨x, fun rest hrest => ?_⟩
    rw [quoted, List.cons_append, readMode_quote]
    exact hx rest hrest
  by_cases hbrace : c = '\x7b'
  · obtain ⟨ms, blanks, hspaced, hkey, hvalue, hblanks, rfl⟩ := hobject hbrace
    exact readMode_object_settled hspaced hkey hvalue hblanks
  · refine ⟨.error .expectedValue, fun rest _ => ?_⟩
    obtain ⟨b, s, hs, -, hne⟩ := exists_octet c (cs ++ rest)
    rw [hhead, List.cons_append, readMode, skipBlanks_cons hblank, hs]
    simp only [if_neg (hne '"' (by decide) hquote), if_neg (hne '\x7b' (by decide) hbrace)]
    exact gives_complainOfNext _ _

/-- What a field becomes with a value, in a draft that has no other fields. -/
def fieldOf (key : Key) (v : List Char) : Except Complaint Draft :=
  verdict (readField key {} (encodeChars v))

/-- A field that is set to what its reader gives. -/
theorem field_of_settled {α : Type} {read : Octets → Except Fault (α × Octets)} (hread : Settled read v) (key : Key)
    (set : Draft → α → Draft) (hfield : ∀ d s, readField key d s = (read s).map fun (a, r) => (set d a, r))
    (hset : ∀ d a, d.withField (set {} a) key = set d a) (d : Draft) {rest : List Char} (hrest : Ends rest) :
    Gives (encodeChars rest) (readField key d (encodeChars (v ++ rest)))
      ((fieldOf key v).map (d.withField · key)) := by
  obtain ⟨x, hx⟩ := hread
  have halone := (hx [] (by simp [Ends])).map (set {})
  rw [List.append_nil, ← hfield] at halone
  have heq : (x.map (set {})).map (d.withField · key) = x.map (set d) := by
    cases x with
    | error c => rfl
    | ok a => exact congrArg Except.ok (hset d a)
  rw [fieldOf, halone.verdict_eq, heq, hfield]
  exact (hx rest hrest).map (set d)

theorem readField_blanks (key : Key) (d : Draft) (hw : Blanks w) (cs : List Char) :
    readField key d (encodeChars (w ++ cs)) = readField key d (encodeChars cs) := by
  cases key <;> simp only [readField, readWhole, readString, readMode, skipBlanks_blanks hw]

/-- Reading a field takes the value of the field, wherever it stands. -/
theorem readField_gives (key : Key) (d : Draft) {rest : List Char} (hw : Blanks w) (hv : IsValue v)
    (hrest : Ends rest) :
    Gives (encodeChars rest) (readField key d (encodeChars (w ++ (v ++ rest))))
      ((fieldOf key v).map (d.withField · key)) := by
  rw [readField_blanks key d hw]
  cases key with
  | value =>
    exact field_of_settled (readWhole_settled hv) .value (fun d n => { d with value := some n }) (fun _ _ => rfl)
      (fun _ _ => rfl) d hrest
  | banner =>
    exact field_of_settled (readString_settled hv) .banner (fun d t => { d with banner := some t }) (fun _ _ => rfl)
      (fun _ _ => rfl) d hrest
  | label =>
    exact field_of_settled (readString_settled hv) .label (fun d t => { d with label := some t }) (fun _ _ => rfl)
      (fun _ _ => rfl) d hrest
  | prompt =>
    exact field_of_settled (readString_settled hv) .prompt (fun d t => { d with prompt := some t }) (fun _ _ => rfl)
      (fun _ _ => rfl) d hrest
  | overflow =>
    exact field_of_settled (readMode_settled hv) .overflow (fun d m => { d with mode := some m }) (fun _ _ => rfl)
      (fun _ _ => rfl) d hrest

end Fields

end RecursiveFactorial.Document
