import RecursiveFactorial.Document.Skip
import RecursiveFactorial.Proofs.Document.Grammar
import RecursiveFactorial.Proofs.Text.Characters

/-!
# Reading blanks, words and texts

A reader of the octets of some characters stops between two characters. For each reader there are two statements: what
it has accepted belongs to the grammar, and whatever belongs to the grammar is accepted, with anything after it.
-/
namespace RecursiveFactorial.Document

open Json (Blanks IsCode IsPart IsBody Spelling Spells isPlain shortEscape? hexDigit?)
open Utf8 (encodeChars encodeChars_ascii cons_of_encodeChars)

section Blanks

variable {w cs : List Char} {s : Octets}

theorem blank_class : Utf8.AsciiClass Json.isBlank isBlank :=
  (((Utf8.AsciiClass.single (by decide)).or (.single (by decide))).or (.single (by decide))).or (.single (by decide))

/-- Blanks are passed over up to a character that is none. -/
theorem skipBlanks_append (hw : Blanks w) {c : Char} (hc : Json.isBlank c = false) :
    skipBlanks (encodeChars (w ++ c :: cs)) = encodeChars (c :: cs) := by
  rw [skipBlanks, blank_class.dropWhile_encodeChars, List.dropWhile_append_of_pos hw,
    List.dropWhile_cons_of_neg (by simp [hc])]

theorem skipBlanks_all (hw : Blanks w) : skipBlanks (encodeChars w) = [] := by
  have hall : (w ++ []).dropWhile Json.isBlank = [] := by rw [List.dropWhile_append_of_pos hw]; rfl
  rw [List.append_nil] at hall
  rw [skipBlanks, blank_class.dropWhile_encodeChars, hall, Utf8.encodeChars_nil]

theorem blanks_of_skipBlanks (h : skipBlanks (encodeChars cs) = s) :
    ∃ w ds, cs = w ++ ds ∧ Blanks w ∧ encodeChars ds = s := by
  rw [skipBlanks, blank_class.dropWhile_encodeChars] at h
  refine ⟨cs.takeWhile Json.isBlank, cs.dropWhile Json.isBlank, List.takeWhile_append_dropWhile.symm, ?_, h⟩
  intro c hc
  exact List.all_eq_true.mp List.all_takeWhile c hc

/-- The octet after blanks is a whole character if it is ASCII. -/
theorem cons_of_skipBlanks {a : Char} (ha : a.toNat < 0x80) (h : skipBlanks (encodeChars cs) = a.toUInt8 :: s) :
    ∃ w ds, cs = w ++ a :: ds ∧ Blanks w ∧ s = encodeChars ds := by
  obtain ⟨w, ds, rfl, hw, hds⟩ := blanks_of_skipBlanks h
  obtain ⟨es, rfl, rfl⟩ := cons_of_encodeChars ha hds
  exact ⟨w, es, rfl, hw, rfl⟩

theorem blanks_of_skipBlanks_nil (h : skipBlanks (encodeChars cs) = []) : Blanks cs := by
  obtain ⟨w, ds, rfl, hw, hds⟩ := blanks_of_skipBlanks h
  cases ds with
  | nil => simpa using hw
  | cons d ds =>
    have hne : String.utf8EncodeChar d ≠ [] := by simp
    rw [Utf8.encodeChars_cons, List.append_eq_nil_iff] at hds
    exact absurd hds.1 hne

end Blanks

section Words

theorem readWord_eq_ok {word s r : Octets} : readWord word s = .ok r ↔ s = word ++ r := by
  fun_induction readWord word s with
  | case1 s => simp
  | case2 w ws => simp
  | case3 w ws s ih => simpa using ih
  | case4 w ws b s hne =>
    simp only [complain_ne_ok, List.cons_append, List.cons.injEq, false_iff, not_and]
    intro heq
    exact absurd heq hne

theorem exists_rest_of_encodeChars {word cs : List Char} {r : Octets} (hword : ∀ c ∈ word, c.toNat < 0x80)
    (h : encodeChars cs = encodeChars word ++ r) : ∃ rest, cs = word ++ rest ∧ r = encodeChars rest := by
  induction word generalizing cs with
  | nil => exact ⟨cs, rfl, h.symm⟩
  | cons c word ih =>
    have hc := hword c List.mem_cons_self
    rw [encodeChars_ascii hc, List.cons_append] at h
    obtain ⟨ds, rfl, hds⟩ := cons_of_encodeChars hc h
    obtain ⟨rest, rfl, hr⟩ := ih (fun d hd => hword d (List.mem_cons_of_mem c hd)) hds.symm
    exact ⟨rest, rfl, hr⟩

/-- A word is read exactly where it stands. -/
theorem readWord_encode {word : String} (hword : (word.toList.all fun c => c.toNat < 0x80) = true) {cs : List Char}
    {r : Octets} :
    readWord (Utf8.encode word) (encodeChars cs) = .ok r ↔
      ∃ rest, cs = word.toList ++ rest ∧ r = encodeChars rest := by
  rw [readWord_eq_ok, Utf8.encode_eq]
  constructor
  · intro h
    exact exists_rest_of_encodeChars (by simpa using hword) h
  · rintro ⟨rest, rfl, rfl⟩
    rw [Utf8.encodeChars_append]

end Words

section Codes

theorem hexDigit?_eq (c : Char) :
    hexDigit? c =
      if 48 ≤ c.toNat ∧ c.toNat ≤ 57 then some (c.toNat - 48)
      else if 65 ≤ c.toNat ∧ c.toNat ≤ 70 then some (c.toNat - 65 + 10)
      else if 97 ≤ c.toNat ∧ c.toNat ≤ 102 then some (c.toNat - 97 + 10)
      else none := by
  simp only [hexDigit?, Char.isDigit_iff_toNat, Char.le_def, UInt32.le_iff_toNat_le]
  rfl

theorem hex_table : Utf8.AsciiTable hexDigit? hexValue? where
  ascii := by
    intro b hb
    rw [hexDigit?_eq, Utf8.toNat_ofNat_toNat, hexValue?]
    grind
  foreignChar := by
    intro c hc
    rw [hexDigit?_eq, if_neg (by omega), if_neg (by omega), if_neg (by omega)]
  foreignOctet := by
    intro b hb
    rw [UInt8.le_iff_toNat_le] at hb
    have hle : 128 ≤ b.toNat := hb
    simp only [hexValue?]
    rw [if_neg (by omega), if_neg (by omega), if_neg (by omega)]

variable {cs ds : List Char} {n : Nat} {r : Octets}

theorem code_of_readHex (h : readHex (encodeChars cs) = .ok (n, r)) :
    ∃ ds rest, IsCode ds n ∧ cs = ds ++ rest ∧ r = encodeChars rest := by
  generalize hs : encodeChars cs = s at h
  unfold readHex at h
  split at h
  · next a b c d t =>
    split at h
    · next i j k l hi hj hk hl =>
      obtain ⟨a', cs₁, hi, rfl, h₁⟩ := hex_table.cons_of_encodeChars hi hs
      obtain ⟨b', cs₂, hj, rfl, h₂⟩ := hex_table.cons_of_encodeChars hj h₁.symm
      obtain ⟨c', cs₃, hk, rfl, h₃⟩ := hex_table.cons_of_encodeChars hk h₂.symm
      obtain ⟨d', rest, hl, rfl, h₄⟩ := hex_table.cons_of_encodeChars hl h₃.symm
      obtain ⟨rfl, rfl⟩ := Prod.mk.inj (Except.ok.inj h)
      exact ⟨[a', b', c', d'], rest, .mk hi hj hk hl, rfl, h₄⟩
    · cases h
  · cases h

theorem readHex_of_code (h : IsCode ds n) (rest : List Char) :
    readHex (encodeChars (ds ++ rest)) = .ok (n, encodeChars rest) := by
  cases h with
  | @mk a b c d i j k l hi hj hk hl =>
    have ha := hex_table.lt_of_eq_some hi
    have hb := hex_table.lt_of_eq_some hj
    have hc := hex_table.lt_of_eq_some hk
    have hd := hex_table.lt_of_eq_some hl
    simp only [List.cons_append, List.nil_append, encodeChars_ascii ha, encodeChars_ascii hb, encodeChars_ascii hc,
      encodeChars_ascii hd, readHex, hex_table.octet ha, hex_table.octet hb, hex_table.octet hc, hex_table.octet hd,
      hi, hj, hk, hl]

theorem hexDigit?_lt {c : Char} {i : Nat} (h : hexDigit? c = some i) : i < 16 := by
  simp only [hexDigit?, Char.isDigit_iff_toNat, Char.le_def, UInt32.le_iff_toNat_le, Char.toNat_val] at h
  have hzero : '0'.toNat = 48 := rfl
  have hnine : '9'.toNat = 57 := rfl
  have hA : 'A'.toNat = 65 := rfl
  have hF : 'F'.toNat = 70 := rfl
  have ha : 'a'.toNat = 97 := rfl
  have hf : 'f'.toNat = 102 := rfl
  repeat' split at h
  all_goals
    cases h
    try omega

theorem code_lt (h : IsCode ds n) : n < 0x10000 := by
  cases h with
  | mk hi hj hk hl =>
    have hi := hexDigit?_lt hi
    have hj := hexDigit?_lt hj
    have hk := hexDigit?_lt hk
    have hl := hexDigit?_lt hl
    omega

end Codes

section Escapes

variable {cs part : List Char} {c : Char} {r os : Octets}

/-- The octet `a` in an escape is the character `a`. -/
theorem expectInEscape_eq_ok {a : Char} (ha : a.toNat < 0x80) :
    expectInEscape a (encodeChars cs) = .ok r ↔ ∃ rest, cs = a :: rest ∧ r = encodeChars rest := by
  constructor
  · intro h
    generalize hs : encodeChars cs = s at h
    unfold expectInEscape at h
    split at h
    · cases h
    · split at h
      · next heq =>
        subst heq
        obtain ⟨rest, hcs, hrest⟩ := cons_of_encodeChars ha hs
        exact ⟨rest, hcs, by rw [← hrest, Except.ok.inj h]⟩
      · cases h
  · rintro ⟨rest, rfl, rfl⟩
    rw [encodeChars_ascii ha, expectInEscape, if_pos rfl]

/-- The escape of a trailing surrogate. -/
theorem readTrail_eq_ok {m : Nat} : readTrail (encodeChars cs) = .ok (m, r) ↔
    ∃ ds rest, IsCode ds m ∧ 0xdc00 ≤ m ∧ m ≤ 0xdfff ∧ cs = '\\' :: 'u' :: (ds ++ rest) ∧ r = encodeChars rest := by
  simp only [readTrail, bind_eq_ok, expectInEscape_eq_ok (a := '\\') (by decide)]
  constructor
  · rintro ⟨s, ⟨cs, rfl, rfl⟩, t, ht, ⟨n, u⟩, hhex, h⟩
    obtain ⟨cs, rfl, rfl⟩ := (expectInEscape_eq_ok (by decide)).mp ht
    obtain ⟨ds, rest, hds, rfl, rfl⟩ := code_of_readHex hhex
    split at h
    · next htrail =>
      obtain ⟨rfl, rfl⟩ := Prod.mk.inj (Except.ok.inj h)
      simp only [isTrailSurrogate, Bool.and_eq_true, decide_eq_true_eq] at htrail
      exact ⟨ds, rest, hds, htrail.1, htrail.2, rfl, rfl⟩
    · cases h
  · rintro ⟨ds, rest, hds, hlow, hhigh, rfl, rfl⟩
    refine ⟨_, ⟨_, rfl, rfl⟩, _, (expectInEscape_eq_ok (by decide)).mpr ⟨_, rfl, rfl⟩, _, readHex_of_code hds rest, ?_⟩
    simp [isTrailSurrogate, hlow, hhigh]

theorem spelling_of_readCodePoint (h : readCodePoint (encodeChars cs) = .ok (c, r)) :
    ∃ part rest, Spelling ('\\' :: 'u' :: part) c ∧ cs = part ++ rest ∧ r = encodeChars rest := by
  obtain ⟨⟨n, s⟩, hhex, h⟩ := bind_eq_ok.mp h
  obtain ⟨ds, rest, hds, rfl, rfl⟩ := code_of_readHex hhex
  have hlt := code_lt hds
  simp only [isTrailSurrogate, isLeadSurrogate, Bool.and_eq_true, decide_eq_true_eq] at h
  split at h
  · cases h
  split at h
  · next hlead =>
    obtain ⟨⟨m, t⟩, htrail, h⟩ := bind_eq_ok.mp h
    obtain ⟨es, rest', hes, hlow, hhigh, rfl, rfl⟩ := readTrail_eq_ok.mp htrail
    obtain ⟨rfl, rfl⟩ := Prod.mk.inj (Except.ok.inj h)
    refine ⟨ds ++ '\\' :: 'u' :: es, rest', .pair hds hes hlead.1 hlead.2 hlow hhigh ?_, by simp, rfl⟩
    rw [Utf8.toNat_ofNat_of_isValidChar (.inr (by unfold joinSurrogates; omega)), joinSurrogates]
    omega
  · obtain ⟨rfl, rfl⟩ := Prod.mk.inj (Except.ok.inj h)
    refine ⟨ds, rest, .code ?_, rfl, rfl⟩
    rwa [Utf8.toNat_ofNat_of_isValidChar (by unfold Nat.isValidChar; omega)]

theorem readCodePoint_of_code {ds : List Char} (h : IsCode ds c.toNat) (rest : List Char) :
    readCodePoint (encodeChars (ds ++ rest)) = .ok (c, encodeChars rest) := by
  have hvalid : c.toNat < 0xd800 ∨ 0xdfff < c.toNat ∧ c.toNat < 0x110000 := Utf8.toNat_val_lt c
  have htrail : isTrailSurrogate c.toNat = false := by
    rw [← Bool.not_eq_true, isTrailSurrogate, Bool.and_eq_true, decide_eq_true_eq, decide_eq_true_eq]
    omega
  have hlead : isLeadSurrogate c.toNat = false := by
    rw [← Bool.not_eq_true, isLeadSurrogate, Bool.and_eq_true, decide_eq_true_eq, decide_eq_true_eq]
    omega
  apply bind_eq_ok.mpr
  refine ⟨_, readHex_of_code h rest, ?_⟩
  simp [htrail, hlead]

theorem readCodePoint_of_pair {ds es : List Char} {lead trail : Nat} (hds : IsCode ds lead) (hes : IsCode es trail)
    (hlead : 0xd800 ≤ lead ∧ lead ≤ 0xdbff) (htrail : 0xdc00 ≤ trail ∧ trail ≤ 0xdfff)
    (hc : c.toNat = 0x10000 + (lead - 0xd800) * 0x400 + (trail - 0xdc00)) (rest : List Char) :
    readCodePoint (encodeChars (ds ++ '\\' :: 'u' :: (es ++ rest))) = .ok (c, encodeChars rest) := by
  have hnotrail : isTrailSurrogate lead = false := by
    rw [← Bool.not_eq_true, isTrailSurrogate, Bool.and_eq_true, decide_eq_true_eq, decide_eq_true_eq]
    omega
  have hislead : isLeadSurrogate lead = true := by
    simp [isLeadSurrogate, hlead]
  have hjoin : joinSurrogates lead trail = c.toNat := by
    rw [joinSurrogates, hc]
    omega
  apply bind_eq_ok.mpr
  refine ⟨_, readHex_of_code hds _, ?_⟩
  simp only [hnotrail, hislead, Bool.false_eq_true, if_false, if_true]
  apply bind_eq_ok.mpr
  refine ⟨_, readTrail_eq_ok.mpr ⟨es, rest, hes, htrail.1, htrail.2, rfl, rfl⟩, ?_⟩
  simp [hjoin]

theorem escape_table : Utf8.AsciiTable (fun e => (shortEscape? e).map Char.toUInt8) simpleEscape? where
  ascii := Utf8.forall_octet (by decide +kernel)
  foreignChar := by
    intro c hc
    have hnone : shortEscape? c = none := by
      unfold shortEscape?
      split
      case h_9 => rfl
      all_goals exact absurd hc (by decide)
    rw [hnone]
    rfl
  foreignOctet := Utf8.forall_octet (by decide +kernel)

theorem toNat_lt_of_shortEscape? {e : Char} (h : shortEscape? e = some c) : c.toNat < 0x80 := by
  unfold shortEscape? at h
  split at h <;> cases h <;> decide

theorem simpleEscape?_of_shortEscape? {e : Char} (h : shortEscape? e = some c) :
    e.toNat < 0x80 ∧ simpleEscape? e.toUInt8 = some c.toUInt8 := by
  have hmap : (shortEscape? e).map Char.toUInt8 = some c.toUInt8 := by rw [h]; rfl
  have he := escape_table.lt_of_eq_some hmap
  exact ⟨he, (escape_table.octet he).trans hmap⟩

/-- What stands after a backslash is read as the octets of its character. -/
theorem spelling_of_readEscape (h : readEscape (encodeChars cs) = .ok (os, r)) :
    ∃ part rest c, Spelling ('\\' :: part) c ∧ cs = part ++ rest ∧ os = String.utf8EncodeChar c ∧
      r = encodeChars rest := by
  generalize hs : encodeChars cs = s at h
  unfold readEscape at h
  split at h
  · cases h
  · split at h
    · next hshort =>
      obtain ⟨e, rest, he, rfl, rfl⟩ := escape_table.cons_of_encodeChars hshort hs
      obtain ⟨c, hc, rfl⟩ := Option.map_eq_some_iff.mp he
      obtain ⟨rfl, rfl⟩ := Prod.mk.inj (Except.ok.inj h)
      have hoctet := Utf8.utf8EncodeChar_of_lt (toNat_lt_of_shortEscape? hc)
      exact ⟨[e], rest, c, .short hc, rfl, hoctet.symm, rfl⟩
    · split at h
      · next hu =>
        subst hu
        obtain ⟨ds, rfl, rfl⟩ := cons_of_encodeChars (a := 'u') (by decide) hs
        split at h
        · next c t hcode =>
          obtain ⟨part, rest, hpart, rfl, rfl⟩ := spelling_of_readCodePoint hcode
          obtain ⟨rfl, rfl⟩ := Prod.mk.inj (Except.ok.inj h)
          exact ⟨'u' :: part, rest, c, hpart, rfl, rfl, rfl⟩
        · cases h
      · cases h

theorem simpleEscape?_u : simpleEscape? 'u'.toUInt8 = none := by decide

theorem readEscape_of_short {e : Char} (h : shortEscape? e = some c) (rest : List Char) :
    readEscape (encodeChars (e :: rest)) = .ok (String.utf8EncodeChar c, encodeChars rest) := by
  obtain ⟨he, hsimple⟩ := simpleEscape?_of_shortEscape? h
  rw [encodeChars_ascii he, readEscape, hsimple, Utf8.utf8EncodeChar_of_lt (toNat_lt_of_shortEscape? h)]

theorem readEscape_of_codePoint {ds rest : List Char}
    (h : readCodePoint (encodeChars ds) = .ok (c, encodeChars rest)) :
    readEscape (encodeChars ('u' :: ds)) = .ok (String.utf8EncodeChar c, encodeChars rest) := by
  rw [encodeChars_ascii (by decide), readEscape, simpleEscape?_u, if_pos rfl, h]

end Escapes

section Texts

variable {cs raw text : List Char} {c : Char} {r os : Octets}

/-- An octet that stands for itself between quotes. -/
def isPlainOctet (b : UInt8) : Bool :=
  b != '"'.toUInt8 && b != '\\'.toUInt8 && !(b < 0x20)

theorem isPlainOctet_iff {b : UInt8} :
    isPlainOctet b = true ↔ b ≠ '"'.toUInt8 ∧ b ≠ '\\'.toUInt8 ∧ ¬b < 0x20 := by
  simp [isPlainOctet, and_assoc]

theorem isPlainOctet_of_isPlain (hc : isPlain c = true) : ∀ b ∈ String.utf8EncodeChar c, isPlainOctet b = true := by
  simp only [isPlain, Bool.and_eq_true, decide_eq_true_eq, bne_iff_ne] at hc
  obtain ⟨⟨hcontrol, hquote⟩, hbackslash⟩ := hc
  intro b hb
  rw [isPlainOctet_iff]
  by_cases hascii : c.toNat < 0x80
  · rw [Utf8.utf8EncodeChar_of_lt hascii, List.mem_singleton] at hb
    rw [hb, UInt8.lt_iff_toNat_lt, Utf8.toNat_toUInt8 hascii]
    refine ⟨?_, ?_, Nat.not_lt.mpr hcontrol⟩
    · exact mt (Utf8.toUInt8_inj hascii (by decide)).mp hquote
    · exact mt (Utf8.toUInt8_inj hascii (by decide)).mp hbackslash
  · have hle := Utf8.le_of_mem_utf8EncodeChar (Nat.le_of_not_lt hascii) b hb
    refine ⟨?_, ?_, ?_⟩
    · rintro rfl
      exact absurd hle (by decide)
    · rintro rfl
      exact absurd hle (by decide)
    · intro hlt
      exact absurd (UInt8.lt_of_le_of_lt hle hlt) (by decide)

theorem readOctets_plain {bs : Octets} (hbs : ∀ b ∈ bs, isPlainOctet b = true) (s : Octets) :
    readOctets (bs ++ s) = (readOctets s).map fun (t, r) => (bs ++ t, r) := by
  induction bs with
  | nil => cases hs : readOctets s <;> simp [hs, Except.map]
  | cons b bs ih =>
    obtain ⟨hquote, hbackslash, hcontrol⟩ := isPlainOctet_iff.mp (hbs b List.mem_cons_self)
    rw [List.cons_append, readOctets, if_neg hquote, if_neg hbackslash, if_neg hcontrol,
      ih fun b hb => hbs b (List.mem_cons_of_mem _ hb)]
    cases readOctets s <;> rfl

theorem skipText_plain {bs : Octets} (hbs : ∀ b ∈ bs, isPlainOctet b = true) (s : Octets) :
    skipText (bs ++ s) = skipText s := by
  induction bs with
  | nil => rfl
  | cons b bs ih =>
    obtain ⟨hquote, hbackslash, hcontrol⟩ := isPlainOctet_iff.mp (hbs b List.mem_cons_self)
    rw [List.cons_append, skipText, if_neg hquote, if_neg hbackslash, if_neg hcontrol,
      ih fun b hb => hbs b (List.mem_cons_of_mem _ hb)]

theorem readOctets_quote (rest : List Char) : readOctets (encodeChars ('"' :: rest)) = .ok ([], encodeChars rest) := by
  rw [encodeChars_ascii (by decide), readOctets, if_pos rfl]

theorem readOctets_escape {s : Octets} (h : readEscape (encodeChars cs) = .ok (os, s)) :
    readOctets (encodeChars ('\\' :: cs)) = (readOctets s).map fun (t, r) => (os ++ t, r) := by
  rw [encodeChars_ascii (by decide), readOctets, if_neg (by decide), if_pos rfl]
  split
  · next herror => rw [h] at herror; cases herror
  · next hok =>
    rw [h] at hok
    cases hok
    rfl

/-- One character between quotes is read as itself. -/
theorem readOctets_spelling {part : List Char} (h : Spelling part c) (cs : List Char) :
    readOctets (encodeChars (part ++ cs)) =
      (readOctets (encodeChars cs)).map fun (t, r) => (String.utf8EncodeChar c ++ t, r) := by
  cases h with
  | plain hc => exact readOctets_plain (isPlainOctet_of_isPlain hc) _
  | short he => exact readOctets_escape (readEscape_of_short he cs)
  | code hds =>
    exact readOctets_escape (readEscape_of_codePoint (readCodePoint_of_code hds cs))
  | pair hds hes hlead hlead' htrail htrail' hc =>
    have hpair := readCodePoint_of_pair hds hes ⟨hlead, hlead'⟩ ⟨htrail, htrail'⟩ hc cs
    simpa using readOctets_escape (readEscape_of_codePoint hpair)

theorem readOctets_spells (h : Spells raw text) (rest : List Char) :
    readOctets (encodeChars (raw ++ '"' :: rest)) = .ok (encodeChars text, encodeChars rest) := by
  induction h with
  | nil => exact readOctets_quote rest
  | cons hpart _ ih =>
    rw [List.append_assoc, readOctets_spelling hpart, ih]
    rfl

/-- What a spelled text is read as. -/
theorem readText_spells (h : Spells raw text) (rest : List Char) :
    readText (encodeChars (raw ++ '"' :: rest)) = .ok (String.ofList text, encodeChars rest) := by
  simp only [readText, readOctets_spells h, Except.map, Utf8.decodeLossy_encodeChars]

/-- Between quotes, only a quote, a backslash and control characters do not stand for themselves. -/
theorem text_char_cases (c : Char) : c = '"' ∨ c = '\\' ∨ c.toNat < 0x20 ∨ isPlain c = true := by
  by_cases hquote : c = '"'
  · exact .inl hquote
  by_cases hbackslash : c = '\\'
  · exact .inr (.inl hbackslash)
  by_cases hcontrol : c.toNat < 0x20
  · exact .inr (.inr (.inl hcontrol))
  · exact .inr (.inr (.inr (by simp [isPlain, hquote, hbackslash, Nat.le_of_not_lt hcontrol])))

theorem control_octet (hc : c.toNat < 0x20) :
    c.toUInt8 ≠ '"'.toUInt8 ∧ c.toUInt8 ≠ '\\'.toUInt8 ∧ c.toUInt8 < 0x20 := by
  have hlt : c.toUInt8 < 0x20 := by
    rw [UInt8.lt_iff_toNat_lt, Utf8.toNat_toUInt8 (by omega)]
    exact hc
  refine ⟨?_, ?_, hlt⟩
  · intro heq
    rw [heq] at hlt
    exact absurd hlt (by decide)
  · intro heq
    rw [heq] at hlt
    exact absurd hlt (by decide)

/-- A text that was read is spelled between the quotes. -/
theorem spells_of_readOctets (h : readOctets (encodeChars cs) = .ok (os, r)) :
    ∃ raw text rest, Spells raw text ∧ cs = raw ++ '"' :: rest ∧ os = encodeChars text ∧ r = encodeChars rest := by
  -- An escape takes several characters at once.
  induction hn : cs.length using Nat.strongRecOn generalizing cs os r with
  | ind n ih =>
    cases cs with
    | nil =>
      rw [Utf8.encodeChars_nil, readOctets] at h
      cases h
    | cons c cs =>
      obtain rfl | rfl | hcontrol | hplain := text_char_cases c
      · rw [readOctets_quote] at h
        obtain ⟨rfl, rfl⟩ := Prod.mk.inj (Except.ok.inj h)
        exact ⟨[], [], cs, .nil, rfl, rfl, rfl⟩
      · rw [encodeChars_ascii (by decide), readOctets, if_neg (by decide), if_pos rfl] at h
        split at h
        · cases h
        · next os' s hescape =>
          obtain ⟨part, cs, c, hpart, rfl, rfl, rfl⟩ := spelling_of_readEscape hescape
          obtain ⟨⟨t, u⟩, hread, h⟩ := map_eq_ok.mp h
          have hlt : cs.length < n := by
            rw [← hn, List.length_cons, List.length_append]
            omega
          obtain ⟨raw, text, rest, hraw, rfl, rfl, rfl⟩ := ih cs.length hlt hread rfl
          obtain ⟨rfl, rfl⟩ := Prod.mk.inj h
          exact ⟨'\\' :: part ++ raw, c :: text, rest, .cons hpart hraw, by simp, rfl, rfl⟩
      · obtain ⟨hquote, hbackslash, hlt⟩ := control_octet hcontrol
        rw [encodeChars_ascii (by omega), readOctets, if_neg hquote, if_neg hbackslash, if_pos hlt] at h
        cases h
      · rw [Utf8.encodeChars_cons, readOctets_plain (isPlainOctet_of_isPlain hplain)] at h
        obtain ⟨⟨t, u⟩, hread, h⟩ := map_eq_ok.mp h
        obtain ⟨raw, text, rest, hraw, rfl, rfl, rfl⟩ := ih cs.length (by simp [← hn]) hread rfl
        obtain ⟨rfl, rfl⟩ := Prod.mk.inj h
        exact ⟨c :: raw, c :: text, rest, .cons (.plain hplain) hraw, rfl, rfl, rfl⟩

theorem spells_of_readText {t : String} (h : readText (encodeChars cs) = .ok (t, r)) :
    ∃ raw rest, Spells raw t.toList ∧ cs = raw ++ '"' :: rest ∧ r = encodeChars rest := by
  obtain ⟨⟨os, s⟩, hread, h⟩ := map_eq_ok.mp h
  obtain ⟨raw, text, rest, hraw, rfl, rfl, rfl⟩ := spells_of_readOctets hread
  obtain ⟨rfl, rfl⟩ := Prod.mk.inj h
  exact ⟨raw, rest, by rwa [Utf8.decodeLossy_encodeChars, String.toList_ofList], rfl, rfl⟩

end Texts

section Passing

variable {cs raw part : List Char} {r : Octets}

theorem part_of_skipEscape (h : skipEscape (encodeChars cs) = .ok r) :
    ∃ part rest, IsPart ('\\' :: part) ∧ cs = part ++ rest ∧ r = encodeChars rest := by
  generalize hs : encodeChars cs = s at h
  unfold skipEscape at h
  split at h
  · cases h
  · split at h
    · next hshort =>
      obtain ⟨o, ho⟩ := Option.isSome_iff_exists.mp hshort
      obtain ⟨e, rest, he, rfl, rfl⟩ := escape_table.cons_of_encodeChars ho hs
      obtain ⟨c, hc, rfl⟩ := Option.map_eq_some_iff.mp he
      exact ⟨[e], rest, .short hc, rfl, (Except.ok.inj h).symm⟩
    · split at h
      · next hu =>
        subst hu
        obtain ⟨ds, rfl, rfl⟩ := cons_of_encodeChars (a := 'u') (by decide) hs
        obtain ⟨⟨n, t⟩, hhex, rfl⟩ := map_eq_ok.mp h
        obtain ⟨es, rest, hes, rfl, rfl⟩ := code_of_readHex hhex
        exact ⟨'u' :: es, rest, .code hes, rfl, rfl⟩
      · cases h

theorem skipText_escape {s : Octets} (h : skipEscape (encodeChars cs) = .ok s) :
    skipText (encodeChars ('\\' :: cs)) = skipText s := by
  rw [encodeChars_ascii (by decide), skipText, if_neg (by decide), if_pos rfl]
  split
  · next herror => rw [h] at herror; cases herror
  · next hok =>
    rw [h] at hok
    cases hok
    rfl

theorem skipText_part (h : IsPart part) (cs : List Char) :
    skipText (encodeChars (part ++ cs)) = skipText (encodeChars cs) := by
  cases h with
  | plain hc => exact skipText_plain (isPlainOctet_of_isPlain hc) _
  | @short e c he =>
    obtain ⟨hascii, hsimple⟩ := simpleEscape?_of_shortEscape? he
    have hskip : skipEscape (encodeChars (e :: cs)) = .ok (encodeChars cs) := by
      rw [encodeChars_ascii hascii, skipEscape, hsimple]
      rfl
    exact skipText_escape hskip
  | @code ds n hds =>
    have hskip : skipEscape (encodeChars ('u' :: (ds ++ cs))) = .ok (encodeChars cs) := by
      rw [encodeChars_ascii (by decide), skipEscape, simpleEscape?_u, readHex_of_code hds]
      rfl
    exact skipText_escape hskip

theorem skipText_quote (rest : List Char) : skipText (encodeChars ('"' :: rest)) = .ok (encodeChars rest) := by
  rw [encodeChars_ascii (by decide), skipText, if_pos rfl]

theorem skipText_body (h : IsBody raw) (rest : List Char) :
    skipText (encodeChars (raw ++ '"' :: rest)) = .ok (encodeChars rest) := by
  induction h with
  | nil => exact skipText_quote rest
  | cons hpart _ ih => rw [List.append_assoc, skipText_part hpart, ih]

theorem body_of_skipText (h : skipText (encodeChars cs) = .ok r) :
    ∃ raw rest, IsBody raw ∧ cs = raw ++ '"' :: rest ∧ r = encodeChars rest := by
  induction hn : cs.length using Nat.strongRecOn generalizing cs r with
  | ind n ih =>
    cases cs with
    | nil =>
      rw [Utf8.encodeChars_nil, skipText] at h
      cases h
    | cons c cs =>
      obtain rfl | rfl | hcontrol | hplain := text_char_cases c
      · rw [skipText_quote] at h
        exact ⟨[], cs, .nil, rfl, (Except.ok.inj h).symm⟩
      · rw [encodeChars_ascii (by decide), skipText, if_neg (by decide), if_pos rfl] at h
        split at h
        · cases h
        · next s hescape =>
          obtain ⟨part, cs, hpart, rfl, rfl⟩ := part_of_skipEscape hescape
          have hlt : cs.length < n := by
            rw [← hn, List.length_cons, List.length_append]
            omega
          obtain ⟨raw, rest, hraw, rfl, rfl⟩ := ih cs.length hlt h rfl
          exact ⟨'\\' :: part ++ raw, rest, .cons hpart hraw, by simp, rfl⟩
      · obtain ⟨hquote, hbackslash, hlt⟩ := control_octet hcontrol
        rw [encodeChars_ascii (by omega), skipText, if_neg hquote, if_neg hbackslash, if_pos hlt] at h
        cases h
      · rw [Utf8.encodeChars_cons, skipText_plain (isPlainOctet_of_isPlain hplain)] at h
        obtain ⟨raw, rest, hraw, rfl, rfl⟩ := ih cs.length (by simp [← hn]) h rfl
        exact ⟨c :: raw, rest, .cons (.plain hplain) hraw, rfl, rfl⟩

end Passing

end RecursiveFactorial.Document
