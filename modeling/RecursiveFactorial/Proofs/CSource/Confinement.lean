import Mathlib.Data.List.Basic
import RecursiveFactorial.Proofs.C.Literal
import RecursiveFactorial.Proofs.CSource.Reading

/-!
# Settings stay inside their literals

A literal ends at its own closing quote, whatever its text holds and whatever octets follow it: each octet is written
as a character or an escape sequence that the next one cannot extend. All of it is printable ASCII. So the settings
decide what stands in two literals and one number of the emitted source, and no line but the three that hold these.
-/
namespace RecursiveFactorial.CSource

open Utf8 (encodeChars Printable)

section Literals

theorem isOctalDigit_octalDigit : ∀ n, C.isOctalDigit (octalDigit n).toUInt8 = true :=
  forall_octalDigit (P := fun _ c => C.isOctalDigit c.toUInt8 = true) (by decide)

theorem toNat_octalDigit : ∀ n, (octalDigit n).toUInt8.toNat - '0'.toNat = n % 8 :=
  forall_octalDigit (P := fun k c => c.toUInt8.toNat - '0'.toNat = k) (by decide)

theorem octalDigit_lt : ∀ n, (octalDigit n).toNat < 0x80 :=
  forall_octalDigit (P := fun _ c => c.toNat < 0x80) (by decide)

/-- The octets of the three digits. -/
def octalOctets (b : UInt8) : Octets :=
  [b.toNat / 64, b.toNat / 8, b.toNat].map fun n => (octalDigit n).toUInt8

theorem encodeChars_octalEscape (b : UInt8) : encodeChars (octalEscape b) = '\\'.toUInt8 :: octalOctets b := by
  rw [octalEscape, Utf8.encodeChars_ascii (by decide), Utf8.encodeChars_ascii (octalDigit_lt _),
    Utf8.encodeChars_ascii (octalDigit_lt _), Utf8.encodeChars_ascii (octalDigit_lt _)]
  rfl

theorem octalValue_octalOctets (b : UInt8) : C.octalValue (octalOctets b) = b.toNat := by
  have hlt := b.toNat_lt
  simp only [C.octalValue, octalOctets, List.map_cons, List.map_nil, List.foldl_cons, List.foldl_nil, toNat_octalDigit]
  omega

/-- The three digits stand for the octet, also before another digit. -/
theorem escape?_octalOctets (b : UInt8) (rest : Octets) : C.escape? (octalOctets b ++ rest) = some (b, 3) := by
  refine C.escape?_octal rfl (fun d hd => ?_) (octalValue_octalOctets b) rest
  obtain ⟨n, -, rfl⟩ := List.mem_map.mp hd
  exact isOctalDigit_octalDigit n

/-- What is written for an octet is read as that octet, and the reader is then at what follows. -/
theorem readQuoted?_literalOctet (b : UInt8) (rest : Octets) :
    C.readQuoted? (encodeChars (literalOctet b) ++ rest) = (C.readQuoted? rest).map (C.pushOctet b) := by
  have hletter (letter : Char) {b : UInt8} (h : C.letterEscape? letter.toUInt8 = some b) :
      C.readQuoted? ('\\'.toUInt8 :: letter.toUInt8 :: rest) = (C.readQuoted? rest).map (C.pushOctet b) :=
    C.readQuoted?_escape (C.escape?_letter h rest)
  unfold literalOctet
  split
  · subst b
    exact hletter '"' (by decide)
  split
  · subst b
    exact hletter '\\' (by decide)
  split
  · subst b
    exact hletter 'n' (by decide)
  split
  · subst b
    exact hletter 't' (by decide)
  split
  · subst b
    exact hletter 'r' (by decide)
  split
  · rename_i hquote hbackslash hnewline _ _ hprintable
    have hascii : b < 0x80 := UInt8.lt_of_le_of_lt hprintable.2 (by decide)
    rw [Utf8.encodeChars_ascii (Utf8.toNat_ofNat_lt hascii), Utf8.toUInt8_ofNat hascii]
    exact C.readQuoted?_plain hquote hnewline hbackslash rest
  · rw [encodeChars_octalEscape, List.cons_append, C.readQuoted?_escape (escape?_octalOctets b rest)]
    rfl

theorem readQuoted?_literalOctets (bs rest : Octets) :
    C.readQuoted? (encodeChars (bs.flatMap literalOctet) ++ '"'.toUInt8 :: rest) = some (bs, rest) := by
  induction bs with
  | nil => exact C.readQuoted?_quote rest
  | cons b bs ih =>
    rw [List.flatMap_cons, Utf8.encodeChars_append, List.append_assoc, readQuoted?_literalOctet, ih]
    rfl

theorem readLiteral?_literal (s : String) (rest : Octets) :
    C.readLiteral? (Utf8.encode (literal s) ++ rest) = some (Utf8.encode s, rest) := by
  have hoctets : Utf8.encode (literal s) ++ rest =
      '"'.toUInt8 :: (encodeChars ((Utf8.encode s).flatMap literalOctet) ++ '"'.toUInt8 :: rest) := by
    rw [literal, Utf8.encode_eq, String.toList_ofList, List.cons_append, Utf8.encodeChars_ascii (by decide),
      Utf8.encodeChars_append, List.cons_append, List.append_assoc]
    rfl
  rw [hoctets, C.readLiteral?, if_pos rfl, readQuoted?_literalOctets]

/-- In front of any octets, a literal is read to its end and no further, as the octets of its text. So no two texts
have the same literal. -/
theorem literal_self_delimiting :
    (∀ (s : String) (rest : Octets),
      C.readLiteral? (Utf8.encode (literal s) ++ rest) = some (Utf8.encode s, rest)) ∧
    Function.Injective literal := by
  refine ⟨readLiteral?_literal, fun s t h => ?_⟩
  have hread := readLiteral?_literal s []
  rw [h, readLiteral?_literal t []] at hread
  exact (Utf8.encode_injective (Prod.mk.inj (Option.some.inj hread)).1).symm

end Literals

section Decimals

/-- A decimal constant of C and its value. With a zero in front of them, digits would be octal. -/
inductive IsConstant : List Char → Nat → Prop
  | zero : IsConstant ['0'] 0
  | digits {c : Char} {ds : List Char} : c.isDigit = true → c ≠ '0' → (∀ d ∈ ds, d.isDigit = true) →
    IsConstant (c :: ds) (Nat.ofDigitChars 10 (c :: ds) 0)

/-- A decimal constant, with a sign in front of it for an integer below zero. -/
inductive IsDecimal : List Char → Int → Prop
  | plain {w : List Char} {n : Nat} : IsConstant w n → IsDecimal w n
  | negative {w : List Char} {n : Nat} : IsConstant w n → n ≠ 0 → IsDecimal ('-' :: w) (-n)

theorem head?_toDigits_ne {n : Nat} (hn : n ≠ 0) : (Nat.toDigits 10 n).head? ≠ some '0' := by
  induction n using Nat.strongRecOn with
  | ind n ih =>
    by_cases hlt : n < 10
    · have hall : ∀ k : Fin 10, k.val ≠ 0 → [Nat.digitChar k].head? ≠ some '0' := by decide
      rw [Nat.toDigits_of_lt_base hlt]
      exact hall ⟨n, hlt⟩ hn
    · rw [Nat.toDigits_of_base_le (by decide) (by omega), List.head?_append_of_ne_nil _ Nat.toDigits_ne_nil]
      exact ih (n / 10) (by omega) (by omega)

theorem isConstant_toDigits (n : Nat) : IsConstant (Nat.toDigits 10 n) n := by
  by_cases hn : n = 0
  · subst hn
    exact .zero
  · obtain ⟨c, ds, hcs⟩ := List.exists_cons_of_ne_nil (Nat.toDigits_ne_nil (n := n) (b := 10))
    have hvalue : Nat.ofDigitChars 10 (Nat.toDigits 10 n) 0 = n := Nat.ofDigitChars_toDigits (by decide) (by decide)
    have hdigits : ∀ d ∈ Nat.toDigits 10 n, d.isDigit = true := fun d hd =>
      Nat.isDigit_of_mem_toDigits (by decide) (by decide) hd
    have hhead := head?_toDigits_ne hn
    rw [hcs] at hvalue hdigits hhead ⊢
    have hc : c ≠ '0' := fun h => hhead (congrArg some h)
    have hconstant := IsConstant.digits (hdigits c List.mem_cons_self) hc fun d hd =>
      hdigits d (List.mem_cons_of_mem c hd)
    rwa [hvalue] at hconstant

theorem isDecimal_decimal (n : Int) : IsDecimal (Number.decimal n).toList n := by
  cases n with
  | ofNat k => simpa [Number.decimal] using IsDecimal.plain (isConstant_toDigits k)
  | negSucc k =>
    have h := IsDecimal.negative (isConstant_toDigits (k + 1)) (by omega)
    simpa [Number.decimal, Int.negSucc_eq] using h

end Decimals

section Lines

/-- The lines of a text. What follows the last newline is a line as well. -/
def textLines (text : String) : List String :=
  (text.toList.splitOn '\n').map String.ofList

theorem textLines_lineChars {texts : List String} (h : ∀ t ∈ texts, Printable t) :
    textLines (String.ofList (lineChars texts)) = texts ++ [""] := by
  unfold textLines
  rw [String.toList_ofList]
  induction texts with
  | nil => rfl
  | cons t texts ih =>
    have hline : ∀ c ∈ t.toList, (c == '\n') = false := by
      intro c hc
      rw [beq_eq_false_iff_ne]
      rintro rfl
      exact (h t List.mem_cons_self).newline_not_mem hc
    have hrest := ih fun u hu => h u (List.mem_cons_of_mem t hu)
    rw [lineChars_cons, List.splitOn, List.splitOnP_append_cons_of_forall_mem hline '\n' rfl, List.map_cons,
      String.ofList_toList, List.cons_append, ← hrest]
    rfl

/-- The place of the line that prints the banner. -/
def bannerRow : Nat := 75

/-- The place of the line that sets the global variable. -/
def valueRow : Nat := 76

/-- The place of the line that prints the result. -/
def labelRow : Nat := 78

theorem programLines_eq_append (s : Settings) :
    programLines (.ofSettings s) =
      (fixedLines ++ mainOpening) ++
        ([bannerLine s, valueLine s, "    t7 = fatorial(valor);", labelLine s] ++ mainClosing) := by
  rw [programLines_ofSettings, mainLines_mainBody, List.append_assoc, List.append_assoc]

theorem length_before : (fixedLines ++ mainOpening).length = bannerRow := by decide

/-- The lines for any settings are those for the default ones with three of them replaced. -/
theorem programLines_eq_set (s : Settings) (rest : List String) :
    programLines (.ofSettings s) ++ rest =
      (((programLines (.ofSettings {}) ++ rest).set bannerRow (bannerLine s)).set valueRow (valueLine s)).set labelRow
        (labelLine s) := by
  have hbefore := length_before
  rw [programLines_eq_append s, programLines_eq_append {}]
  generalize fixedLines ++ mainOpening = before at hbefore
  simp [hbefore, bannerRow, valueRow, labelRow]

theorem printable_programLines (s : Settings) : ∀ t ∈ programLines (.ofSettings s), Printable t := by
  have hfixed : ∀ t ∈ mainOpening ++ mainClosing, Printable t := by decide +kernel
  have hline {head text tail : String} (hhead : Printable head) (htext : Printable text) (htail : Printable tail) :
      Printable (head ++ text ++ tail) :=
    (hhead.append htext).append htail
  intro t ht
  rw [programLines_eq_append] at ht
  simp only [List.mem_append, List.mem_cons, List.not_mem_nil, or_false] at ht
  obtain (ht | ht) | (rfl | rfl | rfl | rfl) | ht := ht
  · exact printable_fixedLines t ht
  · exact hfixed t (List.mem_append_left _ ht)
  · exact hline (by decide) (printable_literal s.banner) (by decide)
  · exact hline (by decide) (printable_decimal s.value.toInt) (by decide)
  · decide
  · exact hline (by decide) (printable_literal s.label) (by decide)
  · exact hfixed t (List.mem_append_right _ ht)

theorem lineOctets_printable {texts : List String} (h : ∀ t ∈ texts, Printable t) :
    ∀ b ∈ lineOctets texts, b = '\n'.toUInt8 ∨ 0x20 ≤ b ∧ b ≤ 0x7e := by
  intro b hb
  obtain ⟨t, ht, hb⟩ := List.mem_flatMap.mp hb
  obtain hb | hb := List.mem_append.mp hb
  · exact .inr (h t ht b hb)
  · exact .inl (List.mem_singleton.mp hb)

/-- The source for some settings has the lines of their program, and ends with a newline. -/
theorem exists_ofSettings_eq (s : Settings) :
    ∃ text, ofSettings s = .ok text ∧ Utf8.encode text = lineOctets (programLines (.ofSettings s)) ∧
      textLines text = programLines (.ofSettings s) ++ [""] :=
  ⟨_, ofSettings_eq s, encode_lineChars _, textLines_lineChars (printable_programLines s)⟩

end Lines

/-- The text is one literal of C, whatever follows it, and the literal stands for the octets. -/
def IsLiteral (text : String) (octets : Octets) : Prop :=
  ∀ rest, C.readLiteral? (Utf8.encode text ++ rest) = some (octets, rest)

/-- What the settings may change in their source, compared with the source for the default settings. -/
structure Confined (s : Settings) (text plain : String) : Prop where
  octets : ∀ b ∈ Utf8.encode text, b = '\n'.toUInt8 ∨ 0x20 ≤ b ∧ b ≤ 0x7e
  length : (textLines text).length = (textLines plain).length
  fixed : ∀ row, row ≠ bannerRow → row ≠ valueRow → row ≠ labelRow →
    (textLines text)[row]? = (textLines plain)[row]?
  banner : ∃ quoted, (textLines text)[bannerRow]? = some ("    printf(\"%s\\n\", " ++ quoted ++ ");") ∧
    IsLiteral quoted (Utf8.encode s.banner)
  value : ∃ digits, (textLines text)[valueRow]? = some ("    valor = " ++ digits ++ ";") ∧
    IsDecimal digits.toList s.value.toInt
  label : ∃ quoted, (textLines text)[labelRow]? = some ("    printf(\"%s %d\\n\", " ++ quoted ++ ", t7);") ∧
    IsLiteral quoted (Utf8.encode s.label)

/-- Replacing three lines confines the settings, since of each new line only the literal or the number is theirs. -/
theorem confined_of_set {s : Settings} {text plain : String}
    (hoctets : ∀ b ∈ Utf8.encode text, b = '\n'.toUInt8 ∨ 0x20 ≤ b ∧ b ≤ 0x7e)
    (hset : textLines text =
      (((textLines plain).set bannerRow (bannerLine s)).set valueRow (valueLine s)).set labelRow (labelLine s))
    (hlength : labelRow < (textLines plain).length) : Confined s text plain := by
  have hrow {row : Nat} (h : row ≤ labelRow) : row < (textLines plain).length := Nat.lt_of_le_of_lt h hlength
  have hbanner : (textLines text)[bannerRow]? = some (bannerLine s) := by
    rw [hset, List.getElem?_set_ne (show labelRow ≠ bannerRow by decide),
      List.getElem?_set_ne (show valueRow ≠ bannerRow by decide), List.getElem?_set_self (hrow (by decide))]
  have hvalue : (textLines text)[valueRow]? = some (valueLine s) := by
    rw [hset, List.getElem?_set_ne (show labelRow ≠ valueRow by decide), List.getElem?_set_self]
    simpa using hrow (by decide)
  have hlabel : (textLines text)[labelRow]? = some (labelLine s) := by
    rw [hset, List.getElem?_set_self]
    simpa using hlength
  constructor
  case octets => exact hoctets
  case length => simp [hset]
  case fixed =>
    intro row hb hv hl
    rw [hset, List.getElem?_set_ne hl.symm, List.getElem?_set_ne hv.symm, List.getElem?_set_ne hb.symm]
  case banner => exact ⟨literal s.banner, hbanner, readLiteral?_literal s.banner⟩
  case value => exact ⟨Number.decimal s.value.toInt, hvalue, isDecimal_decimal s.value.toInt⟩
  case label => exact ⟨literal s.label, hlabel, readLiteral?_literal s.label⟩

/-- Settings cannot bring code into their source. It is a text of printable lines for all settings, and three of the
lines hold a literal or a number that depends on them. Nothing depends on the prompt and the mode. -/
theorem ofSettings_confined (s : Settings) :
    ∃ text plain, ofSettings s = .ok text ∧ ofSettings {} = .ok plain ∧ Confined s text plain ∧
      ∀ prompt mode, ofSettings { s with prompt := prompt, mode := mode } = .ok text := by
  obtain ⟨text, htext, hoctets, hlines⟩ := exists_ofSettings_eq s
  obtain ⟨plain, hplain, -, hplainLines⟩ := exists_ofSettings_eq {}
  have hprintable : ∀ b ∈ Utf8.encode text, b = '\n'.toUInt8 ∨ 0x20 ≤ b ∧ b ≤ 0x7e := by
    rw [hoctets]
    exact lineOctets_printable (printable_programLines s)
  have hset : textLines text =
      (((textLines plain).set bannerRow (bannerLine s)).set valueRow (valueLine s)).set labelRow (labelLine s) := by
    rw [hlines, hplainLines, programLines_eq_set]
  have hlength : labelRow < (textLines plain).length := by
    rw [hplainLines, programLines_eq_append, List.append_assoc, List.length_append, length_before]
    decide
  -- The prompt and the mode do not reach the program.
  exact ⟨text, plain, htext, hplain, confined_of_set hprintable hset hlength, fun prompt mode => htext⟩

end RecursiveFactorial.CSource
