import RecursiveFactorial.Proofs.CSource.Emitted

/-!
# Reading the emitted text

A literal is read back as the octets of its text, whatever they are, and a number as itself. Lines that hold no newline
and do not end in a backslash are not joined. So the text for any settings is read as the emitted program.
-/
namespace RecursiveFactorial.CSource

open ThreeAddress (mainBody globalName)
open Utf8 (Printable printable_of_chars)
open C (Token Feeds lexStep directiveStep outlineStep splice)

section Splicing

theorem splice_cons {c : Char} {cs : List Char} (h : c ≠ '\\' ∨ cs.head? ≠ some '\n') :
    splice (c :: cs) = c :: splice cs := by
  rw [splice]
  rintro cs' rfl rfl
  simp at h

/-- Nothing is joined across a newline that stays. -/
theorem splice_newline_append (cs ds : List Char) :
    splice (cs ++ '\n' :: ds) = splice (cs ++ ['\n']) ++ splice ds := by
  fun_induction splice cs with
  | case1 cs ih => simpa [splice] using ih
  | case2 c cs hjoin ih =>
    cases cs with
    | nil =>
      by_cases hc : c = '\\'
      · subst hc
        rfl
      · simp [splice_cons (.inl hc), splice_cons (c := '\n') (.inl (by decide)), splice]
    | cons d cs =>
      have hstay : c ≠ '\\' ∨ d ≠ '\n' := by
        by_cases hc : c = '\\'
        · right
          rintro rfl
          exact hjoin cs hc rfl
        · exact .inl hc
      have hcons (es : List Char) : splice (c :: d :: cs ++ es) = c :: splice (d :: cs ++ es) :=
        splice_cons (by simpa using hstay)
      rw [hcons, hcons, ih]
      rfl
  | case3 => simp [splice_cons (c := '\n') (.inl (by decide)), splice]

/-- A line that the next one is not joined to. -/
def Whole (t : String) : Prop :=
  '\n' ∉ t.toList ∧ t.toList.getLast? ≠ some '\\'

instance Whole.decidable (t : String) : Decidable (Whole t) :=
  inferInstanceAs (Decidable (_ ∧ _))

/-- The end of a line decides whether the next one is joined to it. -/
theorem Whole.append {t u : String} (ht : '\n' ∉ t.toList) (hu : Whole u) (hne : u.toList ≠ []) : Whole (t ++ u) := by
  obtain ⟨c, hc⟩ := Option.isSome_iff_exists.1 (List.getLast?_isSome.2 hne)
  have hlast : c ≠ '\\' := fun h => hu.2 (h ▸ hc)
  exact ⟨by simp [ht, hu.1], by simp [List.getLast?_append, hc, hlast]⟩

theorem splice_line {t : List Char} (hnewline : '\n' ∉ t) (hlast : t.getLast? ≠ some '\\') (rest : List Char) :
    splice (t ++ '\n' :: rest) = t ++ '\n' :: splice rest := by
  induction t with
  | nil => exact splice_cons (.inl (by decide))
  | cons c t ih =>
    have hhead : c ≠ '\\' ∨ (t ++ '\n' :: rest).head? ≠ some '\n' := by
      cases t with
      | nil => exact .inl (by simpa using hlast)
      | cons d t =>
        right
        rintro h
        simp_all
    have htail : splice (t ++ '\n' :: rest) = t ++ '\n' :: splice rest := by
      apply ih (fun h => hnewline (List.mem_cons_of_mem c h))
      cases t with
      | nil => simp
      | cons d t => simpa using hlast
    rw [List.cons_append, splice_cons hhead, htail, List.cons_append]

theorem splice_lineChars {ts : List String} (h : ∀ t ∈ ts, Whole t) : splice (lineChars ts) = lineChars ts := by
  induction ts with
  | nil => rfl
  | cons t ts ih =>
    have ht := h t List.mem_cons_self
    have hts := ih fun u hu => h u (List.mem_cons_of_mem t hu)
    simp only [lineChars, List.flatMap_cons, List.append_assoc, List.singleton_append] at hts ⊢
    rw [splice_line ht.1 ht.2, hts]

theorem splice_lineChars_append (ts us : List String) :
    splice (lineChars (ts ++ us)) = splice (lineChars ts) ++ splice (lineChars us) := by
  induction ts with
  | nil => rfl
  | cons t ts ih =>
    rw [List.cons_append, lineChars_cons, lineChars_cons, splice_newline_append,
      splice_newline_append _ (lineChars ts), ih, List.append_assoc]

end Splicing

section Literals

/-- What holds of the eight digits holds of the last digit of any number. -/
theorem forall_octalDigit {P : Nat → Char → Prop} (h : ∀ k : Fin 8, P k (octalDigit k)) (n : Nat) :
    P (n % 8) (octalDigit n) := by
  simpa [octalDigit] using h ⟨n % 8, Nat.mod_lt n (by decide)⟩

theorem digit_octalDigit : ∀ n, C.digit? 8 (octalDigit n) = some (n % 8) :=
  forall_octalDigit (P := fun k c => C.digit? 8 c = some k) (by decide)

theorem simpleEscape_octalDigit : ∀ n, C.simpleEscape? (octalDigit n) = none :=
  forall_octalDigit (P := fun _ c => C.simpleEscape? c = none) (by decide)

theorem toUInt8_ofNat_toNat : ∀ b : UInt8, (Char.ofNat b.toNat).toUInt8 = b :=
  Utf8.forall_octet (by decide +kernel)

theorem utf8EncodeChar_ascii : ∀ b : UInt8, b < 0x80 → String.utf8EncodeChar (Char.ofNat b.toNat) = [b] :=
  Utf8.forall_octet (by decide +kernel)

/-- An octet outside the printable ones is read from its three octal digits. -/
theorem feeds_octalEscape (octets : Octets) (b : UInt8) :
    Feeds lexStep (.quoted '"' octets .plain) (octalEscape b) (.quoted '"' (octets ++ [b]) .plain) [] := by
  have hvalue : 8 * (8 * (b.toNat / 64 % 8) + b.toNat / 8 % 8) + b.toNat % 8 = b.toNat := by
    have hlt := b.toNat_lt
    omega
  have hbackslash : lexStep (.quoted '"' octets .plain) '\\' = some (.quoted '"' octets .started, []) := rfl
  have hfirst : lexStep (.quoted '"' octets .started) (octalDigit (b.toNat / 64)) =
      some (.quoted '"' octets (.octal (b.toNat / 64 % 8) 1), []) := by
    simp [lexStep, C.quotedStep, C.escapeStep, simpleEscape_octalDigit, digit_octalDigit]
  have hsecond : lexStep (.quoted '"' octets (.octal (b.toNat / 64 % 8) 1)) (octalDigit (b.toNat / 8)) =
      some (.quoted '"' octets (.octal (8 * (b.toNat / 64 % 8) + b.toNat / 8 % 8) 2), []) := by
    simp [lexStep, C.quotedStep, digit_octalDigit]
  have hthird :
      lexStep (.quoted '"' octets (.octal (8 * (b.toNat / 64 % 8) + b.toNat / 8 % 8) 2)) (octalDigit b.toNat) =
        some (.quoted '"' (octets ++ [b]) .plain, []) := by
    simp [lexStep, C.quotedStep, digit_octalDigit, hvalue, C.escaped?, b.toNat_lt]
  exact .cons hbackslash (.cons hfirst (.cons hsecond (.single hthird)))

/-- One octet of a literal is read as that octet. -/
theorem feeds_literalOctet (octets : Octets) (b : UInt8) :
    Feeds lexStep (.quoted '"' octets .plain) (literalOctet b) (.quoted '"' (octets ++ [b]) .plain) [] := by
  have hne {c : Char} (h : b ≠ c.toUInt8) : Char.ofNat b.toNat ≠ c := fun hc => h (by rw [← hc, toUInt8_ofNat_toNat])
  unfold literalOctet
  split
  · subst b
    rfl
  split
  · subst b
    rfl
  split
  · subst b
    rfl
  split
  · subst b
    rfl
  split
  · subst b
    rfl
  split
  · rename_i hquote hbackslash hnewline _ _ hprintable
    have hascii : b < 0x80 := UInt8.lt_of_le_of_lt hprintable.2 (by decide)
    apply Feeds.single
    simp [lexStep, C.quotedStep, C.plainStep, hne hquote, hne hbackslash, hne hnewline, utf8EncodeChar_ascii b hascii]
  · exact feeds_octalEscape octets b

theorem feeds_literalOctets (octets bs : Octets) :
    Feeds lexStep (.quoted '"' octets .plain) (bs.flatMap literalOctet) (.quoted '"' (octets ++ bs) .plain) [] := by
  induction bs generalizing octets with
  | nil => simpa using Feeds.nil
  | cons b bs ih =>
    have hbs := ih (octets ++ [b])
    rw [List.append_assoc, List.singleton_append] at hbs
    exact (feeds_literalOctet octets b).append hbs

/-- A literal is read as the octets of its text. -/
theorem feeds_literal (text : String) :
    Feeds lexStep .blank (literal text).toList .blank [.text (Utf8.encode text)] := by
  have hbody := feeds_literalOctets [] (Utf8.encode text)
  have hopen : lexStep .blank '"' = some (.quoted '"' [] .plain, []) := rfl
  have hclose : lexStep (.quoted '"' (Utf8.encode text) .plain) '"' = some (.blank, [.text (Utf8.encode text)]) := rfl
  rw [literal, String.toList_ofList, List.cons_append]
  exact .cons hopen (hbody.append (.single hclose))

theorem literalOctet_printable :
    ∀ b : UInt8, (literalOctet b).all (fun c => 0x20 ≤ c.toNat && c.toNat ≤ 0x7e) = true :=
  Utf8.forall_octet (by decide +kernel)

theorem printable_literal (s : String) : Printable (literal s) := by
  apply printable_of_chars
  intro c hc
  simp only [literal, String.toList_ofList, List.cons_append, List.mem_cons, List.mem_append, List.mem_flatMap,
    List.not_mem_nil, or_false] at hc
  obtain rfl | ⟨b, -, hc⟩ | rfl := hc
  · decide
  · simpa using List.all_eq_true.mp (literalOctet_printable b) c hc
  · decide

end Literals

section Numbers

/-- The digits of a number are read as that number, after any character that a digit does not continue. -/
theorem feeds_digits {mode : C.Mode} {out : List Token}
    (hstart : ∀ k : Fin 10, lexStep mode (Nat.digitChar k) = some (.number k, out)) (n : Nat) :
    Feeds lexStep mode (Nat.toDigits 10 n) (.number n) out := by
  induction n using Nat.strongRecOn with
  | ind n ih =>
    by_cases hn : n < 10
    · rw [Nat.toDigits_of_lt_base hn]
      exact .single (hstart ⟨n, hn⟩)
    · have hlast : n % 10 < 10 := Nat.mod_lt n (by decide)
      have hvalue : (n % 10).digitChar.toNat - 48 = n % 10 := Nat.toNat_digitChar_sub_48_of_lt_ten hlast
      have hne : n / 10 ≠ 0 := by omega
      have hstep : lexStep (.number (n / 10)) (n % 10).digitChar = some (.number n, []) := by
        simp [lexStep, hlast, hne, hvalue, Nat.div_add_mod]
      rw [Nat.toDigits_of_base_le (by decide) (by omega)]
      simpa using (ih (n / 10) (by omega)).append (.single hstep)

/-- A value as an operand of an assignment. -/
def valueTokens (n : Int) : List Token :=
  if n < 0 then [.punct .minus, .number n.natAbs] else [.number n.natAbs]

/-- The decimal text of a number is read as that number, with a unary minus if it is negative, up to a character that
ends it. -/
theorem feeds_value_until {c : Char} (hend : ∀ k, lexStep (.number k) c = some (.punct c, [.number k])) (n : Int) :
    Feeds lexStep .blank ((Number.decimal n).toList ++ [c]) (.punct c) (valueTokens n) := by
  cases n with
  | ofNat k =>
    have hdigits : Feeds lexStep .blank (Nat.toDigits 10 k) (.number k) [] := feeds_digits (by decide) k
    have hsign : ¬ ((k : Int) < 0) := by omega
    simpa [Number.decimal, valueTokens, hsign] using hdigits.append (.single (hend k))
  | negSucc k =>
    have hminus : lexStep .blank '-' = some (.punct '-', []) := rfl
    have hdigits : Feeds lexStep (.punct '-') (Nat.toDigits 10 (k + 1)) (.number (k + 1)) [.punct .minus] :=
      feeds_digits (by decide) (k + 1)
    simpa [Number.decimal, valueTokens, Int.negSucc_lt_zero] using
      Feeds.cons hminus (hdigits.append (.single (hend (k + 1))))

theorem feeds_value (n : Int) :
    Feeds lexStep .blank ((Number.decimal n).toList ++ [';']) (.punct ';') (valueTokens n) :=
  feeds_value_until (fun _ => rfl) n

theorem printable_decimal (n : Int) : Printable (Number.decimal n) := by
  have hdigits {k : Nat} {c : Char} (hc : c ∈ Nat.toDigits 10 k) : 0x20 ≤ c.toNat ∧ c.toNat ≤ 0x7e := by
    have hdigit := Nat.isDigit_of_mem_toDigits (by decide) (by decide) hc
    have hnat : 48 ≤ c.toNat ∧ c.toNat ≤ 57 := by simpa [Char.isDigit, UInt32.le_iff_toNat_le] using hdigit
    omega
  apply printable_of_chars
  intro c hc
  cases n with
  | ofNat k => exact hdigits (by simpa [Number.decimal] using hc)
  | negSucc k =>
    simp only [Number.decimal, String.toList_ofList, List.mem_cons] at hc
    obtain rfl | hc := hc
    · decide
    · exact hdigits hc

end Numbers

section Main

def mainOpening : List String :=
  ["int main() \x7b", "    // Temporary variables", "    int t6 = 0;", "    int t7 = 0;", "    int t8 = 0;", ""]

def mainClosing : List String :=
  ["", "    return 0;", "\x7d"]

/-- The line that prints the banner. -/
def bannerLine (s : Settings) : String :=
  "    printf(\"%s\\n\", " ++ literal s.banner ++ ");"

/-- The line that sets the global variable. -/
def valueLine (s : Settings) : String :=
  "    valor = " ++ Number.decimal s.value.toInt ++ ";"

/-- The line that prints the result. -/
def labelLine (s : Settings) : String :=
  "    printf(\"%s %d\\n\", " ++ literal s.label ++ ", t7);"

section

variable (s : Settings)

theorem instrLine_banner : instrLine 1 (.call "print" [.str s.banner] (some 6)) = bannerLine s := by
  have hhead : "    " ++ "printf(\"" ++ "%s" ++ "\\n\", " = "    printf(\"%s\\n\", " := by decide
  unfold bannerLine
  change "    " ++ ("printf(\"" ++ "%s" ++ "\\n\", " ++ literal s.banner ++ ");") = _
  simp only [← String.append_assoc, hhead]

theorem instrLine_value : instrLine 1 (.assign globalName (.int s.value)) = valueLine s := by
  have hhead : "    " ++ "valor" ++ " = " = "    valor = " := by decide
  unfold valueLine
  change "    " ++ ("valor" ++ " = " ++ Number.decimal s.value.toInt ++ ";") = _
  simp only [← String.append_assoc, hhead]

theorem instrLine_label : instrLine 1 (.call "print" [.str s.label, .temp 7] (some 8)) = labelLine s := by
  have hhead : "    " ++ "printf(\"" ++ "%s %d" ++ "\\n\", " = "    printf(\"%s %d\\n\", " := by decide
  have htail : ", " ++ ("t7" ++ ");") = ", t7);" := by decide
  unfold labelLine
  change "    " ++ ("printf(\"" ++ "%s %d" ++ "\\n\", " ++ (literal s.label ++ ", " ++ "t7") ++ ");") = _
  simp only [← hhead, String.append_assoc, htail]

theorem mainLines_mainBody :
    mainLines (mainBody s) =
      mainOpening ++ [bannerLine s, valueLine s, "    t7 = fatorial(valor);", labelLine s] ++ mainClosing := by
  have htemps : tempLines 1 (ThreeAddress.assignedTemps (mainBody s)) = mainOpening.tail := by
    change tempLines 1 [6, 7, 8] = _
    decide
  have hcall : instrLine 1 (.call "fatorial" [.var globalName] (some 7)) = "    t7 = fatorial(valor);" := by decide
  change "int main() \x7b" :: (tempLines 1 (ThreeAddress.assignedTemps (mainBody s)) ++
    [instrLine 1 (.call "print" [.str s.banner] (some 6)), instrLine 1 (.assign globalName (.int s.value)),
      instrLine 1 (.call "fatorial" [.var globalName] (some 7)),
      instrLine 1 (.call "print" [.str s.label, .temp 7] (some 8))] ++ []) ++ ["", indented 1 "return 0;", "\x7d"] = _
  rw [instrLine_banner, instrLine_value, instrLine_label, htemps, hcall]
  rfl

end

/-- The tokens through the opening brace. -/
def headTokens : List Token :=
  [.key .int, .word "main", .punct .openParen, .punct .closeParen, .punct .openBrace]

/-- The tokens between the opening brace and the banner. -/
def openingTokens : List Token :=
  .newline :: .newline ::
    ["t6", "t7", "t8"].flatMap
      (fun x => [.key .int, .word x, .punct .assign, .number 0, .punct .semicolon, .newline]) ++
    [.newline, .word "printf", .punct .openParen, .text [37, 115, 10], .punct .comma]

/-- The tokens between the banner and the value. -/
def assignTokens : List Token :=
  [.punct .closeParen, .punct .semicolon, .newline, .word "valor", .punct .assign]

/-- The tokens between the value and the label. -/
def callTokens : List Token :=
  [ .punct .semicolon, .newline, .word "t7", .punct .assign, .word "fatorial", .punct .openParen, .word "valor",
    .punct .closeParen, .punct .semicolon, .newline, .word "printf", .punct .openParen,
    .text [37, 115, 32, 37, 100, 10], .punct .comma ]

/-- The tokens between the label and the closing brace. -/
def closingTokens : List Token :=
  [ .punct .comma, .word "t7", .punct .closeParen, .punct .semicolon, .newline, .newline, .key .ret, .number 0,
    .punct .semicolon, .newline ]

/-- The tokens between the braces. -/
def innerTokens (s : Settings) : List Token :=
  openingTokens ++ .text (Utf8.encode s.banner) :: assignTokens ++ valueTokens s.value.toInt ++ callTokens ++
    .text (Utf8.encode s.label) :: closingTokens

def mainTokens (s : Settings) : List Token :=
  headTokens ++ innerTokens s ++ [.punct .closeBrace, .newline]

theorem feeds_mainLines (s : Settings) :
    Feeds lexStep .blank (lineChars (mainLines (mainBody s))) .blank (mainTokens s) := by
  have hopening : Feeds lexStep .blank (lineChars mainOpening ++ "    printf(\"%s\\n\", ".toList) .blank
      (headTokens ++ openingTokens) := by decide +kernel
  have hassign : Feeds lexStep .blank (");".toList ++ '\n' :: "    valor = ".toList) .blank assignTokens := by
    decide +kernel
  have hcall : Feeds lexStep (.punct ';') ('\n' :: "    t7 = fatorial(valor);".toList ++
      '\n' :: "    printf(\"%s %d\\n\", ".toList) .blank callTokens := by decide +kernel
  have hclosing : Feeds lexStep .blank (", t7);".toList ++ '\n' :: lineChars mainClosing) .blank
      (closingTokens ++ [.punct .closeBrace, .newline]) := by decide +kernel
  have h := (((((hopening.append (feeds_literal s.banner)).append hassign).append
    (feeds_value s.value.toInt)).append hcall).append (feeds_literal s.label)).append hclosing
  have hend : ";".toList = [';'] := by decide
  rw [mainLines_mainBody]
  unfold bannerLine valueLine labelLine
  simp only [lineChars_append, lineChars_cons, String.toList_append, List.append_assoc, List.cons_append,
    List.nil_append, hend, mainTokens, innerTokens] at h ⊢
  exact h

theorem valueTokens_cases (n : Int) :
    n < 0 ∧ valueTokens n = [.punct .minus, .number n.natAbs] ∨ ¬ n < 0 ∧ valueTokens n = [.number n.natAbs] := by
  unfold valueTokens
  split
  · rename_i h
    exact .inl ⟨h, rfl⟩
  · rename_i h
    exact .inr ⟨h, rfl⟩

/-- The tokens between the braces without the ends of their lines. -/
def innerCode (s : Settings) : List Token :=
  (innerTokens s).filter (· ≠ .newline)

def mainCode (s : Settings) : List Token :=
  headTokens ++ innerCode s ++ [.punct .closeBrace]

set_option maxRecDepth 2000 in
theorem feeds_mainTokens (s : Settings) :
    Feeds directiveStep fixedMacros (mainTokens s) fixedMacros (mainCode s) := by
  unfold mainCode innerCode mainTokens innerTokens
  obtain ⟨-, h⟩ | ⟨-, h⟩ := valueTokens_cases s.value.toInt
  · rw [h]
    rfl
  · rw [h]
    rfl

theorem feeds_mainCode (s : Settings) : Feeds outlineStep {} (mainCode s) {} [mainCode s] := by
  have hbraces : (innerCode s).any Token.isBrace = false := by
    unfold innerCode innerTokens
    obtain ⟨-, h⟩ | ⟨-, h⟩ := valueTokens_cases s.value.toInt
    · rw [h]
      rfl
    · rw [h]
      rfl
  have hhead : Feeds outlineStep {} headTokens ⟨1, headTokens⟩ [] := rfl
  have hclose : outlineStep ⟨1, headTokens ++ innerCode s⟩ (.punct .closeBrace) = some ({}, [mainCode s]) := rfl
  exact (hhead.append (C.feeds_inside 0 headTokens hbraces)).append (.single hclose)

theorem item_mainCode (s : Settings) : C.item? (mainCode s) = some (.function (mainFunction s)) := by
  unfold mainCode innerCode innerTokens mainFunction mainBlock
  obtain ⟨hn, h⟩ | ⟨hn, h⟩ := valueTokens_cases s.value.toInt
  · rw [h, if_pos hn]
    rfl
  · rw [h, if_neg hn]
    rfl

/-- No line of `main` is joined to the next one. -/
theorem whole_mainLines (s : Settings) : ∀ t ∈ mainLines (mainBody s), Whole t := by
  have hfixed : ∀ t ∈ mainOpening ++ mainClosing, Whole t := by decide +kernel
  have hline {text : String} (hsymbolic : '\n' ∉ text.toList) {head tail : String} (hhead : '\n' ∉ head.toList)
      (htail : Whole tail) (hne : tail.toList ≠ []) : Whole (head ++ text ++ tail) :=
    .append (by simp [hhead, hsymbolic]) htail hne
  have hbanner := (printable_literal s.banner).newline_not_mem
  have hvalue := (printable_decimal s.value.toInt).newline_not_mem
  have hlabel := (printable_literal s.label).newline_not_mem
  intro t ht
  rw [mainLines_mainBody] at ht
  simp only [List.mem_append, List.mem_cons, List.not_mem_nil, or_false] at ht
  rcases ht with (ht | rfl | rfl | rfl | rfl) | ht
  · exact hfixed t (by simp [ht])
  · exact hline hbanner (by decide) (by decide) (by decide)
  · exact hline hvalue (by decide) (by decide) (by decide)
  · decide
  · exact hline hlabel (by decide) (by decide) (by decide)
  · exact hfixed t (by simp [ht])

theorem programLines_ofSettings (s : Settings) :
    programLines (.ofSettings s) = fixedLines ++ mainLines (mainBody s) := by
  simp [programLines, ThreeAddress.Program.ofSettings, fixedLines, declarationLines]

/-- The text for any settings is read as the emitted program. -/
theorem read_programLines (s : Settings) :
    C.read? (lineChars (programLines (.ofSettings s))) = some (emitted s) := by
  have hfixed := phases_fixedLines
  simp only [phases?, Option.bind_eq_bind, Option.bind_eq_some_iff, Option.some.injEq, Prod.mk.injEq] at hfixed
  obtain ⟨⟨mode, ts⟩, hlex, ⟨d, us⟩, hdirectives, ⟨o, items⟩, houtline, p, hitems, rfl, rfl, rfl, rfl⟩ := hfixed
  have hlex' := Feeds.append hlex (feeds_mainLines s)
  have hdirectives' := Feeds.append hdirectives (feeds_mainTokens s)
  have houtline' := Feeds.append houtline (feeds_mainCode s)
  rw [← splice_lineChars (whole_mainLines s), ← splice_lineChars_append] at hlex'
  unfold Feeds at hlex' hdirectives' houtline'
  rw [programLines_ofSettings, C.read?, C.tokens?, hlex']
  simp [C.preprocess?, hdirectives', C.items?, houtline', fixedMacros, hitems, item_mainCode, emitted]

end Main

end RecursiveFactorial.CSource
