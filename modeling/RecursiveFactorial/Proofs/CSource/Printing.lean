import Mathlib.Data.List.Forall2
import Mathlib.Data.List.Induction
import RecursiveFactorial.Proofs.C.PrintCall
import RecursiveFactorial.Proofs.CSource.Blocks
import RecursiveFactorial.Proofs.CSource.Simulation
import RecursiveFactorial.Proofs.CSource.Statement

/-!
# What a statement prints

The statement for a call that prints is read as a call of `printf` with the operands as arguments. Its format has one
conversion for each of them, whatever the texts among them hold, so it prints them one after another with a blank
between them and a newline at the end. Two kinds of operands are no arguments of theirs: a variable whose name is none
in C, and the least integer.
-/
namespace RecursiveFactorial.CSource

open ThreeAddress
open C (Token Feeds lexStep listTokens callStatement IsArgument)

section Names

variable {x : String}

theorem isName_cases (hx : C.isName x = true) :
    (∃ c cs, x.toList = c :: cs ∧ C.isWordStart c = true ∧ ∀ d ∈ cs, C.isWordPart d = true) ∧
      C.keywords.lookup x = none := by
  unfold C.isName at hx
  split at hx
  · cases hx
  · rename_i c cs hcs
    simp only [Bool.and_eq_true, List.all_eq_true, Option.isNone_iff_eq_none] at hx
    exact ⟨⟨c, cs, hcs, hx.1.1, hx.1.2⟩, hx.2⟩

theorem feeds_wordParts (name : List Char) {cs : List Char} (h : ∀ d ∈ cs, C.isWordPart d = true) :
    Feeds lexStep (.word name) cs (.word (name ++ cs)) [] := by
  induction cs generalizing name with
  | nil => simpa using Feeds.nil
  | cons c cs ih =>
    have hcs := ih (name ++ [c]) fun d hd => h d (List.mem_cons_of_mem c hd)
    have hstep : lexStep (.word name) c = some (.word (name ++ [c]), []) := if_pos (h c List.mem_cons_self)
    rw [List.append_assoc, List.singleton_append] at hcs
    exact .cons hstep hcs

theorem start_word {c : Char} (hc : C.isWordStart c = true) : lexStep .blank c = some (.word [c], []) := by
  have hne {d : Char} (hd : C.isWordStart d = false) : c ≠ d := by
    rintro rfl
    rw [hc] at hd
    cases hd
  simp [lexStep, C.start, hc, hne (d := '\n') (by decide), hne (d := ' ') (by decide), hne (d := '\t') (by decide)]

/-- A name is read as one token, up to a character that ends it. -/
theorem feeds_name (hx : C.isName x = true) {c : Char} (hc : c = ',' ∨ c = ')') :
    Feeds lexStep .blank (x.toList ++ [c]) (.punct c) [.word x] := by
  obtain ⟨⟨d, ds, hds, hd, hparts⟩, hkeyword⟩ := isName_cases hx
  have hname : Feeds lexStep .blank x.toList (.word x.toList) [] := by
    rw [hds]
    exact .cons (start_word hd) (feeds_wordParts [d] hparts)
  have htoken : C.wordToken (String.ofList x.toList) = .word x := by
    rw [String.ofList_toList, C.wordToken, hkeyword]
  have hend : lexStep (.word x.toList) c = some (.punct c, [.word x]) := by
    obtain rfl | rfl := hc
    · rw [← htoken]
      rfl
    · rw [← htoken]
      rfl
  exact hname.append (.single hend)

theorem newline_not_mem_of_isName (hx : C.isName x = true) : '\n' ∉ x.toList := by
  obtain ⟨⟨d, ds, hds, hd, hparts⟩, -⟩ := isName_cases hx
  rw [hds, List.mem_cons]
  rintro (rfl | hmem)
  · cases hd
  · cases hparts _ hmem

theorem isWordPart_of_isDigit {c : Char} (h : c.isDigit = true) : C.isWordPart c = true := by
  simp [C.isWordPart, Char.isAlphanum, h]

/-- No reserved word is a `t` with digits. -/
theorem lookup_tempName (t : Nat) : C.keywords.lookup (tempName t) = none := by
  have hall : C.keywords.all (fun p => !isTempForm p.1.toList) = true := by decide +kernel
  have htemp : isTempForm (tempName t).toList = true := by rw [toList_tempName, isTempForm_tempName]
  rw [List.lookup_eq_none_iff]
  intro p hp
  have hp := List.all_eq_true.mp hall p hp
  rw [bne_iff_ne]
  intro heq
  rw [← heq, htemp] at hp
  cases hp

theorem isName_tempName (t : Nat) : C.isName (tempName t) = true := by
  unfold C.isName
  rw [toList_tempName, lookup_tempName]
  simp only [Option.isNone_none, Bool.and_true, Bool.and_eq_true, List.all_eq_true]
  exact ⟨by decide, fun c hc => isWordPart_of_isDigit (isDigit_digits c hc)⟩

end Names

section Arguments

/-- The tokens of an operand. -/
def operandTokens : Operand → List Token
  | .temp t => [.word (tempName t)]
  | .var x => [.word x]
  | .int n => valueTokens n.toInt
  | .str s => [.text (Utf8.encode s)]

/-- An operand as an argument. -/
def operandExpr : Operand → C.Expr
  | .temp t => .name (tempName t)
  | .var x => .name x
  | .int n => if n.toInt < 0 then .unary .negate (.number n.toInt.natAbs) else .number n.toInt.natAbs
  | .str s => .text (Utf8.encode s)

/-- An operand that is a variable has a name in C. -/
def Named (a : Operand) : Prop :=
  ∀ x, a = .var x → C.isName x = true

theorem feeds_operand {a : Operand} (ha : Named a) {c : Char} (hc : c = ',' ∨ c = ')') :
    Feeds lexStep .blank ((operandText a).toList ++ [c]) (.punct c) (operandTokens a) := by
  cases a with
  | temp t => exact feeds_name (isName_tempName t) hc
  | var x => exact feeds_name (ha x rfl) hc
  | int n =>
    refine feeds_value_until (fun k => ?_) n.toInt
    obtain rfl | rfl := hc <;> rfl
  | str s =>
    have hend : lexStep .blank c = some (.punct c, []) := by obtain rfl | rfl := hc <;> rfl
    exact (feeds_literal s).append (.single hend)

theorem isArgument_operand (a : Operand) : IsArgument (operandTokens a) (operandExpr a) := by
  cases a with
  | temp t => exact .name (tempName t)
  | var x => exact .name x
  | int n =>
    rw [operandTokens, operandExpr]
    obtain ⟨hn, h⟩ | ⟨hn, h⟩ := valueTokens_cases n.toInt
    · rw [h, if_pos hn]
      exact .negative n.toInt.natAbs
    · rw [h, if_neg hn]
      exact .number n.toInt.natAbs
  | str s => exact .text (Utf8.encode s)

theorem arguments_cons_cons (a b : Operand) (args : List Operand) :
    arguments (a :: b :: args) = operandText a ++ ", " ++ arguments (b :: args) := by
  simp [arguments, String.intercalate_cons_cons]

/-- Operands with commas between them are read one by one, up to the closing parenthesis. -/
theorem feeds_arguments {a : Operand} {args : List Operand} (h : ∀ b ∈ a :: args, Named b) :
    Feeds lexStep .blank ((arguments (a :: args)).toList ++ [')']) (.punct ')')
      (listTokens operandTokens (a :: args)) := by
  induction args generalizing a with
  | nil =>
    have ha := feeds_operand (h a List.mem_cons_self) (c := ')') (.inr rfl)
    simpa [arguments, C.listTokens_singleton] using ha
  | cons b args ih =>
    have ha := feeds_operand (h a List.mem_cons_self) (c := ',') (.inl rfl)
    have hblank : lexStep (.punct ',') ' ' = some (.blank, [.punct .comma]) := rfl
    have hrest := ih fun c hc => h c (List.mem_cons_of_mem a hc)
    have hall := (ha.append (.single hblank)).append hrest
    rw [arguments_cons_cons, C.listTokens_cons_cons]
    simpa using hall

/-- The format is one more text in front of the operands. -/
theorem printCall_eq (args : List Operand) :
    printCall args = "printf(" ++ arguments (.str (format args) :: args) ++ ");" := by
  apply String.toList_injective
  cases args with
  | nil => simp [printCall, arguments, operandText, literal_format]
  | cons a args =>
    rw [arguments_cons_cons]
    simp [printCall, operandText, literal_format]

theorem newline_not_mem_operand {a : Operand} (ha : Named a) : '\n' ∉ (operandText a).toList := by
  cases a with
  | temp t => exact newline_not_mem_of_isName (isName_tempName t)
  | var x => exact newline_not_mem_of_isName (ha x rfl)
  | int n => exact (printable_decimal n.toInt).newline_not_mem
  | str s => exact (printable_literal s).newline_not_mem

theorem newline_not_mem_arguments {args : List Operand} (h : ∀ a ∈ args, Named a) :
    '\n' ∉ (arguments args).toList := by
  induction args using List.twoStepInduction with
  | nil => simp [arguments]
  | singleton a => simpa [arguments] using newline_not_mem_operand (h a List.mem_cons_self)
  | cons_cons a b args _ ih =>
    have ha := newline_not_mem_operand (h a List.mem_cons_self)
    have hrest := ih b fun c hc => h c (List.mem_cons_of_mem a hc)
    rw [arguments_cons_cons]
    simp [ha, hrest]

/-- After an opening parenthesis a literal begins as it does after a blank. -/
theorem feeds_openParen {cs : List Char} {mode : C.Mode} {ts : List Token}
    (h : Feeds lexStep .blank ('"' :: cs) mode ts) :
    Feeds lexStep (.punct '(') ('"' :: cs) mode (.punct .openParen :: ts) := by
  have hquote : Feeds lexStep .blank ['"'] (.quoted '"' [] .plain) [] := rfl
  obtain ⟨rest, hrest, rfl⟩ := Feeds.drop (show Feeds lexStep .blank (['"'] ++ cs) mode ts from h) hquote
  have hopen : lexStep (.punct '(') '"' = some (.quoted '"' [] .plain, [.punct .openParen]) := rfl
  exact .cons hopen hrest

theorem named_format_cons {args : List Operand} (h : ∀ a ∈ args, Named a) :
    ∀ a ∈ .str (format args) :: args, Named a := by
  refine List.forall_mem_cons.mpr ⟨?_, h⟩
  rintro x ⟨⟩

theorem splice_printCall {args : List Operand} (h : ∀ a ∈ args, Named a) :
    C.splice ((printCall args).toList ++ ['\n']) = (printCall args).toList ++ ['\n'] := by
  have hlast : (printCall args).toList.getLast? = some ';' := lastChar?_printCall args
  have hnewline := newline_not_mem_arguments (named_format_cons h)
  refine splice_line ?_ (by simp [hlast]) []
  rw [printCall_eq]
  simp [hnewline]

theorem tokens?_printCall {args : List Operand} (h : ∀ a ∈ args, Named a) :
    C.tokens? ((printCall args).toList ++ ['\n']) =
      some (callStatement "printf" (listTokens operandTokens (.str (format args) :: args)) ++ [.newline]) := by
  obtain ⟨cs, hcs⟩ : ∃ cs, (arguments (.str (format args) :: args)).toList = '"' :: cs := by
    cases args with
    | nil => simp [arguments, operandText, literal]
    | cons a args => simp [arguments_cons_cons, operandText, literal]
  have hname : Feeds lexStep .blank ['p', 'r', 'i', 'n', 't', 'f', '('] (.punct '(') [.word "printf"] := by decide
  have hargs := feeds_arguments (named_format_cons h)
  rw [hcs, List.cons_append] at hargs
  have hend : Feeds lexStep (.punct ')') [';', '\n'] .blank [.punct .closeParen, .punct .semicolon, .newline] := by
    decide
  have hline := hname.append ((feeds_openParen hargs).append hend)
  have hchars : (printCall args).toList ++ ['\n'] =
      ['p', 'r', 'i', 'n', 't', 'f', '('] ++ ('"' :: (cs ++ [')']) ++ [';', '\n']) := by
    rw [printCall_eq]
    simp [hcs]
  rw [← hchars] at hline
  unfold Feeds at hline
  rw [C.tokens?, splice_printCall h, hline]
  simp [callStatement]

/-- The line is read as the call that prints, with the operands after the format. -/
theorem readStatement?_printCall {args : List Operand} (h : ∀ a ∈ args, Named a) :
    C.readStatement? (printCall args).toList =
      some (.expr (callExpr "printf" (.text (Utf8.encode (format args)) :: args.map operandExpr))) :=
  C.readStatement?_call (fun b _ => isArgument_operand b) (tokens?_printCall h)

end Arguments

section Printed

/-- The kind of conversion that prints an operand. -/
def operandConversion : Operand → C.Conversion
  | .str _ => .text
  | _ => .number

variable (value : String → Int32)

/-- The argument that an operand passes, where variables and temporaries have the values of their names. -/
def operandValue : Operand → C.Value
  | .temp t => .int (value (tempName t))
  | .var x => .int (value x)
  | .int n => .int n
  | .str s => .literal (Utf8.encode s)

/-- What an operand is in print. -/
def operandShown : Operand → String
  | .temp t => Number.decimal (value (tempName t)).toInt
  | .var x => Number.decimal (value x).toInt
  | .int n => Number.decimal n.toInt
  | .str s => s

/-- An operand that is a text holds no NUL. -/
def Unbroken (a : Operand) : Prop :=
  ∀ s, a = .str s → '\x00' ∉ s.toList

/-- The name that an operand is read by. -/
def operandName? : Operand → Option String
  | .temp t => some (tempName t)
  | .var x => some x
  | _ => none

/-- A state has the values of the names among operands. -/
def Holds (m : C.State) (args : List Operand) : Prop :=
  ∀ a ∈ args, ∀ x, operandName? a = some x → m.value? x = some (.int (value x))

/-- Each integer but the least one is an `int` constant with its sign in front. -/
theorem natAbs_lt_of_ne {n : Int32} (hn : n ≠ Int32.minValue) : n.toInt.natAbs < 2147483648 := by
  have hleast : n.toInt ≠ -2147483648 := fun h => hn (Int32.toInt_inj.mp h)
  have hlow := n.le_toInt
  have hhigh := n.toInt_lt
  omega

theorem eval_operand {c : C.Calls} {m : C.State} {a : Operand} (ha : a ≠ .int Int32.minValue)
    (hm : ∀ x, operandName? a = some x → m.value? x = some (.int (value x))) :
    C.eval c m (operandExpr a) = some (operandValue value a, m) := by
  cases a with
  | temp t => rw [operandExpr, C.eval_name, hm _ rfl, Option.bind_some, operandValue]
  | var x => rw [operandExpr, C.eval_name, hm _ rfl, Option.bind_some, operandValue]
  | int n =>
    have hn : n.toInt.natAbs < 2147483648 := natAbs_lt_of_ne fun h => ha (congrArg Operand.int h)
    have hnumber : C.eval c m (.number n.toInt.natAbs) = some (.int (Int32.ofInt n.toInt.natAbs), m) := if_pos hn
    rw [operandExpr, operandValue]
    split
    · rename_i hneg
      have habs : -(n.toInt.natAbs : Int) = n.toInt := by omega
      rw [C.eval_unary, hnumber, Option.bind_some, C.Unary.compute?, ← Int32.ofInt_neg, habs, Int32.ofInt_toInt]
      rfl
    · rename_i hneg
      have habs : (n.toInt.natAbs : Int) = n.toInt := by omega
      rw [hnumber, habs, Int32.ofInt_toInt]
  | str s => rfl

theorem evalArgs_operands {c : C.Calls} {m : C.State} {args : List Operand} (hleast : .int Int32.minValue ∉ args)
    (hm : Holds value m args) :
    C.evalArgs c m (.ofList (args.map operandExpr)) = some (args.map (operandValue value), m) := by
  induction args with
  | nil => rfl
  | cons a args ih =>
    have ha := eval_operand value (c := c) (fun h => hleast (h ▸ List.mem_cons_self)) (hm a List.mem_cons_self)
    have hrest := ih (fun h => hleast (List.mem_cons_of_mem a h)) fun b hb => hm b (List.mem_cons_of_mem a hb)
    rw [List.map_cons, C.Args.ofList, C.evalArgs_cons, ha, Option.bind_some, hrest]
    rfl

/-- The state with the names among operands as its only objects. -/
def holding (args : List Operand) : C.State where
  locals := (args.filterMap operandName?).map fun x => (x, ⟨.int, .int (value x)⟩)

theorem holds_holding (args : List Operand) : Holds value (holding value args) args := by
  intro a ha x hx
  have hmem : x ∈ args.filterMap operandName? := List.mem_filterMap.mpr ⟨a, ha, hx⟩
  have hlookup (names : List String) (hnames : x ∈ names) :
      (names.map fun y => (y, (⟨.int, .int (value y)⟩ : C.Object))).lookup x = some ⟨.int, .int (value x)⟩ := by
    induction names with
    | nil => cases hnames
    | cons y names ih =>
      rw [List.map_cons, List.lookup_cons]
      by_cases hxy : x = y
      · subst hxy
        simp
      · rw [beq_false_of_ne hxy]
        exact ih (List.mem_of_ne_of_mem hxy hnames)
  simp only [C.State.value?, holding, hlookup _ hmem]

theorem takes_operand (a : Operand) : (operandConversion a).Takes (operandValue value a) := by
  cases a with
  | temp t => exact ⟨_, rfl⟩
  | var x => exact ⟨_, rfl⟩
  | int n => exact ⟨_, rfl⟩
  | str s => exact ⟨_, rfl⟩

theorem encode_conversion (a : Operand) : Utf8.encode (conversion a) = (operandConversion a).octets := by
  have htext : Utf8.encode "%s" = C.Conversion.text.octets := by decide
  have hnumber : Utf8.encode "%d" = C.Conversion.number.octets := by decide
  cases a with
  | temp t => exact hnumber
  | var x => exact hnumber
  | int n => exact hnumber
  | str s => exact htext

/-- Texts with one space between them, and a newline. -/
def spacedLine (texts : List String) : String :=
  " ".intercalate texts ++ "\n"

theorem format_eq (args : List Operand) : format args = spacedLine (args.map conversion) := rfl

theorem encode_line_nil : Utf8.encode (spacedLine []) = [10] := by decide

theorem encode_line_singleton (text : String) : Utf8.encode (spacedLine [text]) = Utf8.encode text ++ [10] := by
  have hnewline : Utf8.encode "\n" = [10] := by decide
  simp [spacedLine, hnewline]

theorem encode_line_cons_cons (text text' : String) (texts : List String) :
    Utf8.encode (spacedLine (text :: text' :: texts)) =
      Utf8.encode text ++ 32 :: Utf8.encode (spacedLine (text' :: texts)) := by
  have hblank : Utf8.encode " " = [32] := by decide
  simp [spacedLine, String.intercalate_cons_cons, hblank]

theorem conversions?_format (args : List Operand) :
    C.conversions? (Utf8.encode (format args)) = some (args.map operandConversion) := by
  rw [format_eq]
  induction args using List.twoStepInduction with
  | nil => decide
  | singleton a =>
    rw [List.map_singleton, encode_line_singleton, encode_conversion, C.conversions?_octets]
    rfl
  | cons_cons a b args _ ih =>
    have hblank (fs : Octets) : C.conversions? (32 :: fs) = C.conversions? fs := rfl
    rw [List.map_cons, List.map_cons, encode_line_cons_cons, encode_conversion, C.conversions?_octets, hblank,
      ← List.map_cons, ih b]
    rfl

theorem format?_operand (memory : C.Memory) {a : Operand} (ha : Unbroken a) (fs : Octets) (vs : List C.Value) :
    memory.format? ((operandConversion a).octets ++ fs) (operandValue value a :: vs) =
      (memory.format? fs vs).map (Utf8.encode (operandShown value a) ++ ·) := by
  have hnumber (n : Int32) : memory.format? (C.Conversion.number.octets ++ fs) (.int n :: vs) =
      (memory.format? fs vs).map (Utf8.encode (Number.decimal n.toInt) ++ ·) := by
    rw [← toString_eq_decimal]
    exact Option.map_eq_bind.symm
  cases a with
  | temp t => exact hnumber _
  | var x => exact hnumber _
  | int n => exact hnumber n
  | str s =>
    have htext := shown_eq_encode.mpr (ha s rfl)
    rw [operandShown, ← htext]
    exact Option.map_eq_bind.symm

/-- The format prints the operands on a line. -/
theorem format?_format (memory : C.Memory) {args : List Operand} (h : ∀ a ∈ args, Unbroken a) :
    memory.format? (Utf8.encode (format args)) (args.map (operandValue value)) =
      some (Utf8.encode (spacedLine (args.map (operandShown value)))) := by
  rw [format_eq]
  induction args using List.twoStepInduction with
  | nil =>
    simp only [List.map_nil, encode_line_nil]
    rfl
  | singleton a =>
    simp only [List.map_cons, List.map_nil, encode_line_singleton, encode_conversion]
    rw [format?_operand value memory (h a List.mem_cons_self)]
    rfl
  | cons_cons a b args _ ih =>
    have hrest := ih b fun c hc => h c (List.mem_cons_of_mem a hc)
    have hblank (fs : Octets) (vs : List C.Value) :
        memory.format? (32 :: fs) vs = (memory.format? fs vs).map (32 :: ·) := Option.map_eq_bind.symm
    simp only [List.map_cons, encode_line_cons_cons, encode_conversion] at hrest ⊢
    rw [format?_operand value memory (h a List.mem_cons_self), hblank, hrest]
    rfl

theorem printf?_format (m : C.State) {args : List Operand} (h : ∀ a ∈ args, Unbroken a) :
    C.printf? m (.literal (Utf8.encode (format args)) :: args.map (operandValue value)) =
      some (printed m (Utf8.encode (spacedLine (args.map (operandShown value))))) := by
  have hnul : '\x00' ∉ (format args).toList := by
    intro hmem
    rw [format, String.toList_append, List.mem_append] at hmem
    obtain hmem | hmem := hmem
    · exact absurd (mem_format hmem) (by decide)
    · exact absurd hmem (by decide)
  have hformat : m.memory.string? (.literal (Utf8.encode (format args))) = some (Utf8.encode (format args)) :=
    congrArg some (shown_eq_encode.mpr hnul)
  rw [C.printf?, hformat, Option.bind_eq_bind, Option.bind_some, format?_format value m.memory h]
  rfl

theorem forall₂_takes (args : List Operand) :
    List.Forall₂ C.Conversion.Takes (args.map operandConversion) (args.map (operandValue value)) := by
  rw [List.forall₂_map_left_iff, List.forall₂_map_right_iff, List.forall₂_same]
  exact fun a _ => takes_operand value a

/-- A line of C that prints operands: it calls `printf` with a format and as many arguments as there are operands. The
format has just one conversion for each operand, of the operand's kind. In a state that holds the values of the names,
the arguments have the values of the operands, and their texts are printed with one space between them and a newline.
-/
def PrintsOperands (args : List Operand) (line : String) : Prop :=
  ∃ octets es,
    C.readStatement? line.toList = some (.expr (callExpr "printf" (.text octets :: es))) ∧
    C.conversions? octets = some (args.map operandConversion) ∧
    List.Forall₂ C.Conversion.Takes (args.map operandConversion) (args.map (operandValue value)) ∧
    ∀ (p : C.Program) (d : Nat) (m : C.State), p.function? "printf" = none → Holds value m args →
      C.evalArgs (C.call p (d + 1)) m (.ofList es) = some (args.map (operandValue value), m) ∧
      C.exec (C.call p (d + 1)) m (.expr (callExpr "printf" (.text octets :: es))) =
        some (.next, { m with output := m.output ++ Utf8.encode (spacedLine (args.map (operandShown value))) })

theorem PrintsOperands.evalArgs_eq {args : List Operand} {line : String} {octets : Octets} {es : List C.Expr}
    (h : PrintsOperands value args line)
    (hread : C.readStatement? line.toList = some (.expr (callExpr "printf" (.text octets :: es))))
    {m : C.State} (hm : Holds value m args) :
    C.evalArgs (C.call [] 1) m (.ofList es) = some (args.map (operandValue value), m) := by
  obtain ⟨octets', es', hread', -, -, hrun⟩ := h
  rw [hread] at hread'
  simp only [Option.some.injEq, C.Stmt.expr.injEq, callExpr, C.Expr.call.injEq, C.Args.ofList, C.Args.cons.injEq,
    true_and] at hread'
  rw [hread'.2]
  exact (hrun [] 0 m rfl hm).1

end Printed

end RecursiveFactorial.CSource
