import RecursiveFactorial.Proofs.CSource.Lexeme

/-!
# An instruction from its statement

From the lexemes of a statement the form of its instruction can be told, and each operand ends with the last of its own
lexemes. So a statement determines its instruction, save for the result of a call that prints, whatever its
strings hold and whatever its names are, as long as none can be taken for a temporary.
-/
namespace RecursiveFactorial

namespace ThreeAddress

def isIdentifier (name : String) : Bool :=
  match name.toList with
  | [] => false
  | c :: cs => !c.isDigit && (c :: cs).all isNamePart

/-- A `t` with digits after it. -/
def isTempForm : List Char → Bool
  | [] => false
  | c :: cs => c == 't' && !cs.isEmpty && cs.all Char.isDigit

/-- An identifier that cannot be taken for a temporary. -/
def PlainName (name : String) : Prop :=
  isIdentifier name = true ∧ isTempForm name.toList = false

instance PlainName.decidable (name : String) : Decidable (PlainName name) :=
  inferInstanceAs (Decidable (_ ∧ _))

def Operand.names : Operand → List String
  | .var name => [name]
  | _ => []

/-- All names in an instruction. -/
def Instr.names : Instr → List String
  | .binary _ left right _ => left.names ++ right.names
  | .assign target value => target :: value.names
  | .ifFalse cond _ => cond.names
  | .goto _ => []
  | .label _ => []
  | .call function args _ => function :: args.flatMap Operand.names
  | .ret value => value.names

/-- The function that an instruction calls. -/
def Instr.called? : Instr → Option String
  | .call function _ _ => some function
  | _ => none

/-- The instruction without the result of a call that prints. -/
def Instr.forgetPrinted : Instr → Instr
  | .call function args result => .call function args (if function = printName then none else result)
  | i => i

/-- Names are plain, and no call is to C's own function that prints. -/
structure Instr.WellNamed (i : Instr) : Prop where
  plain : ∀ name ∈ i.names, PlainName name
  called : i.called? ≠ some "printf"

instance Instr.WellNamed.decidable (i : Instr) : Decidable i.WellNamed :=
  decidable_of_iff ((∀ name ∈ i.names, PlainName name) ∧ i.called? ≠ some "printf")
    ⟨fun h => ⟨h.1, h.2⟩, fun h => ⟨h.plain, h.called⟩⟩

end ThreeAddress

namespace CSource

open ThreeAddress

section Words

theorem isNamePart_of_isDigit {c : Char} (h : c.isDigit = true) : isNamePart c = true := by
  simp [isNamePart, Char.isAlphanum, h]

theorem isDigit_digits {n : Nat} : ∀ c ∈ Nat.toDigits 10 n, c.isDigit = true :=
  fun _ hc => Nat.isDigit_of_mem_toDigits (by decide) (by decide) hc

theorem toDigits_injective {m n : Nat} (h : Nat.toDigits 10 m = Nat.toDigits 10 n) : m = n := by
  rw [← Nat.ofDigitChars_toDigits (b := 10) (n := m) (by decide) (by decide), h,
    Nat.ofDigitChars_toDigits (by decide) (by decide)]

theorem wellFormed_digits (n : Nat) : (Lexeme.word (Nat.toDigits 10 n)).WellFormed :=
  ⟨Nat.toDigits_ne_nil, fun c hc => isNamePart_of_isDigit (isDigit_digits c hc)⟩

theorem toList_tempName (t : Nat) : (tempName t).toList = 't' :: Nat.toDigits 10 t := by
  simp [tempName, natural, Number.decimal]

theorem toList_labelName (l : Nat) : (labelName l).toList = 'L' :: Nat.toDigits 10 l := by
  simp [labelName, natural, Number.decimal]

theorem newline_not_mem_tempLines {level : Nat} {ts : List Nat} : ∀ text ∈ tempLines level ts, '\n' ∉ text.toList := by
  intro text hmem
  obtain rfl | ⟨t, rfl⟩ | rfl := mem_tempLines hmem
  · exact newline_not_mem_indented (by decide)
  · have hdigits : '\n' ∉ Nat.toDigits 10 t := fun hd => absurd (isDigit_digits _ hd) (by decide)
    apply newline_not_mem_indented
    simp [toList_tempName, hdigits]
  · decide

theorem wellFormed_cons_digits {c : Char} (hc : isNamePart c = true) (n : Nat) :
    (Lexeme.word (c :: Nat.toDigits 10 n)).WellFormed := by
  refine ⟨by simp, fun d hd => ?_⟩
  obtain rfl | hd := List.mem_cons.mp hd
  · exact hc
  · exact (wellFormed_digits n).2 d hd

theorem isTempForm_tempName (t : Nat) : isTempForm ('t' :: Nat.toDigits 10 t) = true := by
  simpa [isTempForm, Nat.toDigits_ne_nil] using isDigit_digits

theorem wellFormed_name {name : String} (h : PlainName name) : (Lexeme.word name.toList).WellFormed := by
  have hid := h.1
  unfold isIdentifier at hid
  split at hid
  · cases hid
  · rename_i c cs hname
    simp only [Bool.and_eq_true, List.all_eq_true] at hid
    rw [hname]
    exact ⟨by simp, hid.2⟩

theorem head_name {name : String} (h : PlainName name) : ∀ c ∈ name.toList.head?, c.isDigit = false := by
  have hid := h.1
  unfold isIdentifier at hid
  split at hid
  · cases hid
  · rename_i c cs hname
    simp only [Bool.and_eq_true, Bool.not_eq_true'] at hid
    simpa [hname] using hid.1

theorem head_digits (n : Nat) : ∃ c cs, Nat.toDigits 10 n = c :: cs ∧ c.isDigit = true := by
  obtain ⟨c, cs, hcs⟩ := List.exists_cons_of_ne_nil (Nat.toDigits_ne_nil (n := n) (b := 10))
  exact ⟨c, cs, hcs, isDigit_digits c (hcs ▸ List.mem_cons_self)⟩

end Words

section Operands

def intLexemes : Int → List Lexeme
  | .ofNat n => [.word (Nat.toDigits 10 n)]
  | .negSucc n => [.mark '-', .word (Nat.toDigits 10 (n + 1))]

def operandLexemes : Operand → List Lexeme
  | .temp t => [.word ('t' :: Nat.toDigits 10 t)]
  | .var name => [.word name.toList]
  | .int n => intLexemes n.toInt
  | .str s => [.quoted s]

theorem chars_operand (a : Operand) : (operandText a).toList = lexemeChars (operandLexemes a) := by
  cases a with
  | temp t => simp [operandText, operandLexemes, toList_tempName, Lexeme.chars]
  | var name => simp [operandText, operandLexemes, Lexeme.chars]
  | int n =>
    simp only [operandText, operandLexemes]
    cases n.toInt with
    | ofNat k => simp [Number.decimal, intLexemes, Lexeme.chars]
    | negSucc k => simp [Number.decimal, intLexemes, Lexeme.chars]
  | str s => simp [operandText, operandLexemes, Lexeme.chars]

def Plain (a : Operand) : Prop :=
  ∀ name ∈ a.names, PlainName name

theorem Plain.var {name : String} (h : Plain (.var name)) : PlainName name :=
  h name (by simp [Operand.names])

/-- An operand before a mark does not touch what follows. -/
theorem separated_operand {a : Operand} (ha : Plain a) {c : Char} {xs : List Lexeme}
    (h : Separated (.mark c :: xs)) : Separated (operandLexemes a ++ .mark c :: xs) := by
  cases a with
  | temp t => exact .word_mark_cons (wellFormed_cons_digits (by decide) t) h
  | var name => exact .word_mark_cons (wellFormed_name ha.var) h
  | int n =>
    rw [operandLexemes]
    cases n.toInt with
    | ofNat k => exact .word_mark_cons (wellFormed_digits k) h
    | negSucc k =>
      have hminus : (Lexeme.mark '-').WellFormed := by
        simp only [Lexeme.WellFormed]
        decide
      exact .mark_cons hminus (.word_mark_cons (wellFormed_digits (k + 1)) h)
  | str s => exact .quoted_cons h

theorem intLexemes_append_inj {m n : Int} {xs ys : List Lexeme} (h : intLexemes m ++ xs = intLexemes n ++ ys) :
    m = n ∧ xs = ys := by
  cases m with
  | ofNat m =>
    cases n with
    | ofNat n =>
      simp only [intLexemes, List.singleton_append, List.cons.injEq, Lexeme.word.injEq] at h
      exact ⟨congrArg Int.ofNat (toDigits_injective h.1), h.2⟩
    | negSucc n => simp [intLexemes] at h
  | negSucc m =>
    cases n with
    | ofNat n => simp [intLexemes] at h
    | negSucc n =>
      simp only [intLexemes, List.cons_append, List.nil_append, List.cons.injEq, Lexeme.word.injEq, true_and] at h
      have hmn := toDigits_injective h.1
      exact ⟨by rw [Nat.succ.inj hmn], h.2⟩

/-- A word that starts with no digit is not the start of a number. -/
theorem intLexemes_append_ne {n : Int} {cs : List Char} (hcs : ∀ c ∈ cs.head?, c.isDigit = false)
    {xs ys : List Lexeme} : intLexemes n ++ xs ≠ .word cs :: ys := by
  cases n with
  | ofNat n =>
    obtain ⟨d, ds, hds, hdigit⟩ := head_digits n
    rintro h
    simp only [intLexemes, List.singleton_append, List.cons.injEq, Lexeme.word.injEq] at h
    rw [← h.1, hds] at hcs
    rw [hcs d rfl] at hdigit
    cases hdigit
  | negSucc n => simp [intLexemes]

theorem tempForm_ne_name {name : String} (h : PlainName name) (t : Nat) : 't' :: Nat.toDigits 10 t ≠ name.toList := by
  intro he
  have htemp := isTempForm_tempName t
  rw [he, h.2] at htemp
  cases htemp

/-- The lexemes of an operand end where they do whatever follows. -/
theorem operandLexemes_append_inj {a b : Operand} (ha : Plain a) (hb : Plain b) {xs ys : List Lexeme}
    (h : operandLexemes a ++ xs = operandLexemes b ++ ys) : a = b ∧ xs = ys := by
  have htemp (t : Nat) : ∀ c ∈ ('t' :: Nat.toDigits 10 t).head?, c.isDigit = false := by
    simp
  cases a with
  | temp t =>
    cases b with
    | temp u =>
      simp only [operandLexemes, List.singleton_append, List.cons.injEq, Lexeme.word.injEq, true_and] at h
      exact ⟨by rw [toDigits_injective h.1], h.2⟩
    | var name =>
      simp only [operandLexemes, List.singleton_append, List.cons.injEq, Lexeme.word.injEq] at h
      exact absurd h.1 (tempForm_ne_name hb.var t)
    | int n => exact absurd h.symm (intLexemes_append_ne (htemp t))
    | str s => simp [operandLexemes] at h
  | var name =>
    cases b with
    | temp u =>
      simp only [operandLexemes, List.singleton_append, List.cons.injEq, Lexeme.word.injEq] at h
      exact absurd h.1.symm (tempForm_ne_name ha.var u)
    | var name' =>
      simp only [operandLexemes, List.singleton_append, List.cons.injEq, Lexeme.word.injEq] at h
      exact ⟨by rw [String.toList_inj.mp h.1], h.2⟩
    | int n => exact absurd h.symm (intLexemes_append_ne (head_name ha.var))
    | str s => simp [operandLexemes] at h
  | int m =>
    cases b with
    | temp u => exact absurd h (intLexemes_append_ne (htemp u))
    | var name => exact absurd h (intLexemes_append_ne (head_name hb.var))
    | int n =>
      obtain ⟨hmn, hrest⟩ := intLexemes_append_inj h
      exact ⟨by rw [Int32.toInt_inj.mp hmn], hrest⟩
    | str s => cases hm : m.toInt <;> simp [operandLexemes, intLexemes, hm] at h
  | str s =>
    cases b with
    | temp u => simp [operandLexemes] at h
    | var name => simp [operandLexemes] at h
    | int n => cases hn : n.toInt <;> simp [operandLexemes, intLexemes, hn] at h
    | str t =>
      simp only [operandLexemes, List.singleton_append, List.cons.injEq, Lexeme.quoted.injEq] at h
      exact ⟨by rw [h.1], h.2⟩

/-- An operand starts with no mark but a minus. -/
theorem head_operand (a : Operand) (xs : List Lexeme) {c : Char} (hc : c ≠ '-') :
    (operandLexemes a ++ xs).head? ≠ some (.mark c) := by
  cases a with
  | temp t => simp [operandLexemes]
  | var name => simp [operandLexemes]
  | int n => cases hn : n.toInt <;> simp [operandLexemes, intLexemes, hn, Ne.symm hc]
  | str s => simp [operandLexemes]

end Operands

section Lists

variable {α : Type}

/-- Items with a comma and a blank in front of each. -/
def followLexemes (item : α → List Lexeme) (as : List α) : List Lexeme :=
  as.flatMap fun a => .mark ',' :: .mark ' ' :: item a

/-- Items with a comma and a blank between them. -/
def listLexemes (item : α → List Lexeme) : List α → List Lexeme
  | [] => []
  | a :: as => item a ++ followLexemes item as

theorem chars_list {item : α → List Lexeme} {text : α → String} (h : ∀ a, (text a).toList = lexemeChars (item a))
    (as : List α) : (", ".intercalate (as.map text)).toList = lexemeChars (listLexemes item as) := by
  cases as with
  | nil => rfl
  | cons a as =>
    induction as generalizing a with
    | nil => simp [listLexemes, followLexemes, h]
    | cons b bs ih =>
      have hrest := ih b
      rw [List.map_cons] at hrest
      rw [List.map_cons, List.map_cons, String.intercalate_cons_cons]
      simp [listLexemes, followLexemes, hrest, h, Lexeme.chars]

variable {item : α → List Lexeme} {P : α → Prop}

theorem wellFormed_comma : (Lexeme.mark ',').WellFormed := by
  simp [Lexeme.WellFormed]
  decide

theorem wellFormed_blank : (Lexeme.mark ' ').WellFormed := by
  simp [Lexeme.WellFormed]
  decide

theorem separated_follow (hitem : ∀ a c xs, P a → Separated (.mark c :: xs) → Separated (item a ++ .mark c :: xs))
    {as : List α} (has : ∀ a ∈ as, P a) {c : Char} {xs : List Lexeme} (h : Separated (.mark c :: xs)) :
    ∃ d ys, followLexemes item as ++ .mark c :: xs = .mark d :: ys ∧ Separated (.mark d :: ys) := by
  induction as with
  | nil => exact ⟨c, xs, rfl, h⟩
  | cons a as ih =>
    obtain ⟨d, ys, hys, hsep⟩ := ih fun b hb => has b (List.mem_cons_of_mem a hb)
    refine ⟨',', .mark ' ' :: (item a ++ .mark d :: ys), ?_, ?_⟩
    · rw [← hys]
      simp [followLexemes]
    · exact .mark_cons wellFormed_comma (.mark_cons wellFormed_blank (hitem a d ys (has a List.mem_cons_self) hsep))

theorem separated_list (hitem : ∀ a c xs, P a → Separated (.mark c :: xs) → Separated (item a ++ .mark c :: xs))
    {as : List α} (has : ∀ a ∈ as, P a) {c : Char} {xs : List Lexeme} (h : Separated (.mark c :: xs)) :
    Separated (listLexemes item as ++ .mark c :: xs) := by
  cases as with
  | nil => exact h
  | cons a as =>
    obtain ⟨d, ys, hys, hsep⟩ := separated_follow hitem (fun b hb => has b (List.mem_cons_of_mem a hb)) h
    rw [listLexemes, List.append_assoc, hys]
    exact hitem a d ys (has a List.mem_cons_self) hsep

theorem followLexemes_append_inj
    (hitem : ∀ a b xs ys, P a → P b → item a ++ xs = item b ++ ys → a = b ∧ xs = ys)
    {as bs : List α} (has : ∀ a ∈ as, P a) (hbs : ∀ b ∈ bs, P b) {xs ys : List Lexeme}
    (h : followLexemes item as ++ .mark ')' :: xs = followLexemes item bs ++ .mark ')' :: ys) : as = bs ∧ xs = ys := by
  induction as generalizing bs with
  | nil =>
    cases bs with
    | nil => simpa [followLexemes] using h
    | cons b bs => simp [followLexemes] at h
  | cons a as ih =>
    cases bs with
    | nil => simp [followLexemes] at h
    | cons b bs =>
      simp only [followLexemes, List.flatMap_cons, List.cons_append, List.append_assoc, List.cons.injEq, true_and] at h
      obtain ⟨rfl, hrest⟩ := hitem a b _ _ (has a List.mem_cons_self) (hbs b List.mem_cons_self) h
      obtain ⟨rfl, rfl⟩ := ih (fun c hc => has c (List.mem_cons_of_mem a hc))
        (fun c hc => hbs c (List.mem_cons_of_mem a hc)) hrest
      exact ⟨rfl, rfl⟩

/-- A list of items is read up to its closing parenthesis, which is the start of no item. -/
theorem listLexemes_append_inj
    (hitem : ∀ a b xs ys, P a → P b → item a ++ xs = item b ++ ys → a = b ∧ xs = ys)
    (hhead : ∀ a xs, (item a ++ xs).head? ≠ some (.mark ')'))
    {as bs : List α} (has : ∀ a ∈ as, P a) (hbs : ∀ b ∈ bs, P b) {xs ys : List Lexeme}
    (h : listLexemes item as ++ .mark ')' :: xs = listLexemes item bs ++ .mark ')' :: ys) : as = bs ∧ xs = ys := by
  cases as with
  | nil =>
    cases bs with
    | nil => simpa [listLexemes] using h
    | cons b bs =>
      simp only [listLexemes, List.append_assoc, List.nil_append] at h
      exact absurd (congrArg List.head? h.symm) (hhead b _)
  | cons a as =>
    cases bs with
    | nil =>
      simp only [listLexemes, List.append_assoc, List.nil_append] at h
      exact absurd (congrArg List.head? h) (hhead a _)
    | cons b bs =>
      simp only [listLexemes, List.append_assoc] at h
      obtain ⟨rfl, hrest⟩ := hitem a b _ _ (has a List.mem_cons_self) (hbs b List.mem_cons_self) h
      obtain ⟨rfl, rfl⟩ := followLexemes_append_inj hitem (fun c hc => has c (List.mem_cons_of_mem a hc))
        (fun c hc => hbs c (List.mem_cons_of_mem a hc)) hrest
      exact ⟨rfl, rfl⟩

end Lists

section Statements

def operatorLexemes : Operator → List Lexeme
  | .eq => [.mark '=', .mark '=']
  | .or => [.mark '|', .mark '|']
  | .sub => [.mark '-']
  | .mul => [.mark '*']

/-- The format that prints operands with one space between them, and a newline. -/
def format (args : List Operand) : String :=
  " ".intercalate (args.map conversion) ++ "\n"

def printLexemes (args : List Operand) : List Lexeme :=
  .word ['p', 'r', 'i', 'n', 't', 'f'] :: .mark '(' :: .quoted (format args) ::
    (followLexemes operandLexemes args ++ [.mark ')', .mark ';'])

def callLexemes (function : String) (args : List Operand) : List Lexeme :=
  .word function.toList :: .mark '(' :: (listLexemes operandLexemes args ++ [.mark ')', .mark ';'])

/-- A word that is set to what follows. -/
def assignLexemes (target : List Char) (value : List Lexeme) : List Lexeme :=
  .word target :: .mark ' ' :: .mark '=' :: .mark ' ' :: value

/-- A call whose result is kept, if it has one. -/
def resultLexemes : Option Nat → List Lexeme → List Lexeme
  | some t, value => assignLexemes ('t' :: Nat.toDigits 10 t) value
  | none, value => value

def gotoLexemes (label : Nat) : List Lexeme :=
  [.word ['g', 'o', 't', 'o'], .mark ' ', .word ('L' :: Nat.toDigits 10 label), .mark ';']

def statementLexemes : Instr → List Lexeme
  | .binary op left right result =>
    assignLexemes ('t' :: Nat.toDigits 10 result)
      (operandLexemes left ++ .mark ' ' :: (operatorLexemes op ++ .mark ' ' :: (operandLexemes right ++ [.mark ';'])))
  | .assign target value => assignLexemes target.toList (operandLexemes value ++ [.mark ';'])
  | .ifFalse cond label =>
    .word ['i', 'f'] :: .mark ' ' :: .mark '(' :: .mark '!' ::
      (operandLexemes cond ++ .mark ')' :: .mark ' ' :: gotoLexemes label)
  | .goto label => gotoLexemes label
  | .label label => [.word ('L' :: Nat.toDigits 10 label), .mark ':']
  | .ret value =>
    .word ['r', 'e', 't', 'u', 'r', 'n'] :: .mark ' ' :: (operandLexemes value ++ [.mark ';'])
  | .call function args result =>
    if function = printName then printLexemes args else resultLexemes result (callLexemes function args)

theorem mem_format {args : List Operand} {c : Char} (hc : c ∈ (" ".intercalate (args.map conversion)).toList) :
    c ∈ ['%', 's', 'd', ' '] := by
  have hconversion (a : Operand) : ∀ c ∈ (conversion a).toList, c ∈ ['%', 's', 'd', ' '] := by
    cases a <;> simp [conversion]
  cases args with
  | nil => simp at hc
  | cons a args =>
    induction args generalizing a with
    | nil => exact hconversion a c (by simpa using hc)
    | cons b bs ih =>
      rw [List.map_cons, List.map_cons, String.intercalate_cons_cons, String.toList_append, String.toList_append,
        List.append_assoc, List.mem_append, List.mem_append] at hc
      obtain hc | hc | hc := hc
      · exact hconversion a c hc
      · obtain rfl : c = ' ' := by simpa using hc
        decide
      · exact ih b hc

theorem flatMap_literalOctet {s : String} (h : ∀ c ∈ s.toList, c ∈ ['%', 's', 'd', ' ']) :
    (Utf8.encode s).flatMap literalOctet = s.toList := by
  have hall : ∀ c ∈ ['%', 's', 'd', ' '], (String.utf8EncodeChar c).flatMap literalOctet = [c] := by
    intro c hc
    simp only [List.mem_cons, List.not_mem_nil, or_false] at hc
    rcases hc with rfl | rfl | rfl | rfl <;> rfl
  unfold Utf8.encode
  generalize s.toList = cs at h
  induction cs with
  | nil => rfl
  | cons c cs ih =>
    rw [List.flatMap_cons, List.flatMap_append, hall c (h c List.mem_cons_self),
      ih fun d hd => h d (List.mem_cons_of_mem c hd)]
    rfl

/-- The format stands in its literal as it is, but for the newline. -/
theorem literal_format (args : List Operand) :
    (literal (format args)).toList =
      '"' :: (" ".intercalate (args.map conversion)).toList ++ ['\\', 'n', '"'] := by
  have hnewline : (Utf8.encode "\n").flatMap literalOctet = ['\\', 'n'] := by decide
  simp [literal, format, flatMap_literalOctet fun _ hc => mem_format hc, hnewline]

theorem chars_follow_cons (a : Operand) (args : List Operand) :
    lexemeChars (followLexemes operandLexemes (a :: args)) = ',' :: ' ' :: (arguments (a :: args)).toList := by
  rw [arguments, chars_list chars_operand]
  simp [followLexemes, listLexemes, Lexeme.chars]

theorem chars_print (args : List Operand) : (printCall args).toList = lexemeChars (printLexemes args) := by
  cases args with
  | nil => simp [printCall, printLexemes, followLexemes, Lexeme.chars, literal_format]
  | cons a args => simp [printCall, printLexemes, chars_follow_cons, Lexeme.chars, literal_format]

theorem chars_call (function : String) (args : List Operand) :
    (function ++ "(" ++ arguments args ++ ");").toList = lexemeChars (callLexemes function args) := by
  simp [callLexemes, arguments, chars_list chars_operand, Lexeme.chars]

theorem chars_operator (op : Operator) : (operatorText op).toList = lexemeChars (operatorLexemes op) := by
  cases op <;> decide

/-- A statement is the text of its lexemes. -/
theorem chars_statement (i : Instr) : (statement i).toList = lexemeChars (statementLexemes i) := by
  cases i with
  | binary op left right result =>
    simp [statement, statementLexemes, assignLexemes, toList_tempName, chars_operand, chars_operator, Lexeme.chars]
  | assign target value => simp [statement, statementLexemes, assignLexemes, chars_operand, Lexeme.chars]
  | ifFalse cond label =>
    simp [statement, statementLexemes, gotoLexemes, toList_labelName, chars_operand, Lexeme.chars]
  | goto label => simp [statement, statementLexemes, gotoLexemes, toList_labelName, Lexeme.chars]
  | label label => simp [statement, statementLexemes, toList_labelName, Lexeme.chars]
  | ret value => simp [statement, statementLexemes, chars_operand, Lexeme.chars]
  | call function args result =>
    simp only [statement, statementLexemes]
    split
    · exact chars_print args
    · cases result with
      | none =>
        have hcall := chars_call function args
        simpa [resultLexemes] using hcall
      | some t =>
        have hcall := chars_call function args
        simp only [String.append_assoc, String.toList_append, resultLexemes, assignLexemes, toList_tempName,
          lexemeChars_cons, Lexeme.chars] at hcall ⊢
        rw [hcall]
        simp

/-- The marks that statements are written with. -/
theorem wellFormed_mark {c : Char} (hc : c ∈ [' ', '=', '|', '-', '*', ';', ':', '!', '(', ')', ',', '\x7b', '\x7d']) :
    (Lexeme.mark c).WellFormed := by
  have hall : ([' ', '=', '|', '-', '*', ';', ':', '!', '(', ')', ',', '\x7b', '\x7d'].all fun c =>
      !isNamePart c && c != '"' && c != '\n') = true := by decide
  have hmark := List.all_eq_true.mp hall c hc
  simp only [Bool.and_eq_true, Bool.not_eq_true', bne_iff_ne] at hmark
  exact ⟨hmark.1.1, hmark.1.2, hmark.2⟩

theorem separated_assign {cs : List Char} (hcs : (Lexeme.word cs).WellFormed) {value : List Lexeme}
    (h : Separated value) : Separated (assignLexemes cs value) :=
  .word_mark_cons hcs (.mark_cons (wellFormed_mark (by decide)) (.mark_cons (wellFormed_mark (by decide))
    (.mark_cons (wellFormed_mark (by decide)) h)))

theorem separated_end {c : Char} (hc : c ∈ [' ', '=', '|', '-', '*', ';', ':', '!', '(', ')', ',', '\x7b', '\x7d']) :
    Separated [.mark c] :=
  wellFormed_mark hc

theorem separated_goto (label : Nat) : Separated (gotoLexemes label) :=
  .word_mark_cons (by simp [Lexeme.WellFormed]; decide) (.mark_cons (wellFormed_mark (by decide))
    (.word_mark_cons (wellFormed_cons_digits (by decide) label) (separated_end (by decide))))

theorem separated_closing : Separated [.mark ')', .mark ';'] :=
  .mark_cons (wellFormed_mark (by decide)) (separated_end (by decide))

theorem separated_call {function : String} (hf : PlainName function) {args : List Operand}
    (hargs : ∀ a ∈ args, Plain a) : Separated (callLexemes function args) :=
  .word_mark_cons (wellFormed_name hf) (.mark_cons (wellFormed_mark (by decide))
    (separated_list (fun _ _ _ ha h => separated_operand ha h) hargs separated_closing))

theorem separated_print {args : List Operand} (hargs : ∀ a ∈ args, Plain a) : Separated (printLexemes args) := by
  obtain ⟨d, ys, hys, hsep⟩ :=
    separated_follow (fun _ _ _ ha h => separated_operand ha h) hargs separated_closing
  rw [printLexemes, hys]
  exact .word_mark_cons (by simp [Lexeme.WellFormed]; decide) (.mark_cons (wellFormed_mark (by decide))
    (.quoted_cons hsep))

theorem separated_operator (op : Operator) {xs : List Lexeme} (h : Separated xs) :
    Separated (operatorLexemes op ++ xs) := by
  cases op with
  | eq => exact .mark_cons (wellFormed_mark (by decide)) (.mark_cons (wellFormed_mark (by decide)) h)
  | or => exact .mark_cons (wellFormed_mark (by decide)) (.mark_cons (wellFormed_mark (by decide)) h)
  | sub => exact .mark_cons (wellFormed_mark (by decide)) h
  | mul => exact .mark_cons (wellFormed_mark (by decide)) h

theorem WellNamed.args {function : String} {args : List Operand} {result : Option Nat}
    (h : (Instr.call function args result).WellNamed) : ∀ a ∈ args, Plain a :=
  fun a ha name hname => h.plain name (List.mem_cons_of_mem _ (List.mem_flatMap.mpr ⟨a, ha, hname⟩))

theorem separated_statement {i : Instr} (hi : i.WellNamed) : Separated (statementLexemes i) := by
  have hblank {xs : List Lexeme} (h : Separated xs) : Separated (.mark ' ' :: xs) :=
    .mark_cons (wellFormed_mark (by decide)) h
  have hplain := hi.plain
  cases i with
  | binary op left right result =>
    have hleft : Plain left := fun name hname => hplain name (List.mem_append_left _ hname)
    have hright : Plain right := fun name hname => hplain name (List.mem_append_right _ hname)
    exact separated_assign (wellFormed_cons_digits (by decide) result)
      (separated_operand hleft (hblank (separated_operator op (hblank
        (separated_operand hright (separated_end (by decide)))))))
  | assign target value =>
    have hvalue : Plain value := fun name hname => hplain name (List.mem_cons_of_mem _ hname)
    exact separated_assign (wellFormed_name (hplain target List.mem_cons_self))
      (separated_operand hvalue (separated_end (by decide)))
  | ifFalse cond label =>
    exact .word_mark_cons (by simp [Lexeme.WellFormed]; decide) (hblank (.mark_cons (wellFormed_mark (by decide))
      (.mark_cons (wellFormed_mark (by decide)) (separated_operand hplain
        (.mark_cons (wellFormed_mark (by decide)) (hblank (separated_goto label)))))))
  | goto label => exact separated_goto label
  | label label => exact .word_mark_cons (wellFormed_cons_digits (by decide) label) (separated_end (by decide))
  | ret value =>
    exact .word_mark_cons (by simp [Lexeme.WellFormed]; decide) (hblank
      (separated_operand hplain (separated_end (by decide))))
  | call function args result =>
    have hf : PlainName function := hplain function List.mem_cons_self
    rw [statementLexemes]
    split
    · exact separated_print (WellNamed.args hi)
    · cases result with
      | none => exact separated_call hf (WellNamed.args hi)
      | some t =>
        exact separated_assign (wellFormed_cons_digits (by decide) t) (separated_call hf (WellNamed.args hi))

/-- The forms of a statement. -/
inductive Form where
  | binary
  | assign
  | ifFalse
  | goto
  | label
  | ret
  | print
  | call
  | callInto
  deriving DecidableEq, Repr

def form : Instr → Form
  | .binary .. => .binary
  | .assign .. => .assign
  | .ifFalse .. => .ifFalse
  | .goto _ => .goto
  | .label _ => .label
  | .ret _ => .ret
  | .call function _ result => if function = printName then .print else if result.isSome then .callInto else .call

/-- The form of what is assigned: a call has a parenthesis right after its first word. -/
def valueForm : List Lexeme → Form
  | .word _ :: .mark c :: _ => if c = '(' then .callInto else .binary
  | _ => .binary

/-- The form of a statement that has a blank after its first word. -/
def blankForm (w : List Char) : List Lexeme → Form
  | .mark c :: _ => if c = '=' then .assign else if c = '(' then .ifFalse else .ret
  | _ => if w = ['g', 'o', 't', 'o'] then .goto else .ret

/-- Tells the form of a statement by its first lexemes. -/
def formOf : List Lexeme → Form
  | .word w :: .mark c :: xs =>
    if c = ':' then .label
    else if c = '(' then if w = ['p', 'r', 'i', 'n', 't', 'f'] then .print else .call
    else if isTempForm w then valueForm (xs.drop 2)
    else blankForm w xs
  | _ => .ret

theorem valueForm_operand (a : Operand) (xs : List Lexeme) :
    valueForm (operandLexemes a ++ .mark ' ' :: xs) = .binary := by
  cases a with
  | int n => cases hn : n.toInt <;> simp [operandLexemes, intLexemes, hn, valueForm]
  | _ => simp [operandLexemes, valueForm]

theorem blankForm_operand (a : Operand) (xs : List Lexeme) :
    blankForm ['r', 'e', 't', 'u', 'r', 'n'] (operandLexemes a ++ xs) = .ret := by
  cases a with
  | int n => cases hn : n.toInt <;> simp [operandLexemes, intLexemes, hn, blankForm]
  | _ => simp [operandLexemes, blankForm]

theorem formOf_statement {i : Instr} (hi : i.WellNamed) : formOf (statementLexemes i) = form i := by
  cases i with
  | binary op left right result =>
    simp [statementLexemes, assignLexemes, formOf, form, isTempForm_tempName, valueForm_operand]
  | assign target value =>
    have htarget : PlainName target := hi.plain target List.mem_cons_self
    simp [statementLexemes, assignLexemes, formOf, form, htarget.2, blankForm]
  | ifFalse cond label => simp [statementLexemes, formOf, form, isTempForm, blankForm]
  | goto label => simp [statementLexemes, gotoLexemes, formOf, form, isTempForm, blankForm]
  | label label => simp [statementLexemes, formOf, form]
  | ret value => simp [statementLexemes, formOf, form, isTempForm, blankForm_operand]
  | call function args result =>
    have hcalled : function.toList ≠ ['p', 'r', 'i', 'n', 't', 'f'] := by
      intro h
      have hprintf : function = "printf" := String.toList_inj.mp (h.trans (by decide))
      exact hi.called (congrArg some hprintf)
    rw [statementLexemes, form]
    split
    · simp [printLexemes, formOf]
    · cases result with
      | none => simp [resultLexemes, callLexemes, formOf, hcalled]
      | some t => simp [resultLexemes, assignLexemes, callLexemes, formOf, isTempForm_tempName, valueForm]

theorem operatorLexemes_append_inj {op op' : Operator} {xs ys : List Lexeme}
    (h : operatorLexemes op ++ .mark ' ' :: xs = operatorLexemes op' ++ .mark ' ' :: ys) : op = op' ∧ xs = ys := by
  cases op <;> cases op' <;> simp_all [operatorLexemes]

theorem args_eq_of_call {args args' : List Operand} (ha : ∀ a ∈ args, Plain a) (hb : ∀ a ∈ args', Plain a)
    {function function' : String} (h : callLexemes function args = callLexemes function' args') :
    function = function' ∧ args = args' := by
  simp only [callLexemes, List.cons.injEq, Lexeme.word.injEq, true_and] at h
  have hargs := listLexemes_append_inj (fun _ _ _ _ ha hb h => operandLexemes_append_inj ha hb h)
    (fun a xs => head_operand a xs (by decide)) ha hb h.2
  exact ⟨String.toList_inj.mp h.1, hargs.1⟩

theorem form_call_mem (function : String) (args : List Operand) (result : Option Nat) :
    form (.call function args result) ∈ [Form.print, .call, .callInto] := by
  rw [form]
  split
  · decide
  · split <;> decide

/-- Calls with the same lexemes differ at most in the result of one that prints. -/
theorem forgetPrinted_eq_of_call {f g : String} {as bs : List Operand} {r q : Option Nat}
    (hi : (Instr.call f as r).WellNamed) (hj : (Instr.call g bs q).WellNamed)
    (hform : form (.call f as r) = form (.call g bs q))
    (h : statementLexemes (.call f as r) = statementLexemes (.call g bs q)) :
    (Instr.call f as r).forgetPrinted = (Instr.call g bs q).forgetPrinted := by
  simp only [form, statementLexemes, Instr.forgetPrinted] at hform h ⊢
  by_cases hf : f = printName
  · by_cases hg : g = printName
    · simp only [if_pos hf, if_pos hg, printLexemes, List.cons.injEq, true_and] at h ⊢
      have hargs := followLexemes_append_inj (fun _ _ _ _ ha hb h => operandLexemes_append_inj ha hb h)
        (WellNamed.args hi) (WellNamed.args hj) h.2
      rw [hf, hg, hargs.1]
    · simp only [if_pos hf, if_neg hg] at hform
      split at hform <;> cases hform
  · by_cases hg : g = printName
    · simp only [if_neg hf, if_pos hg] at hform
      split at hform <;> cases hform
    · simp only [if_neg hf, if_neg hg] at hform h ⊢
      cases r with
      | none =>
        cases q with
        | none =>
          obtain ⟨rfl, rfl⟩ := args_eq_of_call (WellNamed.args hi) (WellNamed.args hj) h
          rfl
        | some u => cases hform
      | some t =>
        cases q with
        | none => cases hform
        | some u =>
          simp only [resultLexemes, assignLexemes, List.cons.injEq, Lexeme.word.injEq, true_and] at h
          obtain ⟨rfl, rfl⟩ := args_eq_of_call (WellNamed.args hi) (WellNamed.args hj) h.2
          rw [toDigits_injective h.1]

/-- A statement determines its instruction, save for the result of a call that prints. -/
theorem forgetPrinted_eq_of_statement {i j : Instr} (hi : i.WellNamed) (hj : j.WellNamed)
    (h : statement i = statement j) : i.forgetPrinted = j.forgetPrinted := by
  have hlexemes : statementLexemes i = statementLexemes j := by
    apply eq_of_lexemeChars_eq (separated_statement hi) (separated_statement hj)
    rw [← chars_statement, ← chars_statement, h]
  have hform : form i = form j := by
    rw [← formOf_statement hi, ← formOf_statement hj, hlexemes]
  have hplain := hi.plain
  have hplain' := hj.plain
  cases i with
  | call f as r =>
    cases j with
    | call g bs q => exact forgetPrinted_eq_of_call hi hj hform hlexemes
    | _ => exact absurd (hform ▸ form_call_mem f as r) (by simp [form])
  | binary op a b t =>
    cases j with
    | binary op' a' b' t' =>
      simp only [statementLexemes, assignLexemes, List.cons.injEq, Lexeme.word.injEq, true_and] at hlexemes
      obtain ⟨rfl, hop⟩ := operandLexemes_append_inj (fun name hname => hplain name (List.mem_append_left _ hname))
        (fun name hname => hplain' name (List.mem_append_left _ hname)) hlexemes.2
      obtain ⟨rfl, hright⟩ := operatorLexemes_append_inj (List.cons.inj hop).2
      obtain ⟨rfl, -⟩ := operandLexemes_append_inj (fun name hname => hplain name (List.mem_append_right _ hname))
        (fun name hname => hplain' name (List.mem_append_right _ hname)) hright
      rw [toDigits_injective hlexemes.1]
    | call g bs q => exact absurd (hform ▸ form_call_mem g bs q) (by simp [form])
    | _ => cases hform
  | assign x a =>
    cases j with
    | assign y b =>
      simp only [statementLexemes, assignLexemes, List.cons.injEq, Lexeme.word.injEq, true_and] at hlexemes
      obtain ⟨rfl, -⟩ := operandLexemes_append_inj (fun name hname => hplain name (List.mem_cons_of_mem _ hname))
        (fun name hname => hplain' name (List.mem_cons_of_mem _ hname)) hlexemes.2
      rw [String.toList_inj.mp hlexemes.1]
    | call g bs q => exact absurd (hform ▸ form_call_mem g bs q) (by simp [form])
    | _ => cases hform
  | ifFalse a l =>
    cases j with
    | ifFalse b m =>
      simp only [statementLexemes, List.cons.injEq, true_and] at hlexemes
      obtain ⟨rfl, hrest⟩ := operandLexemes_append_inj hplain hplain' hlexemes
      simp only [gotoLexemes, List.cons.injEq, Lexeme.word.injEq, true_and, and_true] at hrest
      rw [toDigits_injective hrest]
    | call g bs q => exact absurd (hform ▸ form_call_mem g bs q) (by simp [form])
    | _ => cases hform
  | goto l =>
    cases j with
    | goto m =>
      simp only [statementLexemes, gotoLexemes, List.cons.injEq, Lexeme.word.injEq, true_and, and_true] at hlexemes
      rw [toDigits_injective hlexemes]
    | call g bs q => exact absurd (hform ▸ form_call_mem g bs q) (by simp [form])
    | _ => cases hform
  | label l =>
    cases j with
    | label m =>
      simp only [statementLexemes, List.cons.injEq, Lexeme.word.injEq, true_and, and_true] at hlexemes
      rw [toDigits_injective hlexemes]
    | call g bs q => exact absurd (hform ▸ form_call_mem g bs q) (by simp [form])
    | _ => cases hform
  | ret a =>
    cases j with
    | ret b =>
      simp only [statementLexemes, List.cons.injEq, true_and] at hlexemes
      rw [(operandLexemes_append_inj hplain hplain' hlexemes).1]
    | call g bs q => exact absurd (hform ▸ form_call_mem g bs q) (by simp [form])
    | _ => cases hform

end Statements

end CSource

end RecursiveFactorial
