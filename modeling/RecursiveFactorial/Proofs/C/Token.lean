import RecursiveFactorial.Text.Utf8

/-!
# Tokens of C

How the text of a C program becomes tokens, in the order of the translation phases: a backslash at the end of a line
joins it to the next one, comments become blanks, and the characters between blanks and inside literals are cut
into tokens. Trigraphs are not replaced. Each phase is a transducer, so a text is read piece by piece.

What is not in the table of punctuators, and any literal with a prefix or a suffix, is refused.
-/
namespace RecursiveFactorial.C

/-- Feeds a list to a step that may refuse, and joins what the steps put out. -/
def transduce {σ α β : Type} (step : σ → α → Option (σ × List β)) : σ → List α → Option (σ × List β)
  | s, [] => some (s, [])
  | s, a :: as => do
    let (s, out) ← step s a
    let (s, rest) ← transduce step s as
    some (s, out ++ rest)

/-- The steps lead from one state to another and put out a list. -/
def Feeds {σ α β : Type} (step : σ → α → Option (σ × List β)) (s : σ) (as : List α) (s' : σ) (out : List β) : Prop :=
  transduce step s as = some (s', out)

instance Feeds.decidable {σ α β : Type} [DecidableEq σ] [DecidableEq β] (step : σ → α → Option (σ × List β)) (s : σ)
    (as : List α) (s' : σ) (out : List β) : Decidable (Feeds step s as s' out) :=
  inferInstanceAs (Decidable (_ = _))

section Feeds

variable {σ α β : Type} {step : σ → α → Option (σ × List β)} {s s' s'' : σ} {as bs : List α} {out out' : List β}

theorem Feeds.nil : Feeds step s [] s [] := rfl

theorem Feeds.cons {a : α} (h : step s a = some (s', out)) (hs : Feeds step s' as s'' out') :
    Feeds step s (a :: as) s'' (out ++ out') := by
  unfold Feeds at *
  simp [transduce, h, hs]

theorem Feeds.single {a : α} (h : step s a = some (s', out)) : Feeds step s [a] s' out := by
  simpa using Feeds.cons h .nil

theorem Feeds.append (h : Feeds step s as s' out) (hs : Feeds step s' bs s'' out') :
    Feeds step s (as ++ bs) s'' (out ++ out') := by
  induction as generalizing s out with
  | nil =>
    unfold Feeds transduce at h
    cases h
    exact hs
  | cons a as ih =>
    unfold Feeds transduce at h
    simp only [Option.bind_eq_bind, Option.bind_eq_some_iff, Option.some.injEq, Prod.mk.injEq] at h
    obtain ⟨⟨mid, first⟩, hfirst, ⟨_, rest⟩, hrest, rfl, rfl⟩ := h
    rw [List.cons_append, List.append_assoc]
    exact .cons hfirst (ih hrest)

/-- What is left to feed after a part that is known. -/
theorem Feeds.drop (h : Feeds step s (as ++ bs) s'' out') (ha : Feeds step s as s' out) :
    ∃ rest, Feeds step s' bs s'' rest ∧ out' = out ++ rest := by
  induction as generalizing s out out' with
  | nil =>
    unfold Feeds transduce at ha
    cases ha
    exact ⟨out', h, rfl⟩
  | cons a as ih =>
    unfold Feeds at h ha
    simp only [List.cons_append, transduce, Option.bind_eq_bind, Option.bind_eq_some_iff, Option.some.injEq,
      Prod.mk.injEq] at h ha
    obtain ⟨⟨mid, first⟩, hfirst, ⟨_, tail⟩, htail, rfl, rfl⟩ := ha
    obtain ⟨_, hfirst', ⟨_, tail'⟩, htail', rfl, rfl⟩ := h
    rw [hfirst] at hfirst'
    cases hfirst'
    obtain ⟨rest, hrest, rfl⟩ := ih htail' htail
    exact ⟨rest, hrest, (List.append_assoc ..).symm⟩

end Feeds

/-- A backslash and the newline after it are dropped. -/
def splice : List Char → List Char
  | '\\' :: '\n' :: cs => splice cs
  | c :: cs => c :: splice cs
  | [] => []

/-- The reserved words and type names in use here, and all other reserved words together. -/
inductive Keyword where
  | int
  | char
  | size
  | const
  | cond
  | goto
  | ret
  | other
  deriving DecidableEq, Repr

inductive Punctuator where
  | openParen
  | closeParen
  | openBracket
  | closeBracket
  | openBrace
  | closeBrace
  | comma
  | semicolon
  | colon
  | hash
  | dot
  | assign
  | equal
  | unequal
  | less
  | greater
  | not
  | and
  | or
  | plus
  | minus
  | star
  deriving DecidableEq, Repr

inductive Token where
  | key (k : Keyword)
  | word (name : String)
  | number (n : Nat)
  | text (octets : Octets)
  | char (b : UInt8)
  | punct (p : Punctuator)
  | newline
  deriving DecidableEq, Repr

def keywords : List (String × Keyword) :=
  [("int", .int), ("char", .char), ("size_t", .size), ("const", .const), ("if", .cond), ("goto", .goto),
    ("return", .ret)] ++
  ["auto", "bool", "break", "case", "continue", "default", "do", "double", "else", "enum", "extern", "float", "for",
    "inline", "long", "register", "restrict", "short", "signed", "sizeof", "static", "struct", "switch", "typedef",
    "union", "unsigned", "void", "volatile", "while"].map fun name => (name, .other)

def wordToken (name : String) : Token :=
  match keywords.lookup name with
  | some k => .key k
  | none => .word name

def single? : Char → Option Punctuator
  | '(' => some .openParen
  | ')' => some .closeParen
  | '[' => some .openBracket
  | ']' => some .closeBracket
  | '\x7b' => some .openBrace
  | '\x7d' => some .closeBrace
  | ',' => some .comma
  | ';' => some .semicolon
  | ':' => some .colon
  | '#' => some .hash
  | '.' => some .dot
  | '=' => some .assign
  | '<' => some .less
  | '>' => some .greater
  | '!' => some .not
  | '+' => some .plus
  | '-' => some .minus
  | '*' => some .star
  | _ => none

/-- The punctuators of two characters, with `none` for those that are refused. -/
def pairs : List (List Char × Option Punctuator) :=
  [(['=', '='], some .equal), (['!', '='], some .unequal), (['&', '&'], some .and), (['|', '|'], some .or)] ++
  ["<=", ">=", "<<", ">>", "<:", "<%", ":>", "++", "--", "+=", "-=", "*=", "->", "##"].map fun p => (p.toList, none)

def isWordStart (c : Char) : Bool :=
  c.isAlpha || c == '_'

def isWordPart (c : Char) : Bool :=
  c.isAlphanum || c == '_'

/-- The value of a digit of a base up to sixteen. -/
def digit? (base : Nat) (c : Char) : Option Nat :=
  let n := if c.isDigit then c.toNat - 48 else if c.isLower then c.toNat - 87 else c.toNat - 55
  if (c.isDigit || ('a' ≤ c && c ≤ 'f') || ('A' ≤ c && c ≤ 'F')) && n < base then some n else none

/-- The octet of an escape sequence of one letter. -/
def simpleEscape? (c : Char) : Option UInt8 :=
  [('\'', 39), ('"', 34), ('?', 63), ('\\', 92), ('a', 7), ('b', 8), ('f', 12), ('n', 10), ('r', 13), ('t', 9),
    ('v', 11)].lookup c

/-- Where inside an escape sequence a literal is. -/
inductive Escape where
  | plain
  | started
  | octal (value digits : Nat)
  | hex (value : Option Nat)
  deriving DecidableEq, Repr

/-- What the characters since the last token are. -/
inductive Mode where
  | blank
  | word (name : List Char)
  | number (n : Nat)
  /-- A character that is a punctuator or starts one. -/
  | punct (c : Char)
  /-- A literal with its closing quote. -/
  | quoted (quote : Char) (octets : Octets) (escape : Escape)
  | slash
  | lineComment
  | blockComment (star : Bool)
  deriving DecidableEq, Repr

/-- A character between tokens. -/
def start (c : Char) : Option (Mode × List Token) :=
  if c = '\n' then some (.blank, [.newline])
  else if c = ' ' ∨ c = '\t' then some (.blank, [])
  else if isWordStart c then some (.word [c], [])
  else if c.isDigit then some (.number (c.toNat - 48), [])
  else if c = '"' ∨ c = '\'' then some (.quoted c [] .plain, [])
  else if c = '/' then some (.slash, [])
  else if (single? c).isSome ∨ c = '&' ∨ c = '|' then some (.punct c, [])
  else none

/-- A token ends in front of a character. -/
def emit (t : Token) (c : Char) : Option (Mode × List Token) := do
  let (mode, ts) ← start c
  some (mode, t :: ts)

/-- The token of a literal; a character constant has one octet. -/
def close? (quote : Char) (octets : Octets) : Option Token :=
  if quote = '"' then some (.text octets)
  else
    match octets with
    | [b] => some (.char b)
    | _ => none

/-- The literal with the octet of a numeric escape, which has to be one octet. -/
def escaped? (octets : Octets) (n : Nat) : Option Octets :=
  if n < 256 then some (octets ++ [UInt8.ofNat n]) else none

/-- A character of a literal outside an escape sequence. -/
def plainStep (quote : Char) (octets : Octets) (c : Char) : Option (Mode × List Token) :=
  if c = '\n' then none
  else if c = quote then (close? quote octets).map fun t => (.blank, [t])
  else if c = '\\' then some (.quoted quote octets .started, [])
  else some (.quoted quote (octets ++ String.utf8EncodeChar c) .plain, [])

/-- A character after a backslash. -/
def escapeStep (quote : Char) (octets : Octets) (c : Char) : Option (Mode × List Token) :=
  match simpleEscape? c, digit? 8 c with
  | some b, _ => some (.quoted quote (octets ++ [b]) .plain, [])
  | none, some d => some (.quoted quote octets (.octal d 1), [])
  | none, none => if c = 'x' then some (.quoted quote octets (.hex none), []) else none

/-- A character of a literal. An octal escape has at most three digits; a hexadecimal one goes on as
long as there are digits. -/
def quotedStep (quote : Char) (octets : Octets) (c : Char) : Escape → Option (Mode × List Token)
  | .plain => plainStep quote octets c
  | .started => escapeStep quote octets c
  | .octal value digits =>
    match digit? 8 c with
    | some d =>
      if digits < 2 then some (.quoted quote octets (.octal (8 * value + d) (digits + 1)), [])
      else (escaped? octets (8 * value + d)).map fun octets => (.quoted quote octets .plain, [])
    | none => do
      let octets ← escaped? octets value
      plainStep quote octets c
  | .hex value =>
    match digit? 16 c with
    | some d => some (.quoted quote octets (.hex (some (16 * value.getD 0 + d))), [])
    | none => do
      let octets ← escaped? octets (← value)
      plainStep quote octets c

def lexStep : Mode → Char → Option (Mode × List Token)
  | .blank, c => start c
  | .word name, c =>
    if isWordPart c then some (.word (name ++ [c]), [])
    else if c = '"' ∨ c = '\'' then none
    else emit (wordToken (String.ofList name)) c
  | .number n, c =>
    if c.isDigit then if n = 0 then none else some (.number (10 * n + (c.toNat - 48)), [])
    else if isWordPart c ∨ c = '.' then none
    else emit (.number n) c
  | .punct p, c =>
    match pairs.lookup [p, c] with
    | some q => q.map fun q => (.blank, [.punct q])
    | none => do emit (.punct (← single? p)) c
  | .quoted quote octets escape, c => quotedStep quote octets c escape
  | .slash, c =>
    if c = '/' then some (.lineComment, [])
    else if c = '*' then some (.blockComment false, [])
    else none
  | .lineComment, c => if c = '\n' then some (.blank, [.newline]) else some (.lineComment, [])
  | .blockComment star, c => if star ∧ c = '/' then some (.blank, []) else some (.blockComment (c == '*'), [])

def tokens? (cs : List Char) : Option (List Token) := do
  let (mode, ts) ← transduce lexStep .blank (splice cs)
  if mode = .blank then some ts else none

/-- The macros defined so far, and the line so far. -/
structure Directives where
  macros : List (String × List Token) := []
  line : List Token := []
  deriving DecidableEq, Repr

def headers : List String :=
  ["stdio", "stdlib", "string", "stdbool"]

def Token.isConstant : Token → Bool
  | .number _ => true
  | .text _ => true
  | .char _ => true
  | _ => false

/-- A directive, given by what follows its hash. The library is not read from its headers, and a
macro stands for constants only, so its replacement needs no further look. -/
def directive? (macros : List (String × List Token)) : List Token → Option (List (String × List Token))
  | [.word kind, .punct .less, .word name, .punct .dot, .word ext, .punct .greater] =>
    if kind = "include" ∧ name ∈ headers ∧ ext = "h" then some macros else none
  | .word kind :: .word name :: replacement =>
    if kind = "define" ∧ replacement.all Token.isConstant then some ((name, replacement) :: macros) else none
  | _ => none

def expand (macros : List (String × List Token)) : Token → List Token
  | .word name => (macros.lookup name).getD [.word name]
  | t => [t]

/-- Takes one token of the text, and puts out what a whole line stands for. -/
def directiveStep (d : Directives) (t : Token) : Option (Directives × List Token) :=
  if t = .newline then
    match d.line with
    | .punct .hash :: rest => (directive? d.macros rest).map fun macros => (⟨macros, []⟩, [])
    | line => some (⟨d.macros, []⟩, line.flatMap (expand d.macros))
  else some (⟨d.macros, d.line ++ [t]⟩, [])

def preprocess? (ts : List Token) : Option (List Token) := do
  let (d, ts) ← transduce directiveStep {} ts
  if d.line = [] then some ts else none

/-- An external declaration so far, and how many braces in it are open. -/
structure Outline where
  depth : Nat := 0
  item : List Token := []
  deriving DecidableEq, Repr

/-- External declarations end with a semicolon or a closing brace outside all others. -/
def outlineStep (o : Outline) (t : Token) : Option (Outline × List (List Token)) :=
  let item := o.item ++ [t]
  match t, o.depth with
  | .punct .openBrace, depth => some (⟨depth + 1, item⟩, [])
  | .punct .closeBrace, 0 => none
  | .punct .closeBrace, 1 => some ({}, [item])
  | .punct .closeBrace, depth + 2 => some (⟨depth + 1, item⟩, [])
  | .punct .semicolon, 0 => some ({}, [item])
  | _, depth => some (⟨depth, item⟩, [])

def Token.isBrace : Token → Bool
  | .punct .openBrace => true
  | .punct .closeBrace => true
  | _ => false

theorem outlineStep_inside (depth : Nat) (item : List Token) {t : Token} (ht : t.isBrace = false) :
    outlineStep ⟨depth + 1, item⟩ t = some (⟨depth + 1, item ++ [t]⟩, []) := by
  cases t with
  | punct p =>
    cases p with
    | openBrace => cases ht
    | closeBrace => cases ht
    | _ => rfl
  | _ => rfl

/-- Inside braces, what holds no brace is a part of the declaration at hand. -/
theorem feeds_inside (depth : Nat) (item : List Token) {ts : List Token} (h : ts.any Token.isBrace = false) :
    Feeds outlineStep ⟨depth + 1, item⟩ ts ⟨depth + 1, item ++ ts⟩ [] := by
  induction ts generalizing item with
  | nil => simpa using Feeds.nil
  | cons t ts ih =>
    simp only [List.any_cons, Bool.or_eq_false_iff] at h
    have hts := ih (item ++ [t]) h.2
    rw [List.append_assoc, List.singleton_append] at hts
    exact .cons (outlineStep_inside depth item h.1) hts

/-- The external declarations of a text, each with its tokens. -/
def items? (ts : List Token) : Option (List (List Token)) := do
  let (o, items) ← transduce outlineStep {} ts
  if o = {} then some items else none

end RecursiveFactorial.C
