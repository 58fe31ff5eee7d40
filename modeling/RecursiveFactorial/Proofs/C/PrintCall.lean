import RecursiveFactorial.Proofs.C.Execution

/-!
# Statements that print

A line is read as one statement by all phases of reading. In a call whose arguments are names, constants and literals,
each argument ends at its comma or at the closing parenthesis, however many there are. A format asks for its arguments
by its conversions, one after another.
-/
namespace RecursiveFactorial.C

/-- An identifier that is no reserved word. -/
def isName (x : String) : Bool :=
  match x.toList with
  | [] => false
  | c :: cs => isWordStart c && cs.all isWordPart && (keywords.lookup x).isNone

/-- Reads a line as one statement. -/
def readStatement? (cs : List Char) : Option Stmt := do
  let ts ← tokens? (cs ++ ['\n'])
  let ts ← preprocess? ts
  match ← stmt? (10 * ts.length) ts with
  | (s, []) => some s
  | _ => none

inductive Conversion where
  | text
  | number
  deriving DecidableEq, Repr

def Conversion.octets : Conversion → Octets
  | .text => [37, 115]
  | .number => [37, 100]

/-- The conversions of a format, `none` if there is one that is not in use here. -/
def conversions? : Octets → Option (List Conversion)
  | [] => some []
  | 37 :: 115 :: fs => (conversions? fs).map (.text :: ·)
  | 37 :: 100 :: fs => (conversions? fs).map (.number :: ·)
  | 37 :: 37 :: fs => conversions? fs
  | b :: fs => if b = 37 then none else conversions? fs

theorem conversions?_octets (k : Conversion) (fs : Octets) :
    conversions? (k.octets ++ fs) = (conversions? fs).map (k :: ·) := by
  cases k with
  | text => rfl
  | number => rfl

/-- An argument is of the kind that a conversion asks for. -/
def Conversion.Takes : Conversion → Value → Prop
  | .text, v => ∃ octets, v = .literal octets
  | .number, v => ∃ n, v = .int n

section Operands

/-- Nothing that ends in front of such a punctuator goes on after it. -/
def Punctuator.isClosing : Punctuator → Bool
  | .comma => true
  | .closeParen => true
  | .semicolon => true
  | _ => false

variable {fuel : Nat} {p : Punctuator} {ts rest : List Token} {e : Expr}

theorem operator?_closing (level : Nat) (hp : p.isClosing = true) : operator? level p = none := by
  fun_cases operator? level p with
  | case10 => rfl
  | _ => cases hp

theorem operands?_closing (level : Nat) (hp : p.isClosing = true) :
    operands? (fuel + 1) level e (.punct p :: rest) = some (e, .punct p :: rest) := by
  rw [operands?, operator?_closing level hp]

theorem subscripts?_closing (hp : p.isClosing = true) :
    subscripts? (fuel + 1) e (.punct p :: rest) = some (e, .punct p :: rest) := by
  cases p with
  | openBracket => cases hp
  | _ => rfl

/-- An operand that is closed after it is an operand of every level. -/
theorem operand?_closing (hp : p.isClosing = true) (h : unary? fuel ts = some (e, .punct p :: rest)) (level : Nat) :
    operand? (fuel + level + 1) level ts = some (e, .punct p :: rest) := by
  induction level with
  | zero => exact h
  | succ level ih =>
    rw [← Nat.add_assoc, operand?, ih]
    exact operands?_closing level hp

theorem expr?_closing (hp : p.isClosing = true) (h : unary? fuel ts = some (e, .punct p :: rest)) :
    expr? (fuel + 8) ts = some (e, .punct p :: rest) := by
  rw [expr?, operand?_closing hp h 6]
  cases p with
  | assign => cases hp
  | _ => rfl

end Operands

section Arguments

/-- Tokens that are read as an argument by themselves. -/
structure IsArgument (ts : List Token) (e : Expr) : Prop where
  line : .newline ∉ ts
  head : ∃ t us, ts = t :: us ∧ t ≠ .punct .closeParen
  closing (k : Nat) {p : Punctuator} (rest : List Token) : p.isClosing = true →
    unary? (k + 2) (ts ++ .punct p :: rest) = some (e, .punct p :: rest)

theorem IsArgument.name (x : String) : IsArgument [.word x] (.name x) where
  line := by simp
  head := ⟨_, _, rfl, by simp⟩
  closing k p rest hp := by
    have hname : unary? (k + 2) (.word x :: .punct p :: rest) = subscripts? (k + 1) (.name x) (.punct p :: rest) := by
      cases p with
      | openParen => cases hp
      | _ => rfl
    rw [List.singleton_append, hname, subscripts?_closing hp]

theorem IsArgument.text (octets : Octets) : IsArgument [.text octets] (.text octets) where
  line := by simp
  head := ⟨_, _, rfl, by simp⟩
  closing _ _ _ hp := subscripts?_closing hp

theorem IsArgument.number (n : Nat) : IsArgument [.number n] (.number n) where
  line := by simp
  head := ⟨_, _, rfl, by simp⟩
  closing _ _ _ _ := rfl

theorem IsArgument.negative (n : Nat) : IsArgument [.punct .minus, .number n] (.unary .negate (.number n)) where
  line := by simp
  head := ⟨_, _, rfl, by simp⟩
  closing _ _ _ _ := rfl

variable {α : Type} {tokens : α → List Token} {expr : α → Expr}

/-- Arguments with a comma between them. -/
def listTokens (tokens : α → List Token) (as : List α) : List Token :=
  [Token.punct .comma].intercalate (as.map tokens)

theorem listTokens_singleton (a : α) : listTokens tokens [a] = tokens a := by
  simp [listTokens]

theorem listTokens_cons_cons (a b : α) (as : List α) :
    listTokens tokens (a :: b :: as) = tokens a ++ .punct .comma :: listTokens tokens (b :: as) := by
  simp [listTokens, List.intercalate_cons_cons]

theorem args?_of_expr? {fuel : Nat} {ts rest : List Token} {e : Expr} (hts : ts.head? ≠ some (.punct .closeParen))
    (h : expr? fuel ts = some (e, .punct .closeParen :: rest)) : args? (fuel + 1) ts = some (.cons e .nil, rest) := by
  rw [args?, h]
  · rfl
  · rintro us rfl
    exact hts rfl

theorem args?_cons {fuel : Nat} {ts rest us : List Token} {e : Expr} {args : Args}
    (hts : ts.head? ≠ some (.punct .closeParen)) (hrest : rest.head? ≠ some (.punct .closeParen))
    (h : expr? fuel ts = some (e, .punct .comma :: rest)) (hargs : args? fuel rest = some (args, us)) :
    args? (fuel + 1) ts = some (.cons e args, us) := by
  rw [args?, h]
  · simp only [Option.bind_eq_bind, Option.bind_some]
    split
    · rename_i heq
      cases heq
      exact absurd rfl hrest
    · rename_i heq
      cases heq
      rw [hargs, Option.bind_some]
    · rename_i hcomma
      exact absurd rfl (hcomma rest)
  · rintro us rfl
    exact hts rfl

theorem IsArgument.head_ne {ts : List Token} {e : Expr} (h : IsArgument ts e) (us : List Token) :
    (ts ++ us).head? ≠ some (.punct .closeParen) := by
  obtain ⟨t, ts, rfl, ht⟩ := h.head
  simpa using ht

/-- A list of arguments is read up to its closing parenthesis. -/
theorem args?_listTokens (k : Nat) (a : α) (as : List α) (h : ∀ b ∈ a :: as, IsArgument (tokens b) (expr b))
    (rest : List Token) :
    args? (k + as.length + 11) (listTokens tokens (a :: as) ++ .punct .closeParen :: rest) =
      some (.ofList ((a :: as).map expr), rest) := by
  induction as generalizing a with
  | nil =>
    have ha := h a List.mem_cons_self
    rw [listTokens_singleton]
    exact args?_of_expr? (ha.head_ne _) (expr?_closing rfl (ha.closing k rest rfl))
  | cons b bs ih =>
    have ha := h a List.mem_cons_self
    have hb := h b (List.mem_cons_of_mem a List.mem_cons_self)
    have hargs := ih b fun c hc => h c (List.mem_cons_of_mem a hc)
    have hhead : (listTokens tokens (b :: bs) ++ .punct .closeParen :: rest).head? ≠ some (.punct .closeParen) := by
      cases bs with
      | nil =>
        rw [listTokens_singleton]
        exact hb.head_ne _
      | cons c cs =>
        rw [listTokens_cons_cons, List.append_assoc]
        exact hb.head_ne _
    rw [listTokens_cons_cons, List.append_assoc, List.cons_append]
    exact args?_cons (ha.head_ne _) hhead (expr?_closing rfl (ha.closing (k + bs.length + 1) _ rfl)) hargs

/-- A call and a semicolon, given what stands between the parentheses. -/
def callStatement (f : String) (args : List Token) : List Token :=
  .word f :: .punct .openParen :: (args ++ [.punct .closeParen, .punct .semicolon])

theorem stmt?_call (k : Nat) (f : String) (a : α) (as : List α) (h : ∀ b ∈ a :: as, IsArgument (tokens b) (expr b)) :
    stmt? (k + as.length + 21) (callStatement f (listTokens tokens (a :: as))) =
      some (.expr (.call f (.ofList ((a :: as).map expr))), []) := by
  have hargs := args?_listTokens k a as h [.punct .semicolon]
  have hcall : unary? (k + as.length + 12) (callStatement f (listTokens tokens (a :: as))) =
      some (.call f (.ofList ((a :: as).map expr)), [.punct .semicolon]) := by
    rw [callStatement, unary?, hargs]
    exact subscripts?_closing rfl
  have hstmt (fuel : Nat) (args : List Token) :
      stmt? (fuel + 1) (callStatement f args) =
        (expr? fuel (callStatement f args)).bind fun r =>
          (expect? .semicolon r.2).bind fun us => some (.expr r.1, us) := rfl
  rw [hstmt, expr?_closing rfl hcall]
  rfl

theorem newline_not_mem_listTokens {a : α} {as : List α} (h : ∀ b ∈ a :: as, .newline ∉ tokens b) :
    .newline ∉ listTokens tokens (a :: as) := by
  induction as generalizing a with
  | nil =>
    rw [listTokens_singleton]
    exact h a List.mem_cons_self
  | cons b bs ih =>
    have hrest := ih fun c hc => h c (List.mem_cons_of_mem a hc)
    rw [listTokens_cons_cons]
    simp [h a List.mem_cons_self, hrest]

theorem length_le_listTokens (tokens : α → List Token) (a : α) (as : List α) :
    as.length ≤ (listTokens tokens (a :: as)).length := by
  induction as generalizing a with
  | nil => exact Nat.zero_le _
  | cons b bs ih =>
    have hrest := ih b
    rw [listTokens_cons_cons]
    simp only [List.length_append, List.length_cons]
    omega

end Arguments

section Lines

theorem feeds_line (macros : List (String × List Token)) (line : List Token) {ts : List Token} (h : .newline ∉ ts) :
    Feeds directiveStep ⟨macros, line⟩ ts ⟨macros, line ++ ts⟩ [] := by
  induction ts generalizing line with
  | nil => simpa using Feeds.nil
  | cons t ts ih =>
    simp only [List.mem_cons, not_or] at h
    have hts := ih (line ++ [t]) h.2
    have hstep : directiveStep ⟨macros, line⟩ t = some (⟨macros, line ++ [t]⟩, []) := if_neg (Ne.symm h.1)
    rw [List.append_assoc, List.singleton_append] at hts
    exact .cons hstep hts

/-- Without macros, a line that is no directive stands for its tokens. -/
theorem directiveStep_newline {ts : List Token} (hhash : ts.head? ≠ some (.punct .hash)) :
    directiveStep ⟨[], ts⟩ .newline = some ({}, ts) := by
  have hexpand : expand [] = fun t => [t] := by
    funext t
    cases t <;> rfl
  rw [directiveStep, if_pos rfl]
  split
  · rename_i rest hts
    exact absurd (congrArg List.head? hts) hhash
  · rw [hexpand, List.flatMap_singleton']

theorem preprocess?_line {ts : List Token} (hline : .newline ∉ ts) (hhash : ts.head? ≠ some (.punct .hash)) :
    preprocess? (ts ++ [.newline]) = some ts := by
  have hfeeds := (feeds_line [] [] hline).append (.single (directiveStep_newline hhash))
  unfold Feeds at hfeeds
  rw [preprocess?, hfeeds]
  simp

variable {α : Type} {tokens : α → List Token} {expr : α → Expr}

/-- A line with the tokens of a call is read as that call. -/
theorem readStatement?_call {cs : List Char} {f : String} {a : α} {as : List α}
    (h : ∀ b ∈ a :: as, IsArgument (tokens b) (expr b))
    (hcs : tokens? (cs ++ ['\n']) = some (callStatement f (listTokens tokens (a :: as)) ++ [.newline])) :
    readStatement? cs = some (.expr (.call f (.ofList ((a :: as).map expr)))) := by
  have hnewline := newline_not_mem_listTokens fun b hb => (h b hb).line
  have hline : .newline ∉ callStatement f (listTokens tokens (a :: as)) := by simp [callStatement, hnewline]
  have hlength := length_le_listTokens tokens a as
  obtain ⟨k, hk⟩ : ∃ k, 10 * (callStatement f (listTokens tokens (a :: as))).length = k + as.length + 21 := by
    refine ⟨10 * (listTokens tokens (a :: as)).length - as.length + 19, ?_⟩
    simp only [callStatement, List.length_cons, List.length_append, List.length_nil]
    omega
  rw [readStatement?, hcs]
  simp only [Option.bind_eq_bind, Option.bind_some]
  rw [preprocess?_line hline (by simp [callStatement]), Option.bind_some, hk, stmt?_call k f a as h]
  rfl

end Lines

end RecursiveFactorial.C
