import RecursiveFactorial.Proofs.C.Token

/-!
# The grammar of C

Programs of the part of C that is in use here: objects of type `int`, `size_t` and pointer to `char`, external arrays
of `char`, functions, and the statements and operators that the emitted programs are made of. Parsing is by
recursive descent with one level for each precedence of the binary operators. Each call spends one unit of fuel,
and a declaration has fuel in proportion to its tokens.
-/
namespace RecursiveFactorial.C

/-- The types of objects that have a name. A pointer always points to `char`. -/
inductive CType where
  | int
  | size
  | pointer
  /-- An external array of `char`. -/
  | array
  deriving DecidableEq, Repr

inductive Unary where
  | not
  | negate
  deriving DecidableEq, Repr

/-- The operators that evaluate both operands. -/
inductive Binary where
  | add
  | sub
  | mul
  | equal
  | unequal
  | less
  | greater
  deriving DecidableEq, Repr

mutual

inductive Expr where
  | number (n : Nat)
  | char (b : UInt8)
  | text (octets : Octets)
  | name (x : String)
  | call (f : String) (args : Args)
  | index (base i : Expr)
  | cast (t : CType) (e : Expr)
  | unary (op : Unary) (e : Expr)
  | binary (op : Binary) (left right : Expr)
  | and (left right : Expr)
  | or (left right : Expr)
  | assign (target value : Expr)
  deriving DecidableEq, Repr

inductive Args where
  | nil
  | cons (e : Expr) (rest : Args)
  deriving DecidableEq, Repr

end

mutual

inductive Stmt where
  | empty
  | expr (e : Expr)
  | declare (t : CType) (x : String) (value : Expr)
  | cond (e : Expr) (body : Stmt)
  | ret (value : Expr)
  | goto (label : String)
  | labeled (label : String) (s : Stmt)
  | block (b : Block)
  deriving DecidableEq, Repr

inductive Block where
  | nil
  | cons (s : Stmt) (rest : Block)
  deriving DecidableEq, Repr

end

structure Function where
  result : CType
  name : String
  params : List (String × CType)
  body : Block
  deriving DecidableEq, Repr

inductive Item where
  | object (t : CType) (x : String)
  | buffer (x : String) (size : Nat)
  | prototype (result : CType) (name : String) (params : List (String × CType))
  | function (f : Function)
  deriving DecidableEq, Repr

abbrev Program := List Item

/-- A type in front of a name. -/
def type? : List Token → Option (CType × List Token)
  | .key .int :: ts => some (.int, ts)
  | .key .size :: ts => some (.size, ts)
  | .key .char :: .punct .star :: ts => some (.pointer, ts)
  | .key .const :: .key .char :: .punct .star :: ts => some (.pointer, ts)
  | _ => none

/-- Drops a punctuator that has to be there. -/
def expect? (p : Punctuator) : List Token → Option (List Token)
  | t :: ts => if t = .punct p then some ts else none
  | [] => none

/-- The binary operators of a level; a lower level binds closer. -/
def operator? : Nat → Punctuator → Option (Expr → Expr → Expr)
  | 0, .star => some (.binary .mul)
  | 1, .plus => some (.binary .add)
  | 1, .minus => some (.binary .sub)
  | 2, .less => some (.binary .less)
  | 2, .greater => some (.binary .greater)
  | 3, .equal => some (.binary .equal)
  | 3, .unequal => some (.binary .unequal)
  | 4, .and => some .and
  | 5, .or => some .or
  | _, _ => none

mutual

/-- An assignment expression. -/
def expr? : Nat → List Token → Option (Expr × List Token)
  | 0, _ => none
  | fuel + 1, ts => do
    let (e, ts) ← operand? fuel 6 ts
    match ts with
    | .punct .assign :: ts => do
      let (value, ts) ← expr? fuel ts
      some (.assign e value, ts)
    | ts => some (e, ts)

/-- An operand of the binary operators of a level, which holds operators of lower levels only. -/
def operand? : Nat → Nat → List Token → Option (Expr × List Token)
  | 0, _, _ => none
  | fuel + 1, 0, ts => unary? fuel ts
  | fuel + 1, level + 1, ts => do
    let (e, ts) ← operand? fuel level ts
    operands? fuel level e ts

/-- What follows the first operand of a level; operators associate to the left. -/
def operands? : Nat → Nat → Expr → List Token → Option (Expr × List Token)
  | 0, _, _, _ => none
  | fuel + 1, level, e, ts =>
    match ts with
    | .punct p :: rest =>
      match operator? level p with
      | some op => do
        let (e', ts) ← operand? fuel level rest
        operands? fuel level (op e e') ts
      | none => some (e, ts)
    | ts => some (e, ts)

/-- An operand with its casts and unary operators. -/
def unary? : Nat → List Token → Option (Expr × List Token)
  | 0, _ => none
  | fuel + 1, .punct .not :: ts => do
    let (e, ts) ← unary? fuel ts
    some (.unary .not e, ts)
  | fuel + 1, .punct .minus :: ts => do
    let (e, ts) ← unary? fuel ts
    some (.unary .negate e, ts)
  | fuel + 1, .punct .openParen :: ts =>
    match type? ts with
    | some (t, ts) => do
      let ts ← expect? .closeParen ts
      let (e, ts) ← unary? fuel ts
      some (.cast t e, ts)
    | none => do
      let (e, ts) ← expr? fuel ts
      let ts ← expect? .closeParen ts
      subscripts? fuel e ts
  | _ + 1, .number n :: ts => some (.number n, ts)
  | _ + 1, .char b :: ts => some (.char b, ts)
  | fuel + 1, .text octets :: ts => subscripts? fuel (.text octets) ts
  | fuel + 1, .word f :: .punct .openParen :: ts => do
    let (args, ts) ← args? fuel ts
    subscripts? fuel (.call f args) ts
  | fuel + 1, .word x :: ts => subscripts? fuel (.name x) ts
  | _, _ => none

def subscripts? : Nat → Expr → List Token → Option (Expr × List Token)
  | 0, _, _ => none
  | fuel + 1, e, .punct .openBracket :: ts => do
    let (i, ts) ← expr? fuel ts
    let ts ← expect? .closeBracket ts
    subscripts? fuel (.index e i) ts
  | _ + 1, e, ts => some (e, ts)

/-- Arguments up to the closing parenthesis. -/
def args? : Nat → List Token → Option (Args × List Token)
  | 0, _ => none
  | _ + 1, .punct .closeParen :: ts => some (.nil, ts)
  | fuel + 1, ts => do
    let (e, ts) ← expr? fuel ts
    match ts with
    | .punct .comma :: .punct .closeParen :: _ => none
    | .punct .comma :: ts => do
      let (rest, ts) ← args? fuel ts
      some (.cons e rest, ts)
    | ts => do
      let ts ← expect? .closeParen ts
      some (.cons e .nil, ts)

end

mutual

def stmt? : Nat → List Token → Option (Stmt × List Token)
  | 0, _ => none
  | _ + 1, .punct .semicolon :: ts => some (.empty, ts)
  | fuel + 1, .punct .openBrace :: ts => do
    let (b, ts) ← block? fuel ts
    some (.block b, ts)
  | fuel + 1, .key .cond :: .punct .openParen :: ts => do
    let (e, ts) ← expr? fuel ts
    let ts ← expect? .closeParen ts
    let (s, ts) ← stmt? fuel ts
    some (.cond e s, ts)
  | fuel + 1, .key .ret :: ts => do
    let (e, ts) ← expr? fuel ts
    let ts ← expect? .semicolon ts
    some (.ret e, ts)
  | _ + 1, .key .goto :: .word label :: .punct .semicolon :: ts => some (.goto label, ts)
  | fuel + 1, .word label :: .punct .colon :: ts => do
    let (s, ts) ← stmt? fuel ts
    some (.labeled label s, ts)
  | fuel + 1, ts => do
    let (e, ts) ← expr? fuel ts
    let ts ← expect? .semicolon ts
    some (.expr e, ts)

/-- Declarations and statements up to the closing brace. -/
def block? : Nat → List Token → Option (Block × List Token)
  | 0, _ => none
  | _ + 1, .punct .closeBrace :: ts => some (.nil, ts)
  | fuel + 1, ts => do
    let (s, ts) ←
      match type? ts with
      | some (t, .word x :: .punct .assign :: ts) => do
        let (e, ts) ← expr? fuel ts
        let ts ← expect? .semicolon ts
        some (Stmt.declare t x e, ts)
      | some _ => none
      | none => stmt? fuel ts
    let (rest, ts) ← block? fuel ts
    some (.cons s rest, ts)

end

/-- Parameters up to the closing parenthesis, the first one after a comma or the opening one. -/
def params? : Nat → List Token → Option (List (String × CType) × List Token)
  | 0, _ => none
  | fuel + 1, ts => do
    match ← type? ts with
    | (t, .word x :: .punct .comma :: ts) => do
      let (params, ts) ← params? fuel ts
      some ((x, t) :: params, ts)
    | (t, .word x :: .punct .closeParen :: ts) => some ([(x, t)], ts)
    | _ => none

/-- A function's parameters, of which there may be none, and its body or a semicolon. -/
def function? (fuel : Nat) (result : CType) (name : String) (ts : List Token) : Option Item := do
  let (params, ts) ←
    match ts with
    | .punct .closeParen :: ts => some ([], ts)
    | ts => params? fuel ts
  match ts with
  | [.punct .semicolon] => some (.prototype result name params)
  | .punct .openBrace :: ts =>
    match ← block? fuel ts with
    | (body, []) => some (.function ⟨result, name, params, body⟩)
    | _ => none
  | _ => none

def item? (ts : List Token) : Option Item :=
  match ts with
  | [.key .char, .word x, .punct .openBracket, .number size, .punct .closeBracket, .punct .semicolon] =>
    some (.buffer x size)
  | ts => do
    match ← type? ts with
    | (t, [.word x, .punct .semicolon]) => some (.object t x)
    | (t, .word f :: .punct .openParen :: rest) => function? (10 * ts.length) t f rest
    | _ => none

def read? (cs : List Char) : Option Program := do
  let ts ← tokens? cs
  let ts ← preprocess? ts
  let items ← items? ts
  items.mapM item?

end RecursiveFactorial.C
