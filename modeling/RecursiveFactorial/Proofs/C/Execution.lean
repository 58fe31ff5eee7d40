import RecursiveFactorial.Proofs.C.Library

/-!
# Running C

The meaning of a program, defined where the program ends without undefined behaviour. Operands are evaluated from left
to right. The stack has no bound: a call is followed to any depth and through any number of jumps, and what it comes to
does not depend on the depth that is looked at.

A local name is known from its declaration to the end of its block. A jump leaves every block but the outermost one
of its function and goes to a label there, provided that just the names declared in front of the
label are known.
-/
namespace RecursiveFactorial.C

@[simp] def Args.ofList : List Expr → Args
  | [] => .nil
  | e :: es => .cons e (.ofList es)

@[simp] def Block.ofList : List Stmt → Block
  | [] => .nil
  | s :: ss => .cons s (.ofList ss)

def Program.function? (p : Program) (name : String) : Option Function :=
  p.findSome? fun
    | .function f => if f.name = name then some f else none
    | _ => none

/-- The statements from a label on, and the number of declarations in front of it. -/
@[simp] def Block.from? (label : String) : Block → Option (Nat × Block)
  | .nil => none
  | .cons (.labeled l s) rest => if l = label then some (0, .cons s rest) else rest.from? label
  | .cons (.declare _ _ _) rest => (rest.from? label).map fun (n, b) => (n + 1, b)
  | .cons _ rest => rest.from? label

/-- Replaces the first object of a name, which keeps its type. -/
@[simp] def Scope.assign? (x : String) (v : Value) : Scope → Option Scope
  | [] => none
  | (y, o) :: rest =>
    if y = x then (convert? o.type v).map fun w => (y, { o with value := w }) :: rest
    else (Scope.assign? x v rest).map ((y, o) :: ·)

namespace State

/-- The value of a name. -/
@[simp] def value? (s : State) (x : String) : Option Value :=
  match s.locals.lookup x, s.globals.lookup x with
  | some o, _ => some o.value
  | none, some o => some o.value
  | none, none => constants.lookup x

/-- Assigns to a name. -/
@[simp] def assign? (s : State) (x : String) (v : Value) : Option State :=
  if (s.locals.lookup x).isSome then (Scope.assign? x v s.locals).map fun locals => { s with locals }
  else (Scope.assign? x v s.globals).map fun globals => { s with globals }

/-- Adds a local name. -/
@[simp] def declare? (s : State) (t : CType) (x : String) (v : Value) : Option State :=
  (convert? t v).map fun w => { s with locals := (x, ⟨t, w⟩) :: s.locals }

/-- Forgets all local names but the first `n` ones. -/
def leave (s : State) (n : Nat) : State :=
  { s with locals := s.locals.drop (s.locals.length - n) }

end State

/-- The parameters of a function as its first local names. -/
@[simp] def bind? : List (String × CType) → List Value → Option Scope
  | [], [] => some []
  | (x, t) :: params, v :: vs => do
    let w ← convert? t v
    some ((x, ⟨t, w⟩) :: (← bind? params vs))
  | _, _ => none

/-- How a statement ends. -/
inductive Outcome where
  | next
  | ret (v : Value)
  | jump (label : String)
  deriving DecidableEq, Repr

/-- What a call of a function by its name comes to. -/
abbrev Calls := State → String → List Value → Option (Value × State)

mutual

def eval (c : Calls) (s : State) (e : Expr) : Option (Value × State) :=
  match e with
  | .number n => if n < 2147483648 then some (.int (Int32.ofNat n), s) else none
  | .char b => some (.int (promote b), s)
  | .text octets => some (.literal octets, s)
  | .name x => do some (← s.value? x, s)
  | .call f args => do
    let (vs, s) ← evalArgs c s args
    c s f vs
  | .index base i => do
    let (v, s) ← eval c s base
    let (i, s) ← eval c s i
    match v with
    | .place block offset => do some (.int (promote (← s.memory.load? block (offset + (← i.subscript?)))), s)
    | _ => none
  | .cast t e => do
    let (v, s) ← eval c s e
    some (← convert? t v, s)
  | .unary op e => do
    let (v, s) ← eval c s e
    some (← op.compute? v, s)
  | .binary op left right => do
    let (v, s) ← eval c s left
    let (w, s) ← eval c s right
    some (← op.compute? v w, s)
  | .and left right => do
    let (v, s) ← eval c s left
    if ← v.isTrue? then do
      let (w, s) ← eval c s right
      some (truth (← w.isTrue?), s)
    else some (truth false, s)
  | .or left right => do
    let (v, s) ← eval c s left
    if ← v.isTrue? then some (truth true, s)
    else do
      let (w, s) ← eval c s right
      some (truth (← w.isTrue?), s)
  | .assign (.name x) value => do
    let (v, s) ← eval c s value
    let s ← s.assign? x v
    some (← s.value? x, s)
  | .assign (.index base i) value => do
    let (b, s) ← eval c s base
    let (i, s) ← eval c s i
    match b, ← eval c s value with
    | .place block offset, (.int n, s) => do
      let octet := n.toInt8.toUInt8
      let memory ← s.memory.store? block (offset + (← i.subscript?)) [octet]
      some (.int (promote octet), { s with memory })
    | _, _ => none
  | .assign _ _ => none

def evalArgs (c : Calls) (s : State) (args : Args) : Option (List Value × State) :=
  match args with
  | .nil => some ([], s)
  | .cons e rest => do
    let (v, s) ← eval c s e
    let (vs, s) ← evalArgs c s rest
    some (v :: vs, s)

end

mutual

def exec (c : Calls) (s : State) (stmt : Stmt) : Option (Outcome × State) :=
  match stmt with
  | .empty => some (.next, s)
  | .expr e => do
    let (_, s) ← eval c s e
    some (.next, s)
  | .declare t x value => do
    let (v, s) ← eval c s value
    some (.next, ← s.declare? t x v)
  | .cond e body => do
    let (v, s) ← eval c s e
    if ← v.isTrue? then exec c s body else some (.next, s)
  | .ret value => do
    let (v, s) ← eval c s value
    some (.ret v, s)
  | .goto label => some (.jump label, s)
  | .labeled _ stmt => exec c s stmt
  | .block b => do
    let (outcome, s') ← execBlock c s b
    some (outcome, s'.leave s.locals.length)

def execBlock (c : Calls) (s : State) (b : Block) : Option (Outcome × State) :=
  match b with
  | .nil => some (.next, s)
  | .cons stmt rest => do
    match ← exec c s stmt with
    | (.next, s) => execBlock c s rest
    | ended => some ended

end

/-- Runs the body of `f` from some statement on, through fewer than `n` jumps, to a value that it returns. -/
def runBody (c : Calls) (f : Function) : Nat → State → Block → Option (Value × State)
  | 0, _, _ => none
  | n + 1, s, b => do
    match ← execBlock c s b with
    | (.next, _) => none
    | (.ret v, s) => some (← convert? f.result v, s)
    | (.jump label, s) => do
      let (k, b) ← f.body.from? label
      if s.locals.length = f.params.length + k then runBody c f n s b else none

/-- Calls a function of the program or of the library, less than `n` calls deep. -/
def call (p : Program) : Nat → Calls
  | 0, _, _, _ => none
  | n + 1, s, name, vs =>
    match p.function? name with
    | some f => do
      let locals ← bind? f.params vs
      let (v, s') ← runBody (call p n) f (n + 1) { s with locals } f.body
      some (v, { s' with locals := s.locals })
    | none => do (← library.lookup name) s vs

/-- The value of an object that has no initial value of its own. -/
def CType.zero : CType → Value
  | .int => .int 0
  | .size => .size 0
  | .pointer => .null
  | .array => .void

/-- The objects of an external declaration. -/
def State.define (s : State) : Item → State
  | .object t x => { s with globals := (x, ⟨t, t.zero⟩) :: s.globals }
  | .buffer x size =>
    { s with
      globals := (x, ⟨.array, .place s.memory.length 0⟩) :: s.globals
      memory := s.memory ++ [some (List.replicate size (some 0))] }
  | _ => s

/-- The state in which a program starts. -/
def Program.start (p : Program) (input : Octets) : State :=
  p.foldl State.define { input }

/-- The program ends in a state. -/
def Program.Runs (p : Program) (input : Octets) (s : State) : Prop :=
  ∃ n v, call p n (p.start input) "main" [] = some (v, s)

section Equations

variable (c : Calls) (s : State)

@[simp] theorem eval_number (n : Nat) :
    eval c s (.number n) = if n < 2147483648 then some (.int (Int32.ofNat n), s) else none := rfl

@[simp] theorem eval_char (b : UInt8) : eval c s (.char b) = some (.int (promote b), s) := rfl

@[simp] theorem eval_text (octets : Octets) : eval c s (.text octets) = some (.literal octets, s) := rfl

@[simp] theorem eval_name (x : String) : eval c s (.name x) = (s.value? x).bind fun v => some (v, s) := rfl

@[simp] theorem eval_call (f : String) (args : Args) :
    eval c s (.call f args) = (evalArgs c s args).bind fun r => c r.2 f r.1 := rfl

@[simp] theorem eval_cast (t : CType) (e : Expr) :
    eval c s (.cast t e) = (eval c s e).bind fun r => (convert? t r.1).bind fun v => some (v, r.2) := rfl

@[simp] theorem eval_unary (op : Unary) (e : Expr) :
    eval c s (.unary op e) = (eval c s e).bind fun r => (op.compute? r.1).bind fun v => some (v, r.2) := rfl

@[simp] theorem eval_binary (op : Binary) (left right : Expr) :
    eval c s (.binary op left right) =
      (eval c s left).bind fun r => (eval c r.2 right).bind fun r' =>
        (op.compute? r.1 r'.1).bind fun v => some (v, r'.2) := rfl

@[simp] theorem eval_index (base i : Expr) :
    eval c s (.index base i) =
      (eval c s base).bind fun r => (eval c r.2 i).bind fun r' =>
        match r.1 with
        | .place block offset =>
          r'.1.subscript?.bind fun k => (r'.2.memory.load? block (offset + k)).bind fun b =>
            some (.int (promote b), r'.2)
        | _ => none := rfl

@[simp] theorem eval_and (left right : Expr) :
    eval c s (.and left right) =
      (eval c s left).bind fun r => r.1.isTrue?.bind fun b =>
        if b then (eval c r.2 right).bind fun r' => r'.1.isTrue?.bind fun b' => some (truth b', r'.2)
        else some (truth false, r.2) := rfl

@[simp] theorem eval_or (left right : Expr) :
    eval c s (.or left right) =
      (eval c s left).bind fun r => r.1.isTrue?.bind fun b =>
        if b then some (truth true, r.2)
        else (eval c r.2 right).bind fun r' => r'.1.isTrue?.bind fun b' => some (truth b', r'.2) := rfl

@[simp] theorem eval_assign_name (x : String) (value : Expr) :
    eval c s (.assign (.name x) value) =
      (eval c s value).bind fun r => (r.2.assign? x r.1).bind fun s' =>
        (s'.value? x).bind fun v => some (v, s') := rfl

@[simp] theorem eval_assign_index (base i value : Expr) :
    eval c s (.assign (.index base i) value) =
      (eval c s base).bind fun r => (eval c r.2 i).bind fun r' => (eval c r'.2 value).bind fun r'' =>
        match r.1, r'' with
        | .place block offset, (.int n, s) =>
          r'.1.subscript?.bind fun k => (s.memory.store? block (offset + k) [n.toInt8.toUInt8]).bind fun memory =>
            some (.int (promote n.toInt8.toUInt8), { s with memory })
        | _, _ => none := rfl

@[simp] theorem evalArgs_nil : evalArgs c s .nil = some ([], s) := rfl

@[simp] theorem evalArgs_cons (e : Expr) (rest : Args) :
    evalArgs c s (.cons e rest) =
      (eval c s e).bind fun r => (evalArgs c r.2 rest).bind fun r' => some (r.1 :: r'.1, r'.2) := rfl

@[simp] theorem exec_empty : exec c s .empty = some (.next, s) := rfl

@[simp] theorem exec_expr (e : Expr) : exec c s (.expr e) = (eval c s e).bind fun r => some (.next, r.2) := rfl

@[simp] theorem exec_declare (t : CType) (x : String) (value : Expr) :
    exec c s (.declare t x value) =
      (eval c s value).bind fun r => (r.2.declare? t x r.1).bind fun s' => some (.next, s') := rfl

@[simp] theorem exec_cond (e : Expr) (body : Stmt) :
    exec c s (.cond e body) =
      (eval c s e).bind fun r => r.1.isTrue?.bind fun b => if b then exec c r.2 body else some (.next, r.2) := rfl

@[simp] theorem exec_ret (value : Expr) :
    exec c s (.ret value) = (eval c s value).bind fun r => some (.ret r.1, r.2) := rfl

@[simp] theorem exec_goto (label : String) : exec c s (.goto label) = some (.jump label, s) := rfl

@[simp] theorem exec_labeled (label : String) (stmt : Stmt) : exec c s (.labeled label stmt) = exec c s stmt := rfl

@[simp] theorem exec_block (b : Block) :
    exec c s (.block b) = (execBlock c s b).bind fun r => some (r.1, r.2.leave s.locals.length) := rfl

@[simp] theorem execBlock_nil : execBlock c s .nil = some (.next, s) := rfl

@[simp] theorem execBlock_cons (stmt : Stmt) (rest : Block) :
    execBlock c s (.cons stmt rest) =
      (exec c s stmt).bind fun r =>
        match r with
        | (.next, s) => execBlock c s rest
        | ended => some ended := rfl

end Equations

section Steps

variable {p : Program} {c : Calls} {f : Function} {name : String} {s s' s'' : State} {stmt : Stmt} {b b' : Block}
  {v w : Value}

theorem eval_call_of_args {g : String} {args : Args} {vs : List Value} (h : evalArgs c s args = some (vs, s')) :
    eval c s (.call g args) = c s' g vs := by
  rw [eval_call, h, Option.bind_some]

theorem eval_assign_of_eval {x : String} {e : Expr} (h : eval c s e = some (v, s'))
    (hassign : s'.assign? x v = some s'') (hvalue : s''.value? x = some w) :
    eval c s (.assign (.name x) e) = some (w, s'') := by
  rw [eval_assign_name, h, Option.bind_some, hassign, Option.bind_some, hvalue, Option.bind_some]

theorem isTrue?_truth (t : Bool) : (truth t).isTrue? = some t := by
  cases t <;> rfl

theorem eval_and_of_true {left right : Expr} {t : Bool} (hleft : eval c s left = some (truth true, s'))
    (hright : eval c s' right = some (truth t, s'')) : eval c s (.and left right) = some (truth t, s'') := by
  rw [eval_and, hleft, Option.bind_some, isTrue?_truth, Option.bind_some, if_pos rfl, hright, Option.bind_some,
    isTrue?_truth, Option.bind_some]

theorem exec_expr_of_eval {e : Expr} (h : eval c s e = some (v, s')) : exec c s (.expr e) = some (.next, s') := by
  rw [exec_expr, h, Option.bind_some]

theorem exec_cond_of_eval {e : Expr} {t : Bool} (h : eval c s e = some (v, s')) (ht : v.isTrue? = some t) :
    exec c s (.cond e stmt) = if t then exec c s' stmt else some (.next, s') := by
  simp only [exec_cond, h, Option.bind_some, ht]

theorem execBlock_of_next (h : exec c s stmt = some (.next, s')) :
    execBlock c s (.cons stmt b) = execBlock c s' b := by
  simp only [execBlock_cons, h, Option.bind_some]

theorem execBlock_of_ret (h : exec c s stmt = some (.ret v, s')) :
    execBlock c s (.cons stmt b) = some (.ret v, s') := by
  simp only [execBlock_cons, h, Option.bind_some]

theorem runBody_of_ret (n : Nat) (h : execBlock c s b = some (.ret v, s')) (hw : convert? f.result v = some w) :
    runBody c f (n + 1) s b = some (w, s') := by
  rw [runBody, h]
  simp only [Option.bind_eq_bind, Option.bind_some, hw]

theorem runBody_of_jump (n : Nat) {label : String} {k : Nat} (h : execBlock c s b = some (.jump label, s'))
    (hfrom : f.body.from? label = some (k, b')) (hk : s'.locals.length = f.params.length + k) :
    runBody c f (n + 1) s b = runBody c f n s' b' := by
  rw [runBody, h]
  simp [hfrom, hk]

theorem call_of_runBody (n : Nat) (s : State) (vs : List Value) {locals : Scope} (hf : p.function? name = some f)
    (hlocals : bind? f.params vs = some locals)
    (hrun : runBody (call p n) f (n + 1) { s with locals } f.body = some (v, s')) :
    call p (n + 1) s name vs = some (v, { s' with locals := s.locals }) := by
  rw [call, hf]
  simp [hlocals, hrun]

/-- A call whose body returns without a jump. -/
theorem call_of_ret (n : Nat) (s : State) (vs : List Value) {locals : Scope} (hf : p.function? name = some f)
    (hlocals : bind? f.params vs = some locals)
    (h : execBlock (call p n) { s with locals } f.body = some (.ret v, s')) (hw : convert? f.result v = some w) :
    call p (n + 1) s name vs = some (w, { s' with locals := s.locals }) :=
  call_of_runBody n s vs hf hlocals (runBody_of_ret n h hw)

theorem call_of_library (n : Nat) {g : State → List Value → Option (Value × State)} (hf : p.function? name = none)
    (hg : library.lookup name = some g) (vs : List Value) : call p (n + 1) s name vs = g s vs := by
  rw [call, hf]
  simp [hg]

end Steps

section Depth

/-- One result has every value that another has. -/
def Extends {α : Type} (x y : Option α) : Prop :=
  ∀ a, x = some a → y = some a

theorem Extends.refl {α : Type} (x : Option α) : Extends x x := fun _ h => h

theorem Extends.bind {α β : Type} {x y : Option α} {f g : α → Option β} (h : Extends x y)
    (hf : ∀ a, Extends (f a) (g a)) : Extends (x.bind f) (y.bind g) := by
  intro b hb
  obtain ⟨a, hx, ha⟩ := Option.bind_eq_some_iff.1 hb
  exact Option.bind_eq_some_iff.2 ⟨a, h a hx, hf a b ha⟩

theorem Extends.ite {α : Type} {t : Prop} [Decidable t] {x x' y y' : Option α} (h : Extends x y)
    (h' : Extends x' y') : Extends (if t then x else x') (if t then y else y') := by
  split
  · exact h
  · exact h'

/-- Results that are extended with the depth have one value at most. -/
theorem Extends.unique {α : Type} {x : Nat → Option α} (hx : ∀ {n n'}, n ≤ n' → Extends (x n) (x n')) {n n' : Nat}
    {a b : α} (ha : x n = some a) (hb : x n' = some b) : a = b := by
  have ha' := hx (Nat.le_max_left n n') a ha
  have hb' := hx (Nat.le_max_right n n') b hb
  exact Option.some.inj (ha'.symm.trans hb')

/-- Calls that come to every result that others come to. -/
def Calls.Extend (c c' : Calls) : Prop :=
  ∀ s name vs, Extends (c s name vs) (c' s name vs)

variable {c c' : Calls}

mutual

/-- An expression comes to the same result with calls that come to more results. -/
theorem eval_extends (h : c.Extend c') : ∀ (e : Expr) (s : State), Extends (eval c s e) (eval c' s e)
  | .number _, _ => .refl _
  | .char _, _ => .refl _
  | .text _, _ => .refl _
  | .name _, _ => .refl _
  | .call f args, s => (evalArgs_extends h args s).bind fun r => h r.2 f r.1
  | .index base i, s => (eval_extends h base s).bind fun r => (eval_extends h i r.2).bind fun _ => .refl _
  | .cast _ e, s => (eval_extends h e s).bind fun _ => .refl _
  | .unary _ e, s => (eval_extends h e s).bind fun _ => .refl _
  | .binary _ left right, s => (eval_extends h left s).bind fun r => (eval_extends h right r.2).bind fun _ => .refl _
  | .and left right, s =>
    (eval_extends h left s).bind fun r => (Extends.refl _).bind fun _ =>
      .ite ((eval_extends h right r.2).bind fun _ => .refl _) (.refl _)
  | .or left right, s =>
    (eval_extends h left s).bind fun r => (Extends.refl _).bind fun _ =>
      .ite (.refl _) ((eval_extends h right r.2).bind fun _ => .refl _)
  | .assign (.name _) value, s => (eval_extends h value s).bind fun _ => .refl _
  | .assign (.index base i) value, s =>
    (eval_extends h base s).bind fun r => (eval_extends h i r.2).bind fun r' =>
      (eval_extends h value r'.2).bind fun _ => .refl _
  | .assign (.number _) _, _ | .assign (.char _) _, _ | .assign (.text _) _, _ | .assign (.call _ _) _, _
  | .assign (.cast _ _) _, _ | .assign (.unary _ _) _, _ | .assign (.binary _ _ _) _, _ | .assign (.and _ _) _, _
  | .assign (.or _ _) _, _ | .assign (.assign _ _) _, _ => .refl _

theorem evalArgs_extends (h : c.Extend c') :
    ∀ (args : Args) (s : State), Extends (evalArgs c s args) (evalArgs c' s args)
  | .nil, _ => .refl _
  | .cons e rest, s => (eval_extends h e s).bind fun r => (evalArgs_extends h rest r.2).bind fun _ => .refl _

end

mutual

theorem exec_extends (h : c.Extend c') : ∀ (stmt : Stmt) (s : State), Extends (exec c s stmt) (exec c' s stmt)
  | .empty, _ => .refl _
  | .expr e, s => (eval_extends h e s).bind fun _ => .refl _
  | .declare _ _ value, s => (eval_extends h value s).bind fun _ => .refl _
  | .cond e body, s =>
    (eval_extends h e s).bind fun r => (Extends.refl _).bind fun _ => .ite (exec_extends h body r.2) (.refl _)
  | .ret value, s => (eval_extends h value s).bind fun _ => .refl _
  | .goto _, _ => .refl _
  | .labeled _ stmt, s => exec_extends h stmt s
  | .block b, s => (execBlock_extends h b s).bind fun _ => .refl _

theorem execBlock_extends (h : c.Extend c') : ∀ (b : Block) (s : State), Extends (execBlock c s b) (execBlock c' s b)
  | .nil, _ => .refl _
  | .cons stmt rest, s => (exec_extends h stmt s).bind fun r =>
    match r with
    | (.next, s) => execBlock_extends h rest s
    | (.ret _, _) => .refl _
    | (.jump _, _) => .refl _

end

theorem runBody_extends (h : c.Extend c') (f : Function) {n n' : Nat} (hn : n ≤ n') (s : State) (b : Block) :
    Extends (runBody c f n s b) (runBody c' f n' s b) := by
  induction n generalizing n' s b with
  | zero =>
    intro r hr
    cases hr
  | succ n ih =>
    obtain ⟨n', rfl⟩ := Nat.exists_eq_add_of_lt hn
    apply (execBlock_extends h b s).bind
    rintro ⟨outcome, s'⟩
    cases outcome with
    | next => exact .refl _
    | ret v => exact .refl _
    | jump label =>
      exact (Extends.refl _).bind fun r => .ite (ih (by omega) s' r.2) (.refl _)

/-- A call that comes to a result comes to the same one at any greater depth. -/
theorem call_extends (p : Program) {n n' : Nat} (hn : n ≤ n') (s : State) (name : String) (vs : List Value) :
    Extends (call p n s name vs) (call p n' s name vs) := by
  induction n generalizing n' s name vs with
  | zero =>
    intro r hr
    cases hr
  | succ n ih =>
    obtain ⟨k, rfl⟩ := Nat.exists_eq_add_of_lt hn
    rw [call, call]
    cases p.function? name with
    | none => exact .refl _
    | some f =>
      exact (Extends.refl _).bind fun locals =>
        (runBody_extends (ih (by omega)) f (by omega) _ f.body).bind fun _ => .refl _

/-- A program ends in one state at most. -/
theorem Program.Runs.iff_eq {p : Program} {input : Octets} {s : State} (h : p.Runs input s) (s' : State) :
    p.Runs input s' ↔ s' = s := by
  constructor
  · rintro ⟨n', v', h'⟩
    obtain ⟨n, v, h⟩ := h
    exact congrArg Prod.snd (Extends.unique (fun hn => call_extends p hn _ _ _) h' h)
  · rintro rfl
    exact h

end Depth

end RecursiveFactorial.C
