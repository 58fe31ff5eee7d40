import RecursiveFactorial.ThreeAddress.Lowering
import RecursiveFactorial.Text.Utf8

/-!
# A machine for three-address code

The machine performs one instruction at a time on a stack of frames. Arithmetic is that of 32-bit two's complement, a
jump goes to the label in the body at hand, a call enters a fresh frame whose temporaries are zero, and a return
leaves it. There is no bound on the stack. An instruction without a meaning, such as arithmetic
on a text or a jump to a label that is not there, has no step.
-/
namespace RecursiveFactorial.ThreeAddress

/-- Variables by name, where only some names are variables. -/
abbrev Variables := String → Option Int32

/-- The activation of a body. -/
structure Frame where
  /-- The whole body, in which jumps find their labels. -/
  body : List Instr
  /-- The instructions from the present one on. -/
  rest : List Instr
  locals : Variables
  temps : Nat → Int32

/-- A frame that has called, and the temporary that takes the result. -/
structure Caller where
  frame : Frame
  result : Option Nat

structure State where
  frame : Frame
  callers : List Caller
  globals : Variables
  written : Octets

def setTemp (temps : Nat → Int32) (t : Nat) (n : Int32) : Nat → Int32 :=
  fun u => if u = t then n else temps u

@[simp] theorem setTemp_same (temps : Nat → Int32) (t : Nat) (n : Int32) : setTemp temps t n t = n := by
  simp [setTemp]

def setVariable (vars : Variables) (name : String) (n : Int32) : Variables :=
  fun other => if other = name then some n else vars other

/-- Comparison and disjunction give zero or one; the rest is arithmetic modulo `2 ^ 32`. -/
def Operator.apply : Operator → Int32 → Int32 → Int32
  | .eq, a, b => if a = b then 1 else 0
  | .or, a, b => if a = 0 ∧ b = 0 then 0 else 1
  | .sub, a, b => a - b
  | .mul, a, b => a * b

def afterLabel (label : Nat) : List Instr → Option (List Instr)
  | [] => none
  | i :: rest => if i = .label label then some rest else afterLabel label rest

/-- Parameters with the arguments of a call, which has to have one for each. -/
def bindParams : List String → List Int32 → Option Variables
  | [], [] => some fun _ => none
  | name :: names, n :: ns => (bindParams names ns).map fun vars => setVariable vars name n
  | _, _ => none

namespace State

/-- The value of an operand. A text has none, nor has a name that is no variable. -/
def value? (s : State) : Operand → Option Int32
  | .temp t => some (s.frame.temps t)
  | .var name => (s.frame.locals name).or (s.globals name)
  | .int n => some n
  | .str _ => none

/-- The octets that stand for an operand in print. -/
def text? (s : State) : Operand → Option Octets
  | .str text => some (Utf8.encode text)
  | operand => (s.value? operand).map fun n => Utf8.encode (Number.decimal n.toInt)

/-- Sets a variable, the local one if there is one of that name. -/
def assign? (s : State) (name : String) (n : Int32) : Option State :=
  if (s.frame.locals name).isSome then
    some { s with frame := { s.frame with locals := setVariable s.frame.locals name n } }
  else if (s.globals name).isSome then some { s with globals := setVariable s.globals name n }
  else none

def jump? (s : State) (label : Nat) : Option State :=
  (afterLabel label s.frame.body).map fun rest => { s with frame := { s.frame with rest } }

/-- Texts on a line, one space between them. -/
def printLine (s : State) (texts : List Octets) : State :=
  { s with written := s.written ++ [' '.toUInt8].intercalate texts ++ ['\n'.toUInt8] }

def enter? (s : State) (f : Function) (args : List Int32) (result : Option Nat) : Option State :=
  (bindParams f.params args).map fun locals =>
    { s with
      frame := ⟨f.body, f.body, locals, fun _ => 0⟩
      callers := ⟨s.frame, result⟩ :: s.callers }

/-- Gives a result to the caller. Without a caller the program is at its end. -/
def leave (s : State) (n : Int32) : State :=
  match s.callers with
  | [] => { s with frame := { s.frame with rest := [] } }
  | ⟨frame, none⟩ :: callers => { s with frame, callers }
  | ⟨frame, some t⟩ :: callers =>
    { s with frame := { frame with temps := setTemp frame.temps t n }, callers }

/-- The main body has nothing left to perform. -/
def Ended (s : State) : Prop :=
  s.callers = [] ∧ s.frame.rest = []

end State

def Program.function? (p : Program) (name : String) : Option Function :=
  p.functions.find? fun f => f.name = name

/-- Performs an instruction in a state that is already past it. -/
def perform (p : Program) (s : State) : Instr → Option State
  | .binary op left right result => do
    let a ← s.value? left
    let b ← s.value? right
    some { s with frame := { s.frame with temps := setTemp s.frame.temps result (op.apply a b) } }
  | .assign target value => do s.assign? target (← s.value? value)
  | .ifFalse cond label => do
    if (← s.value? cond) = 0 then s.jump? label else some s
  | .goto label => s.jump? label
  | .label _ => some s
  | .call name args result => do
    if name = printName then
      some (s.printLine (← args.mapM s.text?))
    else
      let f ← p.function? name
      s.enter? f (← args.mapM s.value?) result
  | .ret value => do return s.leave (← s.value? value)

/-- Nothing is left to perform at the end of the program, nor at the end of a function without a return. -/
def step (p : Program) (s : State) : Option State :=
  match s.frame.rest with
  | [] => none
  | i :: rest => perform p { s with frame := { s.frame with rest } } i

def run (p : Program) : Nat → State → Option State
  | 0, s => some s
  | n + 1, s => (step p s).bind (run p n)

/-- The main body, before its first instruction, with every global zero. -/
def Program.start (p : Program) : State :=
  ⟨⟨p.main, p.main, fun _ => none, fun _ => 0⟩, [], fun name => if name ∈ p.globals then some 0 else none, []⟩

theorem run_add (p : Program) (m n : Nat) (s : State) : run p (m + n) s = (run p m s).bind (run p n) := by
  induction m generalizing s with
  | zero => simp [run]
  | succ m ih =>
    rw [Nat.succ_add]
    cases hs : step p s with
    | none => simp [run, hs]
    | some t => simp [run, hs, ih]

/-- Some number of steps leads from one state to the other. -/
def Reaches (p : Program) (s t : State) : Prop :=
  ∃ n, run p n s = some t

theorem Reaches.trans {p : Program} {s t u : State} (h : Reaches p s t) (h' : Reaches p t u) :
    Reaches p s u := by
  obtain ⟨m, hm⟩ := h
  obtain ⟨n, hn⟩ := h'
  exact ⟨m + n, by rw [run_add, hm, Option.bind_some, hn]⟩

end RecursiveFactorial.ThreeAddress
