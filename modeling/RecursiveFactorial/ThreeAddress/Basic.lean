import RecursiveFactorial.Settings.Basic

/-!
# Three-address code

A program is a list of globals, functions and a main body. Each instruction names at most two operands and one
temporary for its result. Temporaries and labels are numbers.
-/
namespace RecursiveFactorial.ThreeAddress

inductive Operand where
  | temp (t : Nat)
  | var (name : String)
  | int (n : Int32)
  | str (s : String)
  deriving DecidableEq, Repr

inductive Operator where
  | eq
  | or
  | sub
  | mul
  deriving DecidableEq, Repr

inductive Instr where
  | binary (op : Operator) (left right : Operand) (result : Nat)
  | assign (target : String) (value : Operand)
  | ifFalse (cond : Operand) (label : Nat)
  | goto (label : Nat)
  | label (label : Nat)
  /-- The function `print` is built in; its result is set aside but never written. -/
  | call (function : String) (args : List Operand) (result : Option Nat)
  | ret (value : Operand)
  deriving DecidableEq, Repr

structure Function where
  name : String
  params : List String
  body : List Instr
  deriving DecidableEq, Repr

structure Program where
  globals : List String
  functions : List Function
  main : List Instr
  deriving DecidableEq, Repr

/-- The temporary that an instruction sets. -/
def Instr.result? : Instr → Option Nat
  | .binary _ _ _ result => some result
  | .call _ _ result => result
  | _ => none

/-- Inserts a number into an increasing list that may hold it already. -/
def insertTemp (t : Nat) : List Nat → List Nat
  | [] => [t]
  | u :: us => if t < u then t :: u :: us else if t = u then u :: us else u :: insertTemp t us

/-- The temporaries that a body sets, in increasing order and each once. -/
def assignedTemps (body : List Instr) : List Nat :=
  (body.filterMap Instr.result?).foldr insertTemp []

def Function.temps (f : Function) : List Nat :=
  assignedTemps f.body

def Program.mainTemps (p : Program) : List Nat :=
  assignedTemps p.main

end RecursiveFactorial.ThreeAddress
