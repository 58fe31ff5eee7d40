import RecursiveFactorial.Proofs.C.Grammar

/-!
# Values, memory and the library of C

An `int` has 32 bits and wraps around, a `size_t` has 64 bits, a `char` has eight bits and a sign. Memory is a list
of blocks of octets, one for each array and each allocation. Octets of a fresh allocation are indeterminate, and a
block that is freed is gone. What the language leaves undefined (an indeterminate or missing octet that is read, a
write past the end of a block, an argument of another type than a conversion asks for) has no result.
-/
namespace RecursiveFactorial.C

inductive Value where
  | int (n : Int32)
  | size (n : UInt64)
  | null
  /-- A string literal. -/
  | literal (octets : Octets)
  /-- A place in a block of memory. -/
  | place (block offset : Nat)
  /-- The standard input. -/
  | stream
  /-- The result of a function without one. -/
  | void
  deriving DecidableEq, Repr

/-- Octets of memory, `none` for those that are indeterminate. -/
abbrev Cells := List (Option UInt8)

/-- Blocks of memory by number, `none` for those that are freed. -/
abbrev Memory := List (Option Cells)

structure Object where
  type : CType
  value : Value
  deriving DecidableEq, Repr

abbrev Scope := List (String × Object)

structure State where
  locals : Scope := []
  globals : Scope := []
  memory : Memory := []
  /-- What is left of the standard input. -/
  input : Octets := []
  output : Octets := []
  deriving DecidableEq, Repr

@[simp] def truth (b : Bool) : Value :=
  .int (if b then 1 else 0)

@[simp] def Value.isTrue? : Value → Option Bool
  | .int n => some (n != 0)
  | .size n => some (n != 0)
  | .null => some false
  | .literal _ => some true
  | .place _ _ => some true
  | .stream => none
  | .void => none

def toSize (n : Int32) : UInt64 :=
  UInt64.ofInt n.toInt

/-- The conversion that an assignment makes. -/
@[simp] def convert? (t : CType) : Value → Option Value
  | .int n =>
    match t with
    | .int => some (.int n)
    | .size => some (.size (toSize n))
    | _ => none
  | .size n =>
    match t with
    | .int => some (.int (Int32.ofNat n.toNat))
    | .size => some (.size n)
    | _ => none
  | .null => if t = .pointer then some .null else none
  | .literal octets => if t = .pointer then some (.literal octets) else none
  | .place block offset => if t = .pointer then some (.place block offset) else none
  | .stream => none
  | .void => none

@[simp] def Binary.onInt (a b : Int32) : Binary → Value
  | .add => .int (a + b)
  | .sub => .int (a - b)
  | .mul => .int (a * b)
  | .equal => truth (a == b)
  | .unequal => truth (a != b)
  | .less => truth (a < b)
  | .greater => truth (b < a)

@[simp] def Binary.onSize (a b : UInt64) : Binary → Value
  | .add => .size (a + b)
  | .sub => .size (a - b)
  | .mul => .size (a * b)
  | .equal => truth (a == b)
  | .unequal => truth (a != b)
  | .less => truth (a < b)
  | .greater => truth (b < a)

/-- Whether two pointers are the same. Whether two literals share their octets is not said. -/
@[simp] def samePointer? : Value → Value → Option Bool
  | .null, .null => some true
  | .null, .literal _ => some false
  | .null, .place _ _ => some false
  | .literal _, .null => some false
  | .place _ _, .null => some false
  | .place block offset, .place block' offset' => some (block == block' && offset == offset')
  | _, _ => none

/-- A binary operator, with the conversion of an `int` that meets a `size_t`. -/
@[simp] def Binary.compute? (op : Binary) : Value → Value → Option Value
  | .int a, .int b => some (op.onInt a b)
  | .int a, .size b => some (op.onSize (toSize a) b)
  | .size a, .int b => some (op.onSize a (toSize b))
  | .size a, .size b => some (op.onSize a b)
  | v, w =>
    match op with
    | .equal => (samePointer? v w).map truth
    | .unequal => (samePointer? v w).map fun b => truth !b
    | _ => none

@[simp] def Unary.compute? : Unary → Value → Option Value
  | .not, v => v.isTrue?.map fun b => truth !b
  | .negate, .int n => some (.int (-n))
  | .negate, .size n => some (.size (-n))
  | .negate, _ => none

/-- The integer that a subscript adds to a place. -/
@[simp] def Value.subscript? : Value → Option Nat
  | .int n => if 0 ≤ n then some n.toNatClampNeg else none
  | .size n => some n.toNat
  | _ => none

/-- A `char` as an `int`. -/
def promote (b : UInt8) : Int32 :=
  b.toInt8.toInt32

/-- The octets in front of the first NUL, all of them determinate. -/
def untilNul? : Cells → Option Octets
  | [] => none
  | none :: _ => none
  | some b :: cells => if b = 0 then some [] else (untilNul? cells).map (b :: ·)

namespace Memory

/-- The cells of a block from an offset on. -/
def cells? (memory : Memory) (block offset : Nat) : Option Cells := do
  let cells ← (← memory[block]?)
  if offset ≤ cells.length then some (cells.drop offset) else none

/-- Puts octets at a place where there is room for them. -/
def store? (memory : Memory) (block offset : Nat) (octets : Octets) : Option Memory := do
  let cells ← (← memory[block]?)
  if offset + octets.length ≤ cells.length then
    some (memory.set block (some (cells.take offset ++ octets.map some ++ cells.drop (offset + octets.length))))
  else none

def load? (memory : Memory) (block offset : Nat) : Option UInt8 := do
  match ← memory.cells? block offset with
  | some b :: _ => some b
  | _ => none

/-- The string that a pointer points to. -/
def string? (memory : Memory) : Value → Option Octets
  | .literal octets => some (octets.takeWhile (· != 0))
  | .place block offset => do untilNul? (← memory.cells? block offset)
  | _ => none

/-- The octets that a format prints with its arguments. -/
def format? (memory : Memory) : Octets → List Value → Option Octets
  | [], _ => some []
  | 37 :: 115 :: fs, v :: vs => do
    let text ← memory.string? v
    some (text ++ (← memory.format? fs vs))
  | 37 :: 100 :: fs, .int n :: vs => do some (Utf8.encode (toString n.toInt) ++ (← memory.format? fs vs))
  | 37 :: 37 :: fs, vs => do some (37 :: (← memory.format? fs vs))
  | b :: fs, vs => if b = 37 then none else do some (b :: (← memory.format? fs vs))

end Memory

/-- The octets through the first newline, all of them if there is none. -/
def throughNewline (octets : Octets) : Octets :=
  octets.takeWhile (· != 10) ++ (octets.dropWhile (· != 10)).take 1

/-- The blanks of the C locale. -/
def isSpace (b : UInt8) : Bool :=
  b == 32 || (9 ≤ b && b ≤ 13)

def isDigit (b : UInt8) : Bool :=
  48 ≤ b && b ≤ 57

def digitsValue (digits : Octets) : Nat :=
  digits.foldl (fun n b => 10 * n + (b.toNat - 48)) 0

/-- A sign and what follows it. -/
def signed : Octets → Bool × Octets
  | 45 :: rest => (true, rest)
  | 43 :: rest => (false, rest)
  | octets => (false, octets)

/-- The integer in base ten at the start of a string, saturated to 64 bits. -/
def strtol (octets : Octets) : Int :=
  let (negative, rest) := signed (octets.dropWhile isSpace)
  let n : Int := digitsValue (rest.takeWhile isDigit)
  if negative then max (-n) (-9223372036854775808) else min n 9223372036854775807

def atoi (octets : Octets) : Int32 :=
  Int32.ofInt (strtol octets)

def printf? (s : State) : List Value → Option (Value × State)
  | format :: vs => do
    let text ← s.memory.format? (← s.memory.string? format) vs
    some (.int (Int32.ofNat text.length), { s with output := s.output ++ text })
  | _ => none

/-- Reads a line with room for a NUL after it. At the end of input the array is left as it is. -/
def fgets? (s : State) : List Value → Option (Value × State)
  | [.place block offset, .int n, .stream] =>
    if n ≤ 1 then none
    else if s.input = [] then some (.null, s)
    else do
      let line := throughNewline (s.input.take (n.toNatClampNeg - 1))
      let memory ← s.memory.store? block offset (line ++ [0])
      some (.place block offset, { s with memory, input := s.input.drop line.length })
  | _ => none

def strlen? (s : State) : List Value → Option (Value × State)
  | [v] => do some (.size (UInt64.ofNat (← s.memory.string? v).length), s)
  | _ => none

def strcpy? (s : State) : List Value → Option (Value × State)
  | [.place block offset, v] => do
    let memory ← s.memory.store? block offset ((← s.memory.string? v) ++ [0])
    some (.place block offset, { s with memory })
  | _ => none

/-- Allocation does not fail. -/
def malloc? (s : State) : List Value → Option (Value × State)
  | [.size n] =>
    some (.place s.memory.length 0, { s with memory := s.memory ++ [some (List.replicate n.toNat none)] })
  | _ => none

def free? (s : State) : List Value → Option (Value × State)
  | [.null] => some (.void, s)
  | [.place block 0] => do
    let _ ← (← s.memory[block]?)
    some (.void, { s with memory := s.memory.set block none })
  | _ => none

def atoi? (s : State) : List Value → Option (Value × State)
  | [v] => do some (.int (atoi (← s.memory.string? v)), s)
  | _ => none

def library : List (String × (State → List Value → Option (Value × State))) :=
  [("printf", printf?), ("fgets", fgets?), ("strlen", strlen?), ("strcpy", strcpy?), ("malloc", malloc?),
    ("free", free?), ("atoi", atoi?)]

/-- The names that the headers define. -/
def constants : List (String × Value) :=
  [("NULL", .null), ("stdin", .stream)]

end RecursiveFactorial.C
