import RecursiveFactorial.ThreeAddress.Lowering
import RecursiveFactorial.Text.Utf8

/-!
# Statements of C

The text of operands and instructions in C. A string literal is written octet by octet: printable ASCII stands for
itself, the quote, the backslash and three controls have an escape of their own, and any other
octet has an octal escape of three digits, which a digit after it cannot extend.
-/
namespace RecursiveFactorial.CSource

open ThreeAddress

def octalDigit (n : Nat) : Char :=
  Char.ofNat ('0'.toNat + n % 8)

/-- An octet by its three octal digits. -/
def octalEscape (b : UInt8) : List Char :=
  ['\\', octalDigit (b.toNat / 64), octalDigit (b.toNat / 8), octalDigit b.toNat]

/-- One octet inside a string literal. -/
def literalOctet (b : UInt8) : List Char :=
  if b = '"'.toUInt8 then ['\\', '"']
  else if b = '\\'.toUInt8 then ['\\', '\\']
  else if b = '\n'.toUInt8 then ['\\', 'n']
  else if b = '\t'.toUInt8 then ['\\', 't']
  else if b = '\r'.toUInt8 then ['\\', 'r']
  else if 0x20 ≤ b ∧ b ≤ 0x7e then [Char.ofNat b.toNat]
  else octalEscape b

def literal (s : String) : String :=
  String.ofList ('"' :: (Utf8.encode s).flatMap literalOctet ++ ['"'])

def natural (n : Nat) : String :=
  Number.decimal n

def tempName (t : Nat) : String :=
  "t" ++ natural t

def labelName (l : Nat) : String :=
  "L" ++ natural l

def operandText : Operand → String
  | .temp t => tempName t
  | .var name => name
  | .int n => Number.decimal n.toInt
  | .str s => literal s

def operatorText : Operator → String
  | .eq => "=="
  | .or => "||"
  | .sub => "-"
  | .mul => "*"

/-- Operands with a comma and a space between them. -/
def arguments (args : List Operand) : String :=
  ", ".intercalate (args.map operandText)

/-- The conversion that prints an operand. -/
def conversion : Operand → String
  | .str _ => "%s"
  | _ => "%d"

/-- The call that prints the operands on a line, with one space between them. -/
def printCall (args : List Operand) : String :=
  if args = [] then "printf(\"\\n\");"
  else
    "printf(\"" ++ " ".intercalate (args.map conversion) ++ "\\n\", " ++ arguments args ++ ");"

def statement : Instr → String
  | .binary op left right result =>
    tempName result ++ " = " ++ operandText left ++ " " ++ operatorText op ++ " " ++ operandText right ++ ";"
  | .assign target value => target ++ " = " ++ operandText value ++ ";"
  | .ifFalse cond label => "if (!" ++ operandText cond ++ ") goto " ++ labelName label ++ ";"
  | .goto label => "goto " ++ labelName label ++ ";"
  | .label label => labelName label ++ ":"
  | .ret value => "return " ++ operandText value ++ ";"
  | .call function args result =>
    if function = printName then printCall args
    else
      (match result with
        | some t => tempName t ++ " = "
        | none => "") ++ function ++ "(" ++ arguments args ++ ");"

/-- The head of a function's declaration and definition. -/
def signature (f : Function) : String :=
  "int " ++ f.name ++ "(" ++ ", ".intercalate (f.params.map ("int " ++ ·)) ++ ")"

end RecursiveFactorial.CSource
