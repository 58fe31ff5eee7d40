import RecursiveFactorial.Console.Basic
import RecursiveFactorial.CSource.Literal
import RecursiveFactorial.Output

/-!
# Listings of C source

A listing is an output together with the state of the layout: the level of indentation, and whether the last line was
a label. One listing may take several programs in turn. A label stands one level out, and an empty
statement follows a label that would end its block, since C does not allow that.
-/
namespace RecursiveFactorial.CSource

open ThreeAddress

structure Listing where
  output : Output
  indent : Nat := 0
  afterLabel : Bool := false
  deriving DecidableEq, Repr

namespace Listing

/-- The blanks in front of a line at a level. -/
def margin (level : Nat) : String :=
  String.ofList (List.replicate (4 * level) ' ')

def line (l : Listing) (text : String) : Listing :=
  { l with
    output := (l.output.append (Utf8.encode (margin l.indent))).appendLine (Utf8.encode text) }

/-- A line at the margin, whatever the level. -/
def rawLine (l : Listing) (text : String) : Listing :=
  { l with output := l.output.appendLine (Utf8.encode text) }

def blank (l : Listing) : Listing :=
  l.rawLine ""

def lines (l : Listing) (texts : List String) : Listing :=
  texts.foldl line l

/-- One level in, at the start of a block. -/
def openBlock (l : Listing) : Listing :=
  { l with indent := l.indent + 1, afterLabel := false }

def deeper (l : Listing) : Listing :=
  { l with indent := l.indent + 1 }

/-- One level out, which needs a level to leave. -/
def shallower (l : Listing) : Except Failure Listing :=
  match l.indent with
  | 0 => .error (.other "no level of indentation to leave")
  | n + 1 => .ok { l with indent := n }

def declareTemps (l : Listing) (ts : List Nat) : Listing :=
  if ts = [] then l
  else
    ((l.line "// Temporary variables").lines (ts.map fun t => "int " ++ tempName t ++ " = 0;")).blank

def addInstr (l : Listing) (i : Instr) : Except Failure Listing :=
  match i with
  | .label _ => do
    let l ← l.shallower
    .ok { (l.line (statement i)).deeper with afterLabel := true }
  | _ => .ok ({ l with afterLabel := false }.line (statement i))

/-- The empty statement that a label at the end of a block needs. -/
def fillLabel (l : Listing) : Listing :=
  if l.afterLabel then { l.line ";  // Empty statement after label" with afterLabel := false }
  else l

def addBlock (l : Listing) (body : List Instr) : Except Failure Listing := do
  let l ← body.foldlM addInstr (l.openBlock.declareTemps (assignedTemps body))
  .ok l.fillLabel

def addFunction (l : Listing) (f : Function) : Except Failure Listing := do
  let l ← (l.line (signature f ++ " \x7b")).addBlock f.body
  let l ← l.shallower
  .ok (l.line "\x7d").blank

def addMain (l : Listing) (body : List Instr) : Except Failure Listing := do
  let l ← (l.line "int main() \x7b").addBlock body
  let l ← (l.blank.line "return 0;").shallower
  .ok (l.line "\x7d")

def includes : List String :=
  ["stdio.h", "stdlib.h", "string.h", "stdbool.h"]

/-- Functions of the emitted program that read a line and a number from the standard input. -/
def inputFunctions : List String :=
  [ "// Read string input (returns dynamically allocated string)",
    "char* __read_string_input(const char* prompt) \x7b",
    "    if (prompt != NULL) \x7b",
    "        printf(\"%s\", prompt);",
    "    \x7d",
    "    if (fgets(__input_buffer, INPUT_BUFFER_SIZE, stdin) != NULL) \x7b",
    "        // Remove trailing newline if present",
    "        size_t len = strlen(__input_buffer);",
    "        if (len > 0 && __input_buffer[len-1] == '\\n') \x7b",
    "            __input_buffer[len-1] = '\\0';",
    "        \x7d",
    "        // Return a copy of the input",
    "        char* result = (char*)malloc(strlen(__input_buffer) + 1);",
    "        strcpy(result, __input_buffer);",
    "        return result;",
    "    \x7d",
    "    return NULL;",
    "\x7d",
    "",
    "// Read number input",
    "int __read_number_input(const char* prompt) \x7b",
    "    char* str_input = __read_string_input(prompt);",
    "    if (str_input != NULL) \x7b",
    "        int result = atoi(str_input);",
    "        free(str_input);",
    "        return result;",
    "    \x7d",
    "    return 0;",
    "\x7d" ]

/-- The headers and the input functions, the same for every program. -/
def preamble (l : Listing) : Listing :=
  let l := (l.lines (includes.map fun name => "#include <" ++ name ++ ">")).blank
  let l := l.lines
    [ "// Input handling",
      "#define INPUT_BUFFER_SIZE " ++ natural Console.bufferSize,
      "char __input_buffer[INPUT_BUFFER_SIZE];" ]
  (inputFunctions.foldl rawLine l.blank).blank

/-- A section with a title, left out when it has no lines. -/
def titled (l : Listing) (title : String) (texts : List String) : Listing :=
  if texts = [] then l else ((l.line title).lines texts).blank

def declare (l : Listing) (p : Program) : Listing :=
  let l := l.titled "// Forward declarations" (p.functions.map fun f => signature f ++ ";")
  l.titled "// Global variables"
    (p.globals.map fun name => "int " ++ name ++ ";  // Global variable")

def addProgram (l : Listing) (p : Program) : Except Failure Listing := do
  let l ← p.functions.foldlM addFunction (l.preamble.declare p)
  l.addMain p.main

def addPrograms (l : Listing) (ps : List Program) : Except Failure Listing :=
  ps.foldlM addProgram l

end Listing

/-- The C source for the program that the settings describe. -/
def ofSettings (s : Settings) : Except Failure String := do
  let l ← Listing.addProgram { output := { name := "fatorial.c" } } (Program.ofSettings s)
  l.output.finish

end RecursiveFactorial.CSource
