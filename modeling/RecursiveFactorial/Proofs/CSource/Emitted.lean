import RecursiveFactorial.Proofs.C.Execution
import RecursiveFactorial.Proofs.CSource.Layout
import RecursiveFactorial.Proofs.Text.Ascii

/-!
# The emitted program as C

The text for some settings, read as C, is a program whose declarations but `main` are the same for all settings. They
are read by evaluation; of `main`, only the two literals and the number are not fixed.
-/
namespace RecursiveFactorial.CSource

open ThreeAddress (factorialFunction globalName)
open C (Expr Stmt transduce lexStep directiveStep outlineStep)

/-- The name of the array into which lines are read. -/
@[simp] def bufferName : String := "__input_buffer"

def lineReader : String := "__read_string_input"

def numberReader : String := "__read_number_input"

@[simp] def callExpr (f : String) (args : List Expr) : Expr :=
  .call f (.ofList args)

/-- A statement that assigns the value of an expression to a name. -/
@[simp] def assignStmt (x : String) (value : Expr) : Stmt :=
  .expr (.assign (.name x) value)

@[simp] def blockStmt (ss : List Stmt) : Stmt :=
  .block (.ofList ss)

/-- A pointer is compared with the null pointer. -/
@[simp] def present (e : Expr) : Expr :=
  .binary .unequal e (.name "NULL")

@[simp] def lastOctet : Expr :=
  .index (.name bufferName) (.binary .sub (.name "len") (.number 1))

@[simp] def buffered : Expr :=
  .name bufferName

/-- Drops a newline from the end of the line in the array. -/
def trimLine : Stmt :=
  .cond (.and (.binary .greater (.name "len") (.number 0)) (.binary .equal lastOctet (.char 10)))
    (blockStmt [.expr (.assign lastOctet (.char 0))])

/-- Copies the line without its newline. -/
def copyLine : List Stmt :=
  [ .declare .size "len" (callExpr "strlen" [buffered]),
    trimLine,
    .declare .pointer "result"
      (.cast .pointer (callExpr "malloc" [.binary .add (callExpr "strlen" [buffered]) (.number 1)])),
    .expr (callExpr "strcpy" [.name "result", buffered]),
    .ret (.name "result") ]

def lineReaderBody : List Stmt :=
  [ .cond (present (.name "prompt")) (blockStmt [.expr (callExpr "printf" [.text [37, 115], .name "prompt"])]),
    .cond (present (callExpr "fgets" [buffered, .number Console.bufferSize, .name "stdin"])) (blockStmt copyLine),
    .ret (.name "NULL") ]

def numberReaderBody : List Stmt :=
  [ .declare .pointer "str_input" (callExpr lineReader [.name "prompt"]),
    .cond (present (.name "str_input"))
      (blockStmt
        [ .declare .int "result" (callExpr "atoi" [.name "str_input"]),
          .expr (callExpr "free" [.name "str_input"]),
          .ret (.name "result") ]),
    .ret (.number 0) ]

@[simp] def zeroed (x : String) : Stmt :=
  .declare .int x (.number 0)

/-- The statements in front of the first label. -/
def factorialTest : List Stmt :=
  [ assignStmt "t0" (.binary .equal (.name "n") (.number 0)),
    assignStmt "t1" (.binary .equal (.name "n") (.number 1)),
    assignStmt "t2" (.or (.name "t0") (.name "t1")),
    .cond (.unary .not (.name "t2")) (.goto "L0"),
    .ret (.number 1),
    .goto "L1" ]

/-- The statements from the first label on, without the label. -/
def factorialStep : List Stmt :=
  [ assignStmt "t3" (.binary .sub (.name "n") (.number 1)),
    assignStmt "t4" (callExpr "fatorial" [.name "t3"]),
    assignStmt "t5" (.binary .mul (.name "n") (.name "t4")),
    .ret (.name "t5"),
    .labeled "L1" .empty ]

def factorialBlock : List Stmt :=
  ["t0", "t1", "t2", "t3", "t4", "t5"].map zeroed ++ factorialTest ++
    .labeled "L0" (assignStmt "t3" (.binary .sub (.name "n") (.number 1))) :: factorialStep.tail

def mainBlock (s : Settings) : List Stmt :=
  ["t6", "t7", "t8"].map zeroed ++
  [ .expr (callExpr "printf" [.text [37, 115, 10], .text (Utf8.encode s.banner)]),
    assignStmt globalName
      (if s.value.toInt < 0 then .unary .negate (.number s.value.toInt.natAbs) else .number s.value.toInt.natAbs),
    assignStmt "t7" (callExpr "fatorial" [.name globalName]),
    .expr (callExpr "printf" [.text [37, 115, 32, 37, 100, 10], .text (Utf8.encode s.label), .name "t7"]),
    .ret (.number 0) ]

def lineReaderFunction : C.Function :=
  ⟨.pointer, lineReader, [("prompt", .pointer)], .ofList lineReaderBody⟩

def numberReaderFunction : C.Function :=
  ⟨.int, numberReader, [("prompt", .pointer)], .ofList numberReaderBody⟩

def factorialCode : C.Function :=
  ⟨.int, "fatorial", [("n", .int)], .ofList factorialBlock⟩

def mainFunction (s : Settings) : C.Function :=
  ⟨.int, "main", [], .ofList (mainBlock s)⟩

/-- All declarations but `main`. -/
def fixedItems : C.Program :=
  [ .buffer bufferName Console.bufferSize,
    .function lineReaderFunction,
    .function numberReaderFunction,
    .prototype .int "fatorial" [("n", .int)],
    .object .int globalName,
    .function factorialCode ]

/-- The program that the text for some settings stands for. -/
def emitted (s : Settings) : C.Program :=
  fixedItems ++ [.function (mainFunction s)]

/-- The lines in front of `main`. -/
def fixedLines : List String :=
  preambleLines ++ declarationLines ⟨[globalName], [factorialFunction], []⟩ ++ functionLines factorialFunction

/-- The phases of reading, with the states they end in. -/
def phases? (cs : List Char) : Option (C.Mode × C.Directives × C.Outline × C.Program) := do
  let (mode, ts) ← transduce lexStep .blank (C.splice cs)
  let (d, ts) ← transduce directiveStep {} ts
  let (o, items) ← transduce outlineStep {} ts
  some (mode, d, o, ← items.mapM C.item?)

def fixedMacros : C.Directives :=
  ⟨[("INPUT_BUFFER_SIZE", [.number Console.bufferSize])], []⟩

theorem printable_fixedLines : ∀ t ∈ fixedLines, Utf8.Printable t := by
  decide +kernel

/-- The characters of printable lines, taken from their octets. -/
theorem lineChars_eq {texts : List String} (h : ∀ t ∈ texts, Utf8.Printable t) :
    lineChars texts = texts.flatMap fun t => Utf8.asciiChars t.toByteArray.data.toList ++ ['\n'] := by
  induction texts with
  | nil => rfl
  | cons t texts ih =>
    have hrest := ih fun u hu => h u (List.mem_cons_of_mem t hu)
    rw [lineChars_cons, hrest, (h t List.mem_cons_self).toList_eq, List.flatMap_cons, List.append_assoc]
    rfl

theorem phases_fixedLines : phases? (lineChars fixedLines) = some (.blank, fixedMacros, {}, fixedItems) := by
  rw [lineChars_eq printable_fixedLines]
  decide +kernel

end RecursiveFactorial.CSource
