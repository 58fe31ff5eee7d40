import RecursiveFactorial.CommandLine.Help
import RecursiveFactorial.CSource.File
import RecursiveFactorial.Repl.Basic
import RecursiveFactorial.Settings.Load

/-!
# The program as a whole

From arguments, standard input and files to an exit code, both outputs and the files afterwards.
-/
namespace RecursiveFactorial.CommandLine

structure Start where
  args : List String
  input : Octets := []
  files : FileTree := {}
  /-- Whether the line editor shows its prompt. -/
  showPrompt : Bool := false

structure Finish where
  exit : Nat := 0
  out : Octets := []
  err : Octets := []
  files : FileTree
  deriving DecidableEq, Repr

/-- A failure as it is reported at the end of the program. -/
def finalReport (f : Failure) : String :=
  "Error: " ++ Report.render f

def Finish.failed (f : Failure) (out err : Octets) (files : FileTree) : Finish :=
  { exit := 1, out := out, err := err ++ Utf8.encode (finalReport f), files := files }

/-- A calculation on the standard streams. -/
def finishConsole (action : ConsoleM Int32) (input : Octets) (files : FileTree) : Finish :=
  match action { events := [.chunk input] } with
  | .ok _ c => { out := c.written, files := files }
  | .error f c => .failed f c.written [] files

def finishRepl (s : Settings) (start : Start) : Finish :=
  let history := Repl.History.load (start.files.read Repl.History.fileName)
  let t := Repl.session s history start.showPrompt start.input
  let out := Utf8.encode t.out
  let err := Utf8.encode t.err
  match t.history.toSave? with
  | none => { out := out, err := err, files := start.files }
  | some content =>
    match start.files.write Repl.History.fileName content with
    | .ok files => { out := out, err := err, files := files }
    | .error fault => .failed (.editor (.device fault.message)) out err start.files

/-- The C source, in a file or on the standard output. -/
def finishSource (s : Settings) (path : Option String) (files : FileTree) : Finish :=
  match path with
  | some path =>
    match CSource.writeTo files s path with
    | .ok files => { files := files }
    | .error f => .failed f [] [] files
  | none =>
    match CSource.ofSettings s with
    | .ok source => { out := Utf8.encode source, files := files }
    | .error f => .failed f [] [] files

/-- The settings after the options that override them. -/
def override (g : Given) (s : Settings) : Settings :=
  { s with
    value := g.value.getD s.value
    mode := if g.wrapping then .wrapping else s.mode }

def finishInvocation (i : Invocation) (start : Start) : Finish :=
  match Settings.load start.files i.given.config with
  | .error f => .failed f [] [] start.files
  | .ok s =>
    let s := override i.given s
    match i.command with
    | none => finishConsole (Calculation.run s) start.input start.files
    | some .run => finishConsole (Calculation.run s) start.input start.files
    | some .ask => finishConsole (Calculation.ask s) start.input start.files
    | some .repl => finishRepl s start
    | some .source => finishSource s i.given.out start.files

def execute (start : Start) : Finish :=
  match parse start.args with
  | .ok i => finishInvocation i start
  | .error (.help topic) => { out := Utf8.encode (helpText topic), files := start.files }
  | .error .version => { out := Utf8.encode versionText, files := start.files }
  | .error (.usage e) =>
    { exit := 2, err := Utf8.encode (e.message ++ "\n"), files := start.files }

end RecursiveFactorial.CommandLine
