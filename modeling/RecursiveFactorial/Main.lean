import RecursiveFactorial.CommandLine.Run

/-!
# The program on the standard streams

Reads files and lines, calls the library and prints what it says. Prompts appear before a line is waited for, which
is why lines are taken one at a time here.
-/
namespace RecursiveFactorial.Terminal

def toBytes (s : Octets) : ByteArray :=
  ByteArray.mk s.toArray

/-- The number of a system error, which may come negated. -/
def errorNumber (code : UInt32) : UInt32 :=
  if code ≤ 0x7fffffff then code else 0 - code

/-- The fault that a failed system call stands for. -/
def faultOf (e : IO.Error) : FileFault :=
  match e with
  | .noFileOrDirectory .. => .notFound
  | .inappropriateType _ code _ =>
    if errorNumber code = 20 then .notDirectory
    else if errorNumber code = 21 then .isDirectory
    else .other (toString e)
  | .invalidArgument _ code _ =>
    if errorNumber code = 36 then .nameTooLong else .other (toString e)
  | .resourceExhausted _ code _ =>
    if errorNumber code = 36 then .nameTooLong else .other (toString e)
  | e => .other (toString e)

def readFile (path : String) : IO (Except FileFault Octets) := do
  try
    return .ok (← IO.FS.readBinFile path).toList
  catch e => return .error (faultOf e)

def writeFile (path : String) (content : Octets) : IO (Except FileFault Unit) := do
  try
    IO.FS.writeBinFile path (toBytes content)
    return .ok ()
  catch e => return .error (faultOf e)

def print (out err : Octets) : IO Unit := do
  let stdout ← IO.getStdout
  let stderr ← IO.getStderr
  stdout.write (toBytes out)
  stdout.flush
  stderr.write (toBytes err)
  stderr.flush

def fail (f : Failure) : IO UInt32 := do
  print [] (Utf8.encode (CommandLine.finalReport f))
  return 1

/-- Octets up to a newline, a limit or the end of input. -/
partial def takeLine (input : IO.FS.Stream) (limit : Nat) (line : Octets) : IO Octets := do
  if limit ≤ line.length then return line.reverse
  match (← input.read 1).toList with
  | [] => return line.reverse
  | b :: _ => if b = Console.newline then return (b :: line).reverse else takeLine input limit (b :: line)

def finishCalculation (action : ConsoleM Int32) (start : Console) (shown : Nat) : IO UInt32 := do
  match action start with
  | .ok _ c =>
    print (c.written.drop shown) []
    return 0
  | .error f c =>
    print (c.written.drop shown) []
    fail f

def ask (s : Settings) : IO UInt32 := do
  let prompt := Utf8.encode (s.prompt?.getD "")
  print prompt []
  let line ← takeLine (← IO.getStdin) (Console.bufferSize - 1) []
  finishCalculation (Calculation.ask s) { events := [.chunk line] } prompt.length

/-- A line of any length, with whether it ended in a newline; nothing at the end of input. -/
partial def takeWholeLine (input : IO.FS.Stream) (line : Octets) : IO (Option (Octets × Bool)) := do
  match (← input.read 1).toList with
  | [] => return if line.isEmpty then none else some (line.reverse, false)
  | b :: _ =>
    if b = Console.newline then return some (line.reverse, true) else takeWholeLine input (b :: line)

partial def answerLines (s : Settings) (prompt : Octets) (input : IO.FS.Stream)
    (history : Repl.History) : IO Repl.History := do
  print prompt []
  let line ← takeWholeLine input []
  let (t, goesOn) := Repl.take s "" { history := history } (line.map Repl.deliver)
  print (Utf8.encode t.out) (Utf8.encode t.err)
  if goesOn then answerLines s prompt input t.history else return t.history

def repl (s : Settings) : IO UInt32 := do
  let input ← IO.getStdin
  let plain := (← IO.getEnv "TERM") = some "dumb"
  let shown := plain || (← input.isTty)
  let (history, known) := Repl.History.load (← readFile Repl.History.fileName)
  print (Utf8.encode (Repl.greeting s known)) []
  let prompt := if shown then Utf8.encode (Repl.promptOf s) else []
  let history ← answerLines s prompt input history
  match history.toSave? with
  | none => return 0
  | some content =>
    match ← writeFile Repl.History.fileName content with
    | .ok _ => return 0
    | .error fault => fail (.editor (.device fault.message))

def source (s : Settings) (path : Option String) : IO UInt32 := do
  match CSource.ofSettings s, path with
  | .error f, _ => fail f
  | .ok text, none =>
    print (Utf8.encode text) []
    return 0
  | .ok text, some path =>
    match ← writeFile path (Utf8.encode text) with
    | .ok _ => return 0
    | .error fault => fail (.device fault.message)

def settings (path : Option String) : IO (Except Failure Settings) := do
  match path with
  | none => return .ok {}
  | some path => return Settings.ofFile path (← readFile path)

def invoke (i : CommandLine.Invocation) : IO UInt32 := do
  match ← settings i.given.config with
  | .error f => fail f
  | .ok s =>
    let s := CommandLine.override i.given s
    match i.command with
    | none => finishCalculation (Calculation.run s) {} 0
    | some .run => finishCalculation (Calculation.run s) {} 0
    | some .ask => ask s
    | some .repl => repl s
    | some .source => source s i.given.out

end RecursiveFactorial.Terminal

open RecursiveFactorial in
def main (args : List String) : IO UInt32 := do
  match CommandLine.parse args with
  | .ok i => Terminal.invoke i
  | .error _ =>
    let finish := CommandLine.execute { args := args }
    Terminal.print finish.out finish.err
    return finish.exit.toUInt32
