import RecursiveFactorial.Console.Basic

/-!
# Calculations on a console

A calculation prints the banner, evaluates, and prints the labelled result. The value is the one in the
settings, or it is asked for first. A session is a list of such steps on one console, which goes on after a
step that fails.
-/
namespace RecursiveFactorial

namespace Calculation

def bannerLine (s : Settings) : Octets :=
  Utf8.encode (s.banner ++ "\n")

def resultLine (s : Settings) (result : Int32) : Octets :=
  Utf8.encode (s.label ++ " " ++ Number.decimal result.toInt ++ "\n")

/-- Evaluates with a notice of the result. -/
def evaluate (mode : Mode) (n : Int32) : ConsoleM Int32 :=
  match mode.eval n with
  | .error cause => throw (.rejected cause)
  | .ok result => do
    Console.notify (.evaluated mode n result)
    pure result

def run (s : Settings) : ConsoleM Int32 := do
  Console.notify (.computing s.value s.mode)
  Console.write (bannerLine s)
  let result ← evaluate s.mode s.value
  Console.write (resultLine s result)
  Console.flush
  pure result

def ask (s : Settings) : ConsoleM Int32 := do
  let n ← Console.askNumber s.prompt?
  run { s with value := n }

end Calculation

namespace Session

/-- One request to a console. -/
inductive Step where
  | askText (prompt : Option String)
  | askNumber (prompt : Option String)
  | run (settings : Settings)
  | ask (settings : Settings)
  deriving DecidableEq, Repr

inductive Answer where
  | text (line : Option String)
  | number (n : Int32)
  deriving DecidableEq, Repr

/-- What a step came to: its answer or failure, what it wrote, and the octets of input consumed since
the session began. -/
structure Report where
  answer : Except Failure Answer
  written : Octets
  consumed : Nat

def Step.action : Step → ConsoleM Answer
  | .askText prompt => do return .text (← Console.askText prompt)
  | .askNumber prompt => do return .number (← Console.askNumber prompt)
  | .run settings => do return .number (← Calculation.run settings)
  | .ask settings => do return .number (← Calculation.ask settings)

/-- Performs one step on a console whose record of written octets starts afresh. -/
def perform (step : Step) (c : Console) : Report × Console :=
  match step.action { c with written := [] } with
  | .ok a c' => (⟨.ok a, c'.written, c'.consumed⟩, c')
  | .error e c' => (⟨.error e, c'.written, c'.consumed⟩, c')

def performAll : List Step → Console → List Report × Console
  | [], c => ([], c)
  | step :: steps, c =>
    let (report, c) := perform step c
    let (reports, c) := performAll steps c
    (report :: reports, c)

end Session

end RecursiveFactorial
