import RecursiveFactorial.Evaluation
import RecursiveFactorial.Number
import RecursiveFactorial.Text.Quoted

/-!
# Settings of a calculation
-/
namespace RecursiveFactorial

structure Settings where
  value : Int32 := 10
  banner : String := "CALCULA O FATORIAL RECURSIVO"
  label : String := "Fatorial: "
  prompt : String := ""
  mode : Mode := .checked
  deriving DecidableEq, Repr, Inhabited

namespace Settings

/-- An empty prompt is no prompt. -/
def prompt? (s : Settings) : Option String :=
  if s.prompt = "" then none else some s.prompt

end Settings

def Mode.shown : Mode → String
  | .checked => "Checked"
  | .wrapping => "Wrapping"

/-- All settings on one line, as notices show them. -/
def Settings.shown (s : Settings) : String :=
  "FatConfig \x7b value: " ++ Number.decimal s.value.toInt ++
    ", banner: " ++ Text.quoted s.banner ++
    ", label: " ++ Text.quoted s.label ++
    ", prompt: " ++ Text.quoted s.prompt ++
    ", overflow: " ++ s.mode.shown ++ " \x7d"

end RecursiveFactorial
