import RecursiveFactorial.Settings.Basic

/-!
# Notices

What the library reports about its work, apart from results: each notice is a value, and its line of text
has a level, the part of the library it is about, and a message.
-/
namespace RecursiveFactorial

inductive Notice where
  | evaluated (mode : Mode) (n result : Int32)
  | endOfInput
  | numberRead (line : String) (n : Int32)
  | computing (n : Int32) (mode : Mode)
  | settingsLoaded (path : String) (settings : Settings)
  | sourceWritten (path : String)
  deriving DecidableEq, Repr

namespace Notice

def text : Notice → String
  | .evaluated mode n result =>
    "DEBUG fatorial::factorial: " ++
      (match mode with
        | .checked => "factorial("
        | .wrapping => "wrapping_factorial(") ++
      Number.decimal n.toInt ++ ") = " ++ Number.decimal result.toInt
  | .endOfInput => "DEBUG fatorial::input: read_string: end of input"
  | .numberRead line n =>
    "DEBUG fatorial::input: read_number: " ++ Text.quoted line ++ " -> " ++
      Number.decimal n.toInt
  | .computing n mode =>
    "INFO fatorial::program: computing " ++ Number.decimal n.toInt ++ "! (" ++ mode.shown ++ ")"
  | .settingsLoaded path settings =>
    "DEBUG fatorial::config: loaded config from " ++ path ++ ": " ++ settings.shown
  | .sourceWritten path => "INFO fatorial: C source written to " ++ path

/-- What an evaluation reports: its result, and nothing when the argument is rejected. -/
def ofEvaluation (mode : Mode) (n : Int32) : List Notice :=
  match mode.eval n with
  | .ok result => [.evaluated mode n result]
  | .error _ => []

end Notice

end RecursiveFactorial
