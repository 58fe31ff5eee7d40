import RecursiveFactorial.Document.Fault
import RecursiveFactorial.Evaluation

/-!
# Failures

Every operation that can fail does so with a `Failure`, which holds the cause. What is said about a cause is
derived from it: a message, a code, a piece of advice, and the causes beneath it.
-/
namespace RecursiveFactorial

/-- Why no line could be taken from, or kept by, the line editor. -/
inductive EditorFault where
  | endOfInput
  | interrupted
  | device (text : String)
  deriving DecidableEq, Repr

def EditorFault.message : EditorFault → String
  | .endOfInput => "EOF"
  | .interrupted => "Interrupted"
  | .device text => text

inductive Failure where
  | rejected (cause : Rejection)
  /-- A stream or file failed, with this text. -/
  | device (text : String)
  | editor (fault : EditorFault)
  | unreadableSettings (path text : String)
  | invalidSettings (path : String) (fault : Document.Located)
  | other (text : String)
  deriving DecidableEq, Repr

namespace Failure

def message : Failure → String
  | .rejected (.negative n) => "factorial of negative number " ++ Number.decimal n.toInt
  | .rejected (.overflow n) =>
    "factorial of " ++ Number.decimal n.toInt ++ " overflows a 32-bit integer"
  | .device text => text
  | .editor fault => "line editor failed: " ++ fault.message
  | .unreadableSettings path _ => "cannot read config file " ++ path
  | .invalidSettings path _ => "invalid config file " ++ path
  | .other text => text

def code? : Failure → Option String
  | .rejected (.negative _) => some "fat_eval_E0101"
  | .rejected (.overflow _) => some "fat_eval_E0102"
  | .device _ => some "fat_io_E0201"
  | .editor _ => some "fat_io_E0202"
  | .unreadableSettings _ _ => some "fat_config_E0301"
  | .invalidSettings _ _ => some "fat_config_E0302"
  | .other _ => none

def help? : Failure → Option String
  | .rejected (.negative _) => some "Factorial is defined for n >= 0 only"
  | .rejected (.overflow _) =>
    some "12! = 479001600 is the largest that fits; wrapping mode mimics C int"
  | .invalidSettings _ _ =>
    some ("Expected a JSON object with optional keys: " ++
      "value, banner, label, prompt, overflow")
  | _ => none

/-- The causes beneath a failure, outermost first. A device that fails under the line editor is a cause
of the editor's fault as well. -/
def causes : Failure → List String
  | .editor (.device text) => [text, text]
  | .editor fault => [fault.message]
  | .unreadableSettings _ text => [text]
  | .invalidSettings _ fault => [fault.message]
  | _ => []

def source? (f : Failure) : Option String :=
  f.causes.head?

end Failure

end RecursiveFactorial
