import RecursiveFactorial.Failure

/-!
# Named outputs

An output collects octets under a name. They have to be a text in the end.
-/
namespace RecursiveFactorial

structure Output where
  name : String
  body : Octets := []
  deriving DecidableEq, Repr

namespace Output

def append (o : Output) (data : Octets) : Output :=
  { o with body := o.body ++ data }

def appendLine (o : Output) (data : Octets) : Output :=
  { o with body := o.body ++ (data ++ ['\n'.toUInt8]) }

@[simp]
theorem body_append (o : Output) (data : Octets) : (o.append data).body = o.body ++ data := rfl

@[simp]
theorem body_appendLine (o : Output) (data : Octets) :
    (o.appendLine data).body = o.body ++ (data ++ ['\n'.toUInt8]) := rfl

/-- The text that was collected. -/
def finish (o : Output) : Except Failure String :=
  match Utf8.decode o.body with
  | .ok text => .ok text
  | .error f => .error (.other (o.name ++ ": non UTF-8 output: " ++ f.message))

end Output

end RecursiveFactorial
