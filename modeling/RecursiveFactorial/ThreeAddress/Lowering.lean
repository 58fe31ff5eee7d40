import RecursiveFactorial.ThreeAddress.Basic

/-!
# The calculation as three-address code

The program has one function, which computes a factorial by recursion, and a main body that prints the banner,
calls the function on a global, and prints the label with the result. Temporaries are numbered through
the whole program, so those of main follow those of the function.
-/
namespace RecursiveFactorial.ThreeAddress

def functionName : String := "fatorial"

def paramName : String := "n"

def globalName : String := "valor"

/-- The built-in function that prints its arguments on a line. -/
def printName : String := "print"

/-- `n! = 1` for `n` zero or one, else `n * (n - 1)!`. -/
def factorialBody : List Instr :=
  let n := Operand.var paramName
  [ .binary .eq n (.int 0) 0,
    .binary .eq n (.int 1) 1,
    .binary .or (.temp 0) (.temp 1) 2,
    .ifFalse (.temp 2) 0,
    .ret (.int 1),
    .goto 1,
    .label 0,
    .binary .sub n (.int 1) 3,
    .call functionName [.temp 3] (some 4),
    .binary .mul n (.temp 4) 5,
    .ret (.temp 5),
    .label 1 ]

def factorialFunction : Function :=
  ⟨functionName, [paramName], factorialBody⟩

def mainBody (s : Settings) : List Instr :=
  [ .call printName [.str s.banner] (some 6),
    .assign globalName (.int s.value),
    .call functionName [.var globalName] (some 7),
    .call printName [.str s.label, .temp 7] (some 8) ]

/-- The program that the settings describe. -/
def Program.ofSettings (s : Settings) : Program :=
  ⟨[globalName], [factorialFunction], mainBody s⟩

end RecursiveFactorial.ThreeAddress
