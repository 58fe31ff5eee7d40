import RecursiveFactorial.Failure
import RecursiveFactorial.Text.Fill

/-!
# Reports of failures

A report shows the code of a failure, its message, the causes beneath it and the advice, each on lines of its
own that are filled up to a given width. Lines after the first of an item are indented below it.
-/
namespace RecursiveFactorial.Report

def width : Nat := 78

/-- An item of a report: `first` stands before its first line and `later` before the others. Both take
one column for each character. -/
def item (first later text : String) : String :=
  let fill (paragraph : String) :=
    Text.fill (width - first.length) (width - later.length) paragraph.toList
  match (text.splitOn "\n").flatMap fill with
  | [] => ""
  | l :: ls =>
    first ++ String.ofList l ++ "\n" ++
      String.join (ls.map fun l => later ++ String.ofList l ++ "\n")

/-- The causes, each but the last tied to the next. -/
def causes : List String → String
  | [] => ""
  | [c] => item "  ╰─▶ " "      " c
  | c :: cs => item "  ├─▶ " "  │   " c ++ causes cs

def render (f : Failure) : String :=
  (match f.code? with
    | some code => code ++ "\n\n"
    | none => "") ++
  item "  × " "  │ " f.message ++
  causes f.causes ++
  (match f.help? with
    | some help => item "  help: " "        " help
    | none => "") ++
  "\n"

end RecursiveFactorial.Report
