import RecursiveFactorial.CSource.Listing
import RecursiveFactorial.FileTree

/-!
# C source in a file
-/
namespace RecursiveFactorial.CSource

def writeTo (files : FileTree) (s : Settings) (path : String) : Except Failure FileTree := do
  let source ← ofSettings s
  match files.write path (Utf8.encode source) with
  | .ok files => .ok files
  | .error fault => .error (.device fault.message)

/-- What writing reports. -/
def writeNotices (files : FileTree) (s : Settings) (path : String) : List Notice :=
  match writeTo files s path with
  | .ok _ => [.sourceWritten path]
  | .error _ => []

end RecursiveFactorial.CSource
