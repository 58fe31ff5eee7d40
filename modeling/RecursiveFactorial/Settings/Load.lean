import RecursiveFactorial.Document.Basic
import RecursiveFactorial.Failure
import RecursiveFactorial.FileTree
import RecursiveFactorial.Notice

/-!
# Settings from a file
-/
namespace RecursiveFactorial.Settings

/-- The settings in a file, from what reading it came to. The file has to hold a text. -/
def ofFile (path : String) (content : Except FileFault Octets) : Except Failure Settings :=
  match content with
  | .error fault => .error (.unreadableSettings path fault.message)
  | .ok content =>
    match Utf8.decode content with
    | .error _ => .error (.unreadableSettings path FileFault.notText.message)
    | .ok _ =>
      match Document.parse content with
      | .ok settings => .ok settings
      | .error fault => .error (.invalidSettings path fault)

/-- The settings in the file at a path, or the defaults without one. -/
def load (files : FileTree) : Option String → Except Failure Settings
  | none => .ok {}
  | some path => ofFile path (files.read path)

def loadNotices (files : FileTree) : Option String → List Notice
  | none => []
  | some path =>
    match load files (some path) with
    | .ok settings => [.settingsLoaded path settings]
    | .error _ => []

end RecursiveFactorial.Settings
