import RecursiveFactorial.Text.Utf8

/-!
# A small file tree

Files and directories below one directory, named by paths relative to it. A path is walked component by
component. Leaving the tree upwards leads to directories in which nothing is found.
-/
namespace RecursiveFactorial

inductive FileFault where
  | notFound
  | notDirectory
  | isDirectory
  | nameTooLong
  | nulInName
  | notText
  | other (text : String)
  deriving DecidableEq, Repr

def FileFault.message : FileFault → String
  | .notFound => "No such file or directory (os error 2)"
  | .notDirectory => "Not a directory (os error 20)"
  | .isDirectory => "Is a directory (os error 21)"
  | .nameTooLong => "File name too long (os error 36)"
  | .nulInName => "file name contained an unexpected NUL byte"
  | .notText => "stream did not contain valid UTF-8"
  | .other text => text

/-- Files with their contents, and directories; both by the components of their paths. The parents of a
file or directory are directories too. -/
structure FileTree where
  files : List (List String × Octets) := []
  directories : List (List String) := []
  deriving DecidableEq, Repr

namespace FileTree

def components (path : String) : List String :=
  path.splitOn "/"

/-- Where a walk has led. -/
inductive Place where
  | directory (path : List String)
  | file (path : List String)
  | missing (path : List String)
  | outside
  | missingOutside
  deriving DecidableEq, Repr

def content? (t : FileTree) (path : List String) : Option Octets :=
  (t.files.find? fun f => f.1 = path).map Prod.snd

def isDirectory (t : FileTree) (path : List String) : Bool :=
  t.directories.any (path.isPrefixOf ·) ||
    t.files.any fun f => path.isPrefixOf f.1 && path.length < f.1.length

def longestName : Nat := 255

def longestPath : Nat := 4095

/-- What stands at a path below the root. -/
def place (t : FileTree) (path : List String) : Place :=
  if (t.content? path).isSome then .file path
  else if t.isDirectory path then .directory path
  else .missing path

/-- Goes from a place to a name in it. -/
def enter (t : FileTree) (here : Place) (name : String) : Except FileFault Place :=
  match here with
  | .file _ => .error .notDirectory
  | .missing _ => .error .notFound
  | .missingOutside => .error .notFound
  | .outside =>
    if name = "" ∨ name = "." ∨ name = ".." then .ok .outside
    else if longestName < name.utf8ByteSize then .error .nameTooLong
    else .ok .missingOutside
  | .directory path =>
    if name = "" ∨ name = "." then .ok here
    else if name = ".." then
      .ok (if path = [] then .outside else .directory path.dropLast)
    else if longestName < name.utf8ByteSize then .error .nameTooLong
    else .ok (t.place (path ++ [name]))

/-- Walks components of a path from its start. -/
def walk (t : FileTree) (path : String) (names : List String) : Except FileFault Place :=
  if path.contains '\x00' then .error .nulInName
  else if path = "" then .error .notFound
  else if longestPath < path.utf8ByteSize then .error .nameTooLong
  else names.foldlM t.enter (if path.startsWith "/" then .outside else .directory [])

def resolve (t : FileTree) (path : String) : Except FileFault Place :=
  t.walk path (components path)

def read (t : FileTree) (path : String) : Except FileFault Octets := do
  match ← t.resolve path with
  | .file p => .ok ((t.content? p).getD [])
  | .directory _ => .error .isDirectory
  | .outside => .error .isDirectory
  | .missing _ => .error .notFound
  | .missingOutside => .error .notFound

def put (t : FileTree) (path : List String) (content : Octets) : FileTree :=
  { t with files := t.files.filter (fun f => f.1 ≠ path) ++ [(path, content)] }

/-- The components before the last name of a path that ends in slashes. -/
def parentOfDirectory (path : String) : List String :=
  (((components path).reverse.dropWhile (· = "")).drop 1).reverse

/-- Writes a file, which need not exist, in a directory that has to. A path that ends in a slash names
a directory, whether there is one or not. -/
def write (t : FileTree) (path : String) (content : Octets) : Except FileFault FileTree := do
  if path.endsWith "/" then
    let _ ← t.walk path (parentOfDirectory path ++ ["."])
    .error .isDirectory
  else
    match ← t.resolve path with
    | .file p => .ok (t.put p content)
    | .missing p => .ok (t.put p content)
    | .missingOutside => .ok t
    | .directory _ => .error .isDirectory
    | .outside => .error .isDirectory

def ofEntries (files : List (String × Octets)) (directories : List String) : FileTree :=
  let clean (path : String) := (components path).filter fun c => c ≠ "" ∧ c ≠ "."
  { files := files.map fun f => (clean f.1, f.2)
    directories := [] :: directories.map clean }

def entries (t : FileTree) : List (String × Octets) :=
  t.files.map fun f => ("/".intercalate f.1, f.2)

end FileTree

end RecursiveFactorial
