import RecursiveFactorial.FileTree

/-!
# History of lines

A history keeps the last lines that were entered, oldest first. Empty lines and a line equal to the one before are not
kept. It is saved with a mark on the first line and one entry a line, in which backslashes and
newlines are escaped; a file without the mark holds its entries as they are.
-/
namespace RecursiveFactorial.Repl

structure History where
  entries : List String := []
  /-- Whether an entry was added since the history was loaded. -/
  changed : Bool := false
  deriving DecidableEq, Repr

namespace History

def capacity : Nat := 100

def mark : String := "#V2"

def fileName : String := ".history.txt"

/-- Adds a line, and lets go of the oldest when there are too many. -/
def add (h : History) (line : String) : History :=
  if line = "" ∨ h.entries.getLast? = some line then h
  else
    let entries := h.entries ++ [line]
    { entries := entries.drop (entries.length - capacity), changed := true }

def escapeChar (c : Char) : List Char :=
  if c = '\\' then ['\\', '\\'] else if c = '\n' then ['\\', 'n'] else [c]

/-- Undoes `escapeChar`, `none` if a backslash stands before another character. -/
def unescape? : List Char → Option (List Char)
  | [] => some []
  | '\\' :: '\\' :: cs => (unescape? cs).map ('\\' :: ·)
  | '\\' :: 'n' :: cs => (unescape? cs).map ('\n' :: ·)
  | '\\' :: _ => none
  | c :: cs => (unescape? cs).map (c :: ·)

/-- An entry as it was before it was saved; one that is badly escaped is taken as it is. -/
def unescape (line : String) : String :=
  match unescape? line.toList with
  | some cs => String.ofList cs
  | none => line

def saved (h : History) : String :=
  mark ++ "\n" ++
    String.join (h.entries.map fun e => String.ofList (e.toList.flatMap escapeChar) ++ "\n")

/-- Cuts octets into lines. The last one may lack its newline, and an empty rest is no line. -/
def splitLines (s : Octets) : List (Octets × Bool) :=
  s.foldr
    (fun b lines =>
      if b = '\n'.toUInt8 then ([], true) :: lines
      else
        match lines with
        | [] => [([b], false)]
        | (line, ended) :: lines => (b :: line, ended) :: lines)
    []

def fileLine (line : Octets × Bool) : Octets :=
  if line.2 ∧ line.1.getLast? = some '\r'.toUInt8 then line.1.dropLast else line.1

/-- Adds the lines of a file; `false` if one of them is no text, where reading stops. -/
def addLines (marked : Bool) (h : History) : List (Octets × Bool) → History × Bool
  | [] => (h, true)
  | line :: lines =>
    match Utf8.decode? (fileLine line) with
    | none => (h, false)
    | some text => addLines marked (h.add (if marked then unescape text else text)) lines

/-- The history in a file, and whether all of it could be read. What is read counts as unchanged only
if all of it could. -/
def ofFile (content : Octets) : History × Bool :=
  let empty : History := {}
  let (h, complete) :=
    match splitLines content with
    | [] => (empty, true)
    | first :: rest =>
      if fileLine first = Utf8.encode mark then addLines true empty rest
      else addLines false empty (first :: rest)
  if complete then ({ h with changed := false }, true) else (h, false)

/-- The history at the start, from what reading its file came to, and whether there was one. -/
def load (content : Except FileFault Octets) : History × Bool :=
  match content with
  | .ok content => ofFile content
  | .error _ => ({}, false)

/-- What to write at the end: nothing if no entry was added. -/
def toSave? (h : History) : Option Octets :=
  if h.changed then some (Utf8.encode h.saved) else none

end History

end RecursiveFactorial.Repl
