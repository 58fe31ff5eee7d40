import RecursiveFactorial.Console.Line
import RecursiveFactorial.Failure
import RecursiveFactorial.Notice

/-!
# The console

A console joins an input, a writer and a list of notices. The writer may have room for a limited number of
octets, and a write that does not fit is taken as far as there is room and then fails. Whether a flush works is up to
the writer, which may go by all that it has been through. An action that fails keeps what it did before.
-/
namespace RecursiveFactorial

/-- What a writer has been through: the octets it has taken, and how many there were at each flush. -/
structure Writer.Past where
  taken : Octets := []
  flushes : List Nat := []
  deriving DecidableEq, Repr

structure Writer where
  /-- The octets it still accepts, without end if `none`. -/
  room : Option Nat := none
  /-- What it says when there is no room; without this it just accepts nothing. -/
  refusal : Option String := none
  /-- What a flush fails with, if it does. -/
  flushFault : Writer.Past → Option String := fun _ => none
  past : Writer.Past := {}

namespace Writer

/-- A fault by itself is that of every flush. -/
instance : Coe (Option String) (Past → Option String) where
  coe fault := fun _ => fault

def refusalText (w : Writer) : String :=
  w.refusal.getD "failed to write whole buffer"

def accepted (w : Writer) (s : Octets) : Octets :=
  match w.room with
  | none => s
  | some k => s.take k

/-- The writer after it has taken some octets. -/
def after (w : Writer) (s : Octets) : Writer :=
  { w with room := w.room.map (· - s.length), past := { w.past with taken := w.past.taken ++ s } }

def flushed (w : Writer) : Writer :=
  { w with past := { w.past with flushes := w.past.flushes ++ [w.past.taken.length] } }

end Writer

structure Console where
  events : List Console.Event := []
  /-- Octets of the input consumed so far. -/
  consumed : Nat := 0
  writer : Writer := {}
  written : Octets := []
  notices : List Notice := []

/-- An action on a console, which changes the console also when it fails. -/
abbrev ConsoleM := EStateM Failure Console

namespace Console

/-- Writes all of `s`, or as much as there is room for. -/
def write (s : Octets) : ConsoleM Unit := fun c =>
  let taken := c.writer.accepted s
  let c' := { c with written := c.written ++ taken, writer := c.writer.after taken }
  if taken.length = s.length then .ok () c' else .error (.device c.writer.refusalText) c'

def flush : ConsoleM Unit := fun c =>
  let c' := { c with writer := c.writer.flushed }
  match c.writer.flushFault c.writer.past with
  | none => .ok () c'
  | some text => .error (.device text) c'

def notify (n : Notice) : ConsoleM Unit :=
  modify fun c => { c with notices := c.notices ++ [n] }

/-- Takes a line of at most `limit` octets, nothing at the end of input. -/
def takeLine (limit : Nat) : ConsoleM (Option Octets) := fun c =>
  let r := readLine limit c.events
  let c' := { c with events := r.rest, consumed := c.consumed + r.consumed }
  match r.outcome with
  | .ok line => .ok line c'
  | .error text => .error (.device text) c'

/-- The size of the line buffer, with room for a terminator. -/
def bufferSize : Nat := 1024

def chomp (line : Octets) : Octets :=
  if line.getLast? = some newline then line.dropLast else line

/-- Writes the prompt if there is one, an empty one included, and flushes it. -/
def writePrompt : Option String → ConsoleM Unit
  | none => pure ()
  | some text => do
    write (Utf8.encode text)
    flush

def askText (prompt : Option String) : ConsoleM (Option String) := do
  writePrompt prompt
  match ← takeLine (bufferSize - 1) with
  | none =>
    notify .endOfInput
    pure none
  | some line => pure (some (Utf8.decodeLossy (chomp line)))

/-- Asks for a number. The end of input reads as zero. -/
def askNumber (prompt : Option String) : ConsoleM Int32 := do
  match ← askText prompt with
  | none => pure 0
  | some text =>
    let n := Number.read text
    notify (.numberRead text n)
    pure n

end Console

end RecursiveFactorial
