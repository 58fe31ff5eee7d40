import RecursiveFactorial.Text.Utf8

/-!
# Lines from an unreliable input

An input is a list of events: chunks of octets, interruptions, failures. A chunk without octets is an end of
input that is seen once, and the end of the list is an end of input forever. A line is read through the
first newline and is never longer than a limit. Interruptions are passed over; a failure loses the octets
read so far.
-/
namespace RecursiveFactorial.Console

inductive Event where
  | chunk (octets : Octets)
  | interrupted
  | failure (text : String)
  deriving DecidableEq, Repr

def newline : UInt8 := '\n'.toUInt8

/-- Cuts octets after the first newline or after `room` octets, whichever comes first. -/
def cutLine : Nat → Octets → Octets × Octets
  | 0, s => ([], s)
  | _ + 1, [] => ([], [])
  | room + 1, b :: s =>
    if b = newline then ([b], s)
    else
      let (line, rest) := cutLine room s
      (b :: line, rest)

theorem cutLine_append (room : Nat) (s : Octets) :
    (cutLine room s).1 ++ (cutLine room s).2 = s := by
  fun_induction cutLine room s with
  | case1 => rfl
  | case2 => rfl
  | case3 => rfl
  | case4 room b s _ line rest hc ih =>
    rw [hc] at ih
    simpa using ih

structure LineRead where
  /-- A failure's text, or the line, or nothing at the end of input. -/
  outcome : Except String (Option Octets)
  /-- The octets consumed, also by a read that failed. -/
  consumed : Nat
  rest : List Event

/-- What is left of a chunk. A chunk that is used up is gone. -/
def putBack (octets : Octets) (events : List Event) : List Event :=
  if octets = [] then events else .chunk octets :: events

/-- The line at an end of input: nothing if no octet came before. -/
def lineAtEnd (line : Octets) (rest : List Event) : LineRead :=
  ⟨.ok (if line = [] then none else some line), line.length, rest⟩

def extendLine (room : Nat) (line : Octets) : List Event → LineRead
  | [] => if room = 0 then ⟨.ok (some line), line.length, []⟩ else lineAtEnd line []
  | event :: events =>
    if room = 0 then ⟨.ok (some line), line.length, event :: events⟩
    else
      match event with
      | .interrupted => extendLine room line events
      | .failure text => ⟨.error text, line.length, events⟩
      | .chunk [] => lineAtEnd line events
      | .chunk octets =>
        let (part, rest) := cutLine room octets
        let line := line ++ part
        if rest = [] ∧ part.getLast? ≠ some newline then
          extendLine (room - part.length) line events
        else ⟨.ok (some line), line.length, putBack rest events⟩

/-- A line of at most `limit` octets, its newline included. -/
def readLine (limit : Nat) (events : List Event) : LineRead :=
  extendLine limit [] events

end RecursiveFactorial.Console
