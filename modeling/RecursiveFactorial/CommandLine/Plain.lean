/-!
# Arguments without terminal control

An argument that is quoted in a usage error is shown without control characters and control sequences, so that it
cannot steer the terminal. Blanks stay. A scanner follows the sequences of a terminal: it passes over
characters until one can be shown, and then shows characters until one cannot.
-/
namespace RecursiveFactorial.CommandLine.Plain

/-- Where a scanner is in a control sequence. -/
inductive State where
  | ground
  | escape
  /-- After an escape character and an intermediate one. -/
  | escapeIntermediate
  /-- In a sequence that starts with a bracket. -/
  | sequence
  /-- At the start of a device control string, among its parameters, after an intermediate character. -/
  | deviceEntry
  | deviceParameter
  | deviceIntermediate
  /-- In a string that a string terminator ends. -/
  | string
  /-- In a command to the operating system. -/
  | command
  deriving DecidableEq, Repr

def isBlank (c : Char) : Bool :=
  c == ' ' || c == '\t' || c == '\n' || c == '\x0c' || c == '\r'

def within (low high : Nat) (c : Char) : Bool :=
  low ≤ c.toNat && c.toNat ≤ high

/-- Whether the octets of a character have the single-octet string terminator among them. -/
def holdsTerminator (c : Char) : Bool :=
  (String.utf8EncodeChar c).contains 0x9c

def State.next (s : State) (c : Char) : State :=
  if c = '\x18' ∨ c = '\x1a' then .ground
  else if c = '\x1b' then .escape
  else
    match s with
    | .ground => .ground
    | .escape =>
      if within 0x20 0x2f c then .escapeIntermediate
      else if c = '[' then .sequence
      else if c = ']' then .command
      else if c = 'P' then .deviceEntry
      else if c = 'X' ∨ c = '^' ∨ c = '_' then .string
      else if within 0x30 0x7e c then .ground
      else .escape
    | .escapeIntermediate => if within 0x30 0x7e c then .ground else s
    | .sequence => if within 0x40 0x7e c then .ground else s
    | .deviceEntry =>
      if within 0x20 0x2f c then .deviceIntermediate
      else if c = ':' then .string
      else if within 0x30 0x3f c then .deviceParameter
      else if within 0x40 0x7e c then .string
      else s
    | .deviceParameter =>
      if within 0x20 0x2f c then .deviceIntermediate
      else if c = ':' ∨ within 0x3c 0x3f c then .string
      else if within 0x40 0x7e c then .string
      else s
    | .deviceIntermediate => if within 0x30 0x7e c then .string else s
    | .string => if holdsTerminator c then .ground else s
    | .command => if c = '\x07' then .ground else s

/-- Whether a character can be shown outside control sequences. -/
def showsOnGround (c : Char) : Bool :=
  isBlank c || within 0x21 0x7e c || 0x80 ≤ c.toNat

/-- Whether a character can be shown in a state. A blank in the middle of a sequence can, except in
strings. -/
def State.shows (s : State) (c : Char) : Bool :=
  match s with
  | .ground => showsOnGround c
  | .escape => isBlank c && c != ' '
  | .escapeIntermediate => isBlank c && c != ' '
  | .sequence => isBlank c && c != ' '
  | _ => false

/-- A scanner shows characters or passes over them. While it shows them, it keeps the state in which
it began, until a character outside ASCII or one that changes the state on the ground sets it. -/
structure Scanner where
  state : State := .ground
  showing : Bool := false
  deriving DecidableEq, Repr

def State.whileShowing (s : State) (c : Char) : State :=
  if c = '\x18' ∨ c = '\x1a' then .ground
  else if c = '\x1b' then .escape
  else if 0x80 ≤ c.toNat then .ground
  else s

/-- Passes over a character or starts to show. -/
def Scanner.pass (s : State) (c : Char) : Scanner × Bool :=
  let next := s.next c
  if s.shows c then (⟨next.whileShowing c, true⟩, true) else (⟨next, false⟩, false)

def Scanner.step (s : Scanner) (c : Char) : Scanner × Bool :=
  if s.showing then
    let state := s.state.whileShowing c
    if showsOnGround c then (⟨state, true⟩, true) else pass state c
  else pass s.state c

def Scanner.run (s : Scanner) : List Char → List Char
  | [] => []
  | c :: cs =>
    let (s, shown) := s.step c
    if shown then c :: s.run cs else s.run cs

def strip (text : String) : String :=
  String.ofList (Scanner.run {} text.toList)

end RecursiveFactorial.CommandLine.Plain
