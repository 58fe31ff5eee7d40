import RecursiveFactorial.CommandLine.Plain
import RecursiveFactorial.Number

/-!
# Arguments

Arguments are read from left to right. An option that takes a value may have it attached or as the next argument; in
the latter case the value is checked when the next option of the level is met or the arguments end, so an argument that
is not known comes before a bad value. The arguments of a command are read before what is still unchecked in front of
it.
-/
namespace RecursiveFactorial.CommandLine

inductive Command where
  | run
  | ask
  | repl
  | source
  deriving DecidableEq, Repr

def Command.all : List Command := [.run, .ask, .repl, .source]

def Command.name : Command → String
  | .run => "run"
  | .ask => "ask"
  | .repl => "repl"
  | .source => "c"

def Command.ofName? (s : String) : Option Command :=
  Command.all.find? fun c => c.name = s

def helpWord : String := "help"

inductive Topic where
  | program
  | command (c : Command)
  | help
  deriving DecidableEq, Repr

inductive Setting where
  | config
  | value
  | out
  deriving DecidableEq, Repr

inductive Flag where
  | wrapping
  | help
  | version
  deriving DecidableEq, Repr

inductive Opt where
  | setting (s : Setting)
  | flag (f : Flag)
  deriving DecidableEq, Repr

/-- An option as errors name it. -/
def Opt.shown : Opt → String
  | .setting .config => "--config <CONFIG>"
  | .setting .value => "--value <VALUE>"
  | .setting .out => "--out <OUT>"
  | .flag .wrapping => "--wrapping"
  | .flag .help => "--help"
  | .flag .version => "--version"

/-- Where an argument stands: before a command, or among the arguments of one. -/
abbrev Level := Option Command

/-- The options of a level by their long names. -/
def longOptions : Level → List (String × Opt)
  | none => [("config", .setting .config), ("help", .flag .help), ("version", .flag .version)]
  | some .run =>
    [ ("config", .setting .config), ("value", .setting .value), ("wrapping", .flag .wrapping),
      ("help", .flag .help) ]
  | some .source =>
    [ ("config", .setting .config), ("value", .setting .value), ("out", .setting .out),
      ("help", .flag .help) ]
  | some _ => [("config", .setting .config), ("help", .flag .help)]

def longOption? (level : Level) (name : String) : Option Opt :=
  (longOptions level).lookup name

/-- The flags of a level by their letters. -/
def shortFlag? (level : Level) (c : Char) : Option Flag :=
  if c = 'h' then some .help
  else if c = 'V' ∧ level = none then some .version
  else none

inductive UsageError where
  | unknownCommand (arg : String)
  | unexpected (arg : String)
  | valueMissing (s : Setting)
  | repeated (o : Opt)
  | unneededValue (value : String) (f : Flag)
  | invalidValue (value reason : String)
  deriving DecidableEq, Repr

def UsageError.message : UsageError → String
  | .unknownCommand arg => "error: unrecognized subcommand '" ++ Plain.strip arg ++ "'"
  | .unexpected arg => "error: unexpected argument '" ++ Plain.strip arg ++ "' found"
  | .valueMissing s =>
    "error: a value is required for '" ++ (Opt.setting s).shown ++ "' but none was supplied"
  | .repeated o => "error: the argument '" ++ o.shown ++ "' cannot be used multiple times"
  | .unneededValue value f =>
    "error: unexpected value '" ++ Plain.strip value ++ "' for '" ++ (Opt.flag f).shown ++
      "' found; no more were expected"
  | .invalidValue value reason =>
    "error: invalid value '" ++ Plain.strip value ++ "' for '" ++ (Opt.setting .value).shown ++
      "': " ++ reason

/-- Why reading arguments stops short of an invocation. -/
inductive Stop where
  | usage (e : UsageError)
  | help (topic : Topic)
  | version
  deriving DecidableEq, Repr

structure Given where
  config : Option String := none
  value : Option Int32 := none
  out : Option String := none
  wrapping : Bool := false
  deriving DecidableEq, Repr

/-- Digits of a signed 64-bit integer, checked one by one. -/
def parseDigits (negative : Bool) (value : Int) : List Char → Except String Int
  | [] => .ok value
  | c :: cs =>
    if !c.isDigit then .error "invalid digit found in string"
    else
      let digit := Number.digitValue c
      let value := if negative then value * 10 - digit else value * 10 + digit
      if value < Number.least64 then .error "number too small to fit in target type"
      else if Number.greatest64 < value then .error "number too large to fit in target type"
      else parseDigits negative value cs

def parseWide (s : String) : Except String Int :=
  match s.toList with
  | [] => .error "cannot parse integer from empty string"
  | ['+'] => .error "invalid digit found in string"
  | ['-'] => .error "invalid digit found in string"
  | '+' :: cs => parseDigits false 0 cs
  | '-' :: cs => parseDigits true 0 cs
  | cs => parseDigits false 0 cs

def parseValue (s : String) : Except String Int32 := do
  let n ← parseWide s
  let least := Int32.minValue.toInt
  let greatest := Int32.maxValue.toInt
  if least ≤ n ∧ n ≤ greatest then .ok (Int32.ofInt n)
  else
    .error (Number.decimal n ++ " is not in " ++ Number.decimal least ++ "..=" ++
      Number.decimal greatest)

/-- Sets an option to a value. An option may be given once, and a path is not empty. -/
def Given.set (g : Given) (s : Setting) (v : String) : Except UsageError Given :=
  match s with
  | .config =>
    if g.config.isSome then .error (.repeated (.setting s))
    else if v = "" then .error (.valueMissing s)
    else .ok { g with config := some v }
  | .out =>
    if g.out.isSome then .error (.repeated (.setting s))
    else if v = "" then .error (.valueMissing s)
    else .ok { g with out := some v }
  | .value =>
    if g.value.isSome then .error (.repeated (.setting s))
    else
      match parseValue v with
      | .ok n => .ok { g with value := some n }
      | .error reason => .error (.invalidValue v reason)

/-- An option whose value is not checked yet, or is still to come. -/
structure Pending where
  setting : Setting
  value : Option String
  deriving DecidableEq, Repr

/-- How far a level has been read. -/
structure Progress where
  given : Given := {}
  pending : Option Pending := none
  /-- Whether `--` has ended the options. -/
  ended : Bool := false
  deriving DecidableEq, Repr

/-- The option that waits for the next argument as its value. -/
def Progress.awaits (p : Progress) : Option Setting :=
  match p.pending with
  | some ⟨s, none⟩ => some s
  | _ => none

def Progress.settle (p : Progress) : Except Stop Given :=
  match p.pending with
  | none => .ok p.given
  | some ⟨s, none⟩ => .error (.usage (.valueMissing s))
  | some ⟨s, some v⟩ => (p.given.set s v).mapError .usage

def topicOf : Level → Topic
  | none => .program
  | some c => .command c

def Given.raise (g : Given) (level : Level) : Flag → Except Stop Given
  | .help => .error (.help (topicOf level))
  | .version => .error .version
  | .wrapping =>
    if g.wrapping then .error (.usage (.repeated (.flag .wrapping)))
    else .ok { g with wrapping := true }

/-- Cuts `name=value` at the first equals sign. -/
def cutValue : List Char → List Char × Option (List Char)
  | [] => ([], none)
  | '=' :: cs => ([], some cs)
  | c :: cs =>
    let (name, value) := cutValue cs
    (c :: name, value)

def readLong (level : Level) (p : Progress) (cs : List Char) : Except Stop Progress :=
  let (name, value) := cutValue cs
  let name := String.ofList name
  match longOption? level name, value with
  | none, _ => .error (.usage (.unexpected ("--" ++ name)))
  | some (.setting s), none => do
    let given ← p.settle
    .ok { p with given := given, pending := some ⟨s, none⟩ }
  | some (.setting s), some v => do
    let given ← p.settle
    let given ← (given.set s (String.ofList v)).mapError .usage
    .ok { p with given := given, pending := none }
  | some (.flag f), some v => .error (.usage (.unneededValue (String.ofList v) f))
  | some (.flag f), none => do
    let given ← p.settle
    let given ← given.raise level f
    .ok { p with given := given, pending := none }

/-- Letters after one dash. Every flag with a letter stops the reading, so only the first one
counts. -/
def readShort (level : Level) (p : Progress) (c : Char) : Except Stop Progress :=
  match shortFlag? level c with
  | none => .error (.usage (.unexpected (String.ofList ['-', c])))
  | some f => do
    let given ← p.settle
    let given ← given.raise level f
    .ok { p with given := given, pending := none }

/-- Whether text after a dash looks like a number: digits, with a point and an exponent at most once,
neither of them first, and the exponent not last. -/
def looksNumeric (point mark first : Bool) : List Char → Bool
  | [] => true
  | c :: cs =>
    if c.isDigit then looksNumeric point mark false cs
    else if c = '.' then !point && !mark && !first && looksNumeric true mark false cs
    else if c = 'e' then !mark && !first && cs ≠ [] && looksNumeric point true false cs
    else false

/-- What an argument is on its own. -/
inductive Shape where
  | escape
  | long (cs : List Char)
  | short (c : Char) (cs : List Char)
  | plain
  deriving DecidableEq, Repr

def Shape.of (arg : String) : Shape :=
  match arg.toList with
  | ['-', '-'] => .escape
  | '-' :: '-' :: cs => .long cs
  | '-' :: c :: cs => .short c cs
  | _ => .plain

/-- Reads an argument of a level. `none` stands for one that is no option and no option's value. -/
def readArgument (level : Level) (p : Progress) (arg : String) : Except Stop (Option Progress) :=
  if p.ended then .ok none
  else
    let asValue : Option Progress :=
      p.awaits.map fun s => { p with pending := some ⟨s, some arg⟩ }
    match Shape.of arg with
    | .escape => .ok (some { p with ended := true })
    | .long cs => (readLong level p cs).map some
    | .short c cs =>
      if p.awaits = some .value ∧ looksNumeric false false true (c :: cs) then .ok asValue
      else (readShort level p c).map some
    | .plain => .ok asValue

def readCommand (c : Command) (p : Progress) : List String → Except Stop Given
  | [] => p.settle
  | arg :: args => do
    match ← readArgument (some c) p arg with
    | some p => readCommand c p args
    | none => .error (.usage (.unexpected arg))

structure Invocation where
  command : Option Command := none
  given : Given := {}
  deriving DecidableEq, Repr

/-- What the arguments after `help` ask help about. -/
def helpTopic : List String → Except Stop Invocation
  | [] => .error (.help .program)
  | [arg] =>
    match Command.ofName? arg with
    | some c => .error (.help (.command c))
    | none =>
      if arg = helpWord then .error (.help .help) else .error (.usage (.unknownCommand arg))
  | arg :: next :: _ =>
    if (Command.ofName? arg).isSome ∨ arg = helpWord then
      .error (.usage (.unknownCommand next))
    else .error (.usage (.unknownCommand arg))

/-- Complains of an argument in the place of a command. A command's name after `--` is not one. -/
def refuseCommand (p : Progress) (arg : String) : Except Stop Invocation :=
  if p.ended ∧ ((Command.ofName? arg).isSome ∨ arg = helpWord) then
    .error (.usage (.unexpected arg))
  else .error (.usage (.unknownCommand arg))

/-- The arguments of the program. A configuration file named after the command wins. -/
def readProgram (p : Progress) : List String → Except Stop Invocation
  | [] => do
    let given ← p.settle
    .ok { given := given }
  | arg :: args =>
    let mayBeCommand := !p.ended && p.awaits.isNone
    match Command.ofName? arg with
    | some c =>
      if mayBeCommand then do
        let inner ← readCommand c {} args
        let outer ← p.settle
        .ok { command := some c, given := { inner with config := inner.config <|> outer.config } }
      else continueWith arg args
    | none =>
      if mayBeCommand ∧ arg = helpWord then helpTopic args else continueWith arg args
where
  continueWith (arg : String) (args : List String) : Except Stop Invocation := do
    match ← readArgument none p arg with
    | some p => readProgram p args
    | none => refuseCommand p arg

def parse (args : List String) : Except Stop Invocation :=
  readProgram {} args

end RecursiveFactorial.CommandLine
