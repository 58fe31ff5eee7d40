import RecursiveFactorial.Calculation
import RecursiveFactorial.Repl.History
import RecursiveFactorial.Report
import RecursiveFactorial.Text.Cluster.Basic

/-!
# Answering lines

The interactive loop takes lines until one of them asks to leave or the input ends. Each line is answered by
itself: help, the factorial of the number on it, or a report of why there is none.
-/
namespace RecursiveFactorial.Repl

/-- What an editor delivers: a line, or octets that are no text. -/
inductive Delivery where
  | line (text : String)
  | notText
  deriving DecidableEq, Repr

/-- A line in the editor, with its last character first, and the sizes of its clusters, the last one
first. -/
structure Draft where
  text : List Char := []
  sizes : List Nat := []
  deriving DecidableEq, Repr

/-- The editor keeps the size of a cluster, in octets, in a single octet. -/
def clusterSize (c : Text.Cluster) : Nat :=
  c.foldr (fun c n => c.utf8Size + n) 0 % 256

/-- Drops characters from the front until they come to `size` octets. -/
def dropOctets : Nat → List Char → List Char
  | _, [] => []
  | size, c :: cs => if size = 0 then c :: cs else dropOctets (size - c.utf8Size) cs

/-- Takes the next cluster. A backspace takes back the cluster before it, if there is one. -/
def Draft.push (d : Draft) (c : Text.Cluster) : Draft :=
  if c = ['\x08'] then
    match d.sizes with
    | [] => d
    | size :: sizes => ⟨dropOctets size d.text, sizes⟩
  else ⟨c.reverse ++ d.text, clusterSize c :: d.sizes⟩

def applyBackspaces (s : String) : String :=
  String.ofList ((Text.Cluster.all s.toList).foldl Draft.push {}).text.reverse

/-- A line as the editor hands it out. -/
def deliver (line : Octets × Bool) : Delivery :=
  match Utf8.decode? (History.fileLine line) with
  | none => .notText
  | some text => .line (applyBackspaces text)

def deliveries (input : Octets) : List Delivery :=
  (History.splitLines input).map deliver

structure Reply where
  out : String := ""
  err : String := ""
  leave : Bool := false
  deriving DecidableEq, Repr

def helpText : String :=
  "help - show this help\nq | quit - leave\n<n> - print n!\n"

def resultText (s : Settings) (result : Int32) : String :=
  s.label ++ " " ++ Number.decimal result.toInt ++ "\n"

def factorialOn (s : Settings) (line : String) : Except Rejection Int32 :=
  s.mode.eval (Number.read line)

def reply (s : Settings) (line : String) : Reply :=
  match Text.firstWord? line with
  | none => {}
  | some "help" => { out := helpText }
  | some "q" => { leave := true }
  | some "quit" => { leave := true }
  | some _ =>
    match factorialOn s line with
    | .ok result => { out := resultText s result }
    | .error cause => { err := Report.render (.rejected cause) }

/-- What the loop has printed, and the lines it has taken. -/
structure Transcript where
  out : String := ""
  err : String := ""
  history : History := {}
  deriving DecidableEq, Repr

def defaultPrompt : String := ">> "

def promptOf (s : Settings) : String :=
  s.prompt?.getD defaultPrompt

def endText : String := "CTRL-D\n"

def notTextText : String :=
  "Error: Io(Error \x7b kind: InvalidData, message: \"" ++ FileFault.notText.message ++ "\" \x7d)\n"

/-- Takes what the editor delivers, nothing at the end of input, and tells whether the loop goes on.
The prompt is part of the output only where it is shown. -/
def take (s : Settings) (shown : String) (t : Transcript) : Option Delivery → Transcript × Bool
  | none => ({ t with out := t.out ++ shown ++ endText }, false)
  | some .notText => ({ t with out := t.out ++ shown ++ notTextText }, false)
  | some (.line text) =>
    let r := reply s text
    (⟨t.out ++ shown ++ r.out, t.err ++ r.err, t.history.add text⟩, !r.leave)

/-- Answers lines until one asks to leave or the input ends. -/
def answerAll (s : Settings) (shown : String) (t : Transcript) : List Delivery → Transcript
  | [] => (take s shown t none).1
  | d :: ds =>
    let (t, goesOn) := take s shown t (some d)
    if goesOn then answerAll s shown t ds else t

/-- What is printed before the first line is taken. -/
def greeting (s : Settings) (known : Bool) : String :=
  (if known then "" else "No previous history\n") ++ s.banner ++ "\n"

def session (s : Settings) (history : History × Bool) (showPrompt : Bool) (input : Octets) :
    Transcript :=
  answerAll s (if showPrompt then promptOf s else "")
    { out := greeting s history.2, history := history.1 } (deliveries input)

end RecursiveFactorial.Repl
