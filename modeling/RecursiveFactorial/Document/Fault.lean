import RecursiveFactorial.Decimal.Double
import RecursiveFactorial.Number
import RecursiveFactorial.Text.Quoted
import RecursiveFactorial.Text.Utf8

/-!
# What can be wrong with a settings document

A document is read from its octets, and a reader hands on the octets it has not consumed. A fault therefore
needs no counter: it holds its complaint and the number of octets left, from which its line and
column follow once the whole document is at hand.
-/
namespace RecursiveFactorial.Document

/-- The keys that settings have, in the order of the list form. -/
inductive Key where
  | value
  | banner
  | label
  | prompt
  | overflow
  deriving DecidableEq, Repr

def Key.all : List Key := [.value, .banner, .label, .prompt, .overflow]

def Key.text : Key → String
  | .value => "value"
  | .banner => "banner"
  | .label => "label"
  | .prompt => "prompt"
  | .overflow => "overflow"

def Key.ofText? (s : String) : Option Key :=
  Key.all.find? (fun k => k.text = s)

/-- A value of a type that does not belong where it stands. -/
inductive Found where
  | null
  | boolean (b : Bool)
  | whole (n : Int)
  /-- A number with a fraction or an exponent, or one that no 64-bit integer holds, by its bits. -/
  | real (bits : UInt64)
  | text (s : String)
  | list
  | object
  deriving DecidableEq, Repr

def Found.message : Found → String
  | .null => "null"
  | .boolean b => "boolean `" ++ (if b then "true" else "false") ++ "`"
  | .whole n => "integer `" ++ Number.decimal n ++ "`"
  | .real bits => "floating point `" ++ Decimal.text Decimal.complaintLayout bits ++ "`"
  | .text s => "string " ++ Text.quoted s
  | .list => "sequence"
  | .object => "map"

/-- The type that a place asks for. -/
inductive Expected where
  | settings
  | whole
  | text
  | nothing
  deriving DecidableEq, Repr

def Expected.message : Expected → String
  | .settings => "struct FatConfig"
  | .whole => "i32"
  | .text => "a string"
  | .nothing => "unit"

inductive Complaint where
  | endInValue
  | endInObject
  | endInList
  | endInText
  | expectedValue
  | expectedWord
  | expectedColon
  | expectedCommaOrBrace
  | expectedCommaOrBracket
  | keyIsNoText
  | trailingComma
  | trailingCharacters
  | invalidNumber
  | numberOutOfRange
  | invalidEscape
  | controlCharacter
  | loneSurrogate
  | endOfHexEscape
  | wrongType (found : Found) (expected : Expected)
  /-- A whole number that does not fit 32 bits. -/
  | tooWide (n : Int)
  | unknownMode (name : String)
  | repeated (key : Key)
  deriving DecidableEq, Repr

def Complaint.message : Complaint → String
  | .endInValue => "EOF while parsing a value"
  | .endInObject => "EOF while parsing an object"
  | .endInList => "EOF while parsing a list"
  | .endInText => "EOF while parsing a string"
  | .expectedValue => "expected value"
  | .expectedWord => "expected ident"
  | .expectedColon => "expected `:`"
  | .expectedCommaOrBrace => "expected `,` or `\x7d`"
  | .expectedCommaOrBracket => "expected `,` or `]`"
  | .keyIsNoText => "key must be a string"
  | .trailingComma => "trailing comma"
  | .trailingCharacters => "trailing characters"
  | .invalidNumber => "invalid number"
  | .numberOutOfRange => "number out of range"
  | .invalidEscape => "invalid escape"
  | .controlCharacter =>
    "control character (\\u0000-\\u001F) found while parsing a string"
  | .loneSurrogate => "lone leading surrogate in hex escape"
  | .endOfHexEscape => "unexpected end of hex escape"
  | .wrongType found expected =>
    "invalid type: " ++ found.message ++ ", expected " ++ expected.message
  | .tooWide n =>
    "invalid value: integer `" ++ Number.decimal n ++ "`, expected " ++ Expected.whole.message
  | .unknownMode name =>
    "unknown variant `" ++ name ++ "`, expected `checked` or `wrapping`"
  | .repeated key => "duplicate field `" ++ key.text ++ "`"

/-- A complaint and the number of octets that were left when it was raised. -/
structure Fault where
  complaint : Complaint
  left : Nat
  deriving DecidableEq, Repr

/-- A complaint right before the octets that are left. -/
def complain {α : Type} (c : Complaint) (rest : Octets) : Except Fault α :=
  .error ⟨c, rest.length⟩

/-- A complaint about the next octet, which counts as consumed if there is one. -/
def complainOfNext {α : Type} (c : Complaint) (rest : Octets) : Except Fault α :=
  .error ⟨c, rest.length - 1⟩

theorem bind_eq_ok {α β : Type} {x : Except Fault α} {f : α → Except Fault β} {b : β} :
    x >>= f = .ok b ↔ ∃ a, x = .ok a ∧ f a = .ok b := by
  cases x <;> simp [bind, Except.bind]

theorem map_eq_ok {α β : Type} {x : Except Fault α} {f : α → β} {b : β} :
    x.map f = .ok b ↔ ∃ a, x = .ok a ∧ f a = b := by
  cases x <;> simp [Except.map]

@[simp]
theorem complain_ne_ok {α : Type} (c : Complaint) (rest : Octets) (a : α) :
    complain c rest ≠ .ok a := by
  simp [complain]

@[simp]
theorem complainOfNext_ne_ok {α : Type} (c : Complaint) (rest : Octets) (a : α) :
    complainOfNext c rest ≠ .ok a := by
  simp [complainOfNext]

/-- A complaint with its place in the document. -/
structure Located where
  complaint : Complaint
  line : Nat
  column : Nat
  deriving DecidableEq, Repr

/-- Lines count from one. The column is the number of octets consumed on the line. -/
def Fault.locate (f : Fault) (document : Octets) : Located :=
  let consumed := document.take (document.length - f.left)
  let newline := '\n'.toUInt8
  ⟨f.complaint, consumed.count newline + 1, (consumed.reverse.takeWhile (· != newline)).length⟩

def Located.message (l : Located) : String :=
  l.complaint.message ++ " at line " ++ Number.decimal l.line ++ " column " ++
    Number.decimal l.column

end RecursiveFactorial.Document
