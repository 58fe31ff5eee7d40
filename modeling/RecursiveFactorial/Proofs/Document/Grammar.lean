import RecursiveFactorial.Text.Utf8

/-!
# The grammar of JSON

RFC 8259 on characters: blanks, numbers, texts with their escapes, and values. `IsBody` is the grammar of what stands
between quotes, and `Spells` is the part of it that has a meaning: surrogates in pairs only.
-/
namespace RecursiveFactorial.Json

def isBlank (c : Char) : Bool :=
  c == ' ' || c == '\t' || c == '\n' || c == '\r'

def Blanks (cs : List Char) : Prop :=
  ∀ c ∈ cs, isBlank c = true

instance Blanks.decidable (cs : List Char) : Decidable (Blanks cs) :=
  List.decidableBAll _ cs

theorem blanks_nil : Blanks [] := by
  intro c hc
  cases hc

theorem Blanks.append {cs ds : List Char} (hcs : Blanks cs) (hds : Blanks ds) : Blanks (cs ++ ds) := by
  intro c hc
  obtain hc | hc := List.mem_append.mp hc
  · exact hcs c hc
  · exact hds c hc

section Numbers

def Digits (cs : List Char) : Prop :=
  ∀ c ∈ cs, c.isDigit = true

instance Digits.decidable (cs : List Char) : Decidable (Digits cs) :=
  List.decidableBAll _ cs

/-- Digits before the point. A zero in front stands alone. -/
inductive IsWhole : List Char → Prop
  | zero : IsWhole ['0']
  | digits {d : Char} {ds : List Char} : d.isDigit = true → d ≠ '0' → Digits ds → IsWhole (d :: ds)

inductive IsFraction : List Char → Prop
  | absent : IsFraction []
  | digits {d : Char} {ds : List Char} : d.isDigit = true → Digits ds → IsFraction ('.' :: d :: ds)

inductive IsExponent : List Char → Prop
  | absent : IsExponent []
  | digits {mark d : Char} {sign ds : List Char} : mark ∈ ['e', 'E'] → sign ∈ [[], ['+'], ['-']] →
      d.isDigit = true → Digits ds → IsExponent (mark :: (sign ++ d :: ds))

/-- A number without its sign. -/
inductive IsNumeral : List Char → Prop
  | mk {w f e : List Char} : IsWhole w → IsFraction f → IsExponent e → IsNumeral (w ++ f ++ e)

inductive IsNumber : List Char → Prop
  | plain {n : List Char} : IsNumeral n → IsNumber n
  | negative {n : List Char} : IsNumeral n → IsNumber ('-' :: n)

/-- A numeral without fraction and exponent, and the integer it stands for. Zero has no sign. -/
inductive IsInteger : List Char → Int → Prop
  | plain {w : List Char} : IsWhole w → IsInteger w (Nat.ofDigitChars 10 w 0)
  | negative {w : List Char} : IsWhole w → w ≠ ['0'] → IsInteger ('-' :: w) (-(Nat.ofDigitChars 10 w 0 : Nat))

theorem IsInteger.isNumber {cs : List Char} {n : Int} (h : IsInteger cs n) : IsNumber cs := by
  cases h with
  | plain hw => simpa using IsNumber.plain (.mk hw .absent .absent)
  | negative hw _ => simpa using IsNumber.negative (.mk hw .absent .absent)

end Numbers

section Texts

/-- A character that stands for itself between quotes. -/
def isPlain (c : Char) : Bool :=
  0x20 ≤ c.toNat && c != '"' && c != '\\'

/-- What a letter after a backslash stands for. -/
def shortEscape? : Char → Option Char
  | '"' => some '"'
  | '\\' => some '\\'
  | '/' => some '/'
  | 'b' => some '\x08'
  | 'f' => some '\x0c'
  | 'n' => some '\n'
  | 'r' => some '\r'
  | 't' => some '\t'
  | _ => none

def hexDigit? (c : Char) : Option Nat :=
  if c.isDigit then some (c.toNat - '0'.toNat)
  else if 'A' ≤ c ∧ c ≤ 'F' then some (c.toNat - 'A'.toNat + 10)
  else if 'a' ≤ c ∧ c ≤ 'f' then some (c.toNat - 'a'.toNat + 10)
  else none

/-- Four hexadecimal digits and their number. -/
inductive IsCode : List Char → Nat → Prop
  | mk {a b c d : Char} {i j k l : Nat} : hexDigit? a = some i → hexDigit? b = some j → hexDigit? c = some k →
      hexDigit? d = some l → IsCode [a, b, c, d] (((i * 16 + j) * 16 + k) * 16 + l)

/-- A character or an escape between quotes. -/
inductive IsPart : List Char → Prop
  | plain {c : Char} : isPlain c = true → IsPart [c]
  | short {e c : Char} : shortEscape? e = some c → IsPart ['\\', e]
  | code {ds : List Char} {n : Nat} : IsCode ds n → IsPart ('\\' :: 'u' :: ds)

inductive IsBody : List Char → Prop
  | nil : IsBody []
  | cons {part raw : List Char} : IsPart part → IsBody raw → IsBody (part ++ raw)

/-- What stands for a character between quotes. A character outside the first plane takes two surrogates. -/
inductive Spelling : List Char → Char → Prop
  | plain {c : Char} : isPlain c = true → Spelling [c] c
  | short {e c : Char} : shortEscape? e = some c → Spelling ['\\', e] c
  | code {ds : List Char} {c : Char} : IsCode ds c.toNat → Spelling ('\\' :: 'u' :: ds) c
  | pair {ds es : List Char} {lead trail : Nat} {c : Char} : IsCode ds lead → IsCode es trail →
      0xd800 ≤ lead → lead ≤ 0xdbff → 0xdc00 ≤ trail → trail ≤ 0xdfff →
      c.toNat = 0x10000 + (lead - 0xd800) * 0x400 + (trail - 0xdc00) →
      Spelling ('\\' :: 'u' :: (ds ++ '\\' :: 'u' :: es)) c

inductive Spells : List Char → List Char → Prop
  | nil : Spells [] []
  | cons {part raw cs : List Char} {c : Char} : Spelling part c → Spells raw cs → Spells (part ++ raw) (c :: cs)

theorem IsBody.append {raw raw' : List Char} (h : IsBody raw) (h' : IsBody raw') : IsBody (raw ++ raw') := by
  induction h with
  | nil => exact h'
  | cons hpart _ ih =>
    rw [List.append_assoc]
    exact .cons hpart ih

theorem IsPart.isBody {part : List Char} (h : IsPart part) : IsBody part := by
  simpa using IsBody.cons h .nil

theorem Spelling.isBody {part : List Char} {c : Char} (h : Spelling part c) : IsBody part := by
  cases h with
  | plain hc => exact (IsPart.plain hc).isBody
  | short he => exact (IsPart.short he).isBody
  | code hds => exact (IsPart.code hds).isBody
  | pair hlead htrail => exact (IsPart.code hlead).isBody.append (IsPart.code htrail).isBody

theorem Spells.isBody {raw cs : List Char} (h : Spells raw cs) : IsBody raw := by
  induction h with
  | nil => exact .nil
  | cons hpart _ ih => exact hpart.isBody.append ih

end Texts

section Values

def quoted (raw : List Char) : List Char :=
  '"' :: (raw ++ ['"'])

/-- A value of a list, with the blanks around it. -/
structure Item where
  before : List Char
  value : List Char
  after : List Char
  deriving DecidableEq, Repr

namespace Item

def chars (e : Item) : List Char :=
  e.before ++ e.value ++ e.after

def Spaced (e : Item) : Prop :=
  Blanks e.before ∧ Blanks e.after

instance Spaced.decidable (e : Item) : Decidable e.Spaced :=
  inferInstanceAs (Decidable (_ ∧ _))

end Item

/-- A key with its value, and the blanks around both. -/
structure Member where
  before : List Char
  /-- What stands between the quotes of the key. -/
  key : List Char
  between : List Char
  item : Item
  deriving DecidableEq, Repr

namespace Member

def chars (m : Member) : List Char :=
  m.before ++ quoted m.key ++ m.between ++ ':' :: m.item.chars

def Spaced (m : Member) : Prop :=
  Blanks m.before ∧ Blanks m.between ∧ m.item.Spaced

instance Spaced.decidable (m : Member) : Decidable m.Spaced :=
  inferInstanceAs (Decidable (_ ∧ _))

end Member

/-- Entries with commas between them. -/
def separated : List (List Char) → List Char
  | [] => []
  | x :: xs => x ++ xs.flatMap (',' :: ·)

/-- A list. The last blanks are those of a list without values. -/
def listChars (es : List Item) (blanks : List Char) : List Char :=
  '[' :: (separated (es.map Item.chars) ++ blanks ++ [']'])

def objectChars (ms : List Member) (blanks : List Char) : List Char :=
  '\x7b' :: (separated (ms.map Member.chars) ++ blanks ++ ['\x7d'])

inductive IsValue : List Char → Prop
  | null : IsValue "null".toList
  | true : IsValue "true".toList
  | false : IsValue "false".toList
  | number {n : List Char} : IsNumber n → IsValue n
  | text {raw : List Char} : IsBody raw → IsValue (quoted raw)
  | list {es : List Item} {blanks : List Char} : (∀ e ∈ es, e.Spaced) → (∀ e ∈ es, IsValue e.value) →
      Blanks blanks → IsValue (listChars es blanks)
  | object {ms : List Member} {blanks : List Char} : (∀ m ∈ ms, m.Spaced) → (∀ m ∈ ms, IsBody m.key) →
      (∀ m ∈ ms, IsValue m.item.value) → Blanks blanks → IsValue (objectChars ms blanks)

/-- A whole text: one value with blanks around it. -/
def IsText (cs : List Char) : Prop :=
  ∃ before value after, cs = before ++ value ++ after ∧ Blanks before ∧ IsValue value ∧ Blanks after

end Values

end RecursiveFactorial.Json
