import RecursiveFactorial.Text.Alphanumeric
import RecursiveFactorial.Text.LineBreak.Basic
import RecursiveFactorial.Text.Parts
import RecursiveFactorial.Text.Width

/-!
# Filling lines

A paragraph is cut into words, and words go on a line as long as they fit its columns. Words end where a line
may end, and after a hyphen between letters or digits; a word that is wider than a line is broken. Control
sequences for a terminal are part of the text, but they take no column and no line ends because of them.
-/
namespace RecursiveFactorial.Text

/-- Where a character stands with respect to control sequences. -/
inductive Scan where
  | text
  /-- Right after an escape character. -/
  | escape
  /-- In a sequence that a letter or the like ends. -/
  | sequence
  /-- In a command that a bell, or an escape character and a backslash end. -/
  | command (last : Char)
  deriving DecidableEq, Repr

def escapeChar : Char := '\x1b'

/-- Where the next character stands, and whether this one is seen. -/
def Scan.step : Scan → Char → Scan × Bool
  | .text, c => if c = escapeChar then (.escape, false) else (.text, true)
  | .escape, c =>
    if c = '[' then (.sequence, false)
    else if c = ']' then (.command c, false)
    else (.text, false)
  | .sequence, c => (if 0x40 ≤ c.toNat ∧ c.toNat ≤ 0x7e then .text else .sequence, false)
  | .command last, c =>
    (if c = '\x07' ∨ (c = '\\' ∧ last = escapeChar) then .text else .command c, false)

def scan (s : Scan) : List Char → List (Char × Bool)
  | [] => []
  | c :: cs => (c, (s.step c).2) :: scan (s.step c).1 cs

def seen (cs : List Char) : List Char :=
  (scan .text cs).filterMap fun (c, isSeen) => if isSeen then some c else none

def width (cs : List Char) : Nat :=
  (seen cs).foldr (fun c n => columns c + n) 0

/-- A hyphen ends a word by a rule of its own, and a soft hyphen does not end one. -/
def isHyphen (c : Char) : Bool :=
  c == '-' || c.toNat == 0xad

def clearLast : List Bool → List Bool
  | [] => []
  | b :: bs => if bs.contains true then b :: clearLast bs else false :: bs

/-- For each seen character, whether a word starts with it. The end of the text counts as a place where a
word ends, unless a hyphen stands there, and the last place of all is left out. -/
def wordStarts (cs : List Char) : List Bool :=
  let marks := (LineBreak.ends cs).zipWith (fun mark c => mark && !isHyphen c) (' ' :: cs)
  if cs.getLast?.any isHyphen then clearLast marks else marks

/-- Hands the marks of seen characters on to the control sequences right before them: `fresh` tells
that the next mark has not been used yet. -/
def spreadStarts (fresh : Bool) : List Bool → List (Char × Bool) → List (Char × Bool)
  | _, [] => []
  | marks, (c, isSeen) :: cs =>
    (c, fresh && marks.headD false) ::
      if isSeen then spreadStarts true marks.tail cs else spreadStarts false marks cs

/-- Cuts a text before each marked character. -/
def cutAtMarks : List (Char × Bool) → List (List Char)
  | [] => []
  | (c, starts) :: cs =>
    let parts := consFirst c (cutAtMarks cs)
    if starts then [] :: parts else parts

theorem flatten_cutAtMarks (cs : List (Char × Bool)) :
    (cutAtMarks cs).flatten = cs.map Prod.fst := by
  induction cs with
  | nil => rfl
  | cons c cs ih =>
    rw [cutAtMarks]
    split <;> simp [ih]

/-- A stretch of text without a place to end a line, and the spaces after it. -/
structure Word where
  text : List Char
  blanks : List Char := []
  deriving DecidableEq, Repr

/-- Takes the spaces off the end. -/
def Word.of (cs : List Char) : Word :=
  let blanks := cs.reverse.takeWhile (· = ' ')
  ⟨cs.take (cs.length - blanks.length), blanks⟩

def words (cs : List Char) : List Word :=
  (cutAtMarks (spreadStarts true (wordStarts (seen cs)) (scan .text cs))).map Word.of

/-- Parts of a word, all but the last without spaces after them. -/
def partsOf (blanks : List Char) : List (List Char) → List Word
  | [] => []
  | [part] => [⟨part, blanks⟩]
  | part :: parts => ⟨part, []⟩ :: partsOf blanks parts

/-- Cuts after each hyphen between letters or digits. -/
def cutAtHyphens (before : Option Char) : List Char → List (List Char)
  | [] => []
  | c :: cs =>
    let parts := cutAtHyphens (some c) cs
    if c = '-' ∧ before.any isAlphanumeric ∧ cs.head?.any isAlphanumeric then [c] :: parts
    else consFirst c parts

theorem flatten_cutAtHyphens (before : Option Char) (cs : List Char) :
    (cutAtHyphens before cs).flatten = cs := by
  induction cs generalizing before with
  | nil => rfl
  | cons c cs ih =>
    rw [cutAtHyphens]
    split <;> simp [ih]

def Word.atHyphens (w : Word) : List Word :=
  match cutAtHyphens none w.text with
  | [] => [w]
  | parts => partsOf w.blanks parts

/-- Cuts text where the next seen character does not fit the columns of a line. -/
def cutAtWidth (room used : Nat) : List (Char × Bool) → List (List Char)
  | [] => []
  | (c, isSeen) :: cs =>
    if isSeen then
      if 0 < used ∧ room < used + columns c then
        [] :: consFirst c (cutAtWidth room (columns c) cs)
      else consFirst c (cutAtWidth room (used + columns c) cs)
    else consFirst c (cutAtWidth room used cs)

theorem flatten_cutAtWidth (room used : Nat) (cs : List (Char × Bool)) :
    (cutAtWidth room used cs).flatten = cs.map Prod.fst := by
  induction cs generalizing used with
  | nil => rfl
  | cons c cs ih =>
    rw [cutAtWidth]
    split
    · split <;> simp [ih]
    · simp [ih]

def Word.fitted (room : Nat) (w : Word) : List Word :=
  if width w.text ≤ room then [w]
  else partsOf w.blanks (cutAtWidth room 0 (scan .text w.text))

def lineText : List Word → List Char
  | [] => []
  | [w] => w.text
  | w :: ws => w.text ++ w.blanks ++ lineText ws

/-- Fills lines with words. The line at hand has `line` on it, which takes `used` of its `room` columns;
every later line has `later` columns. -/
def fillLines (room later used : Nat) (line : List Word) : List Word → List (List Char)
  | [] => [lineText line]
  | w :: ws =>
    if line ≠ [] ∧ room < used + width w.text then
      lineText line :: fillLines later later (width w.text + w.blanks.length) [w] ws
    else fillLines room later (used + width w.text + w.blanks.length) (line ++ [w]) ws

/-- The lines of a paragraph. A first word that does not fit leaves the first line empty. -/
def fill (room later : Nat) (paragraph : List Char) : List (List Char) :=
  fillLines room later 0 [⟨[], []⟩]
    (((words paragraph).flatMap Word.atHyphens).flatMap (Word.fitted later))

end RecursiveFactorial.Text
