import RecursiveFactorial.Text.LineBreak.Class

/-!
# Where lines may end: rules

Between two neighbours a line may end or it may not. The rules are tried in order and the first one that
applies decides. Most look at the classes on both sides. A few also look at what came before: spaces, a Hebrew
letter before a hyphen, a joiner, what a quotation mark follows, a letter with a vowel killer, or how many
regional indicators or dotted circles stand in a row. Two look one character further: at what follows a closing
quotation mark, and at a vowel killer after the next letter.
-/
namespace RecursiveFactorial.Text.LineBreak

/-- What stands before a place. -/
structure Left where
  /-- The class of the last character that is neither a space nor goes with another one. -/
  last : Class
  /-- Whether spaces follow it. -/
  spaces : Bool := false
  /-- Whether a zero width joiner stands right before the place. -/
  joined : Bool := false
  /-- Whether `last` is a hyphen or the like after a Hebrew letter. -/
  hebrewHyphen : Bool := false
  /-- Whether an odd number of regional indicators ends here. -/
  halfFlag : Bool := false
  /-- Whether `last` is a quotation mark that opens and stands where a quotation may begin. -/
  quotes : Bool := false
  /-- Whether `last` is a vowel killer that joins the letter before it to the next one. -/
  linked : Bool := false
  /-- Whether `last` completes a pair of dotted circles. Circles in a row are counted in pairs. -/
  paired : Bool := false
  deriving DecidableEq, Repr

def isHardEnd (k : Class) : Bool :=
  k == .BK || k == .CR || k == .LF || k == .NL

def isMark (k : Class) : Bool :=
  k == .CM || k == .ZWJ

def isOpening (k : Class) : Bool :=
  k == .OP || k == .OW

def isQuote (k : Class) : Bool :=
  k == .QU || k == .QI || k == .QF

/-- Letters that a syllable of several letters may hold. -/
def isSyllabic (k : Class) : Bool :=
  k == .AK || k == .AS || k == .DC

def isKiller (k : Class) : Bool :=
  k == .VF || k == .VI

/-- Whether a mark goes with what stands before the place. -/
def Left.takesMark (l : Left) : Bool :=
  !l.spaces && !isHardEnd l.last && l.last != .ZW

/-- A mark that has nothing to go with counts as a letter. -/
def standalone (k : Class) : Class :=
  if isMark k then .AL else k

/-- Whether a quotation may begin right here. -/
def Left.mayQuote (l : Left) : Bool :=
  l.spaces || isHardEnd l.last || isOpening l.last || isQuote l.last || l.last == .GL || l.last == .ZW

def Left.first (k : Class) : Left :=
  { last := standalone k
    spaces := k == .SP
    joined := k == .ZWJ
    halfFlag := k == .RI
    quotes := k == .QI }

/-- What stands before the place after one more character. -/
def Left.push (l : Left) (k : Class) : Left :=
  if k = .SP then
    if !l.spaces && isHardEnd l.last then .first .SP
    else { l with spaces := true, joined := false }
  else if isMark k && l.takesMark then { l with joined := k == .ZWJ }
  else
    { last := standalone k
      joined := k == .ZWJ
      hebrewHyphen := (k == .HY || k == .BA) && l.last == .HL && !l.spaces
      halfFlag := k == .RI && !(l.halfFlag && !l.spaces)
      quotes := k == .QI && l.mayQuote
      linked := k == .VI && isSyllabic l.last && !l.spaces && !l.paired
      paired := k == .DC && l.last == .DC && !l.spaces && !l.paired }

def isLetter (k : Class) : Bool :=
  k == .AL || k == .HL || k == .DC

def isIdeograph (k : Class) : Bool :=
  k == .ID || k == .RP || k == .EB || k == .EM

def isHangul (k : Class) : Bool :=
  k == .JL || k == .JV || k == .JT || k == .H2 || k == .H3

/-- Neighbours in a number and what goes with it. -/
def inNumber : Class → Class → Bool
  | .CL, k => k == .PO || k == .PR
  | .CP, k => k == .PO || k == .PR
  | .NU, k => k == .PO || k == .PR || k == .NU
  | .PO, k => isOpening k || k == .NU
  | .PR, k => isOpening k || k == .NU
  | .HY, k => k == .NU
  | .IS, k => k == .NU
  | .SY, k => k == .NU
  | _, _ => false

/-- Letters of one Hangul syllable. -/
def inSyllable : Class → Class → Bool
  | .JL, k => k == .JL || k == .JV || k == .H2 || k == .H3
  | .JV, k => k == .JV || k == .JT
  | .H2, k => k == .JV || k == .JT
  | .JT, k => k == .JT
  | .H3, k => k == .JT
  | _, _ => false

/-- The class of the next character that is not a mark. -/
def nextBase (ks : List Class) : Option Class :=
  (ks.dropWhile isMark).head?

/-- Whether a quotation mark before `ks` closes a quotation there. -/
def endsQuotation (ks : List Class) : Bool :=
  match nextBase ks with
  | none => true
  | some k =>
    isHardEnd k || isQuote k || k == .SP || k == .GL || k == .WJ || k == .CL || k == .CP || k == .EX ||
      k == .IS || k == .SY || k == .ZW

/-- Letters of one syllable in scripts that write several letters as one. -/
def Left.sharesSyllable (l : Left) (k : Class) (ks : List Class) : Bool :=
  (l.last == .AP && isSyllabic k) ||
  (isSyllabic l.last && isKiller k) ||
  (l.linked && (k == .AK || k == .DC)) ||
  (isSyllabic l.last && isSyllabic k && nextBase ks == some .VF)

/-- Neighbours without spaces between them that stay on one line, when `ks` follows. -/
def Left.keeps (l : Left) (k : Class) (ks : List Class) : Bool :=
  (k == .BA || k == .HY || k == .NS || l.last == .BB) ||
  l.hebrewHyphen ||
  (l.last == .SY && k == .HL) ||
  k == .IN ||
  (isLetter l.last && k == .NU) || (l.last == .NU && isLetter k) ||
  (l.last == .PR && isIdeograph k) || (isIdeograph l.last && k == .PO) ||
  ((l.last == .PR || l.last == .PO) && isLetter k) ||
  (isLetter l.last && (k == .PR || k == .PO)) ||
  inNumber l.last k ||
  inSyllable l.last k ||
  (isHangul l.last && k == .PO) || (l.last == .PR && isHangul k) ||
  (isLetter l.last && isLetter k) ||
  l.sharesSyllable k ks ||
  (l.last == .IS && isLetter k) ||
  ((isLetter l.last || l.last == .NU) && k == .OP) ||
  (l.last == .CP && (isLetter k || k == .NU)) ||
  (l.halfFlag && k == .RI) ||
  ((l.last == .EB || l.last == .RP) && k == .EM)

/-- Whether a character stays with a pair of dotted circles before it. -/
def staysWithPair (k : Class) : Bool :=
  k == .AL || k == .HL || k == .OP || k == .QI

/-- Whether a line may end before a base character of class `k` that `ks` follows. -/
def Left.endsBeforeBase (l : Left) (k : Class) (ks : List Class) : Bool :=
  if k == .WJ || (l.last == .WJ && !l.spaces) then false
  else if l.last == .GL && !l.spaces then false
  else if k == .GL && !l.spaces && l.last != .BA && l.last != .HY then false
  else if k == .CL || k == .CP || k == .EX || k == .IS || k == .SY then false
  else if isOpening l.last then false
  else if l.quotes then false
  else if k == .QF && endsQuotation ks then false
  else if (l.last == .CL || l.last == .CP) && k == .NS then false
  else if l.last == .B2 && k == .B2 then false
  else if l.spaces then true
  else if isQuote k || isQuote l.last then false
  else if k == .CB || l.last == .CB then true
  else !l.keeps k ks

/-- Whether a line may end before a character of class `k` that `ks` follows. The rule for pairs of dotted
circles comes first: a line may end even before a space after them. -/
def Left.endsBefore (l : Left) (k : Class) (ks : List Class) : Bool :=
  if l.paired && !l.spaces && !isMark k then !l.joined && !staysWithPair k
  else if !l.spaces && isHardEnd l.last then !(l.last == .CR && k == .LF)
  else if isHardEnd k || k == .SP || k == .ZW then false
  else if l.last == .ZW then true
  else if l.joined then false
  else if isMark k && l.takesMark then false
  else l.endsBeforeBase (standalone k) ks

def endsAfter (l : Left) : List Class → List Bool
  | [] => []
  | k :: ks => l.endsBefore k ks :: endsAfter (l.push k) ks

/-- For each character, whether a line may end before it. No line ends before the first one. -/
def ends (cs : List Char) : List Bool :=
  match cs.map Class.of with
  | [] => []
  | k :: ks => false :: endsAfter (.first k) ks

theorem length_endsAfter (l : Left) (ks : List Class) : (endsAfter l ks).length = ks.length := by
  induction ks generalizing l with
  | nil => rfl
  | cons k ks ih => simp [endsAfter, ih]

theorem length_ends (cs : List Char) : (ends cs).length = cs.length := by
  cases cs with
  | nil => rfl
  | cons c cs => simp [ends, length_endsAfter]

end RecursiveFactorial.Text.LineBreak
