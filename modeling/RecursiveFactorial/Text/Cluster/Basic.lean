import RecursiveFactorial.Text.Cluster.Class
import RecursiveFactorial.Text.Parts

/-!
# Clusters

A text is cut into clusters from left to right. Whether a character joins the cluster before it is decided by
its class and by what is remembered of the characters before it: the class of the last one, how far a
conjunct of consonants or a sequence of joined pictographs has come, and whether a flag is half done.
-/
namespace RecursiveFactorial.Text

/-- What a reader takes for one character. -/
abbrev Cluster := List Char

namespace Cluster

/-- How far a conjunct has come: a consonant, and then a sign that links it to the next. -/
inductive Conjunct where
  | none
  | begun
  | linked
  deriving DecidableEq, Repr

/-- How far a joined pictograph has come: a pictograph with its marks, and then a joiner. -/
inductive Pictograph where
  | none
  | begun
  | joined
  deriving DecidableEq, Repr

structure Context where
  last : Class
  conjunct : Conjunct
  pictograph : Pictograph
  /-- Whether an odd number of regional indicators ends here. -/
  halfFlag : Bool
  deriving DecidableEq, Repr

/-- Marks between the parts of a conjunct. The non-joiner breaks it up. -/
def keepsConjunct (c : Char) (k : Class) : Bool :=
  (k == .extend || k == .joiner) && c.toNat != 0x200c

def Conjunct.push (t : Conjunct) (c : Char) (k : Class) : Conjunct :=
  if k = .consonant then .begun
  else if isLinker c then if t = .none then .none else .linked
  else if keepsConjunct c k then t
  else .none

def Pictograph.push (t : Pictograph) (k : Class) : Pictograph :=
  match k with
  | .pictograph => .begun
  | .extend => if t = .begun then .begun else .none
  | .joiner => if t = .begun then .joined else .none
  | _ => .none

def Context.start : Context := ⟨.control, .none, .none, false⟩

def Context.push (t : Context) (c : Char) : Context :=
  let k := Class.of c
  { last := k
    conjunct := t.conjunct.push c k
    pictograph := t.pictograph.push k
    halfFlag := k == .regional && !t.halfFlag }

def standsAlone : Class → Bool
  | .carriageReturn => true
  | .lineFeed => true
  | .control => true
  | _ => false

/-- Letters of one syllable. -/
def sameSyllable : Class → Class → Bool
  | .leadingJamo, k =>
    k == .leadingJamo || k == .vowelJamo || k == .openSyllable || k == .closedSyllable
  | .openSyllable, k => k == .vowelJamo || k == .trailingJamo
  | .vowelJamo, k => k == .vowelJamo || k == .trailingJamo
  | .closedSyllable, k => k == .trailingJamo
  | .trailingJamo, k => k == .trailingJamo
  | _, _ => false

/-- Whether a character of class `k` joins the cluster before it. -/
def Context.joins (t : Context) (k : Class) : Bool :=
  if t.last = .carriageReturn ∧ k = .lineFeed then true
  else if standsAlone t.last || standsAlone k then false
  else
    sameSyllable t.last k || k == .extend || k == .joiner || k == .spacing ||
      t.last == .leading || (t.conjunct == .linked && k == .consonant) ||
      (t.pictograph == .joined && k == .pictograph) || (t.halfFlag && k == .regional)

/-- Cuts what follows a character into clusters. The first part goes with the cluster before it. -/
def cut (t : Context) : List Char → List Cluster
  | [] => [[]]
  | c :: cs =>
    let parts := consFirst c (cut (t.push c) cs)
    if t.joins (Class.of c) then parts else [] :: parts

def all : List Char → List Cluster
  | [] => []
  | c :: cs => consFirst c (cut (Context.start.push c) cs)

theorem flatten_cut (t : Context) (cs : List Char) : (cut t cs).flatten = cs := by
  induction cs generalizing t with
  | nil => rfl
  | cons c cs ih =>
    rw [cut]
    split <;> simp [ih]

/-- Cutting loses nothing. -/
theorem flatten_all (cs : List Char) : (all cs).flatten = cs := by
  cases cs with
  | nil => rfl
  | cons c cs => simp [all, flatten_cut]

end Cluster

end RecursiveFactorial.Text
