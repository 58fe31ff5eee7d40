import RecursiveFactorial.Document.Field

/-!
# Settings documents

A document is one object with any of the five keys, or one list of at most five values in the order of the keys.
Unknown keys are passed over, and a known key may be given once. `parse` reads a whole document and gives
the place of the first fault.
-/
namespace RecursiveFactorial.Document

/-- From right before a member to its key's text, after the opening quote. A comma is needed between
members, so `first` tells whether one came before. -/
def toKey (first : Bool) (b : UInt8) (s : Octets) : Except Fault Octets :=
  if first then
    if b = '"'.toUInt8 then .ok s else complainOfNext .keyIsNoText (b :: s)
  else if b = ','.toUInt8 then
    match skipBlanks s with
    | [] => complain .endInValue []
    | c :: t =>
      if c = '"'.toUInt8 then .ok t
      else if c = '\x7d'.toUInt8 then complainOfNext .trailingComma (c :: t)
      else complainOfNext .keyIsNoText (c :: t)
  else complainOfNext .expectedCommaOrBrace (b :: s)

/-- Complains of a key that was there before. The blanks after the key are consumed, and a closing brace
if that is next. -/
def complainOfRepeated {α : Type} (key : Key) (s : Octets) : Except Fault α :=
  match skipBlanks s with
  | [] => complain (.repeated key) []
  | b :: s =>
    if b = '\x7d'.toUInt8 then complain (.repeated key) s
    else complain (.repeated key) (b :: s)

def readMember (name : String) (d : Draft) (s : Octets) : Except Fault (Draft × Octets) :=
  match Key.ofText? name with
  | none => do
    let s ← expectColon s
    let s ← skipValue s
    .ok (d, s)
  | some key =>
    if d.has key then complainOfRepeated key s
    else do
      let s ← expectColon s
      readField key d s

theorem length_toKey_le {first : Bool} {b : UInt8} {s r : Octets} (h : toKey first b s = .ok r) :
    r.length ≤ s.length := by
  have hb := length_skipBlanks_le s
  unfold toKey at h
  split at h
  · split at h
    · simp only [Except.ok.injEq] at h
      simp [h]
    · simp at h
  · split at h
    · split at h
      · simp at h
      · rename_i c t ht
        rw [ht] at hb
        simp only [List.length_cons] at hb
        split at h
        · simp only [Except.ok.injEq] at h
          rw [← h]
          omega
        · split at h <;> simp at h
    · simp at h

@[simp]
theorem complainOfRepeated_ne_ok {α : Type} (key : Key) (s : Octets) (a : α) :
    complainOfRepeated key s ≠ .ok a := by
  unfold complainOfRepeated
  split
  · simp
  · split <;> simp

theorem length_readMember {name : String} {d d' : Draft} {s r : Octets}
    (h : readMember name d s = .ok (d', r)) : r.length < s.length := by
  unfold readMember at h
  split at h
  · simp only [bind_eq_ok] at h
    obtain ⟨s₁, h₁, s₂, h₂, h⟩ := h
    have l₁ := length_expectColon h₁
    have l₂ := length_skipFrom h₂
    simp only [Except.ok.injEq, Prod.mk.injEq] at h
    rw [← h.2]
    omega
  · split at h
    · simp at h
    · obtain ⟨s₁, h₁, h⟩ := bind_eq_ok.1 h
      have l₁ := length_expectColon h₁
      have l₂ := length_readField h
      omega

/-- A key with its value, from right before it. -/
def readNextMember (first : Bool) (b : UInt8) (d : Draft) (s : Octets) :
    Except Fault (Draft × Octets) := do
  let s ← toKey first b s
  let (name, s) ← readText s
  readMember name d s

theorem length_readNextMember {first : Bool} {b : UInt8} {d d' : Draft} {s r : Octets}
    (h : readNextMember first b d s = .ok (d', r)) : r.length < s.length := by
  simp only [readNextMember, bind_eq_ok] at h
  obtain ⟨s₁, h₁, ⟨name, s₂⟩, h₂, h⟩ := h
  have l₁ := length_toKey_le h₁
  have l₂ := length_readText h₂
  have l₃ : r.length < s₂.length := length_readMember h
  omega

/-- The members of an object, through its closing brace. -/
def readMembers (first : Bool) (d : Draft) (s : Octets) : Except Fault (Draft × Octets) :=
  match _hs : skipBlanks s with
  | [] => complain .endInObject []
  | b :: t =>
    if b = '\x7d'.toUInt8 then .ok (d, t)
    else
      match _h : readNextMember first b d t with
      | .error f => .error f
      | .ok (d, r) => readMembers false d r
termination_by s.length
decreasing_by
  have l := length_readNextMember _h
  have l' := length_skipBlanks_le s
  rw [_hs] at l'
  simp only [List.length_cons] at l'
  omega

/-- The end of a list after its fifth value. -/
def closeList (s : Octets) : Except Fault Octets :=
  match skipBlanks s with
  | [] => complain .endInList []
  | b :: s =>
    if b = ']'.toUInt8 then .ok s
    else if b = ','.toUInt8 then
      match skipBlanks s with
      | [] => complain .trailingCharacters []
      | c :: t =>
        if c = ']'.toUInt8 then complainOfNext .trailingComma (c :: t)
        else complainOfNext .trailingCharacters (c :: t)
    else complainOfNext .trailingCharacters (b :: s)

/-- The values of a list for the given keys, through its closing bracket. -/
def readElements (first : Bool) : List Key → Draft → Octets → Except Fault (Draft × Octets)
  | [], d, s => (closeList s).map fun r => (d, r)
  | key :: keys, d, s =>
    match skipBlanks s with
    | [] => complain .endInList []
    | b :: s =>
      if b = ']'.toUInt8 then .ok (d, s)
      else if first then do
        let (d, s) ← readField key d (b :: s)
        readElements false keys d s
      else if b = ','.toUInt8 then
        match skipBlanks s with
        | [] => complain .endInValue []
        | c :: t =>
          if c = ']'.toUInt8 then complainOfNext .trailingComma (c :: t)
          else do
            let (d, s) ← readField key d (c :: t)
            readElements false keys d s
      else complainOfNext .expectedCommaOrBracket (b :: s)

def readDraft (s : Octets) : Except Fault (Draft × Octets) :=
  match skipBlanks s with
  | [] => complain .endInValue []
  | b :: s =>
    if b = '\x7b'.toUInt8 then readMembers true {} s
    else if b = '['.toUInt8 then readElements true Key.all {} s
    else refuse .settings (b :: s)

def expectEnd (s : Octets) : Except Fault Unit :=
  match skipBlanks s with
  | [] => .ok ()
  | b :: s => complainOfNext .trailingCharacters (b :: s)

def readDocument (s : Octets) : Except Fault Settings := do
  let (d, s) ← readDraft s
  expectEnd s
  .ok d.complete

/-- The settings that a document holds, or its first fault with its place. -/
def parse (document : Octets) : Except Located Settings :=
  match readDocument document with
  | .ok settings => .ok settings
  | .error f => .error (f.locate document)

end RecursiveFactorial.Document
