import RecursiveFactorial.Document.Skip
import RecursiveFactorial.Settings.Basic

/-!
# Fields of a settings document

Each key has a reader for its value, which sets the field of a draft. A draft knows which fields it has been
given; completing it fills in the defaults.
-/
namespace RecursiveFactorial.Document

/-- Settings of which any field may still be missing. -/
structure Draft where
  value : Option Int32 := none
  banner : Option String := none
  label : Option String := none
  prompt : Option String := none
  mode : Option Mode := none
  deriving DecidableEq, Repr

def Draft.has (d : Draft) : Key → Bool
  | .value => d.value.isSome
  | .banner => d.banner.isSome
  | .label => d.label.isSome
  | .prompt => d.prompt.isSome
  | .overflow => d.mode.isSome

/-- The settings of a draft, with defaults for what it lacks. -/
def Draft.complete (d : Draft) : Settings :=
  let base : Settings := {}
  { value := d.value.getD base.value
    banner := d.banner.getD base.banner
    label := d.label.getD base.label
    prompt := d.prompt.getD base.prompt
    mode := d.mode.getD base.mode }

/-- Complains of a value that has another type than the expected one. Scalars are consumed first, so a
fault inside them comes before the complaint about the type. -/
def refuse {α : Type} (expected : Expected) : Octets → Except Fault α
  | [] => complain .endInValue []
  | b :: s =>
    let mistyped (found : Found) (rest : Octets) : Except Fault α :=
      complain (.wrongType found expected) rest
    if b = 'n'.toUInt8 then do
      let s ← readWord (Utf8.encode "ull") s
      mistyped .null s
    else if b = 't'.toUInt8 then do
      let s ← readWord (Utf8.encode "rue") s
      mistyped (.boolean true) s
    else if b = 'f'.toUInt8 then do
      let s ← readWord (Utf8.encode "alse") s
      mistyped (.boolean false) s
    else if b = '-'.toUInt8 then do
      let (n, s) ← readNumeral true s
      mistyped n.found s
    else if isDigit b then do
      let (n, s) ← readNumeral false (b :: s)
      mistyped n.found s
    else if b = '"'.toUInt8 then do
      let (t, s) ← readText s
      mistyped (.text t) s
    else if b = '['.toUInt8 then mistyped .list (b :: s)
    else if b = '\x7b'.toUInt8 then mistyped .object (b :: s)
    else complainOfNext .expectedValue (b :: s)

/-- A numeral has to be a whole number of 32 bits. -/
def narrow (n : Numeral) (rest : Octets) : Except Fault (Int32 × Octets) :=
  match n with
  | .real bits => complain (.wrongType (.real bits) .whole) rest
  | .whole n =>
    if Int32.minValue.toInt ≤ n ∧ n ≤ Int32.maxValue.toInt then .ok (Int32.ofInt n, rest)
    else complain (.tooWide n) rest

def readWhole (s : Octets) : Except Fault (Int32 × Octets) :=
  match skipBlanks s with
  | [] => complain .endInValue []
  | b :: s =>
    if b = '-'.toUInt8 then do
      let (n, s) ← readNumeral true s
      narrow n s
    else if isDigit b then do
      let (n, s) ← readNumeral false (b :: s)
      narrow n s
    else refuse .whole (b :: s)

def readString (s : Octets) : Except Fault (String × Octets) :=
  match skipBlanks s with
  | [] => complain .endInValue []
  | b :: s => if b = '"'.toUInt8 then readText s else refuse .text (b :: s)

/-- The mode with this name. -/
def modeNamed (name : String) (rest : Octets) : Except Fault (Mode × Octets) :=
  if name = "checked" then .ok (.checked, rest)
  else if name = "wrapping" then .ok (.wrapping, rest)
  else complain (.unknownMode name) rest

/-- Passes over a null. -/
def expectNull (s : Octets) : Except Fault Octets :=
  match skipBlanks s with
  | [] => complain .endInValue []
  | b :: s =>
    if b = 'n'.toUInt8 then readWord (Utf8.encode "ull") s else refuse .nothing (b :: s)

/-- Passes over the brace that ends the object form of a mode. -/
def closeMode (s : Octets) : Except Fault Octets :=
  match skipBlanks s with
  | [] => complain .endInObject []
  | b :: s => if b = '\x7d'.toUInt8 then .ok s else complain .expectedValue (b :: s)

/-- The object form of a mode after its opening brace: the name as the only key, with a null. -/
def readModeObject (s : Octets) : Except Fault (Mode × Octets) :=
  match skipBlanks s with
  | [] => complain .endInObject []
  | b :: s =>
    if b = '"'.toUInt8 then do
      let (name, s) ← readText s
      let (mode, s) ← modeNamed name s
      let s ← expectColon s
      let s ← expectNull s
      let s ← closeMode s
      .ok (mode, s)
    else if b = '\x7d'.toUInt8 then complainOfNext .expectedValue (b :: s)
    else complainOfNext .keyIsNoText (b :: s)

def readMode (s : Octets) : Except Fault (Mode × Octets) :=
  match skipBlanks s with
  | [] => complain .endInValue []
  | b :: s =>
    if b = '"'.toUInt8 then do
      let (name, s) ← readText s
      modeNamed name s
    else if b = '\x7b'.toUInt8 then readModeObject s
    else complainOfNext .expectedValue (b :: s)

/-- Reads the value of a key into a draft. -/
def readField (key : Key) (d : Draft) (s : Octets) : Except Fault (Draft × Octets) :=
  match key with
  | .value => (readWhole s).map fun (v, r) => ({ d with value := some v }, r)
  | .banner => (readString s).map fun (v, r) => ({ d with banner := some v }, r)
  | .label => (readString s).map fun (v, r) => ({ d with label := some v }, r)
  | .prompt => (readString s).map fun (v, r) => ({ d with prompt := some v }, r)
  | .overflow => (readMode s).map fun (v, r) => ({ d with mode := some v }, r)

@[simp]
theorem refuse_ne_ok {α : Type} (e : Expected) (s : Octets) (a : α) : refuse e s ≠ .ok a := by
  unfold refuse
  repeat' split
  all_goals simp [bind_eq_ok]

theorem eq_of_narrow {n : Numeral} {s r : Octets} {v : Int32} (h : narrow n s = .ok (v, r)) :
    r = s := by
  unfold narrow at h
  split at h
  · simp at h
  · split at h
    · simp only [Except.ok.injEq, Prod.mk.injEq] at h
      exact h.2.symm
    · simp at h

theorem length_readWhole {s r : Octets} {v : Int32} (h : readWhole s = .ok (v, r)) :
    r.length < s.length := by
  have hb := length_skipBlanks_le s
  unfold readWhole at h
  split at h
  · simp at h
  · rename_i b t ht
    rw [ht] at hb
    simp only [List.length_cons] at hb
    split at h
    · obtain ⟨⟨n, u⟩, hu, h⟩ := bind_eq_ok.1 h
      have := length_readNumeral hu
      rw [eq_of_narrow h]
      omega
    · split at h
      · obtain ⟨⟨n, u⟩, hu, h⟩ := bind_eq_ok.1 h
        have := length_readNumeral hu
        simp only [List.length_cons] at this
        rw [eq_of_narrow h]
        omega
      · simp at h

theorem length_readString {s r : Octets} {v : String} (h : readString s = .ok (v, r)) :
    r.length < s.length := by
  have hb := length_skipBlanks_le s
  unfold readString at h
  split at h
  · simp at h
  · rename_i b t ht
    rw [ht] at hb
    simp only [List.length_cons] at hb
    split at h
    · have := length_readText h
      omega
    · simp at h

theorem eq_of_modeNamed {name : String} {s r : Octets} {m : Mode}
    (h : modeNamed name s = .ok (m, r)) : r = s := by
  unfold modeNamed at h
  split at h
  · simp only [Except.ok.injEq, Prod.mk.injEq] at h
    exact h.2.symm
  · split at h
    · simp only [Except.ok.injEq, Prod.mk.injEq] at h
      exact h.2.symm
    · simp at h

theorem length_expectNull {s r : Octets} (h : expectNull s = .ok r) : r.length < s.length := by
  have hb := length_skipBlanks_le s
  unfold expectNull at h
  split at h
  · simp at h
  · rename_i b t ht
    rw [ht] at hb
    simp only [List.length_cons] at hb
    split at h
    · have := length_readWord_le h
      omega
    · simp at h

theorem length_closeMode {s r : Octets} (h : closeMode s = .ok r) : r.length < s.length := by
  have hb := length_skipBlanks_le s
  unfold closeMode at h
  split at h
  · simp at h
  · rename_i b t ht
    rw [ht] at hb
    simp only [List.length_cons] at hb
    split at h
    · simp only [Except.ok.injEq] at h
      rw [← h]
      omega
    · simp at h

theorem length_readModeObject {s r : Octets} {m : Mode} (h : readModeObject s = .ok (m, r)) :
    r.length < s.length := by
  have hb := length_skipBlanks_le s
  unfold readModeObject at h
  split at h
  · simp at h
  · rename_i b t ht
    rw [ht] at hb
    simp only [List.length_cons] at hb
    split at h
    · simp only [bind_eq_ok] at h
      obtain ⟨⟨n, s₁⟩, h₁, ⟨m', s₂⟩, h₂, s₃, h₃, s₄, h₄, s₅, h₅, h⟩ := h
      have l₁ := length_readText h₁
      have l₂ := eq_of_modeNamed h₂
      have l₃ : s₃.length < s₂.length := length_expectColon h₃
      have l₄ := length_expectNull h₄
      have l₅ := length_closeMode h₅
      simp only [Except.ok.injEq, Prod.mk.injEq] at h
      simp only at l₂
      rw [l₂] at l₃
      rw [← h.2]
      omega
    · split at h <;> simp at h

theorem length_readMode {s r : Octets} {m : Mode} (h : readMode s = .ok (m, r)) :
    r.length < s.length := by
  have hb := length_skipBlanks_le s
  unfold readMode at h
  split at h
  · simp at h
  · rename_i b t ht
    rw [ht] at hb
    simp only [List.length_cons] at hb
    split at h
    · obtain ⟨⟨n, u⟩, hu, h⟩ := bind_eq_ok.1 h
      have := length_readText hu
      rw [eq_of_modeNamed h]
      omega
    · split at h
      · have := length_readModeObject h
        omega
      · simp at h

theorem length_readField {key : Key} {d d' : Draft} {s r : Octets}
    (h : readField key d s = .ok (d', r)) : r.length < s.length := by
  cases key <;> obtain ⟨⟨v, u⟩, hu, h⟩ := map_eq_ok.1 h <;>
    simp only [Prod.mk.injEq] at h <;> rw [← h.2]
  · exact length_readWhole hu
  · exact length_readString hu
  · exact length_readString hu
  · exact length_readString hu
  · exact length_readMode hu

end RecursiveFactorial.Document
