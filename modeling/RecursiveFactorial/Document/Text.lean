import RecursiveFactorial.Document.Fault

/-!
# Texts, words and blanks of a document

Every reader here consumes at least the octets it accepts, and the `length_lt` lemmas say so; recursion over a
document rests on them.
-/
namespace RecursiveFactorial.Document

def isBlank (b : UInt8) : Bool :=
  b == ' '.toUInt8 || b == '\t'.toUInt8 || b == '\n'.toUInt8 || b == '\r'.toUInt8

def skipBlanks (s : Octets) : Octets :=
  s.dropWhile isBlank

theorem length_skipBlanks_le (s : Octets) : (skipBlanks s).length ≤ s.length :=
  (List.dropWhile_sublist isBlank).length_le

/-- Reads the rest of a word that its first octet has announced. The first octet that differs is
consumed. -/
def readWord : Octets → Octets → Except Fault Octets
  | [], s => .ok s
  | _ :: _, [] => complain .endInValue []
  | w :: ws, b :: s => if b = w then readWord ws s else complain .expectedWord s

/-- The value of a hexadecimal digit of either case. -/
def hexValue? (b : UInt8) : Option Nat :=
  let n := b.toNat
  if 48 ≤ n ∧ n ≤ 57 then some (n - 48)
  else if 65 ≤ n ∧ n ≤ 70 then some (n - 55)
  else if 97 ≤ n ∧ n ≤ 102 then some (n - 87)
  else none

/-- Four hexadecimal digits. All four octets are consumed even if they are no digits. -/
def readHex : Octets → Except Fault (Nat × Octets)
  | a :: b :: c :: d :: s =>
    match hexValue? a, hexValue? b, hexValue? c, hexValue? d with
    | some a, some b, some c, some d => .ok (((a * 16 + b) * 16 + c) * 16 + d, s)
    | _, _, _, _ => complain .invalidEscape s
  | _ => complain .endInText []

def isLeadSurrogate (n : Nat) : Bool := 0xd800 ≤ n && n ≤ 0xdbff

def isTrailSurrogate (n : Nat) : Bool := 0xdc00 ≤ n && n ≤ 0xdfff

/-- The code point that a pair of surrogates stands for. -/
def joinSurrogates (lead trail : Nat) : Nat :=
  (lead - 0xd800) * 0x400 + (trail - 0xdc00) + 0x10000

/-- The octet `c`, or a complaint that the escape at hand breaks off. -/
def expectInEscape (c : Char) : Octets → Except Fault Octets
  | [] => complain .endInText []
  | b :: s => if b = c.toUInt8 then .ok s else complain .endOfHexEscape s

/-- The second half of a surrogate pair. -/
def readTrail (s : Octets) : Except Fault (Nat × Octets) := do
  let s ← expectInEscape '\\' s
  let s ← expectInEscape 'u' s
  let (n, s) ← readHex s
  if isTrailSurrogate n then .ok (n, s) else complain .loneSurrogate s

/-- A code point after `\u`. A code point outside the first plane takes two escapes. -/
def readCodePoint (s : Octets) : Except Fault (Char × Octets) := do
  let (n, s) ← readHex s
  if isTrailSurrogate n then complain .loneSurrogate s
  else if isLeadSurrogate n then
    let (m, s) ← readTrail s
    .ok (Char.ofNat (joinSurrogates n m), s)
  else .ok (Char.ofNat n, s)

/-- What an escape of one letter stands for. -/
def simpleEscape? (b : UInt8) : Option UInt8 :=
  if b = '"'.toUInt8 ∨ b = '\\'.toUInt8 ∨ b = '/'.toUInt8 then some b
  else if b = 'b'.toUInt8 then some 0x08
  else if b = 'f'.toUInt8 then some 0x0c
  else if b = 'n'.toUInt8 then some 0x0a
  else if b = 'r'.toUInt8 then some 0x0d
  else if b = 't'.toUInt8 then some 0x09
  else none

/-- The octets that an escape stands for, read after its backslash. -/
def readEscape : Octets → Except Fault (Octets × Octets)
  | [] => complain .endInText []
  | b :: s =>
    match simpleEscape? b with
    | some c => .ok ([c], s)
    | none =>
      if b = 'u'.toUInt8 then
        match readCodePoint s with
        | .ok (c, r) => .ok (String.utf8EncodeChar c, r)
        | .error f => .error f
      else complain .invalidEscape s

theorem length_readHex {s r : Octets} {n : Nat} (h : readHex s = .ok (n, r)) :
    r.length < s.length := by
  unfold readHex at h
  split at h
  · split at h
    · simp only [Except.ok.injEq, Prod.mk.injEq] at h
      simp only [← h.2, List.length_cons]
      omega
    · simp at h
  · simp at h

theorem length_expectInEscape {c : Char} {s r : Octets} (h : expectInEscape c s = .ok r) :
    r.length < s.length := by
  unfold expectInEscape at h
  split at h
  · simp at h
  · split at h
    · simp only [Except.ok.injEq] at h
      simp [h]
    · simp at h

theorem length_readTrail {s r : Octets} {n : Nat} (h : readTrail s = .ok (n, r)) :
    r.length < s.length := by
  simp only [readTrail, bind_eq_ok] at h
  obtain ⟨s₁, h₁, s₂, h₂, ⟨m, s₃⟩, h₃, h⟩ := h
  have l₁ := length_expectInEscape h₁
  have l₂ := length_expectInEscape h₂
  have l₃ := length_readHex h₃
  split at h
  · simp only [Except.ok.injEq, Prod.mk.injEq] at h
    rw [← h.2]
    omega
  · simp at h

theorem length_readCodePoint {s r : Octets} {c : Char} (h : readCodePoint s = .ok (c, r)) :
    r.length < s.length := by
  simp only [readCodePoint, bind_eq_ok] at h
  obtain ⟨⟨n, s₁⟩, h₁, h⟩ := h
  have l₁ := length_readHex h₁
  split at h
  · simp at h
  · split at h
    · obtain ⟨⟨m, s₂⟩, h₂, h⟩ := bind_eq_ok.1 h
      have l₂ : s₂.length < s₁.length := length_readTrail h₂
      simp only [Except.ok.injEq, Prod.mk.injEq] at h
      rw [← h.2]
      omega
    · simp only [Except.ok.injEq, Prod.mk.injEq] at h
      rw [← h.2]
      exact l₁

theorem length_readEscape {s r cs : Octets} (h : readEscape s = .ok (cs, r)) :
    r.length < s.length := by
  unfold readEscape at h
  split at h
  · simp at h
  · split at h
    · simp only [Except.ok.injEq, Prod.mk.injEq] at h
      simp [h.2]
    · split at h
      · split at h
        · rename_i hv
          have l := length_readCodePoint hv
          simp only [Except.ok.injEq, Prod.mk.injEq] at h
          simp only [← h.2, List.length_cons]
          omega
        · simp at h
      · simp at h

/-- The octets of a text, read after its opening quote and through its closing one. -/
def readOctets (s : Octets) : Except Fault (Octets × Octets) :=
  match s with
  | [] => complain .endInText []
  | b :: s =>
    if b = '"'.toUInt8 then .ok ([], s)
    else if b = '\\'.toUInt8 then
      match _h : readEscape s with
      | .error f => .error f
      | .ok (cs, r) => (readOctets r).map fun (t, r) => (cs ++ t, r)
    else if b < 0x20 then complain .controlCharacter s
    else (readOctets s).map fun (t, r) => (b :: t, r)
termination_by s.length
decreasing_by
  · have := length_readEscape _h
    simp only [List.length_cons]
    omega
  · simp

/-- A text, read after its opening quote. The octets of a document are a text, so those between quotes
and those of escapes are one too. -/
def readText (s : Octets) : Except Fault (String × Octets) :=
  (readOctets s).map fun (t, r) => (Utf8.decodeLossy t, r)

theorem length_readOctets {s t r : Octets} (h : readOctets s = .ok (t, r)) :
    r.length < s.length := by
  fun_induction readOctets s generalizing t r with
  | case1 => simp at h
  | case2 s =>
    simp only [Except.ok.injEq, Prod.mk.injEq] at h
    simp [h.2]
  | case3 => simp at h
  | case4 s cs u hu _ ih =>
    obtain ⟨⟨v, w⟩, hv, h⟩ := map_eq_ok.1 h
    have l := length_readEscape hu
    have l' := ih hv
    simp only [Prod.mk.injEq] at h
    simp only [← h.2, List.length_cons]
    omega
  | case5 => simp at h
  | case6 b s _ _ _ ih =>
    obtain ⟨⟨v, w⟩, hv, h⟩ := map_eq_ok.1 h
    have l' := ih hv
    simp only [Prod.mk.injEq] at h
    simp only [← h.2, List.length_cons]
    omega

theorem length_readText {s r : Octets} {t : String} (h : readText s = .ok (t, r)) :
    r.length < s.length := by
  obtain ⟨⟨v, w⟩, hv, h⟩ := map_eq_ok.1 h
  simp only [Prod.mk.injEq] at h
  rw [← h.2]
  exact length_readOctets hv

end RecursiveFactorial.Document
