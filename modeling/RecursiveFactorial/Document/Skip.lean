import RecursiveFactorial.Document.Numeral

/-!
# Values that are passed over

The value of an unknown key is checked for its form and forgotten. Lists and objects may be nested to any
depth: the ones that are open are kept as a stack of frames, and `skipStep` goes from the start of
one value to the start of the next, closing whatever ends in between. `skipFrom` iterates it.
-/
namespace RecursiveFactorial.Document

/-- A list or an object that is still open. -/
inductive Frame where
  | list
  | object
  deriving DecidableEq, Repr

def Frame.closing : Frame → UInt8
  | .list => ']'.toUInt8
  | .object => '\x7d'.toUInt8

/-- The document ends inside the frame. -/
def Frame.cutOff : Frame → Complaint
  | .list => .endInList
  | .object => .endInObject

/-- Neither a comma nor the closing bracket follows a value of the frame. -/
def Frame.unseparated : Frame → Complaint
  | .list => .expectedCommaOrBracket
  | .object => .expectedCommaOrBrace

/-- Passes over an escape after its backslash. Surrogates need not be paired. -/
def skipEscape : Octets → Except Fault Octets
  | [] => complain .endInText []
  | b :: s =>
    if (simpleEscape? b).isSome then .ok s
    else if b = 'u'.toUInt8 then (readHex s).map Prod.snd
    else complain .invalidEscape s

theorem length_skipEscape {s r : Octets} (h : skipEscape s = .ok r) : r.length < s.length := by
  unfold skipEscape at h
  split at h
  · simp at h
  · split at h
    · simp only [Except.ok.injEq] at h
      simp [h]
    · split at h
      · obtain ⟨⟨n, t⟩, ht, h⟩ := map_eq_ok.1 h
        have l := length_readHex ht
        simp only at h
        simp only [← h, List.length_cons]
        omega
      · simp at h

/-- Passes over a text after its opening quote. A control character is not consumed. -/
def skipText (s : Octets) : Except Fault Octets :=
  match s with
  | [] => complain .endInText []
  | b :: s =>
    if b = '"'.toUInt8 then .ok s
    else if b = '\\'.toUInt8 then
      match _h : skipEscape s with
      | .error f => .error f
      | .ok r => skipText r
    else if b < 0x20 then complain .controlCharacter (b :: s)
    else skipText s
termination_by s.length
decreasing_by
  · have := length_skipEscape _h
    simp only [List.length_cons]
    omega
  · simp

theorem length_skipText {s r : Octets} (h : skipText s = .ok r) : r.length < s.length := by
  fun_induction skipText s generalizing r with
  | case1 => simp at h
  | case2 s =>
    simp only [Except.ok.injEq] at h
    simp [h]
  | case3 => simp at h
  | case4 s u hu _ ih =>
    have l := length_skipEscape hu
    have l' := ih h
    simp only [List.length_cons]
    omega
  | case5 => simp at h
  | case6 b s _ _ _ ih =>
    have l' := ih h
    simp only [List.length_cons]
    omega

/-- Passes over a colon. -/
def expectColon (s : Octets) : Except Fault Octets :=
  match skipBlanks s with
  | [] => complain .endInObject []
  | b :: s => if b = ':'.toUInt8 then .ok s else complainOfNext .expectedColon (b :: s)

theorem length_expectColon {s r : Octets} (h : expectColon s = .ok r) : r.length < s.length := by
  have hb := length_skipBlanks_le s
  unfold expectColon at h
  split at h
  · simp at h
  · rename_i b t ht
    rw [ht] at hb
    split at h
    · simp only [Except.ok.injEq] at h
      simp only [List.length_cons] at hb
      rw [← h]
      omega
    · simp at h

/-- Passes over a key and its colon. -/
def skipKey (s : Octets) : Except Fault Octets :=
  match skipBlanks s with
  | [] => complain .endInObject []
  | b :: s =>
    if b = '"'.toUInt8 then
      match skipText s with
      | .error f => .error f
      | .ok s => expectColon s
    else complainOfNext .keyIsNoText (b :: s)

theorem length_skipKey {s r : Octets} (h : skipKey s = .ok r) : r.length < s.length := by
  have hb := length_skipBlanks_le s
  unfold skipKey at h
  split at h
  · simp at h
  · rename_i b t ht
    rw [ht] at hb
    simp only [List.length_cons] at hb
    split at h
    · split at h
      · simp at h
      · rename_i u hu
        have := length_skipText hu
        have := length_expectColon h
        omega
    · simp at h

/-- Where passing over a value stands: it is over, or another value starts inside some frames. -/
inductive Progress where
  | done (rest : Octets)
  | value (frames : List Frame) (rest : Octets)
  deriving DecidableEq, Repr

def Progress.rest : Progress → Octets
  | .done r => r
  | .value _ r => r

/-- From the start of a frame's next value, past the key if it needs one. -/
def toNextValue (frame : Frame) (outer : List Frame) (s : Octets) : Except Fault Progress :=
  match frame with
  | .list => .ok (.value (frame :: outer) s)
  | .object => (skipKey s).map (.value (frame :: outer))

/-- From the end of a value: closes the frames that end here. -/
def afterValue : List Frame → Octets → Except Fault Progress
  | [], s => .ok (.done s)
  | frame :: outer, s =>
    match skipBlanks s with
    | [] => complain frame.cutOff []
    | b :: s =>
      if b = ','.toUInt8 then toNextValue frame outer s
      else if b = frame.closing then afterValue outer s
      else complainOfNext frame.unseparated (b :: s)

/-- From right after an opening bracket: an empty frame closes at once. -/
def intoFrame (frame : Frame) (outer : List Frame) (s : Octets) : Except Fault Progress :=
  match skipBlanks s with
  | [] => complain frame.cutOff []
  | b :: s =>
    if b = frame.closing then afterValue outer s else toNextValue frame outer (b :: s)

/-- Passes over a value that is neither list nor object and starts with `b`. -/
def skipPlain (b : UInt8) (s : Octets) : Except Fault Octets :=
  if b = 'n'.toUInt8 then readWord (Utf8.encode "ull") s
  else if b = 't'.toUInt8 then readWord (Utf8.encode "rue") s
  else if b = 'f'.toUInt8 then readWord (Utf8.encode "alse") s
  else if b = '-'.toUInt8 then skipNumeral s
  else if isDigit b then skipNumeral (b :: s)
  else if b = '"'.toUInt8 then skipText s
  else complainOfNext .expectedValue (b :: s)

/-- From the start of a value to its end or to the start of the next one. -/
def skipStep (frames : List Frame) (s : Octets) : Except Fault Progress :=
  match skipBlanks s with
  | [] => complain .endInValue []
  | b :: s =>
    if b = '['.toUInt8 then intoFrame .list frames s
    else if b = '\x7b'.toUInt8 then intoFrame .object frames s
    else
      match skipPlain b s with
      | .error f => .error f
      | .ok s => afterValue frames s

theorem length_readWord_le {w s r : Octets} (h : readWord w s = .ok r) : r.length ≤ s.length := by
  fun_induction readWord w s with
  | case1 => simp_all
  | case2 => simp at h
  | case3 _ _ s ih =>
    have := ih h
    simp only [List.length_cons]
    omega
  | case4 => simp at h

theorem length_skipPlain_le {b : UInt8} {s r : Octets} (h : skipPlain b s = .ok r) :
    r.length ≤ s.length := by
  unfold skipPlain at h
  repeat' split at h
  · exact length_readWord_le h
  · exact length_readWord_le h
  · exact length_readWord_le h
  · exact Nat.le_of_lt (length_skipNumeral h)
  · have := length_skipNumeral h
    simp only [List.length_cons] at this
    omega
  · exact Nat.le_of_lt (length_skipText h)
  · simp at h

theorem length_toNextValue_le {frame : Frame} {outer : List Frame} {s : Octets} {p : Progress}
    (h : toNextValue frame outer s = .ok p) : p.rest.length ≤ s.length := by
  cases frame with
  | list =>
    simp only [toNextValue, Except.ok.injEq] at h
    simp [← h, Progress.rest]
  | object =>
    obtain ⟨r, hr, h⟩ := map_eq_ok.1 h
    have := length_skipKey hr
    rw [← h]
    simp only [Progress.rest]
    omega

theorem length_afterValue_le {frames : List Frame} {s : Octets} {p : Progress}
    (h : afterValue frames s = .ok p) : p.rest.length ≤ s.length := by
  induction frames generalizing s with
  | nil =>
    simp only [afterValue, Except.ok.injEq] at h
    simp [← h, Progress.rest]
  | cons frame outer ih =>
    have hb := length_skipBlanks_le s
    simp only [afterValue] at h
    split at h
    · simp at h
    · rename_i b t ht
      rw [ht] at hb
      simp only [List.length_cons] at hb
      split at h
      · have := length_toNextValue_le h
        omega
      · split at h
        · have := ih h
          omega
        · simp at h

theorem length_intoFrame_le {frame : Frame} {outer : List Frame} {s : Octets} {p : Progress}
    (h : intoFrame frame outer s = .ok p) : p.rest.length ≤ s.length := by
  have hb := length_skipBlanks_le s
  unfold intoFrame at h
  split at h
  · simp at h
  · rename_i b t ht
    rw [ht] at hb
    split at h
    · have := length_afterValue_le h
      simp only [List.length_cons] at hb
      omega
    · have := length_toNextValue_le h
      omega

/-- Every step consumes at least the first octet of its value. -/
theorem length_skipStep {frames : List Frame} {s : Octets} {p : Progress}
    (h : skipStep frames s = .ok p) : p.rest.length < s.length := by
  have hb := length_skipBlanks_le s
  unfold skipStep at h
  split at h
  · simp at h
  · rename_i b t ht
    rw [ht] at hb
    simp only [List.length_cons] at hb
    split at h
    · have := length_intoFrame_le h
      omega
    · split at h
      · have := length_intoFrame_le h
        omega
      · split at h
        · simp at h
        · rename_i u hu
          have := length_skipPlain_le hu
          have := length_afterValue_le h
          omega

/-- Passes over a value and all that is left of the frames around it. -/
def skipFrom (frames : List Frame) (s : Octets) : Except Fault Octets :=
  match _h : skipStep frames s with
  | .error f => .error f
  | .ok (.done r) => .ok r
  | .ok (.value frames r) => skipFrom frames r
termination_by s.length
decreasing_by
  exact length_skipStep _h

/-- Passes over one value. -/
def skipValue (s : Octets) : Except Fault Octets :=
  skipFrom [] s

theorem length_skipFrom {frames : List Frame} {s r : Octets} (h : skipFrom frames s = .ok r) :
    r.length < s.length := by
  fun_induction skipFrom frames s with
  | case1 => simp at h
  | case2 _ _ _ hs =>
    have l := length_skipStep hs
    simp only [Except.ok.injEq] at h
    rwa [← h]
  | case3 _ _ _ _ hs ih =>
    have l := length_skipStep hs
    have l' := ih h
    simp only [Progress.rest] at l
    omega

end RecursiveFactorial.Document
