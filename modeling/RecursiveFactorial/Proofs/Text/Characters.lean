import RecursiveFactorial.Proofs.Text.Lossy

/-!
# Texts that are read octet by octet

Octets that are read as a text are the octets of that text and of no other. A reader that looks at single octets for
ASCII never stops inside a character: an octet below `0x80` is a character of its own, and all octets of
the other characters are `0x80` or above.
-/
namespace RecursiveFactorial.Utf8

def encodeChars (cs : List Char) : Octets :=
  cs.flatMap String.utf8EncodeChar

theorem encode_eq (s : String) : encode s = encodeChars s.toList := rfl

@[simp] theorem encodeChars_nil : encodeChars [] = [] := rfl
@[simp] theorem encodeChars_append (cs ds : List Char) : encodeChars (cs ++ ds) = encodeChars cs ++ encodeChars ds :=
  List.flatMap_append

theorem encodeChars_cons (c : Char) (cs : List Char) :
    encodeChars (c :: cs) = String.utf8EncodeChar c ++ encodeChars cs := rfl

theorem decodeLossy_encodeChars (cs : List Char) : decodeLossy (encodeChars cs) = String.ofList cs := by
  have hshown : Piece.shown ∘ Piece.scalar = id := rfl
  rw [decodeLossy, encodeChars, pieces_encode, List.map_map, hshown, List.map_id]

section Ascii

variable {c a : Char} {cs : List Char} {s : Octets}

theorem toNat_toUInt8 (hc : c.toNat < 0x80) : c.toUInt8.toNat = c.toNat := by
  have hc' : c.val.toNat < 0x80 := hc
  rw [Char.toUInt8, UInt32.toNat_toUInt8]
  exact Nat.mod_eq_of_lt (by omega)

theorem toUInt8_lt (hc : c.toNat < 0x80) : c.toUInt8 < 0x80 := by
  rw [UInt8.lt_iff_toNat_lt, toNat_toUInt8 hc]
  exact hc

theorem ofNat_toUInt8 (hc : c.toNat < 0x80) : Char.ofNat c.toUInt8.toNat = c := by
  rw [toNat_toUInt8 hc, Char.ofNat_toNat]

theorem toUInt8_inj (hc : c.toNat < 0x80) (ha : a.toNat < 0x80) : c.toUInt8 = a.toUInt8 ↔ c = a := by
  constructor
  · intro h
    rw [← ofNat_toUInt8 hc, h, ofNat_toUInt8 ha]
  · rintro rfl
    rfl

theorem utf8EncodeChar_of_lt (hc : c.toNat < 0x80) : String.utf8EncodeChar c = [c.toUInt8] := by
  have hval : c.val.toNat ≤ 0x7f := Nat.le_of_lt_succ hc
  simp only [String.utf8EncodeChar, if_pos hval]
  rfl

/-- No octet of a character outside ASCII is ASCII. -/
theorem le_of_mem_utf8EncodeChar (hc : 0x80 ≤ c.toNat) : ∀ b ∈ String.utf8EncodeChar c, 0x80 ≤ b := by
  have hle {n : Nat} (hn : 0x80 ≤ n ∧ n < 256) : 0x80 ≤ UInt8.ofNat n := by
    rw [UInt8.le_iff_toNat_le, UInt8.toNat_ofNat_of_lt' hn.2]
    exact hn.1
  have hval : ¬c.val.toNat ≤ 0x7f := Nat.not_le.mpr hc
  intro b hb
  simp only [String.utf8EncodeChar, if_neg hval] at hb
  repeat' split at hb
  all_goals
    simp only [List.mem_cons, List.not_mem_nil, or_false] at hb
    rcases hb with rfl | rfl | rfl | rfl <;> exact hle (by omega)

theorem encodeChars_ascii (hc : c.toNat < 0x80) (cs : List Char) :
    encodeChars (c :: cs) = c.toUInt8 :: encodeChars cs := by
  rw [encodeChars_cons, utf8EncodeChar_of_lt hc]
  rfl

theorem mem_encodeChars_ascii (ha : a.toNat < 0x80) : a.toUInt8 ∈ encodeChars cs ↔ a ∈ cs := by
  rw [encodeChars, List.mem_flatMap]
  constructor
  · rintro ⟨c, hc, hmem⟩
    by_cases hascii : c.toNat < 0x80
    · rw [utf8EncodeChar_of_lt hascii, List.mem_singleton] at hmem
      obtain rfl := (toUInt8_inj ha hascii).mp hmem
      exact hc
    · have hwide := le_of_mem_utf8EncodeChar (Nat.le_of_not_lt hascii) _ hmem
      exact absurd (toUInt8_lt ha) (UInt8.not_lt.mpr hwide)
  · intro h
    exact ⟨a, h, by simp [utf8EncodeChar_of_lt ha]⟩

/-- A character outside ASCII starts with an octet outside ASCII. -/
theorem exists_encodeChars_foreign (hc : 0x80 ≤ c.toNat) (cs : List Char) :
    ∃ b s, 0x80 ≤ b ∧ encodeChars (c :: cs) = b :: s := by
  obtain ⟨b, bs, hbs⟩ : ∃ b bs, String.utf8EncodeChar c = b :: bs :=
    List.exists_cons_of_ne_nil (by simp)
  refine ⟨b, bs ++ encodeChars cs, le_of_mem_utf8EncodeChar hc b (by simp [hbs]), ?_⟩
  rw [encodeChars_cons, hbs, List.cons_append]

/-- An octet of ASCII is a whole character. -/
theorem cons_of_encodeChars (ha : a.toNat < 0x80) (h : encodeChars cs = a.toUInt8 :: s) :
    ∃ ds, cs = a :: ds ∧ s = encodeChars ds := by
  cases cs with
  | nil => cases h
  | cons c ds =>
    by_cases hc : c.toNat < 0x80
    · rw [encodeChars_ascii hc] at h
      obtain ⟨hoctet, hrest⟩ := List.cons.inj h
      obtain rfl := (toUInt8_inj hc ha).mp hoctet
      exact ⟨ds, rfl, hrest.symm⟩
    · obtain ⟨b, t, hb, ht⟩ := exists_encodeChars_foreign (Nat.le_of_not_lt hc) ds
      rw [ht] at h
      obtain ⟨rfl, -⟩ := List.cons.inj h
      exact absurd (toUInt8_lt ha) (UInt8.not_lt.mpr hb)

section Octets

variable {b : UInt8}

theorem toNat_ofNat_lt (hb : b < 0x80) : (Char.ofNat b.toNat).toNat < 0x80 := by
  rw [toNat_ofNat_toNat]
  exact hb

theorem toUInt8_ofNat (hb : b < 0x80) : (Char.ofNat b.toNat).toUInt8 = b := by
  rw [← UInt8.toNat_inj, toNat_toUInt8 (toNat_ofNat_lt hb), toNat_ofNat_toNat]

end Octets

variable {p p' : Char → Bool} {q q' : UInt8 → Bool}

/-- A single character is a class. -/
theorem AsciiClass.single (ha : a.toNat < 0x80) : AsciiClass (fun c => c == a) fun b => b == a.toUInt8 where
  ascii := by
    intro b hb
    rw [Bool.eq_iff_iff, beq_iff_eq, beq_iff_eq, ← toUInt8_inj (toNat_ofNat_lt hb) ha, toUInt8_ofNat hb]
  foreignChar := by
    intro c hc
    rw [beq_eq_false_iff_ne]
    rintro rfl
    omega
  foreignOctet := by
    intro b hb
    rw [beq_eq_false_iff_ne]
    rintro rfl
    exact absurd (toUInt8_lt ha) (UInt8.not_lt.mpr hb)

/-- So is what lies between two characters. -/
theorem AsciiClass.range (hc : c.toNat < 0x80) (ha : a.toNat < 0x80) :
    AsciiClass (fun d => c ≤ d && d ≤ a) fun b => c.toUInt8 ≤ b && b ≤ a.toUInt8 where
  ascii := by
    intro b hb
    simp only [Char.le_def, UInt32.le_iff_toNat_le, UInt8.le_iff_toNat_le, toNat_toUInt8 hc, toNat_toUInt8 ha]
    rw [show (Char.ofNat b.toNat).val.toNat = b.toNat from toNat_ofNat_toNat b]
    rfl
  foreignChar := by
    intro d hd
    have hle : ¬d ≤ a := by
      rw [Char.le_def, UInt32.le_iff_toNat_le]
      exact Nat.not_le.mpr (Nat.lt_of_lt_of_le ha hd)
    simp [hle]
  foreignOctet := by
    intro b hb
    have hle : ¬b ≤ a.toUInt8 := UInt8.not_le.mpr (UInt8.lt_of_lt_of_le (toUInt8_lt ha) hb)
    simp [hle]

theorem AsciiClass.or (h : AsciiClass p q) (h' : AsciiClass p' q') :
    AsciiClass (fun c => p c || p' c) fun b => q b || q' b where
  ascii := by
    intro b hb
    rw [h.ascii b hb, h'.ascii b hb]
  foreignChar := by
    intro c hc
    rw [h.foreignChar c hc, h'.foreignChar c hc]
    rfl
  foreignOctet := by
    intro b hb
    rw [h.foreignOctet b hb, h'.foreignOctet b hb]
    rfl

theorem AsciiClass.char (h : AsciiClass p q) (hc : c.toNat < 0x80) : p c = q c.toUInt8 := by
  rw [← h.ascii _ (toUInt8_lt hc), ofNat_toUInt8 hc]

/-- An octet of a class of ASCII is a character of that class. -/
theorem AsciiClass.cons_of_encodeChars (h : AsciiClass p q) {b : UInt8} (hb : q b = true)
    (hs : encodeChars cs = b :: s) : ∃ a ds, p a = true ∧ b = a.toUInt8 ∧ cs = a :: ds ∧ s = encodeChars ds := by
  have hlt : b < 0x80 := by
    rw [← UInt8.not_le]
    intro hle
    rw [h.foreignOctet b hle] at hb
    cases hb
  rw [← toUInt8_ofNat hlt] at hs
  obtain ⟨ds, hcs, hrest⟩ := Utf8.cons_of_encodeChars (toNat_ofNat_lt hlt) hs
  exact ⟨_, ds, by rw [h.ascii b hlt, hb], (toUInt8_ofNat hlt).symm, hcs, hrest⟩

theorem AsciiClass.dropWhile_encodeChars (h : AsciiClass p q) (cs : List Char) :
    (encodeChars cs).dropWhile q = encodeChars (cs.dropWhile p) := by
  induction cs with
  | nil => rfl
  | cons c cs ih =>
    by_cases hc : c.toNat < 0x80
    · rw [encodeChars_ascii hc, List.dropWhile_cons, List.dropWhile_cons, h.char hc, ih]
      split
      · rfl
      · rw [encodeChars_ascii hc]
    · have hle := Nat.le_of_not_lt hc
      obtain ⟨b, s, hb, hs⟩ := exists_encodeChars_foreign hle cs
      rw [List.dropWhile_cons_of_neg (by simp [h.foreignChar c hle]), hs,
        List.dropWhile_cons_of_neg (by simp [h.foreignOctet b hb])]

theorem AsciiClass.takeWhile_encodeChars (h : AsciiClass p q) (cs : List Char) :
    (encodeChars cs).takeWhile q = encodeChars (cs.takeWhile p) := by
  induction cs with
  | nil => rfl
  | cons c cs ih =>
    by_cases hc : c.toNat < 0x80
    · rw [encodeChars_ascii hc, List.takeWhile_cons, List.takeWhile_cons, h.char hc, ih]
      split
      · rw [encodeChars_ascii hc]
      · rfl
    · have hle := Nat.le_of_not_lt hc
      obtain ⟨b, s, hb, hs⟩ := exists_encodeChars_foreign hle cs
      rw [List.takeWhile_cons_of_neg (by simp [h.foreignChar c hle]), hs,
        List.takeWhile_cons_of_neg (by simp [h.foreignOctet b hb]), encodeChars_nil]

/-- A partial function on ASCII, of characters and of octets. -/
structure AsciiTable {α : Type} (f : Char → Option α) (g : UInt8 → Option α) : Prop where
  ascii : ∀ b : UInt8, b < 0x80 → f (Char.ofNat b.toNat) = g b
  foreignChar : ∀ c : Char, 0x80 ≤ c.toNat → f c = none
  foreignOctet : ∀ b : UInt8, 0x80 ≤ b → g b = none

namespace AsciiTable

variable {α : Type} {f : Char → Option α} {g : UInt8 → Option α} {x : α}

theorem toClass (h : AsciiTable f g) : AsciiClass (fun c => (f c).isSome) fun b => (g b).isSome where
  ascii := by
    intro b hb
    rw [h.ascii b hb]
  foreignChar := by
    intro c hc
    rw [h.foreignChar c hc]
    rfl
  foreignOctet := by
    intro b hb
    rw [h.foreignOctet b hb]
    rfl

theorem lt_of_eq_some (h : AsciiTable f g) (hc : f c = some x) : c.toNat < 0x80 := by
  apply Nat.lt_of_not_le
  intro hle
  rw [h.foreignChar c hle] at hc
  cases hc

theorem octet (h : AsciiTable f g) (hc : c.toNat < 0x80) : g c.toUInt8 = f c := by
  rw [← h.ascii _ (toUInt8_lt hc), ofNat_toUInt8 hc]

theorem cons_of_encodeChars (h : AsciiTable f g) {b : UInt8} (hb : g b = some x) (hs : encodeChars cs = b :: s) :
    ∃ a ds, f a = some x ∧ cs = a :: ds ∧ s = encodeChars ds := by
  obtain ⟨a, ds, ha, rfl, hcs, hds⟩ := h.toClass.cons_of_encodeChars (by simp [hb]) hs
  have hlt : a.toNat < 0x80 := by
    obtain ⟨y, hy⟩ := Option.isSome_iff_exists.mp ha
    exact h.lt_of_eq_some hy
  rw [h.octet hlt] at hb
  exact ⟨a, ds, hb, hcs, hds⟩

end AsciiTable

end Ascii

section Decoding

variable {n m k l : Nat}

theorem utf8EncodeChar_two (hn : 0xc2 ≤ n ∧ n < 0xe0) (hm : 0x80 ≤ m ∧ m ≤ 0xbf) :
    String.utf8EncodeChar (Char.ofNat (n % 0x20 * 0x40 + m % 0x40)) = [UInt8.ofNat n, UInt8.ofNat m] := by
  generalize hv : n % 0x20 * 0x40 + m % 0x40 = v
  have hval : (Char.ofNat v).val.toNat = v := toNat_ofNat_of_isValidChar (.inl (by omega))
  simp only [String.utf8EncodeChar, hval]
  rw [if_neg (by omega), if_pos (by omega)]
  have hlead : v / 64 % 0x20 + 0xc0 = n := by omega
  have hnext : v % 0x40 + 0x80 = m := by omega
  rw [hlead, hnext]

theorem utf8EncodeChar_three (hn : 0xe0 ≤ n ∧ n < 0xf0) (hm : 0x80 ≤ m ∧ m ≤ 0xbf) (hk : 0x80 ≤ k ∧ k ≤ 0xbf)
    (hshort : n = 0xe0 → 0xa0 ≤ m) (hsurrogate : n = 0xed → m ≤ 0x9f) :
    String.utf8EncodeChar (Char.ofNat ((n % 0x10 * 0x40 + m % 0x40) * 0x40 + k % 0x40)) =
      [UInt8.ofNat n, UInt8.ofNat m, UInt8.ofNat k] := by
  generalize hv : (n % 0x10 * 0x40 + m % 0x40) * 0x40 + k % 0x40 = v
  have hvalid : v.isValidChar := by
    unfold Nat.isValidChar
    omega
  have hval : (Char.ofNat v).val.toNat = v := toNat_ofNat_of_isValidChar hvalid
  simp only [String.utf8EncodeChar, hval]
  rw [if_neg (by omega), if_neg (by omega), if_pos (by omega)]
  have hlead : v / 4096 % 0x10 + 0xe0 = n := by omega
  have hnext : v / 64 % 0x40 + 0x80 = m := by omega
  have hlast : v % 0x40 + 0x80 = k := by omega
  rw [hlead, hnext, hlast]

theorem utf8EncodeChar_four (hn : 0xf0 ≤ n ∧ n ≤ 0xf4) (hm : 0x80 ≤ m ∧ m ≤ 0xbf) (hk : 0x80 ≤ k ∧ k ≤ 0xbf)
    (hl : 0x80 ≤ l ∧ l ≤ 0xbf) (hshort : n = 0xf0 → 0x90 ≤ m) (hlarge : n = 0xf4 → m ≤ 0x8f) :
    String.utf8EncodeChar
        (Char.ofNat (((n % 0x08 * 0x40 + m % 0x40) * 0x40 + k % 0x40) * 0x40 + l % 0x40)) =
      [UInt8.ofNat n, UInt8.ofNat m, UInt8.ofNat k, UInt8.ofNat l] := by
  generalize hv : ((n % 0x08 * 0x40 + m % 0x40) * 0x40 + k % 0x40) * 0x40 + l % 0x40 = v
  have hvalid : v.isValidChar := by
    unfold Nat.isValidChar
    omega
  have hval : (Char.ofNat v).val.toNat = v := toNat_ofNat_of_isValidChar hvalid
  simp only [String.utf8EncodeChar, hval]
  rw [if_neg (by omega), if_neg (by omega), if_neg (by omega)]
  have hlead : v / 262144 % 0x08 + 0xf0 = n := by omega
  have hnext : v / 4096 % 0x40 + 0x80 = m := by omega
  have hthird : v / 64 % 0x40 + 0x80 = k := by omega
  have hlast : v % 0x40 + 0x80 = l := by omega
  rw [hlead, hnext, hthird, hlast]

/-- Octets with no ill-formed piece finish a character that they start in. -/
theorem exists_octet_of_scan {length bits : Nat} {r : Range} {rs : List Range} {bs : Octets} {cs : List Char}
    (h : scan (some ⟨length, bits, r, rs⟩) bs = cs.map .scalar) :
    ∃ m rest, bs = UInt8.ofNat m :: rest ∧ m < 256 ∧ r.low.toNat ≤ m ∧ m ≤ r.high.toNat ∧
      (match Unfinished.extend ⟨length, bits, r, rs⟩ (UInt8.ofNat m) with
        | .inl p => p :: scan none rest
        | .inr v => scan (some v) rest) = cs.map .scalar := by
  cases bs with
  | nil => cases cs <;> simp [scan] at h
  | cons b bs =>
    have hb : UInt8.ofNat b.toNat = b := UInt8.ofNat_toNat
    rw [scan] at h
    split at h
    · next hholds =>
      rw [← hb] at hholds
      obtain ⟨hlow, hhigh⟩ := (holds_ofNat b.toNat_lt).mp hholds
      exact ⟨b.toNat, bs, by rw [hb], b.toNat_lt, hlow, hhigh, by rw [hb]; exact h⟩
    · cases cs <;> simp at h

/-- The octets start with those of the first character. -/
def ReadsFirst (bs : Octets) (cs : List Char) : Prop :=
  ∃ c ds rest, cs = c :: ds ∧ bs = String.utf8EncodeChar c ++ rest ∧ scan none rest = ds.map .scalar

theorem ReadsFirst.of_cons {bs rest : Octets} {cs : List Char} {c : Char}
    (hbs : bs = String.utf8EncodeChar c ++ rest) (h : Piece.scalar c :: scan none rest = cs.map .scalar) :
    ReadsFirst bs cs := by
  cases cs with
  | nil => cases h
  | cons d ds =>
    simp only [List.map_cons, List.cons.injEq, Piece.scalar.injEq] at h
    obtain ⟨rfl, hrest⟩ := h
    exact ⟨c, ds, rest, rfl, hbs, hrest⟩

variable {bs : Octets} {cs : List Char} {r : Range}

theorem readsFirst_two (hn : 0xc2 ≤ n ∧ n < 0xe0) (hf : following (UInt8.ofNat n) = some [continuation])
    (h : scan none (UInt8.ofNat n :: bs) = cs.map .scalar) : ReadsFirst (UInt8.ofNat n :: bs) cs := by
  simp only [scan, lead, hf] at h
  obtain ⟨m, rest, rfl, hm, hlow, hhigh, h⟩ := exists_octet_of_scan h
  have hoctets := utf8EncodeChar_two hn ⟨hlow, hhigh⟩
  simp only [Unfinished.extend, leadBits, List.length_nil, Nat.zero_add, UInt8.toNat_ofNat_of_lt' hm,
    UInt8.toNat_ofNat_of_lt' (show n < UInt8.size by simp [UInt8.size]; omega)] at h
  exact .of_cons (by rw [hoctets]; rfl) h

theorem readsFirst_three (hn : 0xe0 ≤ n ∧ n < 0xf0) (hf : following (UInt8.ofNat n) = some [r, continuation])
    (hr : 0x80 ≤ r.low.toNat ∧ r.high.toNat ≤ 0xbf) (hshort : n = 0xe0 → 0xa0 ≤ r.low.toNat)
    (hsurrogate : n = 0xed → r.high.toNat ≤ 0x9f) (h : scan none (UInt8.ofNat n :: bs) = cs.map .scalar) :
    ReadsFirst (UInt8.ofNat n :: bs) cs := by
  simp only [scan, lead, hf] at h
  obtain ⟨m, rest, rfl, hm, hlow, hhigh, h⟩ := exists_octet_of_scan h
  obtain ⟨k, rest, rfl, hk, hlow', hhigh', h⟩ := exists_octet_of_scan h
  have hoctets := utf8EncodeChar_three hn (m := m) (by omega) ⟨hlow', hhigh'⟩ (by omega) (by omega)
  simp only [Unfinished.extend, leadBits, List.length_nil, List.length_cons, Nat.zero_add, UInt8.toNat_ofNat_of_lt' hm,
    UInt8.toNat_ofNat_of_lt' hk, UInt8.toNat_ofNat_of_lt' (show n < UInt8.size by simp [UInt8.size]; omega)] at h
  exact .of_cons (by rw [hoctets]; rfl) h

theorem readsFirst_four (hn : 0xf0 ≤ n ∧ n ≤ 0xf4)
    (hf : following (UInt8.ofNat n) = some [r, continuation, continuation])
    (hr : 0x80 ≤ r.low.toNat ∧ r.high.toNat ≤ 0xbf) (hshort : n = 0xf0 → 0x90 ≤ r.low.toNat)
    (hlarge : n = 0xf4 → r.high.toNat ≤ 0x8f) (h : scan none (UInt8.ofNat n :: bs) = cs.map .scalar) :
    ReadsFirst (UInt8.ofNat n :: bs) cs := by
  simp only [scan, lead, hf] at h
  obtain ⟨m, rest, rfl, hm, hlow, hhigh, h⟩ := exists_octet_of_scan h
  obtain ⟨k, rest, rfl, hk, hlow', hhigh', h⟩ := exists_octet_of_scan h
  obtain ⟨l, rest, rfl, hl, hlow'', hhigh'', h⟩ := exists_octet_of_scan h
  have hoctets := utf8EncodeChar_four hn (m := m) (by omega) ⟨hlow', hhigh'⟩ ⟨hlow'', hhigh''⟩ (by omega) (by omega)
  simp only [Unfinished.extend, leadBits, List.length_nil, List.length_cons, Nat.zero_add, UInt8.toNat_ofNat_of_lt' hm,
    UInt8.toNat_ofNat_of_lt' hk, UInt8.toNat_ofNat_of_lt' hl,
    UInt8.toNat_ofNat_of_lt' (show n < UInt8.size by simp [UInt8.size]; omega)] at h
  exact .of_cons (by rw [hoctets]; rfl) h

theorem readsFirst_of_scan (hn : n < 256) (h : scan none (UInt8.ofNat n :: bs) = cs.map .scalar) :
    ReadsFirst (UInt8.ofNat n :: bs) cs := by
  have hf := following_ofNat hn
  by_cases hascii : n < 0x80
  · have hlt : UInt8.ofNat n < 0x80 := by
      rw [UInt8.lt_iff_toNat_lt, UInt8.toNat_ofNat_of_lt' hn]
      exact hascii
    have hnat : (Char.ofNat n).toNat = n := toNat_ofNat_of_isValidChar (.inl (by omega))
    rw [scan_ascii bs hlt, UInt8.toNat_ofNat_of_lt' hn] at h
    refine .of_cons ?_ h
    have hoctet : (Char.ofNat n).toUInt8 = UInt8.ofNat n := by
      rw [← UInt8.toNat_inj, toNat_toUInt8 (by omega), hnat, UInt8.toNat_ofNat_of_lt' hn]
    rw [utf8EncodeChar_of_lt (by omega), hoctet, List.singleton_append]
  · rw [if_neg hascii] at hf
    split at hf
    · rw [scan, lead, hf] at h
      cases cs <;> simp at h
    repeat' split at hf
    · exact readsFirst_two (by omega) hf h
    · exact readsFirst_three (by omega) hf (by decide) (fun _ => by decide) (by omega) h
    · exact readsFirst_three (by omega) hf (by decide) (by omega) (fun _ => by decide) h
    · exact readsFirst_three (by omega) hf (by decide) (by omega) (by omega) h
    · exact readsFirst_four (by omega) hf (by decide) (fun _ => by decide) (by omega) h
    · exact readsFirst_four (by omega) hf (by decide) (by omega) (by omega) h
    · exact readsFirst_four (by omega) hf (by decide) (by omega) (fun _ => by decide) h
    · rw [scan, lead, hf] at h
      cases cs <;> simp at h

theorem eq_encodeChars_of_scan (h : scan none bs = cs.map .scalar) : bs = encodeChars cs := by
  induction cs generalizing bs with
  | nil =>
    cases bs with
    | nil => rfl
    | cons b bs =>
      rw [← UInt8.ofNat_toNat (x := b)] at h
      obtain ⟨c, ds, rest, hnil, -⟩ := readsFirst_of_scan b.toNat_lt h
      cases hnil
  | cons c cs ih =>
    cases bs with
    | nil => cases h
    | cons b bs =>
      rw [← UInt8.ofNat_toNat (x := b)] at h ⊢
      obtain ⟨c', ds, rest, hcs, hbs, hrest⟩ := readsFirst_of_scan b.toNat_lt h
      obtain ⟨rfl, rfl⟩ := List.cons.inj hcs
      rw [hbs, ih hrest, encodeChars_cons]

theorem exists_scalars_of_firstFault {index : Nat} {ps : List Piece} (h : firstFault index ps = none) :
    ∃ cs : List Char, ps = cs.map .scalar := by
  induction ps generalizing index with
  | nil => exact ⟨[], rfl⟩
  | cons p ps ih =>
    cases p with
    | scalar c =>
      obtain ⟨cs, rfl⟩ := ih h
      exact ⟨c :: cs, rfl⟩
    | invalid n => cases h
    | cutOff n => cases h

/-- Octets that are read as a text are the octets of that text. -/
theorem eq_encode_of_decode {bs : Octets} {s : String} (h : decode bs = .ok s) : bs = encode s := by
  unfold decode at h
  split at h
  · next hnone =>
    obtain ⟨cs, hcs⟩ := exists_scalars_of_firstFault hnone
    obtain rfl := eq_encodeChars_of_scan hcs
    obtain rfl := Except.ok.inj h
    rw [decodeLossy_encodeChars, encode_eq, String.toList_ofList]
  · cases h

end Decoding

end RecursiveFactorial.Utf8
