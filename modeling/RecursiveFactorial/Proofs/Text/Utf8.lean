import RecursiveFactorial.Text.Utf8

/-!
# Reading back what was written

The octets of a character are read as that character, whatever follows them, so the octets of a text are read as
that text. The four lengths of an encoding are taken one by one; the leading octet decides how many
octets follow, and their low bits put the code point together again.
-/
namespace RecursiveFactorial.Utf8

/-- What holds of the octet of every number holds of every octet. -/
theorem forall_octet {p : UInt8 → Prop} (h : ∀ k : Fin 256, p (UInt8.ofNat k)) (b : UInt8) : p b := by
  simpa using h ⟨b.toNat, b.toNat_lt⟩

theorem toNat_val_lt (c : Char) : c.val.toNat < 0xd800 ∨ 0xdfff < c.val.toNat ∧ c.val.toNat < 0x110000 :=
  c.valid

theorem ofNat_val (c : Char) : Char.ofNat c.val.toNat = c := Char.ofNat_toNat c

/-- The ranges after a leading octet, by its number. -/
theorem following_ofNat {n : Nat} (hn : n < 256) :
    following (UInt8.ofNat n) =
      if n < 0x80 then some []
      else if n < 0xc2 then none
      else if n < 0xe0 then some [continuation]
      else if n = 0xe0 then some [⟨0xa0, 0xbf⟩, continuation]
      else if n = 0xed then some [⟨0x80, 0x9f⟩, continuation]
      else if n < 0xf0 then some [continuation, continuation]
      else if n = 0xf0 then some [⟨0x90, 0xbf⟩, continuation, continuation]
      else if n < 0xf4 then some [continuation, continuation, continuation]
      else if n = 0xf4 then some [⟨0x80, 0x8f⟩, continuation, continuation]
      else none := by
  have hmod : n % 256 = n := Nat.mod_eq_of_lt hn
  simp [following, UInt8.lt_iff_toNat_lt, ← UInt8.toNat_inj, hmod]

theorem holds_ofNat {r : Range} {n : Nat} (hn : n < 256) :
    r.holds (UInt8.ofNat n) = true ↔ r.low.toNat ≤ n ∧ n ≤ r.high.toNat := by
  have hmod : n % 256 = n := Nat.mod_eq_of_lt hn
  simp [Range.holds, UInt8.le_iff_toNat_le, hmod]

section

variable {b₀ b₁ b₂ b₃ : UInt8} {r₁ r₂ r₃ : Range} (bs : Octets)

theorem scan_ascii (hb : b₀ < 0x80) : scan none (b₀ :: bs) = .scalar (Char.ofNat b₀.toNat) :: scan none bs := by
  simp [scan, lead, following, hb]

theorem scan_two (h₀ : following b₀ = some [r₁]) (h₁ : r₁.holds b₁ = true) :
    scan none (b₀ :: b₁ :: bs) =
      .scalar (Char.ofNat (b₀.toNat % 0x20 * 0x40 + b₁.toNat % 0x40)) :: scan none bs := by
  simp [scan, lead, h₀, h₁, Unfinished.extend, leadBits]

theorem scan_three (h₀ : following b₀ = some [r₁, r₂]) (h₁ : r₁.holds b₁ = true) (h₂ : r₂.holds b₂ = true) :
    scan none (b₀ :: b₁ :: b₂ :: bs) =
      .scalar (Char.ofNat ((b₀.toNat % 0x10 * 0x40 + b₁.toNat % 0x40) * 0x40 + b₂.toNat % 0x40)) ::
        scan none bs := by
  simp [scan, lead, h₀, h₁, h₂, Unfinished.extend, leadBits]

theorem scan_four (h₀ : following b₀ = some [r₁, r₂, r₃]) (h₁ : r₁.holds b₁ = true) (h₂ : r₂.holds b₂ = true)
    (h₃ : r₃.holds b₃ = true) :
    scan none (b₀ :: b₁ :: b₂ :: b₃ :: bs) =
      .scalar (Char.ofNat (((b₀.toNat % 0x08 * 0x40 + b₁.toNat % 0x40) * 0x40 + b₂.toNat % 0x40) * 0x40 +
        b₃.toNat % 0x40)) :: scan none bs := by
  simp [scan, lead, h₀, h₁, h₂, h₃, Unfinished.extend, leadBits]

end

/-- A second octet that is in range for its leading octet. -/
theorem exists_range_three {v : Nat} (h : 0x800 ≤ v) (h' : v ≤ 0xffff) (hvalid : v < 0xd800 ∨ 0xdfff < v) :
    ∃ r, following (UInt8.ofNat (v / 4096 % 0x10 + 0xe0)) = some [r, continuation] ∧
      r.holds (UInt8.ofNat (v / 64 % 0x40 + 0x80)) = true := by
  rw [following_ofNat (by omega), if_neg (by omega), if_neg (by omega), if_neg (by omega)]
  by_cases h₁ : v / 4096 % 0x10 + 0xe0 = 0xe0
  · rw [if_pos h₁]
    exact ⟨_, rfl, (holds_ofNat (by omega)).mpr (by simp only [UInt8.reduceToNat]; omega)⟩
  · rw [if_neg h₁]
    by_cases h₂ : v / 4096 % 0x10 + 0xe0 = 0xed
    · rw [if_pos h₂]
      exact ⟨_, rfl, (holds_ofNat (by omega)).mpr (by simp only [UInt8.reduceToNat]; omega)⟩
    · rw [if_neg h₂, if_pos (by omega)]
      exact ⟨_, rfl, (holds_ofNat (by omega)).mpr (by simp only [continuation, UInt8.reduceToNat]; omega)⟩

theorem exists_range_four {v : Nat} (h : 0x10000 ≤ v) (h' : v < 0x110000) :
    ∃ r, following (UInt8.ofNat (v / 262144 % 0x08 + 0xf0)) = some [r, continuation, continuation] ∧
      r.holds (UInt8.ofNat (v / 4096 % 0x40 + 0x80)) = true := by
  rw [following_ofNat (by omega), if_neg (by omega), if_neg (by omega), if_neg (by omega), if_neg (by omega),
    if_neg (by omega), if_neg (by omega)]
  by_cases h₁ : v / 262144 % 0x08 + 0xf0 = 0xf0
  · rw [if_pos h₁]
    exact ⟨_, rfl, (holds_ofNat (by omega)).mpr (by simp only [UInt8.reduceToNat]; omega)⟩
  · rw [if_neg h₁]
    by_cases h₂ : v / 262144 % 0x08 + 0xf0 < 0xf4
    · rw [if_pos h₂]
      exact ⟨_, rfl, (holds_ofNat (by omega)).mpr (by simp only [continuation, UInt8.reduceToNat]; omega)⟩
    · rw [if_neg h₂, if_pos (by omega)]
      exact ⟨_, rfl, (holds_ofNat (by omega)).mpr (by simp only [UInt8.reduceToNat]; omega)⟩

theorem continuation_holds (n : Nat) : continuation.holds (UInt8.ofNat (n % 0x40 + 0x80)) = true :=
  (holds_ofNat (by omega)).mpr (by simp only [continuation, UInt8.reduceToNat]; omega)

/-- The octets of a character are cut off as one piece. -/
theorem scan_encodeChar (c : Char) (bs : Octets) :
    scan none (String.utf8EncodeChar c ++ bs) = .scalar c :: scan none bs := by
  have hvalid := toNat_val_lt c
  have hc := ofNat_val c
  unfold String.utf8EncodeChar
  generalize c.val.toNat = v at *
  subst hc
  dsimp only
  by_cases h₁ : v ≤ 0x7f
  · rw [if_pos h₁]
    have hmod : v % 256 = v := Nat.mod_eq_of_lt (by omega)
    have hv : UInt8.ofNat v < 0x80 := by
      rw [UInt8.lt_iff_toNat_lt, UInt8.toNat_ofNat', hmod]
      exact Nat.lt_of_le_of_lt h₁ (by decide)
    have hscan := scan_ascii bs hv
    rw [UInt8.toNat_ofNat', hmod] at hscan
    exact hscan
  · rw [if_neg h₁]
    by_cases h₂ : v ≤ 0x7ff
    · rw [if_pos h₂]
      have hlead : following (UInt8.ofNat (v / 64 % 0x20 + 0xc0)) = some [continuation] := by
        rw [following_ofNat (by omega), if_neg (by omega), if_neg (by omega), if_pos (by omega)]
      refine (scan_two bs hlead (continuation_holds v)).trans ?_
      have hv : (v / 64 % 0x20 + 0xc0) % 2 ^ 8 % 0x20 * 0x40 + (v % 0x40 + 0x80) % 2 ^ 8 % 0x40 = v := by omega
      rw [UInt8.toNat_ofNat', UInt8.toNat_ofNat', hv]
    · rw [if_neg h₂]
      by_cases h₃ : v ≤ 0xffff
      · rw [if_pos h₃]
        obtain ⟨r, hlead, hnext⟩ := exists_range_three (by omega) h₃ (by omega)
        refine (scan_three bs hlead hnext (continuation_holds v)).trans ?_
        have hv : ((v / 4096 % 0x10 + 0xe0) % 2 ^ 8 % 0x10 * 0x40 + (v / 64 % 0x40 + 0x80) % 2 ^ 8 % 0x40) * 0x40 +
            (v % 0x40 + 0x80) % 2 ^ 8 % 0x40 = v := by omega
        rw [UInt8.toNat_ofNat', UInt8.toNat_ofNat', UInt8.toNat_ofNat', hv]
      · rw [if_neg h₃]
        obtain ⟨r, hlead, hnext⟩ := exists_range_four (v := v) (by omega) (by omega)
        refine (scan_four bs hlead hnext (continuation_holds (v / 64)) (continuation_holds v)).trans ?_
        have hv :
            (((v / 262144 % 0x08 + 0xf0) % 2 ^ 8 % 0x08 * 0x40 + (v / 4096 % 0x40 + 0x80) % 2 ^ 8 % 0x40) * 0x40 +
              (v / 64 % 0x40 + 0x80) % 2 ^ 8 % 0x40) * 0x40 + (v % 0x40 + 0x80) % 2 ^ 8 % 0x40 = v := by omega
        rw [UInt8.toNat_ofNat', UInt8.toNat_ofNat', UInt8.toNat_ofNat', UInt8.toNat_ofNat', hv]

theorem pieces_encode (cs : List Char) : pieces (cs.flatMap String.utf8EncodeChar) = cs.map .scalar := by
  induction cs with
  | nil => rfl
  | cons c cs ih =>
    rw [List.flatMap_cons, List.map_cons, ← ih]
    exact scan_encodeChar c _

theorem firstFault_scalars (index : Nat) (cs : List Char) : firstFault index (cs.map .scalar) = none := by
  induction cs generalizing index with
  | nil => rfl
  | cons c cs ih => exact ih _

/-- A text is read back from its octets. -/
theorem decode_encode (s : String) : decode (encode s) = .ok s := by
  have hpieces : pieces (encode s) = s.toList.map .scalar := pieces_encode s.toList
  simp only [decode, decodeLossy, hpieces, firstFault_scalars, List.map_map]
  have hshown : Piece.shown ∘ Piece.scalar = id := rfl
  rw [hshown, List.map_id, String.ofList_toList]

theorem encode_injective {s t : String} (h : encode s = encode t) : s = t := by
  have hdecode := congrArg decode h
  rw [decode_encode, decode_encode] at hdecode
  exact Except.ok.inj hdecode

theorem zero_eq_ofNat {n : Nat} (hn : n < 256) : 0 = UInt8.ofNat n ↔ n = 0 := by
  have hmod : n % 256 = n := Nat.mod_eq_of_lt hn
  simp [← UInt8.toNat_inj, hmod, eq_comm]

/-- Only the character NUL has an octet that is zero. -/
theorem zero_mem_utf8EncodeChar {c : Char} : 0 ∈ String.utf8EncodeChar c ↔ c = '\x00' := by
  have hnul : c = '\x00' ↔ c.val.toNat = 0 := by
    rw [Char.ext_iff, ← UInt32.toNat_inj]
    rfl
  rw [hnul]
  simp only [String.utf8EncodeChar]
  split
  · rw [List.mem_singleton, zero_eq_ofNat (by omega)]
  split
  · simp only [List.mem_cons, List.not_mem_nil, or_false]
    rw [zero_eq_ofNat (by omega), zero_eq_ofNat (by omega)]
    omega
  split
  · simp only [List.mem_cons, List.not_mem_nil, or_false]
    rw [zero_eq_ofNat (by omega), zero_eq_ofNat (by omega), zero_eq_ofNat (by omega)]
    omega
  · simp only [List.mem_cons, List.not_mem_nil, or_false]
    rw [zero_eq_ofNat (by omega), zero_eq_ofNat (by omega), zero_eq_ofNat (by omega), zero_eq_ofNat (by omega)]
    omega

theorem zero_mem_encode {s : String} : 0 ∈ encode s ↔ '\x00' ∈ s.toList := by
  simp [encode, zero_mem_utf8EncodeChar]

end RecursiveFactorial.Utf8
