import RecursiveFactorial.Proofs.Text.Utf8

/-!
# ASCII in octets that need not be a text

Reading any octets lossily keeps the ASCII ones in front as they are, and the first character past them is not ASCII
either. So a scan of the characters for a class of ASCII characters stops where a scan of the octets does.

An unfinished character is bounded by the least and the greatest code point it can still become. More octets only
narrow the bounds, and those after a leading octet already exclude ASCII and the surrogates.
-/
namespace RecursiveFactorial.Utf8

/-- The least code point that `bits` with octets of the given ranges after them can make. -/
def least : Nat → List Range → Nat
  | bits, [] => bits
  | bits, r :: rs => least (bits * 0x40 + r.low.toNat % 0x40) rs

/-- The greatest code point that `bits` with octets of the given ranges after them can make. -/
def greatest : Nat → List Range → Nat
  | bits, [] => bits
  | bits, r :: rs => greatest (bits * 0x40 + r.high.toNat % 0x40) rs

theorem least_mono {a b : Nat} (h : a ≤ b) (rs : List Range) : least a rs ≤ least b rs := by
  induction rs generalizing a b with
  | nil => exact h
  | cons r rs ih => exact ih (by omega)

theorem greatest_mono {a b : Nat} (h : a ≤ b) (rs : List Range) : greatest a rs ≤ greatest b rs := by
  induction rs generalizing a b with
  | nil => exact h
  | cons r rs ih => exact ih (by omega)

/-- A range of octets that continue a character. -/
def Range.Continues (r : Range) : Prop :=
  0x80 ≤ r.low ∧ r.high ≤ 0xbf

instance Range.Continues.decidable (r : Range) : Decidable r.Continues :=
  inferInstanceAs (Decidable (_ ∧ _))

theorem Range.Continues.bounds {r : Range} (hr : r.Continues) {b : UInt8} (hb : r.holds b = true) :
    r.low.toNat % 0x40 ≤ b.toNat % 0x40 ∧ b.toNat % 0x40 ≤ r.high.toNat % 0x40 := by
  simp only [Range.Continues, Range.holds, Bool.and_eq_true, decide_eq_true_eq, UInt8.le_iff_toNat_le] at hr hb
  have hlow : (0x80 : UInt8).toNat = 0x80 := rfl
  have hhigh : (0xbf : UInt8).toNat = 0xbf := rfl
  omega

/-- All code points between two bounds are characters that are not ASCII. -/
def Wide (low high : Nat) : Prop :=
  0x80 ≤ low ∧ high < 0x110000 ∧ (high < 0xd800 ∨ 0xdfff < low)

instance Wide.decidable (low high : Nat) : Decidable (Wide low high) :=
  inferInstanceAs (Decidable (_ ∧ _))

theorem Wide.narrow {low high low' high' : Nat} (h : Wide low high) (hlow : low ≤ low') (hhigh : high' ≤ high) :
    Wide low' high' := by
  unfold Wide at *
  omega

theorem toNat_ofNat_of_isValidChar {n : Nat} (h : n.isValidChar) : (Char.ofNat n).toNat = n := by
  rw [Char.ofNat, dif_pos h]
  rfl

theorem toNat_ofNat_toNat (b : UInt8) : (Char.ofNat b.toNat).toNat = b.toNat :=
  toNat_ofNat_of_isValidChar (.inl (Nat.lt_of_lt_of_le b.toNat_lt (by decide)))

theorem Wide.toNat_ofNat {n : Nat} (h : Wide n n) : 0x80 ≤ (Char.ofNat n).toNat := by
  have hvalid : n.isValidChar := by
    obtain ⟨-, hlast, hbefore | hafter⟩ := h
    · exact .inl hbefore
    · exact .inr ⟨hafter, hlast⟩
  rw [toNat_ofNat_of_isValidChar hvalid]
  exact h.1

/-- An unfinished character that can only become a character outside ASCII. -/
structure Unfinished.Foreign (u : Unfinished) : Prop where
  next : u.next.Continues
  later : ∀ r ∈ u.later, r.Continues
  wide : Wide (least u.bits (u.next :: u.later)) (greatest u.bits (u.next :: u.later))

/-- Characters whose first one is not ASCII. -/
def StartsForeign (cs : List Char) : Prop :=
  ∃ c rest, cs = c :: rest ∧ 0x80 ≤ c.toNat

theorem startsForeign_cons {c : Char} (hc : 0x80 ≤ c.toNat) (cs : List Char) : StartsForeign (c :: cs) :=
  ⟨c, cs, rfl, hc⟩

theorem toNat_replacement : 0x80 ≤ '\ufffd'.toNat := by decide

/-- One more octet finishes such a character or leaves one. -/
theorem Unfinished.Foreign.extend {u : Unfinished} (hu : u.Foreign) {b : UInt8} (hb : u.next.holds b = true) :
    (∃ p, u.extend b = .inl p ∧ 0x80 ≤ p.shown.toNat) ∨ ∃ v, u.extend b = .inr v ∧ v.Foreign := by
  obtain ⟨length, bits, next, later⟩ := u
  obtain ⟨hnext, hlater, hwide⟩ := hu
  obtain ⟨hlow, hhigh⟩ := hnext.bounds hb
  have hleast := least_mono (Nat.add_le_add_left hlow (bits * 0x40)) later
  have hgreatest := greatest_mono (Nat.add_le_add_left hhigh (bits * 0x40)) later
  have hnarrow := hwide.narrow hleast hgreatest
  cases later with
  | nil => exact .inl ⟨_, rfl, hnarrow.toNat_ofNat⟩
  | cons r rs =>
    exact .inr ⟨_, rfl, hlater r List.mem_cons_self, fun q hq => hlater q (List.mem_cons_of_mem r hq), hnarrow⟩

theorem scan_foreign {u : Unfinished} (hu : u.Foreign) (bs : Octets) :
    StartsForeign ((scan (some u) bs).map Piece.shown) := by
  induction bs generalizing u with
  | nil => exact startsForeign_cons toNat_replacement _
  | cons b bs ih =>
    by_cases hb : u.next.holds b = true
    · rw [scan, if_pos hb]
      obtain ⟨p, hp, hshown⟩ | ⟨v, hv, hforeign⟩ := hu.extend hb
      · rw [hp]
        exact startsForeign_cons hshown _
      · rw [hv]
        exact ih hforeign
    · rw [scan, if_neg hb]
      exact startsForeign_cons toNat_replacement _

/-- What an octet outside ASCII starts is a character outside ASCII, or ill formed. -/
def leadsForeign (b : UInt8) : Bool :=
  match lead b with
  | .inl p => 0x80 ≤ p.shown.toNat
  | .inr u =>
    u.next.Continues && u.later.all (fun r => r.Continues) &&
      Wide (least u.bits (u.next :: u.later)) (greatest u.bits (u.next :: u.later))

theorem leadsForeign_of_le : ∀ b : UInt8, 0x80 ≤ b → leadsForeign b = true :=
  forall_octet (by decide +kernel)

/-- The characters that stand for octets. -/
def lossyChars (bs : Octets) : List Char :=
  (pieces bs).map Piece.shown

theorem toList_decodeLossy (bs : Octets) : (decodeLossy bs).toList = lossyChars bs := by
  simp [decodeLossy, lossyChars]

theorem lossyChars_ascii {b : UInt8} (hb : b < 0x80) (bs : Octets) :
    lossyChars (b :: bs) = Char.ofNat b.toNat :: lossyChars bs := by
  simp only [lossyChars, pieces, scan_ascii bs hb, List.map_cons, Piece.shown]

theorem lossyChars_foreign {b : UInt8} (hb : 0x80 ≤ b) (bs : Octets) : StartsForeign (lossyChars (b :: bs)) := by
  have hlead := leadsForeign_of_le b hb
  unfold leadsForeign at hlead
  simp only [lossyChars, pieces, scan]
  cases hcase : lead b with
  | inl p =>
    simp only [hcase, decide_eq_true_eq] at hlead ⊢
    exact startsForeign_cons hlead _
  | inr u =>
    simp only [hcase, Bool.and_eq_true, decide_eq_true_eq, List.all_eq_true] at hlead ⊢
    exact scan_foreign ⟨hlead.1.1, hlead.1.2, hlead.2⟩ bs

/-- A class of ASCII characters, of characters and of octets. -/
structure AsciiClass (p : Char → Bool) (q : UInt8 → Bool) : Prop where
  ascii : ∀ b : UInt8, b < 0x80 → p (Char.ofNat b.toNat) = q b
  foreignChar : ∀ c : Char, 0x80 ≤ c.toNat → p c = false
  foreignOctet : ∀ b : UInt8, 0x80 ≤ b → q b = false

theorem AsciiClass.dropWhile {p : Char → Bool} {q : UInt8 → Bool} (h : AsciiClass p q) (bs : Octets) :
    (lossyChars bs).dropWhile p = lossyChars (bs.dropWhile q) := by
  induction bs with
  | nil => rfl
  | cons b bs ih =>
    by_cases hb : b < 0x80
    · rw [lossyChars_ascii hb, List.dropWhile_cons, List.dropWhile_cons, h.ascii b hb, ih]
      split
      · rfl
      · rw [lossyChars_ascii hb]
    · have hle : 0x80 ≤ b := UInt8.not_lt.1 hb
      obtain ⟨c, cs, hcs, hc⟩ := lossyChars_foreign hle bs
      rw [List.dropWhile_cons_of_neg (by simp [h.foreignOctet b hle]), hcs,
        List.dropWhile_cons_of_neg (by simp [h.foreignChar c hc])]

theorem AsciiClass.takeWhile {p : Char → Bool} {q : UInt8 → Bool} (h : AsciiClass p q) (bs : Octets) :
    (lossyChars bs).takeWhile p = (bs.takeWhile q).map fun b => Char.ofNat b.toNat := by
  induction bs with
  | nil => rfl
  | cons b bs ih =>
    by_cases hb : b < 0x80
    · rw [lossyChars_ascii hb, List.takeWhile_cons, List.takeWhile_cons, h.ascii b hb, ih]
      split
      · rfl
      · rfl
    · have hle : 0x80 ≤ b := UInt8.not_lt.1 hb
      obtain ⟨c, cs, hcs, hc⟩ := lossyChars_foreign hle bs
      rw [List.takeWhile_cons_of_neg (by simp [h.foreignOctet b hle]), hcs,
        List.takeWhile_cons_of_neg (by simp [h.foreignChar c hc]), List.map_nil]

end RecursiveFactorial.Utf8
