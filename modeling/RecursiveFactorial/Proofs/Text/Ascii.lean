import RecursiveFactorial.Proofs.Text.Characters

/-!
# Printable ASCII

A text of printable ASCII stands on one line and has one octet for each character. Of a text that is given, the octets
are at hand while the characters have to be decoded, so what is evaluated about it is evaluated on its octets.
-/
namespace RecursiveFactorial.Utf8

theorem encode_eq_toByteArray (text : String) : encode text = text.toByteArray.data.toList := by
  rw [← String.utf8Encode_toList]
  simp [List.utf8Encode, encode]

/-- All octets are printable ASCII. -/
def Printable (text : String) : Prop :=
  ∀ b ∈ encode text, 0x20 ≤ b ∧ b ≤ 0x7e

instance Printable.decidable (text : String) : Decidable (Printable text) :=
  decidable_of_iff (text.toByteArray.data.toList.all (fun b => 0x20 ≤ b && b ≤ 0x7e) = true)
    (by simp only [Printable, encode_eq_toByteArray, List.all_eq_true, Bool.and_eq_true, decide_eq_true_eq])

theorem printable_of_chars {text : String} (h : ∀ c ∈ text.toList, 0x20 ≤ c.toNat ∧ c.toNat ≤ 0x7e) :
    Printable text := by
  intro b hb
  obtain ⟨c, hc, hb⟩ := List.mem_flatMap.mp hb
  obtain ⟨hlow, hhigh⟩ := h c hc
  have hascii : c.toNat < 0x80 := by omega
  rw [utf8EncodeChar_of_lt hascii, List.mem_singleton] at hb
  rw [hb, UInt8.le_iff_toNat_le, UInt8.le_iff_toNat_le, toNat_toUInt8 hascii]
  exact ⟨hlow, hhigh⟩

/-- The characters of octets that are all ASCII. -/
def asciiChars (s : Octets) : List Char :=
  s.map fun b => Char.ofNat b.toNat

theorem asciiChars_encodeChars {cs : List Char} (h : ∀ b ∈ encodeChars cs, b < 0x80) :
    asciiChars (encodeChars cs) = cs := by
  induction cs with
  | nil => rfl
  | cons c cs ih =>
    by_cases hc : c.toNat < 0x80
    · rw [encodeChars_ascii hc] at h ⊢
      have hrest := ih fun b hb => h b (List.mem_cons_of_mem _ hb)
      unfold asciiChars at hrest ⊢
      rw [List.map_cons, hrest, ofNat_toUInt8 hc]
    · obtain ⟨b, t, hb, ht⟩ := exists_encodeChars_foreign (Nat.le_of_not_lt hc) cs
      exact absurd (h b (by simp [ht])) (UInt8.not_lt.mpr hb)

namespace Printable

variable {text text' : String}

theorem append (h : Printable text) (h' : Printable text') : Printable (text ++ text') := by
  intro b hb
  rw [encode_append] at hb
  obtain hb | hb := List.mem_append.mp hb
  · exact h b hb
  · exact h' b hb

theorem newline_not_mem (h : Printable text) : '\n' ∉ text.toList := by
  intro hmem
  have hoctet : '\n'.toUInt8 ∈ encode text := List.mem_flatMap.mpr ⟨'\n', hmem, by decide⟩
  exact absurd (h _ hoctet).1 (by decide)

theorem toList_eq (h : Printable text) : text.toList = asciiChars text.toByteArray.data.toList := by
  have hascii : ∀ b ∈ encodeChars text.toList, b < 0x80 := fun b hb => UInt8.lt_of_le_of_lt (h b hb).2 (by decide)
  rw [← encode_eq_toByteArray, encode_eq, asciiChars_encodeChars hascii]

end Printable

end RecursiveFactorial.Utf8
