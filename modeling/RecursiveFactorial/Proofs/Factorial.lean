import Mathlib.Data.Int.ModEq
import Mathlib.Data.Nat.Factorial.Basic
import RecursiveFactorial.Proofs.Recursion

/-!
# Factorials modulo the word

The wrapping recursion computes the residue of the factorial in 32 bits. That residue is zero where 32 factors of two
divide the factorial, and since a factorial divides every later one, it stays zero: the last argument before the
shortcut decides that the shortcut does not come too early.
-/
namespace RecursiveFactorial.Evaluation

/-- Products of residues are residues of products. -/
theorem wrappingRecursion_eq_ofNat (k : Nat) : wrappingRecursion k = Int32.ofNat k.factorial := by
  fun_induction wrappingRecursion k with
  | case1 => rfl
  | case2 => rfl
  | case3 k ih => rw [ih, Nat.factorial_succ (k + 1), Int32.ofNat_mul]

/-- A word is fixed by its residue. -/
theorem toInt_modEq_iff (w : Int32) (x : Int) : w.toInt ≡ x [ZMOD 4294967296] ↔ w = Int32.ofInt x := by
  have hbmod : (Int32.ofInt x).toInt = x.bmod 4294967296 := Int32.toInt_ofInt
  constructor
  · intro h
    have hmod : w.toInt % (4294967296 : Nat) = x % (4294967296 : Nat) := h
    have hword : w.toInt.bmod 4294967296 = w.toInt := Int32.toInt_bmod w
    rw [← Int32.toInt_inj, hbmod, ← hword, ← Int.emod_bmod, hmod, Int.emod_bmod]
  · rintro rfl
    rw [hbmod]
    exact Int.bmod_emod

theorem wrappingRecursion_eq_zero_iff_dvd (k : Nat) : wrappingRecursion k = 0 ↔ 4294967296 ∣ k.factorial := by
  have hzero : wrappingRecursion k = 0 ↔ (0 : Int32) = Int32.ofInt k.factorial := by
    rw [wrappingRecursion_eq_ofNat, Int32.ofInt_eq_ofNat, eq_comm]
  rw [hzero, ← toInt_modEq_iff, Int32.toInt_zero, Int.modEq_comm, Int.modEq_zero_iff_dvd]
  exact Int.natCast_dvd_natCast

/-- The factorial of 33 has 31 factors of two and that of 34 has one more. -/
theorem wrappingRecursion_eq_zero_iff (k : Nat) : wrappingRecursion k = 0 ↔ 34 ≤ k := by
  constructor
  · intro h
    by_contra hk
    -- Each factorial up to that of 33 divides the latter.
    have hlast : 4294967296 ∣ Nat.factorial 33 :=
      ((wrappingRecursion_eq_zero_iff_dvd k).mp h).trans (Nat.factorial_dvd_factorial (by omega))
    exact absurd hlast (by decide)
  · intro hk
    obtain ⟨j, rfl⟩ := Nat.exists_eq_add_of_le' hk
    exact wrappingRecursion_eq_zero j

theorem wrappingFactorial_negative {n : Int32} (hn : n < 0) : wrappingFactorial n = .error (.negative n) :=
  if_pos hn

/-- An argument that is not negative has the value of the recursion, also where that is not run. -/
theorem wrappingFactorial_nonneg {n : Int32} (hn : 0 ≤ n) :
    wrappingFactorial n = .ok (wrappingRecursion n.toInt.toNat) := by
  have hsign : ¬ n < 0 := by simpa using hn
  have hok : ∃ v, wrappingFactorial n = .ok v := by
    unfold wrappingFactorial
    rw [if_neg hsign]
    split
    · exact ⟨_, rfl⟩
    · exact ⟨_, rfl⟩
  obtain ⟨v, hv⟩ := hok
  rw [hv, (wrappingFactorial_eq_ok hv).2]

theorem wrappingFactorial_eq_zero_iff (n : Int32) : wrappingFactorial n = .ok 0 ↔ vanishesFrom ≤ n := by
  have hfrom : vanishesFrom ≤ n ↔ 34 ≤ n.toInt := Int32.le_iff_toInt_le
  by_cases hn : n < 0
  · have hneg : n.toInt < 0 := Int32.lt_iff_toInt_lt.mp hn
    rw [wrappingFactorial_negative hn, hfrom]
    exact iff_of_false (by simp) (by omega)
  · rw [wrappingFactorial_nonneg (by simpa using hn), Except.ok.injEq, wrappingRecursion_eq_zero_iff, hfrom]
    omega

/-- Checking withholds some values and changes none. -/
theorem wrappingFactorial_eq_of_checked {n v : Int32} (h : checkedFactorial n = .ok v) :
    wrappingFactorial n = .ok v := by
  obtain ⟨hn, hv⟩ := checkedFactorial_eq_ok h
  rw [wrappingFactorial_nonneg (Int32.le_iff_toInt_le.mpr hn), hv]

/-- An argument that is not negative has the one word congruent to its factorial, the value of the recursion without
the shortcut. The word is zero from `vanishesFrom` on and nowhere before. A negative argument is rejected, and a
value that passes the checks is the same here. -/
theorem wrappingFactorial_residue (n : Int32) :
    (0 ≤ n → ∃ v, wrappingFactorial n = .ok v ∧ wrappingRecursion n.toInt.toNat = v ∧
      ∀ w : Int32, w.toInt ≡ n.toInt.toNat.factorial [ZMOD 4294967296] ↔ w = v) ∧
    (wrappingFactorial n = .ok 0 ↔ vanishesFrom ≤ n) ∧
    (n < 0 → wrappingFactorial n = .error (.negative n)) ∧
    ∀ v, checkedFactorial n = .ok v → wrappingFactorial n = .ok v := by
  refine ⟨fun hn => ⟨_, wrappingFactorial_nonneg hn, rfl, fun w => ?_⟩, wrappingFactorial_eq_zero_iff n,
    wrappingFactorial_negative, fun v => wrappingFactorial_eq_of_checked⟩
  rw [toInt_modEq_iff, wrappingRecursion_eq_ofNat, Int32.ofInt_eq_ofNat]

/-- The last value before the shortcut is the least word, which is congruent to the factorial of 33. -/
theorem wrappingFactorial_residue_last :
    (0 : Int32) ≤ 33 ∧ Int32.minValue.toInt ≡ Nat.factorial 33 [ZMOD 4294967296] ∧
      wrappingFactorial 33 = .ok Int32.minValue := by
  have hnonneg : (0 : Int32) ≤ 33 := by decide
  have hleast : Int32.minValue.toInt ≡ Nat.factorial 33 [ZMOD 4294967296] := by decide
  obtain ⟨v, hv, -, hword⟩ := (wrappingFactorial_residue 33).1 hnonneg
  exact ⟨hnonneg, hleast, by rw [hv, (hword Int32.minValue).mp hleast]⟩

end RecursiveFactorial.Evaluation
