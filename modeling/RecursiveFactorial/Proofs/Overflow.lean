import Mathlib.Data.Nat.Factorial.Basic
import RecursiveFactorial.Evaluation

/-!
# Factorials that fit a word

A factorial is found too large in two ways that do not know of each other: by the guard in front of the recursion, and
by the first product of the recursion that does not fit, whose failure is passed on from there. Both agree on every
argument, because factorials grow. So the outcome of the checked evaluation can be read off the exact factorial.
-/
namespace RecursiveFactorial.Evaluation

/-- The word of a natural number, if it has one. -/
def word? (m : Nat) : Option Int32 :=
  if m ≤ 2147483647 then some (Int32.ofNat m) else none

theorem word?_eq_none {m : Nat} : word? m = none ↔ 2147483647 < m := by
  simp [word?]

theorem word?_eq_some {m : Nat} {v : Int32} : word? m = some v ↔ v.toInt = m := by
  have hlt := v.toInt_lt
  rw [word?, Option.ite_none_right_eq_some, Option.some.injEq]
  constructor
  · rintro ⟨hm, rfl⟩
    exact Int32.toInt_ofNat_of_lt (by omega)
  · intro hv
    have hm : m ≤ 2147483647 := by omega
    exact ⟨hm, by rw [← Int32.toInt_inj, hv, Int32.toInt_ofNat_of_lt (by omega)]⟩

/-- A checked product of words that are not negative is the word of the product. -/
theorem product?_eq_word? {a b : Int32} {m n : Nat} (ha : a.toInt = m) (hb : b.toInt = n) :
    product? a b = word? (m * n) := by
  have hleast : Int32.minValue.toInt = -2147483648 := rfl
  have hgreatest : Int32.maxValue.toInt = 2147483647 := rfl
  have hfits : Int32.minValue.toInt ≤ (m * n : Nat) ∧ (m * n : Nat) ≤ Int32.maxValue.toInt ↔ m * n ≤ 2147483647 := by
    omega
  simp only [product?, ha, hb, ← Int.natCast_mul, hfits, Int32.ofInt_eq_ofNat, word?]

/-- The recursion fails exactly where the factorial has no word. -/
theorem checkedRecursion_eq_word? {k : Nat} (hk : k < 2147483648) : checkedRecursion k = word? k.factorial := by
  fun_induction checkedRecursion k with
  | case1 => rfl
  | case2 => rfl
  | case3 k hnone ih =>
    -- The failure comes from a smaller factorial, and this one is not smaller.
    have hlarge : 2147483647 < (k + 1).factorial := by rwa [ih (by omega), word?_eq_none] at hnone
    have hgrows : (k + 1).factorial ≤ (k + 2).factorial := Nat.factorial_le (by omega)
    exact (word?_eq_none.mpr (Nat.lt_of_lt_of_le hlarge hgrows)).symm
  | case4 k r hr ih =>
    have hvalue : r.toInt = (k + 1).factorial := by rwa [ih (by omega), word?_eq_some] at hr
    rw [product?_eq_word? (Int32.toInt_ofNat_of_lt hk) hvalue, ← Nat.factorial_succ]

theorem factorial_le_iff (k : Nat) : k.factorial ≤ 2147483647 ↔ k ≤ 12 := by
  constructor
  · intro hfits
    by_contra hk
    have hgrows : Nat.factorial 13 ≤ k.factorial := Nat.factorial_le (by omega)
    exact absurd (Nat.le_trans hgrows hfits) (by decide)
  · intro hk
    exact Nat.le_trans (Nat.factorial_le hk) (by decide)

theorem checkedRecursion_toNat (n : Int32) : checkedRecursion n.toInt.toNat = word? n.toInt.toNat.factorial := by
  have hlt := n.toInt_lt
  exact checkedRecursion_eq_word? (by omega)

/-- The guard and the recursion find the same factorials too large. -/
theorem largestChecked_lt_iff {n : Int32} :
    largestChecked < n ↔ 0 ≤ n ∧ checkedRecursion n.toInt.toNat = none := by
  have hguard : largestChecked < n ↔ 12 < n.toInt := Int32.lt_iff_toInt_lt
  have hsign : 0 ≤ n ↔ 0 ≤ n.toInt := Int32.le_iff_toInt_le
  have hfits := factorial_le_iff n.toInt.toNat
  rw [checkedRecursion_toNat, word?_eq_none, hguard, hsign]
  omega

/-- An argument is negative, or its factorial has no word, or it has one. -/
theorem checkedFactorial_cases (n : Int32) :
    (n < 0 ∧ checkedFactorial n = .error (.negative n)) ∨
    (0 ≤ n ∧ 2147483647 < n.toInt.toNat.factorial ∧ checkedFactorial n = .error (.overflow n)) ∨
    ∃ v : Int32, 0 ≤ n ∧ v.toInt = n.toInt.toNat.factorial ∧ checkedFactorial n = .ok v := by
  by_cases hneg : n < 0
  · exact .inl ⟨hneg, if_pos hneg⟩
  have hn : 0 ≤ n := by simpa using hneg
  have hrecursion := checkedRecursion_toNat n
  rw [checkedFactorial, if_neg hneg]
  cases hword : word? n.toInt.toNat.factorial with
  | none =>
    rw [hword] at hrecursion
    rw [if_pos (largestChecked_lt_iff.mpr ⟨hn, hrecursion⟩)]
    exact .inr (.inl ⟨hn, word?_eq_none.mp hword, rfl⟩)
  | some v =>
    rw [hword] at hrecursion
    have hguard : ¬ largestChecked < n := fun h => by
      rw [(largestChecked_lt_iff.mp h).2] at hrecursion
      cases hrecursion
    rw [if_neg hguard, hrecursion]
    exact .inr (.inr ⟨v, hn, word?_eq_some.mp hword, rfl⟩)

/-- The checked evaluation gives the factorial exactly where it fits a word, an overflow exactly where it does not, and
a rejection exactly for a negative argument. The guard in front of the recursion turns away just the arguments on which
the recursion fails, so that it never fails behind the guard. -/
theorem checkedFactorial_exact (n : Int32) :
    ((∃ v, checkedFactorial n = .ok v) ↔ 0 ≤ n ∧ n.toInt.toNat.factorial ≤ 2147483647) ∧
    (∀ v, checkedFactorial n = .ok v → v.toInt = n.toInt.toNat.factorial) ∧
    (∀ m, checkedFactorial n = .error (.overflow m) ↔ m = n ∧ 0 ≤ n ∧ 2147483647 < n.toInt.toNat.factorial) ∧
    (∀ m, checkedFactorial n = .error (.negative m) ↔ m = n ∧ n < 0) ∧
    (largestChecked < n ↔ 0 ≤ n ∧ checkedRecursion n.toInt.toNat = none) ∧
    (0 ≤ n → n ≤ largestChecked → checkedRecursion n.toInt.toNat ≠ none) := by
  have hbehind : 0 ≤ n → n ≤ largestChecked → checkedRecursion n.toInt.toNat ≠ none := by
    intro hn hle hnone
    exact absurd (largestChecked_lt_iff.mpr ⟨hn, hnone⟩) (by simpa using hle)
  obtain ⟨hneg, h⟩ | ⟨hn, hlarge, h⟩ | ⟨v, hn, hv, h⟩ := checkedFactorial_cases n
  · have hsign : ¬ 0 ≤ n := by simpa using hneg
    refine ⟨?_, ?_, ?_, ?_, largestChecked_lt_iff, hbehind⟩ <;> simp [h, hneg, hsign, eq_comm]
  · have hsign : ¬ n < 0 := by simpa using hn
    refine ⟨?_, ?_, ?_, ?_, largestChecked_lt_iff, hbehind⟩ <;>
      simp [h, hn, hlarge, hsign, eq_comm, -Int32.toNat_toInt]
  · have hsign : ¬ n < 0 := by simpa using hn
    have hlt := v.toInt_lt
    have hfits : n.toInt.toNat.factorial ≤ 2147483647 := by omega
    refine ⟨?_, ?_, ?_, ?_, largestChecked_lt_iff, hbehind⟩ <;> simp [h, hn, hv, hfits, hsign, -Int32.toNat_toInt]

/-- The guard stands right behind the last factorial that fits. -/
theorem checkedFactorial_exact_edge :
    (0 : Int32) ≤ 12 ∧ (12 : Int32) ≤ largestChecked ∧ checkedRecursion 12 ≠ none ∧
      checkedFactorial 12 = .ok 479001600 ∧ (479001600 : Int32).toInt = Nat.factorial 12 ∧
      checkedFactorial 13 = .error (.overflow 13) ∧ 2147483647 < Nat.factorial 13 := by
  have hnonneg : (0 : Int32) ≤ 12 := by decide
  have hguard : (12 : Int32) ≤ largestChecked := by decide
  have hok : checkedFactorial 12 = .ok 479001600 := by decide
  have hlarge : 2147483647 < Nat.factorial 13 := by decide
  obtain ⟨-, hvalue, -, -, -, hrecursion⟩ := checkedFactorial_exact 12
  obtain ⟨-, -, hoverflow, -⟩ := checkedFactorial_exact 13
  exact ⟨hnonneg, hguard, hrecursion hnonneg hguard, hok, hvalue _ hok, (hoverflow 13).mpr ⟨rfl, by decide, hlarge⟩,
    hlarge⟩

end RecursiveFactorial.Evaluation
