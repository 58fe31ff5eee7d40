import RecursiveFactorial.Evaluation

/-!
# The recursion behind both modes

Both modes answer from one recursion: the checked one where every product fits, and the wrapping one also past
the argument from which it takes a shortcut to zero. An argument with a factorial is a natural number
below `2 ^ 31`, which is the measure for inductions over the recursion.
-/
namespace RecursiveFactorial.Evaluation

theorem product?_eq_some {a b r : Int32} (h : product? a b = some r) : r = a * b := by
  simp only [product?, Option.ite_none_right_eq_some, Option.some.injEq] at h
  rw [← h.2, Int32.ofInt_mul, Int32.ofInt_toInt, Int32.ofInt_toInt]

/-- Checking changes no result, it only withholds some. -/
theorem wrappingRecursion_eq_of_checked {n : Nat} {r : Int32} (h : checkedRecursion n = some r) :
    wrappingRecursion n = r := by
  fun_induction checkedRecursion n generalizing r with
  | case1 => simpa [wrappingRecursion] using h
  | case2 => simpa [wrappingRecursion] using h
  | case3 n hn ih => cases h
  | case4 n q hq ih =>
    rw [wrappingRecursion, ih hq]
    exact (product?_eq_some h).symm

/-- A product that has become zero stays zero. -/
theorem wrappingRecursion_eq_zero (k : Nat) : wrappingRecursion (k + 34) = 0 := by
  induction k with
  | zero => decide +kernel
  | succ k ih =>
    change Int32.ofNat (k + 35) * wrappingRecursion (k + 34) = 0
    rw [ih]
    exact Int32.mul_zero

theorem checkedFactorial_eq_ok {n v : Int32} (h : checkedFactorial n = .ok v) :
    0 ≤ n.toInt ∧ wrappingRecursion n.toInt.toNat = v := by
  unfold checkedFactorial at h
  split at h
  · cases h
  · rename_i hneg
    split at h
    · cases h
    · split at h
      · rename_i r hr
        cases h
        exact ⟨by simpa [Int32.lt_iff_toInt_lt] using hneg, wrappingRecursion_eq_of_checked hr⟩
      · cases h

theorem wrappingFactorial_eq_ok {n v : Int32} (h : wrappingFactorial n = .ok v) :
    0 ≤ n.toInt ∧ wrappingRecursion n.toInt.toNat = v := by
  unfold wrappingFactorial at h
  split at h
  · cases h
  · rename_i hneg
    have hn : 0 ≤ n.toInt := by simpa [Int32.lt_iff_toInt_lt] using hneg
    refine ⟨hn, ?_⟩
    split at h
    · rename_i hlarge
      cases h
      have hle : (34 : Int) ≤ n.toInt := by
        simpa [Int32.le_iff_toInt_le, vanishesFrom] using hlarge
      obtain ⟨k, hk⟩ : ∃ k, n.toInt.toNat = k + 34 := ⟨n.toInt.toNat - 34, by omega⟩
      rw [hk, wrappingRecursion_eq_zero]
    · cases h
      rfl

/-- An argument with a factorial is a natural number, and its factorial is that of the recursion. -/
theorem eval_eq_ok {mode : Mode} {n v : Int32} (h : mode.eval n = .ok v) :
    ∃ k, k < 2147483648 ∧ n = Int32.ofNat k ∧ wrappingRecursion k = v := by
  have hv : 0 ≤ n.toInt ∧ wrappingRecursion n.toInt.toNat = v := by
    cases mode with
    | checked => exact checkedFactorial_eq_ok h
    | wrapping => exact wrappingFactorial_eq_ok h
  have hlt := n.toInt_lt
  refine ⟨n.toInt.toNat, by omega, ?_, hv.2⟩
  rw [← Int32.ofInt_eq_ofNat, Int.toNat_of_nonneg hv.1, Int32.ofInt_toInt]

theorem ofNat_ne_of_lt {m n : Nat} (hm : m < 2147483648) (hn : n < 2147483648) (h : m ≠ n) :
    Int32.ofNat m ≠ Int32.ofNat n := by
  intro he
  have hi := congrArg Int32.toInt he
  rw [Int32.toInt_ofNat_of_lt hm, Int32.toInt_ofNat_of_lt hn] at hi
  omega

end RecursiveFactorial.Evaluation
