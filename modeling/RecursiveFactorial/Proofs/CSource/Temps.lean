import Mathlib.Data.List.Count
import Mathlib.Data.List.Destutter
import Mathlib.Data.List.Sort
import RecursiveFactorial.Proofs.CSource.Blocks
import RecursiveFactorial.Proofs.CSource.Statement

/-!
# Declared temporaries

The temporaries that a body sets are kept in an increasing list. There is just one increasing list with given members,
so the list depends only on which instructions there are, and it is what sorting all results and then dropping
repetitions next to each other comes to. A block declares each member once.
-/
namespace RecursiveFactorial

namespace ThreeAddress

/-- An operation sets its result, and so does a call that has one. -/
inductive Instr.Sets : Instr → Nat → Prop where
  | binary (op : Operator) (left right : Operand) (t : Nat) : Sets (.binary op left right t) t
  | call (function : String) (args : List Operand) (t : Nat) : Sets (.call function args (some t)) t

theorem result?_eq_some {i : Instr} {t : Nat} : i.result? = some t ↔ i.Sets t := by
  constructor
  · intro h
    cases i with
    | binary op left right result =>
      cases h
      exact .binary op left right t
    | call function args result =>
      cases h
      exact .call function args t
    | _ => cases h
  · rintro (⟨op, left, right, t⟩ | ⟨function, args, t⟩) <;> rfl

section Insertion

theorem mem_insertTemp {t u : Nat} {us : List Nat} : u ∈ insertTemp t us ↔ u = t ∨ u ∈ us := by
  induction us with
  | nil => simp [insertTemp]
  | cons v us ih =>
    unfold insertTemp
    split
    · simp
    · split
      · rename_i h
        simp [h]
      · simp only [List.mem_cons, ih]
        exact or_left_comm

theorem pairwise_insertTemp (t : Nat) {us : List Nat} (h : us.Pairwise (· < ·)) :
    (insertTemp t us).Pairwise (· < ·) := by
  induction us with
  | nil => simp [insertTemp]
  | cons v us ih =>
    obtain ⟨hv, hus⟩ := List.pairwise_cons.mp h
    unfold insertTemp
    split
    · rename_i htv
      refine List.pairwise_cons.mpr ⟨fun w hw => ?_, h⟩
      obtain rfl | hw := List.mem_cons.mp hw
      · exact htv
      · exact Nat.lt_trans htv (hv w hw)
    · split
      · exact h
      · refine List.pairwise_cons.mpr ⟨fun w hw => ?_, ih hus⟩
        obtain rfl | hw := mem_insertTemp.mp hw
        · omega
        · exact hv w hw

theorem mem_foldr_insertTemp {t : Nat} {ts : List Nat} : t ∈ ts.foldr insertTemp [] ↔ t ∈ ts := by
  induction ts with
  | nil => simp
  | cons u ts ih => rw [List.foldr_cons, mem_insertTemp, ih, List.mem_cons]

theorem pairwise_foldr_insertTemp (ts : List Nat) : (ts.foldr insertTemp []).Pairwise (· < ·) := by
  induction ts with
  | nil => exact .nil
  | cons t ts ih => exact pairwise_insertTemp t ih

end Insertion

section Sorting

/-- Only repetitions are dropped. -/
theorem mem_destutter' {t : Nat} (u : Nat) (us : List Nat) : t ∈ us.destutter' (· ≠ ·) u ↔ t ∈ u :: us := by
  induction us generalizing u with
  | nil => simp
  | cons v us ih =>
    by_cases huv : u = v
    · subst huv
      rw [List.destutter'_cons_neg _ (by simp), ih]
      simp
    · rw [List.destutter'_cons_pos _ huv, List.mem_cons, ih, ← List.mem_cons]

theorem mem_destutter {t : Nat} (ts : List Nat) : t ∈ ts.destutter (· ≠ ·) ↔ t ∈ ts := by
  cases ts with
  | nil => simp
  | cons u us => rw [List.destutter_cons', mem_destutter']

/-- In a sorted list, equal members stand next to each other, so what is left after dropping repetitions increases. -/
theorem pairwise_destutter' (u : Nat) {us : List Nat} (h : (u :: us).Pairwise (· ≤ ·)) :
    (us.destutter' (· ≠ ·) u).Pairwise (· < ·) := by
  induction us generalizing u with
  | nil => simp
  | cons v us ih =>
    obtain ⟨hu, hvs⟩ := List.pairwise_cons.mp h
    by_cases huv : u = v
    · subst huv
      rw [List.destutter'_cons_neg _ (by simp)]
      exact ih u hvs
    · rw [List.destutter'_cons_pos _ huv]
      refine List.pairwise_cons.mpr ⟨fun w hw => ?_, ih v hvs⟩
      have huv' := hu v List.mem_cons_self
      obtain rfl | hw := List.mem_cons.mp ((mem_destutter' v us).mp hw)
      · omega
      · have hvw := (List.pairwise_cons.mp hvs).1 w hw
        omega

theorem pairwise_destutter_mergeSort (ts : List Nat) : (ts.mergeSort.destutter (· ≠ ·)).Pairwise (· < ·) := by
  have hsorted := List.pairwise_mergeSort' (· ≤ ·) ts
  cases hts : ts.mergeSort with
  | nil => exact .nil
  | cons u us =>
    rw [hts] at hsorted
    exact pairwise_destutter' u hsorted

end Sorting

section Assigned

theorem pairwise_assignedTemps (body : List Instr) : (assignedTemps body).Pairwise (· < ·) :=
  pairwise_foldr_insertTemp _

theorem mem_assignedTemps {t : Nat} {body : List Instr} : t ∈ assignedTemps body ↔ ∃ i ∈ body, i.Sets t := by
  simp only [assignedTemps, mem_foldr_insertTemp, List.mem_filterMap, result?_eq_some]

/-- An increasing list with the temporaries that a body sets is the list of them. -/
theorem eq_assignedTemps {ts : List Nat} {body : List Instr} (hts : ts.Pairwise (· < ·))
    (h : ∀ t, t ∈ ts ↔ ∃ i ∈ body, i.Sets t) : ts = assignedTemps body :=
  hts.eq_of_mem_iff (pairwise_assignedTemps body) fun t => (h t).trans mem_assignedTemps.symm

end Assigned

end ThreeAddress

namespace CSource

open ThreeAddress

/-- The line that declares a temporary. -/
def declaration (level t : Nat) : String :=
  indented level ("int " ++ tempName t ++ " = 0;")

theorem declaration_injective (level : Nat) : Function.Injective (declaration level) := by
  intro t u h
  have hchars := congrArg String.toList h
  simp only [declaration, indented, String.toList_append, toList_tempName, List.append_cancel_left_eq,
    List.append_cancel_right_eq, List.cons.injEq, true_and] at hchars
  exact toDigits_injective hchars

theorem lastChar?_declaration (level t : Nat) : lastChar? (declaration level t) = some ';' :=
  lastChar?_indented (lastChar?_append (by decide) _) level

/-- Each temporary in a list without repetitions is declared once. -/
theorem count_tempLines (level t : Nat) {ts : List Nat} (hts : ts.Nodup) :
    (tempLines level ts).count (declaration level t) = if t ∈ ts then 1 else 0 := by
  have hend := lastChar?_declaration level t
  have htitle : indented level "// Temporary variables" ≠ declaration level t := by
    intro h
    rw [← h, lastChar?_indented (c := 's') (by decide)] at hend
    exact absurd hend (by decide)
  have hblank : "" ≠ declaration level t := by
    intro h
    rw [← h] at hend
    exact absurd hend (by decide)
  have hmap := List.count_map_of_injective ts (declaration level) (declaration_injective level) t
  unfold tempLines
  split
  · rename_i h
    simp [h]
  · rw [List.cons_append, List.count_cons_of_ne htitle, List.count_append, List.count_cons_of_ne hblank,
      List.count_nil, Nat.add_zero, ← hts.count]
    exact hmap

/-- The temporaries of a body are an increasing list of those that an operation or a call of it sets: all results,
sorted, without repetitions next to each other. The list depends only on which instructions there are. In a listing,
the lines of a block in front of its statements declare each of them once and no other, and each of these lines is one
line of the text. -/
theorem temps_declared_once (body : List Instr) :
    assignedTemps body = (body.filterMap Instr.result?).mergeSort.destutter (· ≠ ·) ∧
    (assignedTemps body).Pairwise (· < ·) ∧
    (∀ t, t ∈ assignedTemps body ↔ ∃ i ∈ body, i.Sets t) ∧
    (∀ body', (∀ i, i ∈ body' ↔ i ∈ body) → assignedTemps body' = assignedTemps body) ∧
    ∀ l : Listing,
      l.addBlock body =
        .ok (l.put (tempLines (l.indent + 1) (assignedTemps body) ++ body.map (instrLine (l.indent + 1)) ++
          fillLines (l.indent + 1) body)).openBlock ∧
      (∀ text ∈ tempLines (l.indent + 1) (assignedTemps body), '\n' ∉ text.toList) ∧
      ∀ t, ((∃ i ∈ body, i.Sets t) →
          (tempLines (l.indent + 1) (assignedTemps body)).count (declaration (l.indent + 1) t) = 1) ∧
        ((∀ i ∈ body, ¬ i.Sets t) →
          (tempLines (l.indent + 1) (assignedTemps body)).count (declaration (l.indent + 1) t) = 0) := by
  have hcount (l : Listing) (t : Nat) := count_tempLines (l.indent + 1) t (pairwise_assignedTemps body).nodup
  refine ⟨?_, pairwise_assignedTemps body, fun t => mem_assignedTemps, fun body' h => ?_, fun l =>
    ⟨l.addBlock_eq body, newline_not_mem_tempLines, fun t => ⟨fun h => ?_, fun h => ?_⟩⟩⟩
  · refine (eq_assignedTemps (pairwise_destutter_mergeSort _) fun t => ?_).symm
    rw [mem_destutter, List.mem_mergeSort, List.mem_filterMap]
    simp only [result?_eq_some]
  · refine eq_assignedTemps (pairwise_assignedTemps body') fun t => ?_
    simp only [mem_assignedTemps, h]
  · rw [hcount l t, if_pos (mem_assignedTemps.mpr h)]
  · have hnot : t ∉ assignedTemps body := by
      intro ht
      obtain ⟨i, hi, hset⟩ := mem_assignedTemps.mp ht
      exact h i hi hset
    rw [hcount l t, if_neg hnot]

end CSource

end RecursiveFactorial
