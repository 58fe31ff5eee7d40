import RecursiveFactorial.Proofs.CSource.Layout

/-!
# The lines of a block

A block at any level has its declarations, a line for each instruction and an empty statement after a label that is the
last instruction. What a line ends in tells these apart: a label ends in a colon, any other instruction in a semicolon,
and the empty statement in its comment. So no label ends a block, and no other line is an empty statement.
-/
namespace RecursiveFactorial.CSource

open ThreeAddress

/-- The line after a label that is the last instruction. -/
def emptyStatement : String :=
  ";  // Empty statement after label"

/-- The last character of a line. -/
def lastChar? (text : String) : Option Char :=
  text.toList.getLast?

section LastCharacters

theorem lastChar?_append {tail : String} {c : Char} (h : lastChar? tail = some c) (text : String) :
    lastChar? (text ++ tail) = some c := by
  unfold lastChar? at h ⊢
  rw [String.toList_append, List.getLast?_append, h, Option.some_or]

/-- A margin does not change what a line ends in. -/
theorem lastChar?_indented {text : String} {c : Char} (h : lastChar? text = some c) (level : Nat) :
    lastChar? (indented level text) = some c :=
  lastChar?_append h (Listing.margin level)

theorem lastChar?_printCall (args : List Operand) : lastChar? (printCall args) = some ';' := by
  unfold printCall
  split
  · decide
  · exact lastChar?_append (by decide) _

/-- A label ends in a colon and any other instruction in a semicolon. -/
theorem lastChar?_statement (i : Instr) : lastChar? (statement i) = some (if isLabel i then ':' else ';') := by
  cases i with
  | call function args result =>
    simp only [statement]
    split
    · exact lastChar?_printCall args
    · exact lastChar?_append (c := ';') (by decide) _
  | label n => exact lastChar?_append (c := ':') (by decide) _
  | _ =>
    simp only [statement]
    exact lastChar?_append (c := ';') (by decide) _

theorem lastChar?_instrLine (level : Nat) (i : Instr) :
    lastChar? (instrLine level i) = some (if isLabel i then ':' else ';') :=
  lastChar?_indented (lastChar?_statement i) _

theorem lastChar?_label (level label : Nat) : lastChar? (indented level (labelName label ++ ":")) = some ':' :=
  lastChar?_indented (lastChar?_append (by decide) _) level

theorem lastChar?_emptyStatement (level : Nat) : lastChar? (indented level emptyStatement) = some 'l' :=
  lastChar?_indented (by decide) level

end LastCharacters

section Blocks

theorem assignedTemps_eq_nil {body : List Instr} : assignedTemps body = [] ↔ ∀ i ∈ body, i.result? = none := by
  have hinsert (t : Nat) (us : List Nat) : insertTemp t us ≠ [] := by
    cases us with
    | nil => simp [insertTemp]
    | cons u us =>
      unfold insertTemp
      split
      · simp
      · split <;> simp
  rw [← List.filterMap_eq_nil_iff, assignedTemps]
  cases body.filterMap Instr.result? with
  | nil => simp
  | cons t ts => simp [hinsert]

theorem tempLines_eq_nil {level : Nat} {body : List Instr} :
    tempLines level (assignedTemps body) = [] ↔ ∀ i ∈ body, i.result? = none := by
  rw [← assignedTemps_eq_nil, tempLines]
  split
  · rename_i h
    simp [h]
  · rename_i h
    simp [h]

/-- The empty statement is there just when a label is the last instruction. -/
theorem fillLines_cases (level : Nat) (body : List Instr) :
    (∃ label, body.getLast? = some (.label label)) ∧ fillLines level body = [indented level emptyStatement] ∨
      (∀ label, body.getLast? ≠ some (.label label)) ∧ fillLines level body = [] := by
  unfold fillLines
  cases body.getLast? with
  | none => exact .inr ⟨by simp, rfl⟩
  | some i =>
    cases i with
    | label n => exact .inl ⟨⟨n, rfl⟩, rfl⟩
    | _ => exact .inr ⟨by simp, rfl⟩

/-- No label is the last line of a block. -/
theorem getLast?_blockLines_ne (level : Nat) (body : List Instr) (k label : Nat) :
    (blockLines level body).getLast? ≠ some (indented k (labelName label ++ ":")) := by
  intro h
  have hcolon := lastChar?_label k label
  unfold blockLines at h
  obtain ⟨-, hfill⟩ | ⟨hlast, hfill⟩ := fillLines_cases level body
  · rw [hfill, List.getLast?_append, List.getLast?_singleton, Option.some_or, Option.some.injEq] at h
    rw [← h, lastChar?_emptyStatement] at hcolon
    exact absurd hcolon (by decide)
  · rw [hfill, List.append_nil, List.getLast?_append, List.getLast?_map] at h
    cases hbody : body.getLast? with
    | none =>
      -- Without an instruction there is no temporary to declare.
      obtain rfl := List.getLast?_eq_none_iff.mp hbody
      simp [assignedTemps, tempLines] at h
    | some i =>
      rw [hbody, Option.map_some, Option.some_or, Option.some.injEq] at h
      rw [← h, lastChar?_instrLine] at hcolon
      cases i with
      | label n => exact hlast n hbody
      | _ => simp [isLabel] at hcolon

theorem lastChar?_tempLines {level : Nat} {ts : List Nat} {text : String} (h : text ∈ tempLines level ts) :
    lastChar? text ≠ some 'l' := by
  obtain rfl | ⟨t, rfl⟩ | rfl := mem_tempLines h
  · rw [lastChar?_indented (c := 's') (by decide)]
    decide
  · rw [lastChar?_indented (lastChar?_append (c := ';') (by decide) _)]
    decide
  · decide

/-- The lines around a block, of a function and of the main function. -/
def frameLines (level : Nat) (f : Function) : List String :=
  [indented level (signature f ++ " \x7b"), indented level "int main() \x7b", "", indented (level + 1) "return 0;",
    indented level "\x7d"]

theorem lastChar?_frameLines {level : Nat} {f : Function} {text : String} (h : text ∈ frameLines level f) :
    lastChar? text ≠ some 'l' := by
  simp only [frameLines, List.mem_cons, List.not_mem_nil, or_false] at h
  obtain rfl | rfl | rfl | rfl | rfl := h
  · rw [lastChar?_indented (lastChar?_append (c := '\x7b') (by decide) _)]
    decide
  · rw [lastChar?_indented (c := '\x7b') (by decide)]
    decide
  · decide
  · rw [lastChar?_indented (c := ';') (by decide)]
    decide
  · rw [lastChar?_indented (c := '\x7d') (by decide)]
    decide

end Blocks

end RecursiveFactorial.CSource
