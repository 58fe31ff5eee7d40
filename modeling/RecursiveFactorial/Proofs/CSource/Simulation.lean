import Mathlib.Data.List.TakeWhile
import RecursiveFactorial.Proofs.Calculation
import RecursiveFactorial.Proofs.Recursion
import RecursiveFactorial.Proofs.CSource.Reading

/-!
# What the emitted program prints

The function of the emitted program returns the factorial of its argument, by induction on the argument, and leaves
the state of its caller as it was. The two calls of `printf` see their texts up to the first NUL only, so the output
of the program is that of the calculation just when no text holds a NUL.
-/
namespace RecursiveFactorial.CSource

open Evaluation (wrappingRecursion)
open C (Scope State Value exec execBlock call)

section Factorial

variable (c : C.Calls) (s : State)

@[simp] def intObject (n : Int32) : C.Object :=
  ⟨.int, .int n⟩

/-- The names that the function knows after its declarations. -/
def factorialScope (n t0 t1 t2 t3 t4 t5 : Int32) : Scope :=
  [("t5", intObject t5), ("t4", intObject t4), ("t3", intObject t3), ("t2", intObject t2), ("t1", intObject t1),
    ("t0", intObject t0), ("n", intObject n)]

/-- The function returns at once for zero and one. -/
theorem execBlock_factorialBlock_base {n : Int32} (hn : n = 0 ∨ n = 1) :
    execBlock c { s with locals := [("n", intObject n)] } (.ofList factorialBlock) =
      some (.ret (.int 1),
        { s with locals := factorialScope n (if n = 0 then 1 else 0) (if n = 1 then 1 else 0) 1 0 0 0 }) := by
  obtain rfl | rfl := hn
  · rfl
  · rfl

/-- The function jumps to its first label for any other argument. -/
theorem execBlock_factorialBlock_jump {n : Int32} (h0 : n ≠ 0) (h1 : n ≠ 1) :
    execBlock c { s with locals := [("n", intObject n)] } (.ofList factorialBlock) =
      some (.jump "L0", { s with locals := factorialScope n 0 0 0 0 0 0 }) := by
  have hzero : (n == 0) = false := beq_eq_false_iff_ne.mpr h0
  have hone : (n == 1) = false := beq_eq_false_iff_ne.mpr h1
  -- Evaluation comes as far as the two comparisons, and once they are decided, to the jump.
  have htests : execBlock c { s with locals := [("n", intObject n)] } (.ofList factorialBlock) =
      execBlock c { s with locals := factorialScope n (if n == 0 then 1 else 0) (if n == 1 then 1 else 0) 0 0 0 0 }
        (.ofList (factorialBlock.drop 8)) := rfl
  rw [htests, hzero, hone]
  rfl

/-- From the first label on, the function calls itself and returns a product. -/
theorem execBlock_factorialStep {n r : Int32}
    (hcall : ∀ s, c s "fatorial" [.int (n - 1)] = some (.int r, s)) :
    execBlock c { s with locals := factorialScope n 0 0 0 0 0 0 } (.ofList factorialStep) =
      some (.ret (.int (n * r)), { s with locals := factorialScope n 0 0 0 (n - 1) r (n * r) }) := by
  have hargument : exec c { s with locals := factorialScope n 0 0 0 0 0 0 }
      (assignStmt "t3" (.binary .sub (.name "n") (.number 1))) =
      some (.next, { s with locals := factorialScope n 0 0 0 (n - 1) 0 0 }) := rfl
  have hcalled : exec c { s with locals := factorialScope n 0 0 0 (n - 1) 0 0 }
      (assignStmt "t4" (callExpr "fatorial" [.name "t3"])) =
      some (.next, { s with locals := factorialScope n 0 0 0 (n - 1) r 0 }) :=
    C.exec_expr_of_eval (C.eval_assign_of_eval ((C.eval_call_of_args rfl).trans (hcall _)) rfl rfl)
  exact (C.execBlock_of_next hargument).trans ((C.execBlock_of_next hcalled).trans rfl)

variable {p : C.Program} (hp : p.function? "fatorial" = some factorialCode)

include hp

theorem call_factorial_base (d : Nat) {n : Int32} (hn : n = 0 ∨ n = 1) :
    call p (d + 1) s "fatorial" [.int n] = some (.int 1, s) := by
  have hcall := C.call_of_ret d s [.int n] hp rfl (execBlock_factorialBlock_base (call p d) s hn) rfl
  exact hcall

theorem call_factorial_step (d : Nat) {n r : Int32} (h0 : n ≠ 0) (h1 : n ≠ 1)
    (hrec : ∀ s, call p (d + 1) s "fatorial" [.int (n - 1)] = some (.int r, s)) :
    call p (d + 2) s "fatorial" [.int n] = some (.int (n * r), s) := by
  have hjump := C.runBody_of_jump (f := factorialCode) (d + 1)
    (execBlock_factorialBlock_jump (call p (d + 1)) s h0 h1) rfl rfl
  have hrun := hjump.trans (C.runBody_of_ret d (execBlock_factorialStep (call p (d + 1)) s hrec) rfl)
  have hcall := C.call_of_runBody (d + 1) s [.int n] hp rfl hrun
  exact hcall

/-- A call of the function returns the factorial and changes nothing. -/
theorem call_factorial (k : Nat) (hk : k < 2147483648) {d : Nat} (hd : k < d) :
    call p d s "fatorial" [.int (Int32.ofNat k)] = some (.int (wrappingRecursion k), s) := by
  fun_induction wrappingRecursion k generalizing s d with
  | case1 =>
    obtain ⟨d, rfl⟩ := Nat.exists_eq_add_of_lt hd
    exact call_factorial_base s hp _ (.inl rfl)
  | case2 =>
    obtain ⟨d, rfl⟩ := Nat.exists_eq_add_of_lt hd
    exact call_factorial_base s hp _ (.inr rfl)
  | case3 k ih =>
    have hpred : Int32.ofNat (k + 2) - 1 = Int32.ofNat (k + 1) := (Int32.ofNat_sub (k + 2) 1 (by omega)).symm
    obtain ⟨d, rfl⟩ : ∃ e, d = e + 2 := ⟨d - 2, by omega⟩
    apply call_factorial_step s hp
    · exact Evaluation.ofNat_ne_of_lt (n := 0) hk (by decide) (by omega)
    · exact Evaluation.ofNat_ne_of_lt (n := 1) hk (by decide) (by omega)
    · intro s
      rw [hpred]
      exact ih s (by omega) (by omega)

end Factorial

section Main

/-- What `%s` prints of a text. -/
def shown (text : String) : Octets :=
  (Utf8.encode text).takeWhile (· != 0)

@[simp] def emittedGlobals (n : Int32) : Scope :=
  [(ThreeAddress.globalName, intObject n), (bufferName, ⟨.array, .place 0 0⟩)]

theorem function_factorial (s : Settings) : (emitted s).function? "fatorial" = some factorialCode := rfl

theorem function_main (s : Settings) : (emitted s).function? "main" = some (mainFunction s) := rfl

theorem function_lineReader (s : Settings) : (emitted s).function? lineReader = some lineReaderFunction := rfl

theorem function_numberReader (s : Settings) : (emitted s).function? numberReader = some numberReaderFunction := rfl

theorem function_printf (s : Settings) : (emitted s).function? "printf" = none := rfl

/-- What a call of `printf` that prints some octets comes to. -/
def printed (m : State) (octets : Octets) : Value × State :=
  (.int (Int32.ofNat octets.length), { m with output := m.output ++ octets })

/-- The line with the banner. -/
theorem call_printf_banner (s : Settings) (d : Nat) (m : State) (octets : Octets) :
    call (emitted s) (d + 1) m "printf" [.literal [37, 115, 10], .literal octets] =
      some (printed m (octets.takeWhile (· != 0) ++ [10])) := by
  rw [C.call_of_library d (function_printf s) rfl]
  rfl

/-- The line with the label and the result. -/
theorem call_printf_result (s : Settings) (d : Nat) (m : State) (octets : Octets) (v : Int32) :
    call (emitted s) (d + 1) m "printf" [.literal [37, 115, 32, 37, 100, 10], .literal octets, .int v] =
      some (printed m (octets.takeWhile (· != 0) ++ 32 :: (Utf8.encode (toString v.toInt) ++ [10]))) := by
  rw [C.call_of_library d (function_printf s) rfl]
  rfl

/-- The output of the emitted program. -/
def emittedOutput (s : Settings) (v : Int32) : Octets :=
  shown s.banner ++ [10] ++ (shown s.label ++ 32 :: (Utf8.encode (toString v.toInt) ++ [10]))

def mainScope (t7 : Int32) : Scope :=
  [("t8", intObject 0), ("t7", intObject t7), ("t6", intObject 0)]

/-- A state of `main` with this result, this global number and this output. -/
def mainState (m : State) (t7 n : Int32) (output : Octets) : State :=
  { m with locals := mainScope t7, globals := emittedGlobals n, output }

section Statements

variable (s : Settings) (d : Nat) (m : State) (t7 n : Int32) (output : Octets)

theorem exec_banner :
    exec (call (emitted s) (d + 1)) (mainState m t7 n output)
        (.expr (callExpr "printf" [.text [37, 115, 10], .text (Utf8.encode s.banner)])) =
      some (.next, mainState m t7 n (output ++ (shown s.banner ++ [10]))) :=
  C.exec_expr_of_eval ((C.eval_call_of_args rfl).trans (call_printf_banner s d _ _))

theorem exec_number (c : C.Calls) {k : Nat} (hk : k < 2147483648) :
    exec c (mainState m t7 n output) (assignStmt ThreeAddress.globalName (.number k)) =
      some (.next, mainState m t7 (Int32.ofNat k) output) :=
  C.exec_expr_of_eval (C.eval_assign_of_eval (if_pos hk) rfl rfl)

theorem exec_factorial {k : Nat} (hk : k < 2147483648) (hd : k < d) :
    exec (call (emitted s) d) (mainState m t7 (Int32.ofNat k) output)
        (assignStmt "t7" (callExpr "fatorial" [.name ThreeAddress.globalName])) =
      some (.next, mainState m (wrappingRecursion k) (Int32.ofNat k) output) := by
  have hcall := call_factorial (mainState m t7 (Int32.ofNat k) output) (function_factorial s) k hk hd
  exact C.exec_expr_of_eval (C.eval_assign_of_eval ((C.eval_call_of_args rfl).trans hcall) rfl rfl)

theorem exec_result :
    exec (call (emitted s) (d + 1)) (mainState m t7 n output)
        (.expr (callExpr "printf" [.text [37, 115, 32, 37, 100, 10], .text (Utf8.encode s.label), .name "t7"])) =
      some (.next, mainState m t7 n
        (output ++ (shown s.label ++ 32 :: (Utf8.encode (toString t7.toInt) ++ [10])))) :=
  C.exec_expr_of_eval ((C.eval_call_of_args rfl).trans (call_printf_result s d _ _ _))

end Statements

theorem execBlock_mainBlock (s : Settings) (k : Nat) (hk : k < 2147483648) (hvalue : s.value = Int32.ofNat k)
    (m : State) (hlocals : m.locals = []) (hglobals : m.globals = emittedGlobals 0) :
    execBlock (call (emitted s) (k + 1)) m (.ofList (mainBlock s)) =
      some (.ret (.int 0),
        { m with
          locals := mainScope (wrappingRecursion k)
          globals := emittedGlobals s.value
          output := m.output ++ emittedOutput s (wrappingRecursion k) }) := by
  have hint : s.value.toInt = k := by rw [hvalue, Int32.toInt_ofNat_of_lt hk]
  have hnumber : (if s.value.toInt < 0 then C.Expr.unary .negate (.number s.value.toInt.natAbs)
      else .number s.value.toInt.natAbs) = .number k := by
    rw [hint, if_neg (by omega), Int.natAbs_natCast]
  have hdeclared : execBlock (call (emitted s) (k + 1)) m (.ofList (mainBlock s)) =
      execBlock (call (emitted s) (k + 1)) (mainState m 0 0 m.output) (.ofList ((mainBlock s).drop 3)) := by
    obtain ⟨locals, globals, memory, input, output⟩ := m
    cases hlocals
    cases hglobals
    rfl
  rw [hdeclared, hvalue, mainBlock, hnumber]
  refine ((C.execBlock_of_next (exec_banner s k m 0 0 m.output)).trans
    ((C.execBlock_of_next (exec_number m 0 0 _ _ hk)).trans
    ((C.execBlock_of_next (exec_factorial s (k + 1) m 0 _ hk (Nat.lt_succ_self k))).trans
    (C.execBlock_of_next (exec_result s k m _ _ _))))).trans ?_
  rw [List.append_assoc m.output]
  rfl

/-- The emitted program ends, whatever its input is. -/
theorem run_emitted (s : Settings) {k : Nat} (hk : k < 2147483648) (hvalue : s.value = Int32.ofNat k)
    (input : Octets) : ∃ m, (emitted s).Runs input m ∧ m.output = emittedOutput s (wrappingRecursion k) := by
  have hbody := execBlock_mainBlock s k hk hvalue ((emitted s).start input) rfl rfl
  have hcall := C.call_of_ret (k + 1) ((emitted s).start input) [] (function_main s) rfl hbody rfl
  exact ⟨_, ⟨k + 2, _, hcall⟩, rfl⟩

end Main

section Nul

theorem shown_eq_encode {text : String} : shown text = Utf8.encode text ↔ '\x00' ∉ text.toList := by
  rw [← Utf8.zero_mem_encode, shown, List.takeWhile_eq_self_iff]
  simp only [bne_iff_ne]
  exact ⟨fun h h0 => h 0 h0 rfl, fun h b hb h0 => h (h0 ▸ hb)⟩

theorem length_shown_le (text : String) : (shown text).length ≤ (Utf8.encode text).length :=
  (List.takeWhile_sublist _).length_le

theorem shown_eq_of_length {text : String} (h : (shown text).length = (Utf8.encode text).length) :
    shown text = Utf8.encode text :=
  (List.takeWhile_sublist _).eq_of_length h

theorem toString_eq_decimal (n : Int) : toString n = Number.decimal n := by
  cases n with
  | ofNat k => rfl
  | negSucc k =>
    apply String.toList_injective
    change ("-" ++ toString (k + 1)).toList = (String.ofList ('-' :: Nat.toDigits 10 (k + 1))).toList
    rw [String.toList_append, Nat.toString_eq_ofList_toDigits]
    simp

/-- A text that is cut off at a NUL makes the output too short. -/
theorem emittedOutput_eq_iff (s : Settings) (v : Int32) :
    emittedOutput s v = Calculation.bannerLine s ++ Calculation.resultLine s v ↔
      '\x00' ∉ s.banner.toList ∧ '\x00' ∉ s.label.toList := by
  have hnewline : Utf8.encode "\n" = [10] := by decide
  have hblank : Utf8.encode " " = [32] := by decide
  have hlines : Calculation.bannerLine s ++ Calculation.resultLine s v =
      Utf8.encode s.banner ++ [10] ++ (Utf8.encode s.label ++ 32 :: (Utf8.encode (toString v.toInt) ++ [10])) := by
    simp [Calculation.bannerLine, Calculation.resultLine, hnewline, hblank, ← toString_eq_decimal]
  rw [hlines, ← shown_eq_encode, ← shown_eq_encode, emittedOutput]
  constructor
  · intro h
    have hlength := congrArg List.length h
    simp only [List.length_append, List.length_cons] at hlength
    have hbanner := length_shown_le s.banner
    have hlabel := length_shown_le s.label
    exact ⟨shown_eq_of_length (by omega), shown_eq_of_length (by omega)⟩
  · rintro ⟨hbanner, hlabel⟩
    rw [hbanner, hlabel]

end Nul

/-- The text for some settings is a program of C. Where the calculation succeeds, the program ends in just one state,
and it has written what the calculation wrote just when neither text holds a NUL. -/
theorem emitted_text_prints_calculation_iff (s : Settings) (v : Int32) (c c' : Console)
    (h : Calculation.run s c = .ok v c') (input : Octets) :
    ∃ text p m, ofSettings s = .ok text ∧ C.read? text.toList = some p ∧ (∀ m', p.Runs input m' ↔ m' = m) ∧
      (c'.written = c.written ++ m.output ↔ '\x00' ∉ s.banner.toList ∧ '\x00' ∉ s.label.toList) := by
  obtain ⟨heval, hwritten⟩ := Calculation.run_eq_ok h
  obtain ⟨k, hk, hvalue, rfl⟩ := Evaluation.eval_eq_ok heval
  obtain ⟨m, hrun, houtput⟩ := run_emitted s hk hvalue input
  refine ⟨_, emitted s, m, ofSettings_eq s, ?_, hrun.iff_eq, ?_⟩
  · rw [String.toList_ofList, read_programLines]
  · rw [hwritten, houtput, List.append_right_inj, ← emittedOutput_eq_iff s, eq_comm]

/-- Quotes, backslashes, percent signs and digits after a control character are printed as they are; only
the label is cut off. -/
theorem emitted_text_prints_calculation_iff_nul :
    ∃ (s : Settings) (c' : Console), s.banner = "\"%d\\\x017" ∧ s.label = "12!\x00=" ∧
      Calculation.run s {} = .ok 479001600 c' ∧
      ∃ text p m, ofSettings s = .ok text ∧ C.read? text.toList = some p ∧ (∀ m', p.Runs [0x31] m' ↔ m' = m) ∧
        (c'.written = [] ++ m.output ↔ '\x00' ∉ s.banner.toList ∧ '\x00' ∉ s.label.toList) := by
  obtain ⟨c', h⟩ : ∃ c', Calculation.run { value := 12, banner := "\"%d\\\x017", label := "12!\x00=" } {} =
      .ok 479001600 c' := ⟨_, rfl⟩
  exact ⟨_, c', rfl, rfl, h, emitted_text_prints_calculation_iff _ _ _ _ h [0x31]⟩

end RecursiveFactorial.CSource
