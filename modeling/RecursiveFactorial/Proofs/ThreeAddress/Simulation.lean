import RecursiveFactorial.Proofs.Calculation
import RecursiveFactorial.Proofs.Recursion
import RecursiveFactorial.Proofs.ThreeAddress.Machine

/-!
# Three-address code prints what the calculation prints

The function is followed through one activation: it returns at once for zero and one, and otherwise calls itself on
the number before. The induction is on the argument, over any frame that waits for the result and any
stack below it, so the recursion may go as deep as the argument is large.
-/
namespace RecursiveFactorial.ThreeAddress

open Evaluation (wrappingRecursion ofNat_ne_of_lt)

def factorialFrame (n : Int32) : Frame :=
  ⟨factorialBody, factorialBody, setVariable (fun _ => none) paramName n, fun _ => 0⟩

/-- The activation on an argument above one, while it waits for the factorial of the number before. -/
def waitingFrame (n : Int32) : Frame :=
  { factorialFrame n with
    rest := factorialBody.drop 9
    temps := setTemp (setTemp (setTemp (setTemp (fun _ => 0) 0 0) 1 0) 2 0) 3 (n - 1) }

section

variable (p : Program) (callers : List Caller) (globals : Variables) (written : Octets)

theorem run_base (n : Int32) (hn : n = 0 ∨ n = 1) (frame : Frame) (t : Nat) :
    run p 5 ⟨factorialFrame n, ⟨frame, some t⟩ :: callers, globals, written⟩ =
      some ⟨{ frame with temps := setTemp frame.temps t 1 }, callers, globals, written⟩ := by
  obtain rfl | rfl := hn
  · rfl
  · rfl

/-- Neither test holds, so the jump skips the early return. -/
theorem run_to_call (hp : p.function? functionName = some factorialFunction) (n : Int32)
    (h₀ : n ≠ 0) (h₁ : n ≠ 1) :
    run p 6 ⟨factorialFrame n, callers, globals, written⟩ =
      some ⟨factorialFrame (n - 1), ⟨waitingFrame n, some 4⟩ :: callers, globals, written⟩ := by
  have htests : run p 2 ⟨factorialFrame n, callers, globals, written⟩ =
      some ⟨{ factorialFrame n with
        rest := factorialBody.drop 2
        temps := setTemp (setTemp (fun _ => 0) 0 (if n = 0 then 1 else 0)) 1 (if n = 1 then 1 else 0) },
        callers, globals, written⟩ := rfl
  have hargument : run p 3 ⟨{ factorialFrame n with
        rest := factorialBody.drop 2
        temps := setTemp (setTemp (fun _ => 0) 0 0) 1 0 }, callers, globals, written⟩ =
      some ⟨{ waitingFrame n with rest := factorialBody.drop 8 }, callers, globals, written⟩ := rfl
  have hcall : run p 1 ⟨{ waitingFrame n with rest := factorialBody.drop 8 }, callers, globals, written⟩ =
      some ⟨factorialFrame (n - 1), ⟨waitingFrame n, some 4⟩ :: callers, globals, written⟩ := by
    change ((p.function? functionName).bind _).bind _ = _
    rw [hp]
    rfl
  rw [if_neg h₀, if_neg h₁] at htests
  rw [run_add p 2 4, htests, Option.bind_some, run_add p 3 1, hargument, Option.bind_some, hcall]

theorem run_after_call (n r : Int32) (frame : Frame) (t : Nat) :
    run p 2 ⟨{ waitingFrame n with temps := setTemp (waitingFrame n).temps 4 r },
        ⟨frame, some t⟩ :: callers, globals, written⟩ =
      some ⟨{ frame with temps := setTemp frame.temps t (n * r) }, callers, globals, written⟩ :=
  rfl

end

/-- A call of the function leaves the frame that made it with the factorial in its temporary. -/
theorem factorial_reaches (p : Program) (hp : p.function? functionName = some factorialFunction)
    (globals : Variables) (written : Octets) (k : Nat) (hk : k < 2147483648)
    (frame : Frame) (t : Nat) (callers : List Caller) :
    Reaches p ⟨factorialFrame (Int32.ofNat k), ⟨frame, some t⟩ :: callers, globals, written⟩
      ⟨{ frame with temps := setTemp frame.temps t (wrappingRecursion k) }, callers, globals, written⟩ := by
  fun_induction wrappingRecursion k generalizing frame t callers with
  | case1 => exact ⟨5, run_base p callers globals written _ (.inl rfl) frame t⟩
  | case2 => exact ⟨5, run_base p callers globals written _ (.inr rfl) frame t⟩
  | case3 k ih =>
    have hcall := run_to_call p (⟨frame, some t⟩ :: callers) globals written hp (Int32.ofNat (k + 2))
      (ofNat_ne_of_lt (n := 0) hk (by decide) (by omega)) (ofNat_ne_of_lt (n := 1) hk (by decide) (by omega))
    have hpred : Int32.ofNat (k + 2) - 1 = Int32.ofNat (k + 1) :=
      (Int32.ofNat_sub (k + 2) 1 (by omega)).symm
    rw [hpred] at hcall
    have hinner := ih (by omega) (waitingFrame (Int32.ofNat (k + 2))) 4 (⟨frame, some t⟩ :: callers)
    have hreturn := run_after_call p callers globals written (Int32.ofNat (k + 2)) (wrappingRecursion (k + 1)) frame t
    exact Reaches.trans ⟨6, hcall⟩ (Reaches.trans hinner ⟨2, hreturn⟩)

/-- The arguments of the print calls of a body, in their order. -/
def printedArgs (body : List Instr) : List (List Operand) :=
  body.filterMap fun
    | .call name args _ => if name = printName then some args else none
    | _ => none

/-- The main frame when only the instructions from number `i` on are left. -/
def mainFrame (s : Settings) (i : Nat) (temps : Nat → Int32) : Frame :=
  ⟨mainBody s, (mainBody s).drop i, fun _ => none, temps⟩

def assignedGlobals (s : Settings) : Variables :=
  setVariable (fun name => if name ∈ [globalName] then some 0 else none) globalName s.value

theorem run_main_to_call (s : Settings) :
    run (Program.ofSettings s) 3 (Program.ofSettings s).start =
      some ⟨factorialFrame s.value, [⟨mainFrame s 3 fun _ => 0, some 7⟩], assignedGlobals s,
        Calculation.bannerLine s⟩ := by
  have hline :
      [] ++ [' '.toUInt8].intercalate [Utf8.encode s.banner] ++ ['\n'.toUInt8] = Calculation.bannerLine s := by
    simp [Calculation.bannerLine]
    rfl
  rw [← hline]
  rfl

theorem run_main_after_call (s : Settings) (v : Int32) :
    run (Program.ofSettings s) 1 ⟨mainFrame s 3 (setTemp (fun _ => 0) 7 v), [], assignedGlobals s,
        Calculation.bannerLine s⟩ =
      some ⟨mainFrame s 4 (setTemp (fun _ => 0) 7 v), [], assignedGlobals s,
        Calculation.bannerLine s ++ Calculation.resultLine s v⟩ := by
  have hline : Calculation.resultLine s v =
      [' '.toUInt8].intercalate [Utf8.encode s.label, Utf8.encode (Number.decimal v.toInt)] ++ ['\n'.toUInt8] := by
    simp [Calculation.resultLine, List.intercalate]
    rfl
  rw [hline, ← List.append_assoc]
  rfl

/-- Whatever the settings, a calculation that succeeds has a program that comes to its end with the same
result in the temporary of its second print, and with the same octets written. -/
theorem program_prints_calculation (s : Settings) (v : Int32) (c c' : Console)
    (h : Calculation.run s c = .ok v c') :
    ∃ n t, run (Program.ofSettings s) n (Program.ofSettings s).start = some t ∧ t.Ended ∧
      (∃ r, (printedArgs (Program.ofSettings s).main)[1]? = some [.str s.label, .temp r] ∧ t.frame.temps r = v) ∧
      c'.written = c.written ++ t.written := by
  obtain ⟨heval, hwritten⟩ := Calculation.run_eq_ok h
  obtain ⟨k, hk, hvalue, rfl⟩ := Evaluation.eval_eq_ok heval
  have hcall := run_main_to_call s
  rw [hvalue] at hcall
  have hreach := (Reaches.trans ⟨3, hcall⟩
    (factorial_reaches (Program.ofSettings s) rfl _ _ k hk _ 7 [])).trans
    ⟨1, run_main_after_call s (wrappingRecursion k)⟩
  obtain ⟨n, hn⟩ := hreach
  exact ⟨n, _, hn, ⟨rfl, rfl⟩, ⟨7, rfl, rfl⟩, hwritten⟩

/-- Past the shortcut to zero, the program still multiplies all the way down. -/
theorem program_prints_calculation_forty :
    ∃ (s : Settings) (c' : Console), s.value = 40 ∧ s.banner = "40!\x00%s" ∧ Calculation.run s {} = .ok 0 c' ∧
      ∃ n t, run (Program.ofSettings s) n (Program.ofSettings s).start = some t ∧ t.Ended ∧
        (∃ r, (printedArgs (Program.ofSettings s).main)[1]? = some [.str s.label, .temp r] ∧ t.frame.temps r = 0) ∧
        c'.written = [] ++ t.written := by
  obtain ⟨c', h⟩ : ∃ c', Calculation.run { value := 40, banner := "40!\x00%s", mode := .wrapping } {} = .ok 0 c' :=
    ⟨_, rfl⟩
  exact ⟨_, c', rfl, rfl, h, program_prints_calculation _ _ _ _ h⟩

end RecursiveFactorial.ThreeAddress
