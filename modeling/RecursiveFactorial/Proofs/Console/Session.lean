import RecursiveFactorial.Calculation
import RecursiveFactorial.Proofs.Console.Marks

/-!
# Sessions on inputs with the same marks

Two consoles whose inputs have the same marks, and which agree in all else, cannot be told apart by an action. The
relation is carried through each primitive action and through sequencing, and from there through
every step of a session and every list of steps.
-/
namespace RecursiveFactorial

namespace ConsoleM

variable {α β : Type} {R : Console → Console → Prop}

/-- The same answer or the same failure, on related consoles. -/
def Agree (R : Console → Console → Prop) :
    EStateM.Result Failure Console α → EStateM.Result Failure Console α → Prop
  | .ok a c, .ok b d => a = b ∧ R c d
  | .error e c, .error f d => e = f ∧ R c d
  | _, _ => False

/-- An action that does not tell related consoles apart. -/
def Respects (R : Console → Console → Prop) (x : ConsoleM α) : Prop :=
  ∀ c d, R c d → Agree R (x c) (x d)

theorem Respects.pure (a : α) : Respects R (pure a : ConsoleM α) := by
  intro c d h
  exact ⟨rfl, h⟩

theorem Respects.bind {x : ConsoleM α} {f : α → ConsoleM β} (hx : Respects R x)
    (hf : ∀ a, Respects R (f a)) : Respects R (x >>= f) := by
  intro c d h
  have hxcd := hx c d h
  change Agree R (EStateM.bind x f c) (EStateM.bind x f d)
  unfold EStateM.bind
  cases hc : x c with
  | ok a c₁ =>
    cases hd : x d with
    | ok b d₁ =>
      rw [hc, hd] at hxcd
      obtain ⟨rfl, hr⟩ := hxcd
      exact hf a c₁ d₁ hr
    | error e d₁ =>
      rw [hc, hd] at hxcd
      exact hxcd.elim
  | error e c₁ =>
    cases hd : x d with
    | ok b d₁ =>
      rw [hc, hd] at hxcd
      exact hxcd.elim
    | error f d₁ =>
      rw [hc, hd] at hxcd
      exact hxcd

end ConsoleM

namespace Console

open ConsoleM

/-- Consoles that differ at most in how their inputs are cut and interrupted. -/
def SameMarks (c d : Console) : Prop :=
  ∃ events, d = { c with events } ∧ marks c.events = marks events

theorem write_respects (s : Octets) : Respects SameMarks (write s) := by
  rintro c d ⟨events, rfl, h⟩
  simp only [write]
  split
  · exact ⟨rfl, events, rfl, h⟩
  · exact ⟨rfl, events, rfl, h⟩

theorem flush_respects : Respects SameMarks flush := by
  rintro c d ⟨events, rfl, h⟩
  simp only [flush]
  cases c.writer.flushFault c.writer.past with
  | none => exact ⟨rfl, events, rfl, h⟩
  | some text => exact ⟨rfl, events, rfl, h⟩

theorem notify_respects (n : Notice) : Respects SameMarks (notify n) := by
  rintro c d ⟨events, rfl, h⟩
  exact ⟨rfl, events, rfl, h⟩

theorem takeLine_respects (limit : Nat) : Respects SameMarks (takeLine limit) := by
  rintro c d ⟨events, rfl, h⟩
  have hread : (readLine limit c.events).marks = (readLine limit events).marks := by
    rw [readLine_marks, readLine_marks, h]
  have houtcome := congrArg MarkRead.outcome hread
  have hconsumed := congrArg MarkRead.consumed hread
  have hrest := congrArg MarkRead.rest hread
  simp only [LineRead.marks] at houtcome hconsumed hrest
  simp only [takeLine, houtcome, hconsumed]
  cases (readLine limit events).outcome with
  | ok line => exact ⟨rfl, _, rfl, hrest⟩
  | error text => exact ⟨rfl, _, rfl, hrest⟩

theorem writePrompt_respects (prompt : Option String) : Respects SameMarks (writePrompt prompt) := by
  cases prompt with
  | none => exact .pure ()
  | some text => exact (write_respects _).bind fun _ => flush_respects

theorem askText_respects (prompt : Option String) : Respects SameMarks (askText prompt) := by
  refine (writePrompt_respects prompt).bind fun _ => (takeLine_respects _).bind fun line => ?_
  cases line with
  | none => exact (notify_respects _).bind fun _ => .pure none
  | some line => exact .pure _

theorem askNumber_respects (prompt : Option String) : Respects SameMarks (askNumber prompt) := by
  refine (askText_respects prompt).bind fun text => ?_
  cases text with
  | none => exact .pure 0
  | some text => exact (notify_respects _).bind fun _ => .pure _

end Console

namespace Calculation

open Console ConsoleM

theorem evaluate_respects (mode : Mode) (n : Int32) : Respects SameMarks (evaluate mode n) := by
  unfold evaluate
  cases mode.eval n with
  | error cause =>
    intro c d h
    exact ⟨rfl, h⟩
  | ok result => exact (notify_respects _).bind fun _ => .pure result

theorem run_respects (s : Settings) : Respects SameMarks (run s) :=
  (notify_respects _).bind fun _ => (write_respects _).bind fun _ => (evaluate_respects _ _).bind fun _ =>
    (write_respects _).bind fun _ => flush_respects.bind fun _ => .pure _

theorem ask_respects (s : Settings) : Respects SameMarks (ask s) :=
  (askNumber_respects _).bind fun _ => run_respects _

end Calculation

namespace Session

open Console ConsoleM

theorem action_respects (step : Step) : Respects SameMarks step.action := by
  cases step with
  | askText prompt => exact (askText_respects prompt).bind fun _ => .pure _
  | askNumber prompt => exact (askNumber_respects prompt).bind fun _ => .pure _
  | run settings => exact (Calculation.run_respects settings).bind fun _ => .pure _
  | ask settings => exact (Calculation.ask_respects settings).bind fun _ => .pure _

/-- One step gives the same report and leaves consoles with the same marks. -/
theorem perform_sameMarks (step : Step) {c d : Console} (h : SameMarks c d) :
    (perform step c).1 = (perform step d).1 ∧ SameMarks (perform step c).2 (perform step d).2 := by
  obtain ⟨events, rfl, h⟩ := h
  have hstep := action_respects step { c with written := [] } { c with events, written := [] } ⟨events, rfl, h⟩
  unfold perform
  cases hc : step.action { c with written := [] } with
  | ok a c' =>
    cases hd : step.action { c with events, written := [] } with
    | ok b d' =>
      rw [hc, hd] at hstep
      obtain ⟨rfl, rest, rfl, hrest⟩ := hstep
      exact ⟨rfl, rest, rfl, hrest⟩
    | error e d' =>
      rw [hc, hd] at hstep
      exact hstep.elim
  | error e c' =>
    cases hd : step.action { c with events, written := [] } with
    | ok b d' =>
      rw [hc, hd] at hstep
      exact hstep.elim
    | error f d' =>
      rw [hc, hd] at hstep
      obtain ⟨rfl, rest, rfl, hrest⟩ := hstep
      exact ⟨rfl, rest, rfl, hrest⟩

theorem performAll_sameMarks (steps : List Step) {c d : Console} (h : SameMarks c d) :
    (performAll steps c).1 = (performAll steps d).1 ∧
      SameMarks (performAll steps c).2 (performAll steps d).2 := by
  induction steps generalizing c d with
  | nil => exact ⟨rfl, h⟩
  | cons step steps ih =>
    obtain ⟨hreport, hsame⟩ := perform_sameMarks step h
    obtain ⟨hreports, hrest⟩ := ih hsame
    simp only [performAll]
    exact ⟨by rw [hreport, hreports], hrest⟩

/-- Every step of a session answers or fails alike, writes the same octets and has consumed as many octets, on any
two inputs that differ only in their cuts and interruptions, whatever room the writer has and whatever each flush comes
to. -/
theorem reports_ignore_cuts (steps : List Step) (c : Console) (events events' : List Event)
    (h : SameInput events events') :
    (performAll steps { c with events }).1 = (performAll steps { c with events := events' }).1 :=
  (performAll_sameMarks steps ⟨events', rfl, sameInput_iff.mp h⟩).1

/-- A newline at the edge of a chunk, interruptions, a failure in the middle of a line and an end that is seen once, on
a writer that soon has no room and on which only every other flush works. -/
theorem reports_ignore_cuts_twelve :
    let events : List Event :=
      [.chunk [0x31], .interrupted, .chunk [0x32, 0x0a, 0x33], .failure "gone", .chunk [], .chunk [0x34]]
    let events' : List Event :=
      [.interrupted, .chunk [0x31, 0x32, 0x0a], .chunk [0x33], .failure "gone", .chunk [], .chunk [0x34]]
    let writer : Writer :=
      { room := some 9, flushFault := fun past => if past.flushes.length % 2 = 0 then none else some "stuck" }
    let steps : List Step := [.askNumber (some "n"), .askText none, .askText (some ""), .ask {}, .askText none]
    SameInput events events' ∧
      (performAll steps { events, writer }).1 = (performAll steps { events := events', writer }).1 := by
  intro events events' writer steps
  have h : SameInput events events' := sameInput_iff.mpr (by decide)
  exact ⟨h, reports_ignore_cuts steps { writer } events events' h⟩

end Session

end RecursiveFactorial
