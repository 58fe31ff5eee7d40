import RecursiveFactorial.Calculation

/-!
# Sessions on a writer with limited room

An action is compared with itself on a writer without a limit. As long as what it writes fits, the room makes no
difference. Once a write does not fit, the action fails there, has written as much as there is room for, and leaves a
writer with no room at all, on which nothing is written any more. The comparison is carried through sequencing, then
through the steps of a session, which goes on after a step that was refused.
-/
namespace RecursiveFactorial

namespace Writer

/-- There is room for all of `s`. -/
def Fits (w : Writer) (s : Octets) : Prop :=
  ∀ k, w.room = some k → s.length ≤ k

/-- The writer that says `text` when it has no room. -/
def refusing (w : Writer) (text : String) : Writer :=
  { w with refusal := some text }

section

variable {w : Writer} {s t : Octets}

@[simp] theorem after_nil : w.after [] = w := by
  obtain ⟨room, refusal, flushFault, past⟩ := w
  cases room <;> simp [after]

@[simp] theorem after_after : (w.after s).after t = w.after (s ++ t) := by
  obtain ⟨room, refusal, flushFault, past⟩ := w
  cases room <;> simp [after, Nat.sub_sub]

theorem fits_nil : w.Fits [] := by
  intro k _
  exact Nat.zero_le k

theorem fits_of_unlimited (hw : w.room = none) : w.Fits s := by
  intro k hk
  rw [hw] at hk
  cases hk

theorem Fits.accepted_eq (h : w.Fits s) : w.accepted s = s := by
  unfold accepted
  cases hr : w.room with
  | none => rfl
  | some k => exact List.take_of_length_le (h k hr)

theorem room_after_of_unlimited (hw : w.room = none) : (w.after s).room = none := by
  rw [after, hw]
  rfl

theorem room_of_not_fits (h : ¬ w.Fits s) : ∃ k, w.room = some k ∧ k < s.length := by
  simpa [Fits] using h

theorem length_accepted_eq_iff : (w.accepted s).length = s.length ↔ w.Fits s := by
  unfold accepted Fits
  cases w.room with
  | none => simp
  | some k =>
    simp only [List.length_take, Option.some.injEq, forall_eq']
    omega

instance Fits.decidable (w : Writer) (s : Octets) : Decidable (w.Fits s) :=
  decidable_of_iff _ length_accepted_eq_iff

theorem fits_append : w.Fits (s ++ t) ↔ w.Fits s ∧ (w.after s).Fits t := by
  obtain ⟨room, refusal, flushFault, past⟩ := w
  cases room with
  | none => simp [Fits, after]
  | some k =>
    simp only [Fits, after, Option.some.injEq, forall_eq', Option.map_some, List.length_append]
    omega

theorem Fits.accepted_append (h : w.Fits s) : w.accepted (s ++ t) = s ++ (w.after s).accepted t := by
  obtain ⟨room, refusal, flushFault, past⟩ := w
  cases room with
  | none => rfl
  | some k =>
    have hs : s.length ≤ k := h k rfl
    simp [accepted, after, List.take_append, List.take_of_length_le hs]

theorem accepted_append_of_not_fits (h : ¬ w.Fits s) : w.accepted (s ++ t) = w.accepted s := by
  obtain ⟨k, hroom, hlt⟩ := room_of_not_fits h
  simp [accepted, hroom, List.take_append_of_le_length (Nat.le_of_lt hlt)]

end

end Writer

namespace Console

/-- The same console with the room of another writer, and with what that one says when the room is used up. -/
def limitedBy (c : Console) (w : Writer) : Console :=
  { c with writer := { c.writer with room := w.room, refusal := w.refusal } }

/-- The console whose writer accepts this number of octets, or any number. -/
def withRoom (c : Console) (room : Option Nat) : Console :=
  c.limitedBy { c.writer with room }

end Console

namespace ConsoleM

open Console

variable {α β : Type}

/-- The console that is left, after an answer or a failure. -/
def left : EStateM.Result Failure Console α → Console
  | .ok _ c => c
  | .error _ c => c

/-- The same answer or failure, on the console that is limited in another way. -/
def limitedBy (w : Writer) : EStateM.Result Failure Console α → EStateM.Result Failure Console α
  | .ok a c => .ok a (c.limitedBy w)
  | .error e c => .error e (c.limitedBy w)

/-- What an action does on a writer without a limit decides what it does with any limit: if all that it writes fits,
the same; if not, it is refused when the room is used up. -/
structure Writes (x : ConsoleM α) (c : Console) (out : Octets) : Prop where
  written : (left (x c)).written = c.written ++ out
  room : (left (x c)).writer.room = none
  fits : ∀ w : Writer, w.Fits out → x (c.limitedBy w) = limitedBy (w.after out) (x c)
  refused : ∀ w : Writer, ¬ w.Fits out → ∃ d,
    x (c.limitedBy w) = .error (.device w.refusalText) d ∧ d.written = c.written ++ w.accepted out ∧
      d.writer.room = (w.after (w.accepted out)).room

/-- The room of a writer has no other effect on the action than to cut its output short. -/
def OnlyTruncates (x : ConsoleM α) : Prop :=
  ∀ c, c.writer.room = none → ∃ out, Writes x c out

/-- An action that neither writes nor looks at the room. -/
theorem OnlyTruncates.of_silent {x : ConsoleM α}
    (hx : ∀ c, (left (x c)).written = c.written ∧ (left (x c)).writer.room = c.writer.room ∧
      ∀ w : Writer, x (c.limitedBy w) = limitedBy w (x c)) : OnlyTruncates x := by
  intro c hc
  obtain ⟨hwritten, hroom, hsame⟩ := hx c
  refine ⟨[], by simpa using hwritten, hroom.trans hc, fun w _ => ?_, fun w h => absurd Writer.fits_nil h⟩
  rw [Writer.after_nil]
  exact hsame w

theorem OnlyTruncates.pure (a : α) : OnlyTruncates (pure a : ConsoleM α) :=
  .of_silent fun _ => ⟨rfl, rfl, fun _ => rfl⟩

theorem OnlyTruncates.throw (e : Failure) : OnlyTruncates (throw e : ConsoleM α) :=
  .of_silent fun _ => ⟨rfl, rfl, fun _ => rfl⟩

theorem bind_of_ok {x : ConsoleM α} {f : α → ConsoleM β} {c d : Console} {a : α} (h : x c = .ok a d) :
    (x >>= f) c = f a d := by
  change EStateM.bind x f c = _
  rw [EStateM.bind, h]

theorem bind_of_error {x : ConsoleM α} {f : α → ConsoleM β} {c d : Console} {e : Failure} (h : x c = .error e d) :
    (x >>= f) c = .error e d := by
  change EStateM.bind x f c = _
  rw [EStateM.bind, h]

/-- An action that fails without a limit does not come to what follows it. -/
theorem Writes.bind_error {x : ConsoleM α} {c d : Console} {e : Failure} {out : Octets} (hx : Writes x c out)
    (hfail : x c = .error e d) (f : α → ConsoleM β) : Writes (x >>= f) c out := by
  have hwritten := hx.written
  have hroom := hx.room
  have hfits := hx.fits
  rw [hfail] at hwritten hroom hfits
  refine ⟨?_, ?_, fun w hout => ?_, fun w hout => ?_⟩
  · rw [bind_of_error hfail]
    exact hwritten
  · rw [bind_of_error hfail]
    exact hroom
  · rw [bind_of_error hfail, bind_of_error (hfits w hout)]
    rfl
  · obtain ⟨d', hd', hrest⟩ := hx.refused w hout
    exact ⟨d', bind_of_error hd', hrest⟩

/-- Where the limit is met decides whether the first action or the second one is refused. -/
theorem Writes.bind_ok {x : ConsoleM α} {f : α → ConsoleM β} {c d : Console} {a : α} {out out' : Octets}
    (hx : Writes x c out) (hok : x c = .ok a d) (hf : Writes (f a) d out') : Writes (x >>= f) c (out ++ out') := by
  have hwritten := hx.written
  have hfits := hx.fits
  rw [hok] at hwritten hfits
  simp only [left] at hwritten
  refine ⟨?_, ?_, fun w hout => ?_, fun w hout => ?_⟩
  · rw [bind_of_ok hok, hf.written, hwritten, List.append_assoc]
  · rw [bind_of_ok hok, hf.room]
  · obtain ⟨hfirst, hsecond⟩ := Writer.fits_append.mp hout
    have hlater := hf.fits (w.after out) hsecond
    rw [bind_of_ok (hfits w hfirst), bind_of_ok hok, hlater, Writer.after_after]
  · by_cases hfirst : w.Fits out
    · have hsecond : ¬ (w.after out).Fits out' := fun h => hout (Writer.fits_append.mpr ⟨hfirst, h⟩)
      obtain ⟨d', hd', hd'written, hd'room⟩ := hf.refused (w.after out) hsecond
      refine ⟨d', ?_, ?_, ?_⟩
      · rw [bind_of_ok (hfits w hfirst)]
        exact hd'
      · rw [hd'written, hwritten, hfirst.accepted_append, List.append_assoc]
      · rw [hd'room, hfirst.accepted_append, Writer.after_after]
    · obtain ⟨d', hd', hrest⟩ := hx.refused w hfirst
      rw [← Writer.accepted_append_of_not_fits (t := out') hfirst] at hrest
      exact ⟨d', bind_of_error hd', hrest⟩

theorem OnlyTruncates.bind {x : ConsoleM α} {f : α → ConsoleM β} (hx : OnlyTruncates x)
    (hf : ∀ a, OnlyTruncates (f a)) : OnlyTruncates (x >>= f) := by
  intro c hc
  obtain ⟨out, hout⟩ := hx c hc
  cases hxc : x c with
  | error e d => exact ⟨out, hout.bind_error hxc f⟩
  | ok a d =>
    have hroom := hout.room
    rw [hxc] at hroom
    obtain ⟨out', hout'⟩ := hf a d hroom
    exact ⟨out ++ out', hout.bind_ok hxc hout'⟩

end ConsoleM

namespace Console

open ConsoleM

theorem write_of_fits {s : Octets} {c : Console} (h : c.writer.Fits s) :
    write s c = .ok () { c with written := c.written ++ s, writer := c.writer.after s } := by
  simp [write, h.accepted_eq]

theorem write_of_not_fits {s : Octets} {c : Console} (h : ¬ c.writer.Fits s) :
    write s c = .error (.device c.writer.refusalText)
      { c with written := c.written ++ c.writer.accepted s, writer := c.writer.after (c.writer.accepted s) } := by
  have hlength : (c.writer.accepted s).length ≠ s.length := fun h' => h (Writer.length_accepted_eq_iff.mp h')
  simp [write, hlength]

theorem write_truncates (s : Octets) : OnlyTruncates (write s) := by
  intro c hc
  have hwrite := write_of_fits (c := c) (Writer.fits_of_unlimited (s := s) hc)
  refine ⟨s, ?_, ?_, fun w hw => ?_, fun w hw => ?_⟩
  · rw [hwrite]
    rfl
  · rw [hwrite]
    exact Writer.room_after_of_unlimited hc
  · have hlimited : (c.limitedBy w).writer.Fits s := hw
    rw [hwrite, write_of_fits hlimited]
    rfl
  · have hlimited : ¬ (c.limitedBy w).writer.Fits s := hw
    exact ⟨_, write_of_not_fits hlimited, rfl, rfl⟩

theorem flush_truncates : OnlyTruncates flush := by
  refine .of_silent fun c => ?_
  simp only [flush, Console.limitedBy]
  cases c.writer.flushFault c.writer.past with
  | none => exact ⟨rfl, rfl, fun _ => rfl⟩
  | some text => exact ⟨rfl, rfl, fun _ => rfl⟩

theorem notify_truncates (n : Notice) : OnlyTruncates (notify n) :=
  .of_silent fun _ => ⟨rfl, rfl, fun _ => rfl⟩

theorem takeLine_truncates (limit : Nat) : OnlyTruncates (takeLine limit) := by
  refine .of_silent fun c => ?_
  simp only [takeLine, Console.limitedBy]
  cases (readLine limit c.events).outcome with
  | ok line => exact ⟨rfl, rfl, fun _ => rfl⟩
  | error text => exact ⟨rfl, rfl, fun _ => rfl⟩

theorem writePrompt_truncates (prompt : Option String) : OnlyTruncates (writePrompt prompt) := by
  cases prompt with
  | none => exact .pure ()
  | some text => exact (write_truncates _).bind fun _ => flush_truncates

theorem askText_truncates (prompt : Option String) : OnlyTruncates (askText prompt) := by
  refine (writePrompt_truncates prompt).bind fun _ => (takeLine_truncates _).bind fun line => ?_
  cases line with
  | none => exact (notify_truncates _).bind fun _ => .pure none
  | some line => exact .pure _

theorem askNumber_truncates (prompt : Option String) : OnlyTruncates (askNumber prompt) := by
  refine (askText_truncates prompt).bind fun text => ?_
  cases text with
  | none => exact .pure 0
  | some text => exact (notify_truncates _).bind fun _ => .pure _

end Console

namespace Calculation

open Console ConsoleM

theorem evaluate_truncates (mode : Mode) (n : Int32) : OnlyTruncates (evaluate mode n) := by
  unfold evaluate
  cases mode.eval n with
  | error cause => exact .throw _
  | ok result => exact (notify_truncates _).bind fun _ => .pure result

theorem run_truncates (s : Settings) : OnlyTruncates (run s) :=
  (notify_truncates _).bind fun _ => (write_truncates _).bind fun _ => (evaluate_truncates _ _).bind fun _ =>
    (write_truncates _).bind fun _ => flush_truncates.bind fun _ => .pure _

theorem ask_truncates (s : Settings) : OnlyTruncates (ask s) :=
  (askNumber_truncates _).bind fun _ => run_truncates _

end Calculation

namespace Session

open Console ConsoleM

theorem action_truncates (step : Step) : OnlyTruncates step.action := by
  cases step with
  | askText prompt => exact (askText_truncates prompt).bind fun _ => .pure _
  | askNumber prompt => exact (askNumber_truncates prompt).bind fun _ => .pure _
  | run settings => exact (Calculation.run_truncates settings).bind fun _ => .pure _
  | ask settings => exact (Calculation.ask_truncates settings).bind fun _ => .pure _

/-- What a result is reported as. -/
def report : EStateM.Result Failure Console Answer → Report
  | .ok a c => ⟨.ok a, c.written, c.consumed⟩
  | .error e c => ⟨.error e, c.written, c.consumed⟩

theorem perform_eq (step : Step) (c : Console) :
    perform step c = (report (step.action { c with written := [] }), left (step.action { c with written := [] })) := by
  unfold perform
  cases step.action { c with written := [] } with
  | ok a c' => rfl
  | error e c' => rfl

theorem perform_limitedBy (step : Step) (c : Console) (w : Writer) :
    perform step (c.limitedBy w) =
      (report (step.action (Console.limitedBy { c with written := [] } w)),
        left (step.action (Console.limitedBy { c with written := [] } w))) :=
  perform_eq step (c.limitedBy w)

section

variable (step : Step) {c : Console} (hc : c.writer.room = none)
include hc

theorem writes_perform : Writes step.action { c with written := [] } (perform step c).1.written := by
  obtain ⟨out, hout⟩ := action_truncates step { c with written := [] } hc
  have hwritten : (perform step c).1.written = out := by
    have h := hout.written
    rw [perform_eq]
    cases hr : step.action { c with written := [] } with
    | ok a d => simpa [hr, left, report] using h
    | error e d => simpa [hr, left, report] using h
  rw [hwritten]
  exact hout

theorem room_perform : (perform step c).2.writer.room = none := by
  rw [perform_eq]
  exact (writes_perform step hc).room

variable {w : Writer}

/-- A step whose output fits is reported as without a limit, and leaves less room. -/
theorem perform_fits (hfits : w.Fits (perform step c).1.written) :
    perform step (c.limitedBy w) =
      ((perform step c).1, (perform step c).2.limitedBy (w.after (perform step c).1.written)) := by
  have h := (writes_perform step hc).fits w hfits
  rw [perform_limitedBy, h, perform_eq step c]
  cases step.action { c with written := [] } with
  | ok a d => rfl
  | error e d => rfl

/-- A step whose output does not fit fails, and has used up the room. -/
theorem perform_refused (hfits : ¬ w.Fits (perform step c).1.written) :
    (perform step (c.limitedBy w)).1.answer = .error (.device w.refusalText) ∧
      (perform step (c.limitedBy w)).1.written = w.accepted (perform step c).1.written ∧
      (perform step (c.limitedBy w)).2.writer.room = (w.after (w.accepted (perform step c).1.written)).room := by
  obtain ⟨d, hd, hwritten, hroom⟩ := (writes_perform step hc).refused w hfits
  rw [perform_limitedBy, hd]
  exact ⟨rfl, hwritten, hroom⟩

end

/-- All octets that the steps of a session have written. -/
def output (reports : List Report) : Octets :=
  reports.flatMap Report.written

theorem performAll_cons (step : Step) (steps : List Step) (c : Console) :
    (performAll (step :: steps) c).1 = (perform step c).1 :: (performAll steps (perform step c).2).1 := rfl

/-- Nothing is written once the room is used up. -/
theorem output_exhausted (steps : List Step) {c : Console} (hc : c.writer.room = some 0) :
    output (performAll steps c).1 = [] := by
  induction steps generalizing c with
  | nil => rfl
  | cons step steps ih =>
    have hstep : (perform step c).1.written = [] ∧ (perform step c).2.writer.room = some 0 := by
      let free := c.withRoom none
      have hfree : free.writer.room = none := rfl
      have hback : c = free.limitedBy c.writer := rfl
      by_cases hfits : c.writer.Fits (perform step free).1.written
      · have hempty : (perform step free).1.written = [] := by
          simpa using hfits 0 hc
        rw [hback, perform_fits step hfree hfits, hempty, Writer.after_nil]
        exact ⟨rfl, hc⟩
      · obtain ⟨-, hwritten, hroom⟩ := perform_refused step hfree hfits
        rw [hback, hwritten, hroom]
        simp [Writer.accepted, Writer.after, hc]
    have hrest := ih hstep.2
    rw [performAll_cons]
    simp only [output, List.flatMap_cons, hstep.1, List.nil_append] at hrest ⊢
    exact hrest

/-- The room cuts the output of a session short, and does nothing else to it. -/
theorem output_performAll (steps : List Step) {c : Console} (hc : c.writer.room = none) (w : Writer) :
    output (performAll steps (c.limitedBy w)).1 = w.accepted (output (performAll steps c).1) := by
  induction steps generalizing c w with
  | nil => cases hr : w.room <;> simp [output, performAll, Writer.accepted, hr]
  | cons step steps ih =>
    rw [performAll_cons, performAll_cons]
    simp only [output, List.flatMap_cons] at ih ⊢
    by_cases hfits : w.Fits (perform step c).1.written
    · have hrest := ih (room_perform step hc) (w.after (perform step c).1.written)
      rw [perform_fits step hc hfits, hfits.accepted_append, hrest]
    · obtain ⟨-, hwritten, hroom⟩ := perform_refused step hc hfits
      obtain ⟨k, hk, hlt⟩ := Writer.room_of_not_fits hfits
      have hnone : (perform step (c.limitedBy w)).2.writer.room = some 0 := by
        rw [hroom]
        simp [Writer.after, Writer.accepted, hk, Nat.le_of_lt hlt]
      have hrest := output_exhausted steps hnone
      simp only [output] at hrest
      rw [hwritten, hrest, List.append_nil, Writer.accepted_append_of_not_fits hfits]

/-- A write of the step fails: the step fails with what the writer says when it has no room, whatever that is. -/
def Refused (step : Step) (c : Console) : Prop :=
  ∀ text, (perform step (c.limitedBy (c.writer.refusing text))).1.answer = .error (.device text)

/-- No step of the session has a write that fails. -/
def Unrefused : List Step → Console → Prop
  | [], _ => True
  | step :: steps, c => ¬ Refused step c ∧ Unrefused steps (perform step c).2

theorem refused_iff (step : Step) {c : Console} (hc : c.writer.room = none) (w : Writer) :
    Refused step (c.limitedBy w) ↔ ¬ w.Fits (perform step c).1.written := by
  constructor
  · -- What is no refusal does not depend on the text of a refusal.
    intro hrefused hfits
    have hanswer (text : String) : (perform step c).1.answer = .error (.device text) := by
      have h : (perform step (c.limitedBy (w.refusing text))).1.answer = .error (.device text) := hrefused text
      rwa [perform_fits (w := w.refusing text) step hc hfits] at h
    have htexts := (hanswer "").symm.trans (hanswer "no")
    simp at htexts
  · intro hfits text
    exact (perform_refused (w := w.refusing text) step hc hfits).1

/-- No write fails exactly if the whole output fits. -/
theorem unrefused_iff (steps : List Step) {c : Console} (hc : c.writer.room = none) (w : Writer) :
    Unrefused steps (c.limitedBy w) ↔ w.Fits (output (performAll steps c).1) := by
  induction steps generalizing c w with
  | nil => simp [Unrefused, output, performAll, Writer.fits_nil]
  | cons step steps ih =>
    rw [Unrefused, refused_iff step hc w, Classical.not_not, performAll_cons]
    simp only [output, List.flatMap_cons, Writer.fits_append] at ih ⊢
    refine and_congr_right fun hfits => ?_
    rw [perform_fits step hc hfits]
    exact ih (room_perform step hc) _

/-- Steps whose output fits are reported as without a limit. -/
theorem performAll_take (steps : List Step) (k : Nat) {c : Console} (hc : c.writer.room = none) {w : Writer}
    (hfits : w.Fits (output (performAll (steps.take k) c).1)) :
    (performAll steps (c.limitedBy w)).1.take k = (performAll steps c).1.take k := by
  induction steps generalizing c w k with
  | nil => rfl
  | cons step steps ih =>
    cases k with
    | zero => rfl
    | succ k =>
      rw [List.take_succ_cons, performAll_cons] at hfits
      simp only [output, List.flatMap_cons, Writer.fits_append] at ih hfits
      have hrest := ih k (room_perform step hc) hfits.2
      rw [performAll_cons, performAll_cons, perform_fits step hc hfits.1, List.take_succ_cons, List.take_succ_cons,
        hrest]

/-- On a writer that accepts `limit` octets, a session writes the first `limit` octets of what it writes without a
limit. As long as no write fails, which is as long as the output fits, the steps are reported alike. -/
theorem limit_only_truncates (steps : List Step) (c : Console) (limit : Nat) :
    output (performAll steps (c.withRoom (some limit))).1 =
        (output (performAll steps (c.withRoom none)).1).take limit ∧
      ∀ k, (Unrefused (steps.take k) (c.withRoom (some limit)) →
          (performAll steps (c.withRoom (some limit))).1.take k = (performAll steps (c.withRoom none)).1.take k) ∧
        (Unrefused (steps.take k) (c.withRoom (some limit)) ↔
          (output (performAll (steps.take k) (c.withRoom none)).1).length ≤ limit) := by
  have hfree : (c.withRoom none).writer.room = none := rfl
  let w : Writer := { c.writer with room := some limit }
  refine ⟨output_performAll steps hfree w, fun k => ⟨fun h => ?_, ?_⟩⟩
  · exact performAll_take steps k hfree ((unrefused_iff _ hfree w).mp h)
  · refine (unrefused_iff (steps.take k) hfree w).trans ?_
    simp [Writer.Fits, w]

end Session

end RecursiveFactorial
