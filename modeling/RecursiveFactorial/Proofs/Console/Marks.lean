import Mathlib.Logic.Relation
import RecursiveFactorial.Console.Line

/-!
# What an input holds, whatever its chunks

Seen from a reader, an input is a sequence of octets, of ends of input that are seen once, and of failures. How the
octets are cut into chunks, and where reading is interrupted, is not part of it. A line read is
described on that sequence one mark at a time, and the line read on chunks agrees with it.
-/
namespace RecursiveFactorial.Console

inductive Mark where
  | octet (b : UInt8)
  /-- An end of input that is seen once. -/
  | pause
  | failure (text : String)
  deriving DecidableEq, Repr

def Event.marks : Event → List Mark
  | .chunk [] => [.pause]
  | .chunk (b :: bs) => .octet b :: bs.map .octet
  | .interrupted => []
  | .failure text => [.failure text]

/-- The marks of an input. -/
def marks (events : List Event) : List Mark :=
  events.flatMap Event.marks

@[simp] theorem marks_nil : marks [] = [] := rfl
@[simp] theorem marks_cons (event : Event) (events : List Event) :
    marks (event :: events) = event.marks ++ marks events := rfl
@[simp] theorem marks_append (events events' : List Event) :
    marks (events ++ events') = marks events ++ marks events' := by simp [marks]

theorem marks_chunk {octets : Octets} (h : octets ≠ []) (events : List Event) :
    marks (.chunk octets :: events) = octets.map .octet ++ marks events := by
  cases octets with
  | nil => exact absurd rfl h
  | cons b bs => rfl

@[simp] theorem marks_putBack (octets : Octets) (events : List Event) :
    marks (putBack octets events) = octets.map .octet ++ marks events := by
  unfold putBack
  split
  · rename_i h
    rw [h, List.map_nil, List.nil_append]
  · rename_i h
    exact marks_chunk h events

/-- One change to an input that a reader cannot see: an interruption is taken out, or a chunk is cut in
two chunks with octets. -/
inductive Recut : List Event → List Event → Prop where
  | resume (before after : List Event) : Recut (before ++ .interrupted :: after) (before ++ after)
  | cut (before after : List Event) (a b : Octets) (ha : a ≠ []) (hb : b ≠ []) :
    Recut (before ++ .chunk (a ++ b) :: after) (before ++ .chunk a :: .chunk b :: after)

/-- Inputs that such changes, made or undone any number of times, lead from one to the other. -/
abbrev SameInput : List Event → List Event → Prop :=
  Relation.EqvGen Recut

theorem Recut.marks_eq {events events' : List Event} (h : Recut events events') : marks events = marks events' := by
  cases h with
  | resume before after => simp [Event.marks]
  | cut before after a b ha hb =>
    have hab : a ++ b ≠ [] := by simp [ha]
    simp [marks_chunk, ha, hb, hab, -marks_cons]

theorem Recut.cons (event : Event) {events events' : List Event} (h : Recut events events') :
    Recut (event :: events) (event :: events') := by
  cases h with
  | resume before after => exact .resume (event :: before) after
  | cut before after a b ha hb => exact .cut (event :: before) after a b ha hb

theorem SameInput.cons (event : Event) {events events' : List Event} (h : SameInput events events') :
    SameInput (event :: events) (event :: events') := by
  induction h with
  | rel _ _ h => exact .rel _ _ (h.cons event)
  | refl => exact .refl _
  | symm _ _ _ ih => exact .symm _ _ ih
  | trans _ _ _ _ _ ih₁ ih₂ => exact .trans _ _ _ ih₁ ih₂

/-- A mark as an event of its own. -/
def Mark.event : Mark → Event
  | .octet b => .chunk [b]
  | .pause => .chunk []
  | .failure text => .failure text

theorem sameInput_octets (b : UInt8) (bs : Octets) {events events' : List Event} (h : SameInput events events') :
    SameInput (.chunk (b :: bs) :: events) (((b :: bs).map fun b => .chunk [b]) ++ events') := by
  induction bs generalizing b with
  | nil => exact h.cons _
  | cons a as ih =>
    have hcut : Recut (.chunk (b :: a :: as) :: events) (.chunk [b] :: .chunk (a :: as) :: events) :=
      .cut [] events [b] (a :: as) (by simp) (by simp)
    exact .trans _ _ _ (.rel _ _ hcut) ((ih a).cons _)

/-- Every input can be cut down to one event for each mark. -/
theorem sameInput_marks (events : List Event) : SameInput events ((marks events).map Mark.event) := by
  induction events with
  | nil => exact .refl _
  | cons event events ih =>
    cases event with
    | interrupted => exact .trans _ _ _ (.rel _ _ (.resume [] events)) ih
    | failure text => exact ih.cons _
    | chunk octets =>
      cases octets with
      | nil => exact ih.cons _
      | cons b bs =>
        have hbs := sameInput_octets b bs ih
        simpa [Event.marks, Mark.event, Function.comp_def] using hbs

/-- The marks are all that the changes keep. -/
theorem sameInput_iff {events events' : List Event} : SameInput events events' ↔ marks events = marks events' := by
  constructor
  · intro h
    induction h with
    | rel _ _ h => exact h.marks_eq
    | refl => rfl
    | symm _ _ _ ih => exact ih.symm
    | trans _ _ _ _ _ ih₁ ih₂ => exact ih₁.trans ih₂
  · intro h
    have h' := sameInput_marks events'
    rw [← h] at h'
    exact .trans _ _ _ (sameInput_marks events) (.symm _ _ h')

/-- What a line read came to, with the input that is left described by its marks. -/
structure MarkRead where
  outcome : Except String (Option Octets)
  consumed : Nat
  rest : List Mark

def LineRead.marks (r : LineRead) : MarkRead :=
  ⟨r.outcome, r.consumed, Console.marks r.rest⟩

def marksAtEnd (line : Octets) (rest : List Mark) : MarkRead :=
  ⟨.ok (if line = [] then none else some line), line.length, rest⟩

/-- Adds to a line at most `room` octets, one at a time. A line that has no room left looks at no
further mark. -/
def readMarks : Nat → Octets → List Mark → MarkRead
  | 0, line, ms => ⟨.ok (some line), line.length, ms⟩
  | _ + 1, line, [] => marksAtEnd line []
  | room + 1, line, .octet b :: ms =>
    if b = newline then ⟨.ok (some (line ++ [b])), line.length + 1, ms⟩
    else readMarks room (line ++ [b]) ms
  | _ + 1, line, .pause :: ms => marksAtEnd line ms
  | _ + 1, line, .failure text :: ms => ⟨.error text, line.length, ms⟩

theorem cutLine_cons {b : UInt8} (hb : b ≠ newline) (room : Nat) (s : Octets) :
    cutLine (room + 1) (b :: s) = (b :: (cutLine room s).1, (cutLine room s).2) := by
  simp [cutLine, hb]

/-- An octet in front of a line changes nothing about whether the line is finished. -/
theorem getLast?_cons_eq_newline {b : UInt8} (hb : b ≠ newline) (line : Octets) :
    (b :: line).getLast? = some newline ↔ line.getLast? = some newline := by
  cases line with
  | nil => simp [hb]
  | cons a as => rw [List.getLast?_cons_cons]

/-- A chunk's worth of marks is read by one cut. -/
theorem readMarks_octets (room : Nat) (line octets : Octets) (ms : List Mark) :
    readMarks room line (octets.map .octet ++ ms) =
      if (cutLine room octets).2 = [] ∧ (cutLine room octets).1.getLast? ≠ some newline then
        readMarks (room - (cutLine room octets).1.length) (line ++ (cutLine room octets).1) ms
      else
        ⟨.ok (some (line ++ (cutLine room octets).1)), (line ++ (cutLine room octets).1).length,
          (cutLine room octets).2.map .octet ++ ms⟩ := by
  induction octets generalizing room line with
  | nil =>
    cases room with
    | zero => simp [cutLine]
    | succ room => simp [cutLine]
  | cons b bs ih =>
    cases room with
    | zero => simp [cutLine, readMarks]
    | succ room =>
      by_cases hb : b = newline
      · simp [cutLine, readMarks, hb]
      · rw [cutLine_cons hb, List.map_cons, List.cons_append, readMarks, if_neg hb, ih]
        simp only [ne_eq, getLast?_cons_eq_newline hb, List.length_cons, Nat.add_sub_add_right, List.append_assoc,
          List.singleton_append]

theorem extendLine_marks (room : Nat) (line : Octets) (events : List Event) :
    (extendLine room line events).marks = readMarks room line (marks events) := by
  fun_induction extendLine room line events with
  | case1 line => rfl
  | case2 room line hroom =>
    obtain ⟨n, rfl⟩ := Nat.exists_eq_succ_of_ne_zero hroom
    rfl
  | case3 line event events => rfl
  | case4 room line events hroom ih => exact ih
  | case5 room line events hroom text =>
    obtain ⟨n, rfl⟩ := Nat.exists_eq_succ_of_ne_zero hroom
    rfl
  | case6 room line events hroom =>
    obtain ⟨n, rfl⟩ := Nat.exists_eq_succ_of_ne_zero hroom
    rfl
  | case7 room line events hroom octets hne part rest hcut longer hopen ih =>
    rw [marks_chunk hne, readMarks_octets, hcut, if_pos hopen]
    exact ih
  | case8 room line events hroom octets hne part rest hcut longer hclosed =>
    rw [marks_chunk hne, readMarks_octets, hcut, if_neg hclosed, LineRead.marks, marks_putBack]

/-- A line read sees the marks of its input and nothing else. -/
theorem readLine_marks (limit : Nat) (events : List Event) :
    (readLine limit events).marks = readMarks limit [] (marks events) :=
  extendLine_marks limit [] events

end RecursiveFactorial.Console
