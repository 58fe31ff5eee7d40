import RecursiveFactorial.Proofs.Console.FirstFailure
import RecursiveFactorial.Proofs.Console.Line
import RecursiveFactorial.Proofs.NumberParts

/-!
# Asked for or given

A line with the decimal text of a number is read as that number, with any blanks before it and any other octets behind
it. So asking for the value comes to the same as having it in the settings: the answer or rejection is the same, the
output is the same after the prompt, and the line is all that is taken from the input.
-/
namespace RecursiveFactorial

/-- There is room for everything and every flush works. -/
def Writer.NeverFails (w : Writer) : Prop :=
  w.room = none ∧ w.FlushesWith none

namespace Console

open Number (decimal)

/-- Octets with the decimal text of a number among them, as they may stand on a line. -/
structure NumberLine (n : Int32) (blanks junk : Octets) : Prop where
  blanks_space : ∀ b ∈ blanks, C.isSpace b = true ∧ b ≠ newline
  junk_head : ∀ b ∈ junk.head?, C.isDigit b = false
  junk_newline : newline ∉ junk
  short : (blanks ++ (Utf8.encode (decimal n.toInt) ++ junk)).length ≤ bufferSize - 2

variable {n : Int32} {blanks junk : Octets}

theorem newline_not_mem_decimal (n : Int) : newline ∉ Utf8.encode (decimal n) := by
  intro hmem
  rw [Number.encode_decimal, List.mem_append] at hmem
  obtain hmem | hmem := hmem
  · unfold Number.signOf at hmem
    split at hmem
    · exact absurd hmem (by decide)
    · cases hmem
  · exact absurd (Number.isDigit_digitOctets _ _ hmem) (by decide)

theorem NumberLine.newline_not_mem (h : NumberLine n blanks junk) :
    newline ∉ blanks ++ (Utf8.encode (decimal n.toInt) ++ junk) := by
  rw [List.mem_append, List.mem_append, not_or, not_or]
  exact ⟨fun hmem => (h.blanks_space _ hmem).2 rfl, newline_not_mem_decimal _, h.junk_newline⟩

theorem NumberLine.number (h : NumberLine n blanks junk) :
    numberOfLine (some (blanks ++ (Utf8.encode (decimal n.toInt) ++ junk) ++ [newline])) = n := by
  rw [numberOfLine, textOfLine, chomp_append_newline]
  exact Number.read_decimal (fun b hb => (h.blanks_space b hb).1) h.junk_head n

/-- The line is read whole, and nothing behind it. -/
theorem NumberLine.read (h : NumberLine n blanks junk) {events : List Event} {ms : List Mark}
    (hinput : marks events = (blanks ++ (Utf8.encode (decimal n.toInt) ++ junk) ++ [newline]).map .octet ++ ms) :
    (readLine (bufferSize - 1) events).marks =
      ⟨.ok (some (blanks ++ (Utf8.encode (decimal n.toInt) ++ junk) ++ [newline])),
        (blanks ++ (Utf8.encode (decimal n.toInt) ++ junk)).length + 1, ms⟩ := by
  obtain ⟨room, hroom⟩ := Nat.exists_eq_add_of_le h.short
  have hlimit : bufferSize - 1 = (blanks ++ (Utf8.encode (decimal n.toInt) ++ junk)).length + room + 1 := by
    rw [← hroom]
    rfl
  rw [readLine_marks, hinput, hlimit, readMarks_newline h.newline_not_mem]

end Console

namespace Calculation

open Console ConsoleM
open Number (decimal)

theorem fits_of_neverFails {w : Writer} (h : w.NeverFails) (out : Octets) : w.Fits out :=
  Writer.fits_of_unlimited h.1

/-- Where nothing fails to be written, a calculation ends as its evaluation does, and only a result is flushed. -/
theorem ending_run (s : Settings) {c : Console} (before : Octets) (notices : List Notice) (h : c.writer.NeverFails) :
    ∃ flushes, ending (run s (c.wrote before notices)) =
      { endsWith c (before ++ output s) ((s.mode.eval s.value).mapError .rejected) with flushes } := by
  have hrun := run_decided s notices h.2 (fits_of_neverFails h before)
  rw [runPlaces, if_pos (fits_of_neverFails h _), if_pos (fits_of_neverFails h _), decides_none] at hrun
  cases heval : s.mode.eval s.value with
  | error cause =>
    rw [heval, decides_some] at hrun
    refine ⟨c.writer.past.flushes, ?_⟩
    rw [hrun, output_of_error heval]
    rfl
  | ok result =>
    rw [heval] at hrun
    obtain ⟨_, hresult, hending⟩ := hrun
    cases hresult
    exact ⟨_, hending⟩

theorem writePrompt_of_neverFails {s : Settings} {c : Console} (h : c.writer.NeverFails) :
    writePrompt s.prompt? c = .ok () ((prompted s c).wrote (Utf8.encode s.prompt) c.notices) := by
  rw [writePrompt_written (fits_of_neverFails h _), flush_wrote_ok h.2, prompted]
  split <;> rfl

theorem neverFails_prompted {s : Settings} {c : Console} (h : c.writer.NeverFails) :
    (prompted s c).writer.NeverFails := by
  obtain ⟨past, heq⟩ := exists_prompted_eq s c
  rw [heq]
  exact h

/-- On writers that never fail, asking an input that starts with a line for `n` comes to the same as calculating with
`n`. The prompt is written first, and the line is consumed with its newline. -/
theorem ask_agrees_with_run {s : Settings} {n : Int32} {blanks junk : Octets} {ms : List Mark} {c d : Console}
    (hline : NumberLine n blanks junk)
    (hinput : marks c.events = (blanks ++ (Utf8.encode (decimal n.toInt) ++ junk) ++ [newline]).map .octet ++ ms)
    (hc : c.writer.NeverFails) (hd : d.writer.NeverFails) :
    (ending (ask s c)).answer = (ending (run { s with value := n } d)).answer ∧
      (∃ out, (ending (run { s with value := n } d)).written = d.written ++ out ∧
        (ending (ask s c)).written = c.written ++ (Utf8.encode s.prompt ++ out)) ∧
      (ending (ask s c)).consumed = c.consumed + ((blanks ++ (Utf8.encode (decimal n.toInt) ++ junk)).length + 1) ∧
      marks (ending (ask s c)).rest = ms := by
  obtain ⟨hread, hconsumed, hrest⟩ := MarkRead.mk.inj (hline.read hinput)
  rw [← events_prompted s c] at hread
  obtain ⟨notices, hask⟩ := ask_of_line (writePrompt_of_neverFails hc) hread
  have hanswered : answered s (some (blanks ++ (Utf8.encode (decimal n.toInt) ++ junk) ++ [newline])) =
      { s with value := n } := by
    rw [answered, hline.number]
  have hafter : (prompted s c).afterLine = { c.afterLine with writer := (prompted s c).writer } := by
    obtain ⟨past, heq⟩ := exists_prompted_eq s c
    rw [heq]
    rfl
  obtain ⟨flushes, hrun⟩ := ending_run { s with value := n } [] d.notices hd
  rw [wrote_nil, List.nil_append] at hrun
  obtain ⟨flushes', hending⟩ := ending_run (c := (prompted s c).afterLine) { s with value := n }
    (Utf8.encode s.prompt) notices (neverFails_prompted hc)
  rw [← hanswered, ← hask, hanswered, hafter] at hending
  rw [hending, hrun]
  exact ⟨rfl, ⟨_, rfl, rfl⟩, congrArg (c.consumed + ·) hconsumed, hrest⟩

/-- The least number, behind a tab and in front of a point and an octet that is no text, in three chunks with an
interruption; the line is followed by a digit and a failure. -/
theorem ask_agrees_with_run_least :
    let s : Settings := { prompt := "n" }
    let c : Console :=
      { events := [.chunk [9, 45, 50, 49], .interrupted, .chunk [52, 55, 52, 56, 51, 54, 52, 56, 46],
          .chunk [255, 10, 49], .failure "gone"] }
    NumberLine Int32.minValue [9] [46, 255] ∧
      marks c.events =
        ([9] ++ (Utf8.encode (decimal Int32.minValue.toInt) ++ [46, 255]) ++ [newline]).map .octet ++
          [.octet 49, .failure "gone"] ∧
      (ending (ask s c)).answer = (ending (run { s with value := Int32.minValue } {})).answer ∧
      (ending (ask s c)).consumed = 15 ∧ marks (ending (ask s c)).rest = [.octet 49, .failure "gone"] := by
  intro s c
  have hdecimal : Utf8.encode (decimal Int32.minValue.toInt) = [45, 50, 49, 52, 55, 52, 56, 51, 54, 52, 56] := by
    decide +kernel
  have hline : NumberLine Int32.minValue [9] [46, 255] := by
    refine ⟨fun b hb => ?_, fun b hb => ?_, by decide, ?_⟩
    · obtain rfl := List.mem_singleton.mp hb
      decide
    · obtain rfl : 46 = b := Option.some.inj hb
      decide
    · rw [hdecimal]
      decide
  have hinput : marks c.events =
      ([9] ++ (Utf8.encode (decimal Int32.minValue.toInt) ++ [46, 255]) ++ [newline]).map .octet ++
        [.octet 49, .failure "gone"] := by
    rw [hdecimal]
    rfl
  obtain ⟨hanswer, -, hconsumed, hrest⟩ :=
    ask_agrees_with_run (s := s) (d := {}) hline hinput ⟨rfl, fun _ => rfl⟩ ⟨rfl, fun _ => rfl⟩
  rw [hdecimal] at hconsumed
  exact ⟨hline, hinput, hanswer, hconsumed, hrest⟩

end Calculation

end RecursiveFactorial
