import RecursiveFactorial.Proofs.Console.Limit
import RecursiveFactorial.Proofs.Console.Stream

/-!
# The first failure decides

A calculation has a few places where it can fail, and it comes to them in a fixed order. Each place has a condition of
its own, on the writer, the input or the value, and a record of what is written, flushed and consumed by then. The
first place whose condition fails is the end of the calculation, whatever the conditions behind it.
-/
namespace RecursiveFactorial

/-- Every flush fails with this text, or every flush works. -/
def Writer.FlushesWith (w : Writer) (fault : Option String) : Prop :=
  ∀ past, w.flushFault past = fault

namespace Console

/-- The console once `out` is written, with these notices. -/
def wrote (c : Console) (out : Octets) (notices : List Notice) : Console :=
  { c with written := c.written ++ out, writer := c.writer.after out, notices }

/-- The console whose writer was flushed when it had taken `out`. -/
def flushedAfter (c : Console) (out : Octets) : Console :=
  let past := { c.writer.past with flushes := c.writer.past.flushes ++ [(c.writer.past.taken ++ out).length] }
  { c with writer := { c.writer with past } }

/-- The console once a line is read, or the reading has failed. -/
def afterLine (c : Console) : Console :=
  let r := readLine (bufferSize - 1) c.events
  { c with events := r.rest, consumed := c.consumed + r.consumed }

section

variable {c : Console} {before out : Octets} {notices : List Notice}

theorem wrote_nil (c : Console) : c.wrote [] c.notices = c := by
  simp [wrote]

theorem write_wrote (h : c.writer.Fits (before ++ out)) :
    write out (c.wrote before notices) = .ok () (c.wrote (before ++ out) notices) := by
  rw [write_of_fits (Writer.fits_append.mp h).2]
  simp [wrote]

/-- What is refused is cut off where the room for all that was written ends. -/
theorem write_wrote_refused (hbefore : c.writer.Fits before) (h : ¬c.writer.Fits (before ++ out)) :
    write out (c.wrote before notices) =
      .error (.device c.writer.refusalText) (c.wrote (c.writer.accepted (before ++ out)) notices) := by
  have hout : ¬(c.writer.after before).Fits out := fun hout => h (Writer.fits_append.mpr ⟨hbefore, hout⟩)
  rw [write_of_not_fits hout, hbefore.accepted_append]
  simp only [wrote, Writer.after_after, List.append_assoc]
  rfl

theorem notify_wrote (n : Notice) : notify n (c.wrote out notices) = .ok () (c.wrote out (notices ++ [n])) := rfl

theorem flush_wrote_ok (h : c.writer.FlushesWith none) :
    flush (c.wrote out notices) = .ok () ((c.flushedAfter out).wrote out notices) := by
  have hfault : (c.wrote out notices).writer.flushFault (c.wrote out notices).writer.past = none := h _
  simp only [flush, hfault]
  rfl

theorem flush_wrote_error {text : String} (h : c.writer.FlushesWith (some text)) :
    flush (c.wrote out notices) = .error (.device text) ((c.flushedAfter out).wrote out notices) := by
  have hfault : (c.wrote out notices).writer.flushFault (c.wrote out notices).writer.past = some text := h _
  simp only [flush, hfault]
  rfl

theorem takeLine_wrote_ok {line : Option Octets} (h : (readLine (bufferSize - 1) c.events).outcome = .ok line) :
    takeLine (bufferSize - 1) (c.wrote out notices) = .ok line (c.afterLine.wrote out notices) := by
  simp only [takeLine, wrote, h, afterLine]

theorem takeLine_wrote_error {text : String} (h : (readLine (bufferSize - 1) c.events).outcome = .error text) :
    takeLine (bufferSize - 1) (c.wrote out notices) = .error (.device text) (c.afterLine.wrote out notices) := by
  simp only [takeLine, wrote, h, afterLine]

/-- Where there is no line nothing is consumed. -/
theorem consumed_of_end {room : Nat} {line : Octets} {events : List Event}
    (h : (extendLine room line events).outcome = .ok none) : (extendLine room line events).consumed = 0 := by
  have hend {line : Octets} {rest : List Event} (h : (lineAtEnd line rest).outcome = .ok none) :
      (lineAtEnd line rest).consumed = 0 := by
    by_cases hline : line = []
    · rw [hline]
      rfl
    · simp [lineAtEnd, hline] at h
  fun_induction extendLine room line events with
  | case1 => cases h
  | case2 => exact hend h
  | case3 => cases h
  | case4 room line events hroom ih => exact ih h
  | case5 => cases h
  | case6 => exact hend h
  | case7 room line events hroom octets hne part rest hcut longer hopen ih => exact ih h
  | case8 => cases h

end

/-- What a line is read as, zero at the end of input. -/
def numberOfLine : Option Octets → Int32
  | none => 0
  | some line => Number.read (textOfLine line)

end Console

namespace Calculation

open Console ConsoleM

/-- How a calculation ends, what is written by then, where the input stands, and how many octets had been taken at each
flush. -/
structure Ending where
  answer : Except Failure Int32
  written : Octets
  consumed : Nat
  rest : List Event
  flushes : List Nat

def ending : EStateM.Result Failure Console Int32 → Ending
  | .ok n c => ⟨.ok n, c.written, c.consumed, c.events, c.writer.past.flushes⟩
  | .error e c => ⟨.error e, c.written, c.consumed, c.events, c.writer.past.flushes⟩

/-- The ending of a calculation that has written `out`. -/
def endsWith (c : Console) (out : Octets) (answer : Except Failure Int32) : Ending :=
  ⟨answer, c.written ++ out, c.consumed, c.events, c.writer.past.flushes⟩

/-- Places where a calculation can fail, in order: the first one where it does decides how it ends. -/
def Decides (places : List (Option Ending)) (done : Ending → Prop) (e : Ending) : Prop :=
  match places.findSome? id with
  | some failed => e = failed
  | none => done e

/-- What is written for the value of the settings if no write is refused: the banner, and the label with the result if
there is one. -/
def output (s : Settings) : Octets :=
  match s.mode.eval s.value with
  | .ok result => Utf8.encode (s.banner ++ "\n") ++ Utf8.encode (s.label ++ " " ++ Number.decimal result.toInt ++ "\n")
  | .error _ => Utf8.encode (s.banner ++ "\n")

/-- Where a calculation can fail on a console that takes `before` first: at the banner, at the evaluation, at the
result and at the flush. -/
def runPlaces (s : Settings) (c : Console) (fault : Option String) (before : Octets) : List (Option Ending) :=
  let all := before ++ output s
  let refused := endsWith c (c.writer.accepted all) (.error (.device c.writer.refusalText))
  [if c.writer.Fits (before ++ Utf8.encode (s.banner ++ "\n")) then none else some refused,
    match s.mode.eval s.value with
    | .ok _ => none
    | .error cause => some (endsWith c (before ++ Utf8.encode (s.banner ++ "\n")) (.error (.rejected cause))),
    if c.writer.Fits all then none else some refused,
    fault.map fun text => endsWith (c.flushedAfter all) all (.error (.device text))]

/-- The settings with the value that is read. -/
def answered (s : Settings) (line : Option Octets) : Settings :=
  { s with value := numberOfLine line }

/-- What is written by asking and calculating if no write is refused. -/
def askOutput (s : Settings) (c : Console) : Octets :=
  match (readLine (bufferSize - 1) c.events).outcome with
  | .ok line => Utf8.encode s.prompt ++ output (answered s line)
  | .error _ => Utf8.encode s.prompt

/-- The console before the line is read: there is no flush without a prompt. -/
def prompted (s : Settings) (c : Console) : Console :=
  if s.prompt = "" then c else c.flushedAfter (Utf8.encode s.prompt)

/-- Asking can also fail at the prompt and its flush, with all of the input left, and at the line. -/
def askPlaces (s : Settings) (c : Console) (fault : Option String) : List (Option Ending) :=
  let prompt := Utf8.encode s.prompt
  [if c.writer.Fits prompt then none
    else some (endsWith c (c.writer.accepted (askOutput s c)) (.error (.device c.writer.refusalText))),
    if s.prompt = "" then none
    else fault.map fun text => endsWith (c.flushedAfter prompt) prompt (.error (.device text))] ++
  match (readLine (bufferSize - 1) c.events).outcome with
  | .ok line => runPlaces (answered s line) (prompted s c).afterLine fault prompt
  | .error text => [some (endsWith (prompted s c).afterLine prompt (.error (.device text)))]

section

variable {e failed : Ending} {places : List (Option Ending)} {done : Ending → Prop}

theorem decides_none : Decides (none :: places) done e ↔ Decides places done e := Iff.rfl

theorem Decides.imp {done' : Ending → Prop} (h : Decides places done e) (himp : ∀ e, done e → done' e) :
    Decides places done' e := by
  unfold Decides at h ⊢
  split
  · rename_i hfailed
    rwa [hfailed] at h
  · rename_i hnone
    rw [hnone] at h
    exact himp e h

theorem decides_some : Decides (some failed :: places) done e ↔ e = failed := Iff.rfl

theorem Decides.eq_of_findSome? (h : Decides places done e) (hfailed : places.findSome? id = some failed) :
    e = failed := by
  rwa [Decides, hfailed] at h

theorem Decides.done_of_findSome? (h : Decides places done e) (hnone : places.findSome? id = none) : done e := by
  rwa [Decides, hnone] at h

end

section Run

variable {s : Settings} {c : Console} {fault : Option String} {before : Octets} {notices : List Notice}

theorem output_of_error {cause : Rejection} (h : s.mode.eval s.value = .error cause) : output s = bannerLine s := by
  rw [output, h]
  rfl

theorem output_of_ok {result : Int32} (h : s.mode.eval s.value = .ok result) :
    output s = bannerLine s ++ resultLine s result := by
  rw [output, h]
  rfl

theorem accepted_output (h : ¬c.writer.Fits (before ++ bannerLine s)) :
    c.writer.accepted (before ++ output s) = c.writer.accepted (before ++ bannerLine s) := by
  cases heval : s.mode.eval s.value with
  | error cause => rw [output_of_error heval]
  | ok result => rw [output_of_ok heval, ← List.append_assoc, Writer.accepted_append_of_not_fits h]

/-- A calculation on a console that has taken `before` already. -/
theorem run_decided (s : Settings) (notices : List Notice) (hflush : c.writer.FlushesWith fault)
    (hbefore : c.writer.Fits before) :
    Decides (runPlaces s c fault before)
      (fun e => ∃ result, s.mode.eval s.value = .ok result ∧
        e = endsWith (c.flushedAfter (before ++ output s)) (before ++ output s) (.ok result))
      (ending (run s (c.wrote before notices))) := by
  rw [run, bind_of_ok (notify_wrote _), runPlaces]
  change Decides [if c.writer.Fits (before ++ bannerLine s) then none else some _, _, _, _] _ _
  by_cases hbanner : c.writer.Fits (before ++ bannerLine s)
  · rw [if_pos hbanner, decides_none, bind_of_ok (write_wrote hbanner)]
    cases heval : s.mode.eval s.value with
    | error cause =>
      have hreject : evaluate s.mode s.value
            (c.wrote (before ++ bannerLine s) (notices ++ [.computing s.value s.mode])) =
          .error (.rejected cause) (c.wrote (before ++ bannerLine s) (notices ++ [.computing s.value s.mode])) := by
        rw [evaluate, heval]
        rfl
      rw [decides_some, bind_of_error hreject]
      rfl
    | ok result =>
      have hresult : evaluate s.mode s.value
            (c.wrote (before ++ bannerLine s) (notices ++ [.computing s.value s.mode])) =
          .ok result (c.wrote (before ++ bannerLine s)
            (notices ++ [.computing s.value s.mode] ++ [.evaluated s.mode s.value result])) := by
        rw [evaluate, heval]
        rfl
      rw [decides_none, bind_of_ok hresult, output_of_ok heval, ← List.append_assoc]
      by_cases hall : c.writer.Fits (before ++ bannerLine s ++ resultLine s result)
      · rw [if_pos hall, decides_none, bind_of_ok (write_wrote hall)]
        cases fault with
        | some text =>
          rw [bind_of_error (flush_wrote_error hflush)]
          exact decides_some.mpr rfl
        | none =>
          rw [bind_of_ok (flush_wrote_ok hflush)]
          exact ⟨result, rfl, rfl⟩
      · rw [if_neg hall, decides_some, bind_of_error (write_wrote_refused hbanner hall)]
        rfl
  · rw [if_neg hbanner, decides_some, bind_of_error (write_wrote_refused hbefore hbanner), accepted_output hbanner]
    rfl

end Run

section Ask

variable {s : Settings} {c : Console} {fault : Option String}

theorem writePrompt_refused (h : ¬c.writer.Fits (Utf8.encode s.prompt)) :
    writePrompt s.prompt? c = .error (.device c.writer.refusalText)
      (c.wrote (c.writer.accepted (Utf8.encode s.prompt)) c.notices) := by
  have hprompt : s.prompt ≠ "" := by
    intro hempty
    rw [hempty, Utf8.encode_empty] at h
    exact h Writer.fits_nil
  have hwrite : write (Utf8.encode s.prompt) (c.wrote [] c.notices) = .error (.device c.writer.refusalText)
      (c.wrote (c.writer.accepted (Utf8.encode s.prompt)) c.notices) :=
    write_wrote_refused Writer.fits_nil h
  rw [wrote_nil] at hwrite
  rw [Settings.prompt?, if_neg hprompt]
  exact bind_of_error hwrite

/-- A prompt that fits is written, and it is flushed if it is not empty. -/
theorem writePrompt_written (h : c.writer.Fits (Utf8.encode s.prompt)) :
    writePrompt s.prompt? c =
      if s.prompt = "" then .ok () (c.wrote (Utf8.encode s.prompt) c.notices)
      else flush (c.wrote (Utf8.encode s.prompt) c.notices) := by
  rw [Settings.prompt?]
  by_cases hprompt : s.prompt = ""
  · rw [if_pos hprompt, if_pos hprompt, hprompt, Utf8.encode_empty, wrote_nil]
    rfl
  · have hwrite : write (Utf8.encode s.prompt) (c.wrote [] c.notices) =
        .ok () (c.wrote (Utf8.encode s.prompt) c.notices) := write_wrote h
    rw [wrote_nil] at hwrite
    rw [if_neg hprompt, if_neg hprompt]
    exact bind_of_ok hwrite

theorem ask_of_prompt_error {failure : Failure} {d : Console} (h : writePrompt s.prompt? c = .error failure d) :
    ask s c = .error failure d :=
  bind_of_error (bind_of_error (bind_of_error h))

section

variable {d : Console} (h : writePrompt s.prompt? c = .ok () (d.wrote (Utf8.encode s.prompt) c.notices))
include h

theorem ask_of_line_error {text : String} (hread : (readLine (bufferSize - 1) d.events).outcome = .error text) :
    ask s c = .error (.device text) (d.afterLine.wrote (Utf8.encode s.prompt) c.notices) := by
  have htext : askText s.prompt? c = .error (.device text) (d.afterLine.wrote (Utf8.encode s.prompt) c.notices) :=
    (bind_of_ok h).trans (bind_of_error (takeLine_wrote_error hread))
  exact bind_of_error (bind_of_error htext)

/-- After the line, the calculation is that of the settings with its value. -/
theorem ask_of_line {line : Option Octets} (hread : (readLine (bufferSize - 1) d.events).outcome = .ok line) :
    ∃ notices, ask s c = run (answered s line) (d.afterLine.wrote (Utf8.encode s.prompt) notices) := by
  have hline : takeLine (bufferSize - 1) (d.wrote (Utf8.encode s.prompt) c.notices) =
      .ok line (d.afterLine.wrote (Utf8.encode s.prompt) c.notices) := takeLine_wrote_ok hread
  cases line with
  | none =>
    have htext : askText s.prompt? c =
        .ok none (d.afterLine.wrote (Utf8.encode s.prompt) (c.notices ++ [.endOfInput])) :=
      (bind_of_ok h).trans (bind_of_ok hline)
    exact ⟨_, bind_of_ok (bind_of_ok htext)⟩
  | some line =>
    have htext : askText s.prompt? c =
        .ok (some (textOfLine line)) (d.afterLine.wrote (Utf8.encode s.prompt) c.notices) :=
      (bind_of_ok h).trans (bind_of_ok hline)
    exact ⟨_, bind_of_ok (bind_of_ok htext)⟩

end

/-- The prompt changes nothing but what the writer has been through. -/
theorem exists_prompted_eq (s : Settings) (c : Console) :
    ∃ past, prompted s c = { c with writer := { c.writer with past } } := by
  by_cases h : s.prompt = ""
  · exact ⟨c.writer.past, if_pos h⟩
  · exact ⟨_, if_neg h⟩

theorem events_prompted (s : Settings) (c : Console) : (prompted s c).events = c.events := by
  obtain ⟨past, h⟩ := exists_prompted_eq s c
  rw [h]

theorem prompted_of_ne (h : s.prompt ≠ "") : prompted s c = c.flushedAfter (Utf8.encode s.prompt) := if_neg h

/-- Once the prompt is out, the line decides, and after it the calculation. -/
theorem ask_decided_of_prompt (hflush : c.writer.FlushesWith fault) (hfits : c.writer.Fits (Utf8.encode s.prompt))
    (h : writePrompt s.prompt? c = .ok () ((prompted s c).wrote (Utf8.encode s.prompt) c.notices)) :
    Decides
      (match (readLine (bufferSize - 1) c.events).outcome with
        | .ok line => runPlaces (answered s line) (prompted s c).afterLine fault (Utf8.encode s.prompt)
        | .error text => [some (endsWith (prompted s c).afterLine (Utf8.encode s.prompt) (.error (.device text)))])
      (fun e => ∃ line result, (readLine (bufferSize - 1) c.events).outcome = .ok line ∧
        s.mode.eval (numberOfLine line) = .ok result ∧
        e = endsWith ((prompted s c).afterLine.flushedAfter (askOutput s c)) (askOutput s c) (.ok result))
      (ending (ask s c)) := by
  have hroom : (prompted s c).writer.FlushesWith fault ∧ (prompted s c).writer.Fits (Utf8.encode s.prompt) := by
    obtain ⟨past, heq⟩ := exists_prompted_eq s c
    rw [heq]
    exact ⟨hflush, hfits⟩
  cases hread : (readLine (bufferSize - 1) c.events).outcome with
  | error text =>
    rw [← events_prompted s c] at hread
    rw [ask_of_line_error h hread]
    exact decides_some.mpr rfl
  | ok line =>
    have hline := hread
    rw [← events_prompted s c] at hline
    obtain ⟨notices, hask⟩ := ask_of_line h hline
    have hrun := run_decided (c := (prompted s c).afterLine) (answered s line) notices hroom.1 hroom.2
    rw [hask, askOutput, hread]
    exact hrun.imp fun e ⟨result, heval, he⟩ => ⟨line, result, rfl, heval, he⟩

theorem ask_decided (s : Settings) {c : Console} (hflush : c.writer.FlushesWith fault) :
    Decides (askPlaces s c fault)
      (fun e => ∃ line result, (readLine (bufferSize - 1) c.events).outcome = .ok line ∧
        s.mode.eval (numberOfLine line) = .ok result ∧
        e = endsWith ((prompted s c).afterLine.flushedAfter (askOutput s c)) (askOutput s c) (.ok result))
      (ending (ask s c)) := by
  rw [askPlaces, List.cons_append, List.cons_append, List.nil_append]
  by_cases hfits : c.writer.Fits (Utf8.encode s.prompt)
  · rw [if_pos hfits, decides_none]
    have hprompt := writePrompt_written hfits
    by_cases hempty : s.prompt = ""
    · have hasked : prompted s c = c := if_pos hempty
      rw [if_pos hempty] at hprompt ⊢
      exact decides_none.mpr (ask_decided_of_prompt hflush hfits (by rw [hasked, hprompt]))
    · rw [if_neg hempty] at hprompt ⊢
      cases fault with
      | some text =>
        rw [flush_wrote_error hflush] at hprompt
        rw [ask_of_prompt_error hprompt]
        exact decides_some.mpr rfl
      | none =>
        rw [flush_wrote_ok hflush, ← prompted_of_ne hempty] at hprompt
        exact decides_none.mpr (ask_decided_of_prompt hflush hfits hprompt)
  · have haccepted : c.writer.accepted (askOutput s c) = c.writer.accepted (Utf8.encode s.prompt) := by
      unfold askOutput
      split
      · exact Writer.accepted_append_of_not_fits hfits
      · rfl
    rw [if_neg hfits, decides_some, ask_of_prompt_error (writePrompt_refused hfits), haccepted]
    rfl

end Ask

/-- For all settings and inputs, and all writers whose flushes always work or always fail, the first place where a
calculation fails decides its answer, what it has written, flushed and consumed, and so it does where the value is
asked for. A value that is rejected is reported without a flush after the banner. At the end of input the value is zero
and nothing is consumed. -/
theorem first_failure_decides (s : Settings) (c : Console) (fault : Option String)
    (hflush : c.writer.FlushesWith fault) :
    Decides (runPlaces s c fault [])
      (fun e => ∃ result, s.mode.eval s.value = .ok result ∧
        e = endsWith (c.flushedAfter (output s)) (output s) (.ok result))
      (ending (run s c)) ∧
    Decides (askPlaces s c fault)
      (fun e => ∃ line result, (readLine (bufferSize - 1) c.events).outcome = .ok line ∧
        s.mode.eval (numberOfLine line) = .ok result ∧
        e = endsWith ((prompted s c).afterLine.flushedAfter (askOutput s c)) (askOutput s c) (.ok result))
      (ending (ask s c)) ∧
    ((readLine (bufferSize - 1) c.events).outcome = .ok none →
      (answered s none).value = 0 ∧ c.afterLine.consumed = c.consumed) := by
  refine ⟨?_, ask_decided s hflush, fun hend => ⟨rfl, ?_⟩⟩
  · have hrun := run_decided (c := c) s c.notices hflush Writer.fits_nil
    rwa [wrote_nil, List.nil_append] at hrun
  · rw [afterLine, readLine, consumed_of_end hend, Nat.add_zero]

/-- Asking for a number, with the prompt `?`, the banner `B` and the label `L`, fails at each of its places in turn: at
the prompt, at its flush, at the line, at the banner, at the evaluation, in front of the last newline and, where there
is no prompt, at the last flush. Without a failure the result is six, and at the end of input it is that of zero. -/
theorem first_failure_decides_each :
    let s : Settings := { banner := "B", label := "L", prompt := "?" }
    let silent : Settings := { banner := "B", label := "L" }
    let three : List Event := [.chunk [0x33, 0x0a, 0x34]]
    let full : Failure := .device "failed to write whole buffer"
    let stuck : Writer := { flushFault := some "stuck" }
    ending (ask s { events := three, writer := { room := some 0 } }) = ⟨.error full, [], 0, three, []⟩ ∧
      ending (ask s { events := three, writer := stuck }) = ⟨.error (.device "stuck"), [0x3f], 0, three, [1]⟩ ∧
      ending (ask s { events := [.chunk [0x33], .failure "gone"] }) = ⟨.error (.device "gone"), [0x3f], 1, [], [1]⟩ ∧
      ending (ask s { events := three, writer := { room := some 2 } }) =
        ⟨.error full, [0x3f, 0x42], 2, [.chunk [0x34]], [1]⟩ ∧
      ending (ask s { events := [.chunk [0x2d, 0x31, 0x0a]] }) =
        ⟨.error (.rejected (.negative (-1))), [0x3f, 0x42, 0x0a], 3, [], [1]⟩ ∧
      ending (ask s { events := three, writer := { room := some 6 } }) =
        ⟨.error full, [0x3f, 0x42, 0x0a, 0x4c, 0x20, 0x36], 2, [.chunk [0x34]], [1]⟩ ∧
      ending (ask silent { events := three, writer := stuck }) =
        ⟨.error (.device "stuck"), [0x42, 0x0a, 0x4c, 0x20, 0x36, 0x0a], 2, [.chunk [0x34]], [6]⟩ ∧
      ending (ask s { events := three }) =
        ⟨.ok 6, [0x3f, 0x42, 0x0a, 0x4c, 0x20, 0x36, 0x0a], 2, [.chunk [0x34]], [1, 7]⟩ ∧
      (readLine (bufferSize - 1) [.interrupted]).outcome = .ok none ∧ (answered s none).value = 0 := by
  dsimp only
  have hworks {room : Option Nat} : Writer.FlushesWith { room } none := fun _ => rfl
  have hstuck : Writer.FlushesWith { flushFault := some "stuck" } (some "stuck") := fun _ => rfl
  have hend : (readLine (bufferSize - 1) [.interrupted]).outcome = .ok none := rfl
  refine ⟨?_, ?_, ?_, ?_, ?_, ?_, ?_, ?_, hend,
    ((first_failure_decides _ { events := [.interrupted] } none hworks).2.2 hend).1⟩
  · exact (first_failure_decides _ _ none hworks).2.1.eq_of_findSome? rfl
  · exact (first_failure_decides _ _ _ hstuck).2.1.eq_of_findSome? rfl
  · exact (first_failure_decides _ _ none hworks).2.1.eq_of_findSome? rfl
  · exact (first_failure_decides _ _ none hworks).2.1.eq_of_findSome? rfl
  · exact (first_failure_decides _ _ none hworks).2.1.eq_of_findSome? rfl
  · exact (first_failure_decides _ _ none hworks).2.1.eq_of_findSome? rfl
  · exact (first_failure_decides _ _ _ hstuck).2.1.eq_of_findSome? rfl
  · have hask := (first_failure_decides { banner := "B", label := "L", prompt := "?" }
      { events := [.chunk [0x33, 0x0a, 0x34]] } none hworks).2.1
    obtain ⟨line, result, hline, hresult, hdone⟩ := hask.done_of_findSome? rfl
    obtain rfl : some [0x33, 0x0a] = line := Except.ok.inj hline
    obtain rfl : 6 = result := Except.ok.inj hresult
    exact hdone

end Calculation

end RecursiveFactorial
