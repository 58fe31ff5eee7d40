import RecursiveFactorial.Proofs.Console.Marks
import RecursiveFactorial.Proofs.Calculation

/-!
# Numbers from a stream

An input whose marks are octets only is a stream of octets, however it is cut into chunks and wherever it is
interrupted. Asking it for a number takes the first line of the stream, up to the size of the buffer, and leaves the
rest of the stream.
-/
namespace RecursiveFactorial.Console

/-- The input is a stream of these octets. -/
def Streams (events : List Event) (s : Octets) : Prop :=
  marks events = s.map .octet

instance Streams.decidable (events : List Event) (s : Octets) : Decidable (Streams events s) :=
  inferInstanceAs (Decidable (_ = _))

theorem cutLine_ne_nil {room : Nat} (hroom : 0 < room) {s : Octets} (hs : s ≠ []) : (cutLine room s).1 ≠ [] := by
  obtain ⟨n, rfl⟩ := Nat.exists_eq_succ_of_ne_zero (Nat.ne_of_gt hroom)
  obtain ⟨b, s, rfl⟩ := List.exists_cons_of_ne_nil hs
  rw [cutLine]
  split
  · simp
  · simp

theorem readMarks_nil (room : Nat) {line : Octets} (hline : line ≠ []) :
    readMarks room line [] = ⟨.ok (some line), line.length, []⟩ := by
  cases room with
  | zero => rfl
  | succ room => simp [readMarks, marksAtEnd, hline]

/-- A line read from a stream is cut off its front. -/
theorem readMarks_stream {room : Nat} (hroom : 0 < room) (s : Octets) :
    readMarks room [] (s.map .octet) =
      ⟨.ok (if s = [] then none else some (cutLine room s).1), (cutLine room s).1.length,
        (cutLine room s).2.map .octet⟩ := by
  by_cases hs : s = []
  · obtain ⟨n, rfl⟩ := Nat.exists_eq_succ_of_ne_zero (Nat.ne_of_gt hroom)
    subst hs
    rfl
  · have hpart := cutLine_ne_nil hroom hs
    have h := readMarks_octets room [] s []
    rw [List.append_nil, List.append_nil, List.nil_append] at h
    rw [h, if_neg hs]
    split
    · rename_i hopen
      rw [readMarks_nil _ hpart, hopen.1]
      rfl
    · rfl

/-- A read takes one line off a stream, and leaves the rest of the stream. -/
theorem readLine_stream {limit : Nat} (hlimit : 0 < limit) {events : List Event} {s : Octets} (h : Streams events s) :
    (readLine limit events).outcome = .ok (if s = [] then none else some (cutLine limit s).1) ∧
      (readLine limit events).consumed = (cutLine limit s).1.length ∧
      Streams (readLine limit events).rest (cutLine limit s).2 := by
  have hread := readLine_marks limit events
  rw [h, readMarks_stream hlimit] at hread
  exact MarkRead.mk.inj hread

theorem chomp_append_newline (u : Octets) : chomp (u ++ [newline]) = u := by
  rw [chomp, if_pos List.getLast?_concat, List.dropLast_concat]

theorem chomp_append_of_ne (u : Octets) {b : UInt8} (hb : b ≠ newline) : chomp (u ++ [b]) = u ++ [b] := by
  have hlast : (u ++ [b]).getLast? ≠ some newline := by
    rw [List.getLast?_concat]
    exact fun h => hb (Option.some.inj h)
  rw [chomp, if_neg hlast]

theorem chomp_of_not_mem {line : Octets} (h : newline ∉ line) : chomp line = line := by
  have hlast : line.getLast? ≠ some newline := fun hlast => h (List.mem_of_getLast? hlast)
  rw [chomp, if_neg hlast]

/-- What a number is read as from a stream that has these octets left. -/
def streamNumber (s : Octets) : Int32 :=
  if s = [] then 0 else Number.read (Utf8.decodeLossy (chomp (cutLine (bufferSize - 1) s).1))

theorem takeLine_stream {c : Console} {s : Octets} (h : Streams c.events s) :
    ∃ c', takeLine (bufferSize - 1) c = .ok (if s = [] then none else some (cutLine (bufferSize - 1) s).1) c' ∧
      Streams c'.events (cutLine (bufferSize - 1) s).2 ∧
      c'.consumed = c.consumed + (cutLine (bufferSize - 1) s).1.length := by
  obtain ⟨houtcome, hconsumed, hrest⟩ := readLine_stream (by decide : 0 < bufferSize - 1) h
  let r := readLine (bufferSize - 1) c.events
  refine ⟨{ c with events := r.rest, consumed := c.consumed + r.consumed }, ?_, hrest,
    congrArg (c.consumed + ·) hconsumed⟩
  rw [takeLine, houtcome]

/-- A line is asked for as its text, read lossily without its newline. -/
def textOfLine (line : Octets) : String :=
  Utf8.decodeLossy (chomp line)

theorem askText_of_line {c c' : Console} {line : Octets} (h : takeLine (bufferSize - 1) c = .ok (some line) c') :
    askText none c = .ok (some (textOfLine line)) c' :=
  ConsoleM.bind_eq_ok.2 ⟨(), c, rfl, ConsoleM.bind_eq_ok.2 ⟨some line, c', h, rfl⟩⟩

theorem askText_of_end {c c' : Console} (h : takeLine (bufferSize - 1) c = .ok none c') :
    askText none c = .ok none { c' with notices := c'.notices ++ [.endOfInput] } :=
  ConsoleM.bind_eq_ok.2 ⟨(), c, rfl, ConsoleM.bind_eq_ok.2 ⟨none, c', h, rfl⟩⟩

/-- Asking without a prompt always gives a number, and takes one line of the stream. -/
theorem askNumber_stream {c : Console} {s : Octets} (h : Streams c.events s) :
    ∃ c', askNumber none c = .ok (streamNumber s) c' ∧ Streams c'.events (cutLine (bufferSize - 1) s).2 ∧
      c'.consumed = c.consumed + (cutLine (bufferSize - 1) s).1.length := by
  obtain ⟨c', hline, hrest, hconsumed⟩ := takeLine_stream h
  by_cases hs : s = []
  · rw [if_pos hs] at hline
    rw [streamNumber, if_pos hs]
    exact ⟨_, ConsoleM.bind_eq_ok.2 ⟨none, _, askText_of_end hline, rfl⟩, hrest, hconsumed⟩
  · rw [if_neg hs] at hline
    rw [streamNumber, if_neg hs]
    exact ⟨{ c' with notices := c'.notices ++ [.numberRead _ _] },
      ConsoleM.bind_eq_ok.2 ⟨some _, c', askText_of_line hline, rfl⟩, hrest, hconsumed⟩

end RecursiveFactorial.Console
