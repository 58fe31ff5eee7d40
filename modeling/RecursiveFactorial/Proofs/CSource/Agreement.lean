import RecursiveFactorial.Proofs.CSource.Input

/-!
# One input, two readers

The console and the emitted program read the same numbers from the same stream. Both take the same line from it. The
program sees the line up to its first NUL and as octets, the console sees all of it and as characters, but a
number ends before either could matter.
-/
namespace RecursiveFactorial.CSource

open C (Cells Scope State call throughNewline)
open Console (cutLine chomp chomp_append_newline chomp_of_not_mem bufferSize Streams streamNumber)

section Lines

theorem throughNewline_cons_of_ne {b : UInt8} (hb : b ≠ 10) (octets : Octets) :
    throughNewline (b :: octets) = b :: throughNewline octets := by
  simp [throughNewline, hb]

theorem cutLine_eq (room : Nat) (octets : Octets) : (cutLine room octets).1 = throughNewline (octets.take room) := by
  fun_induction cutLine room octets with
  | case1 => rfl
  | case2 => rfl
  | case3 => rfl
  | case4 room b octets hb line rest hcut ih =>
    rw [hcut] at ih
    rw [List.take_succ_cons, throughNewline_cons_of_ne hb, ← ih]

theorem cutLine_buffer (octets : Octets) :
    cutLine (bufferSize - 1) octets = (nextLine octets, octets.drop (nextLine octets).length) := by
  have hline : (cutLine (bufferSize - 1) octets).1 = nextLine octets := cutLine_eq _ octets
  have happend := Console.cutLine_append (bufferSize - 1) octets
  have hrest := congrArg (List.drop (nextLine octets).length) happend
  rw [hline, List.drop_left] at hrest
  exact Prod.ext hline hrest

theorem throughNewline_cases (octets : Octets) :
    10 ∉ throughNewline octets ∨ ∃ u, throughNewline octets = u ++ [10] ∧ 10 ∉ u := by
  have hu : 10 ∉ octets.takeWhile (· != 10) := fun h => by simpa using List.mem_takeWhile_imp h
  rw [throughNewline]
  cases hrest : octets.dropWhile (· != 10) with
  | nil => exact .inl (by simpa using hu)
  | cons b rest =>
    have hb : b = 10 := by
      have hhead := List.head_dropWhile_not (· != 10) (l := octets) (by simp [hrest])
      simpa [hrest] using hhead
    subst hb
    exact .inr ⟨_, rfl, hu⟩

/-- A newline at the end of a line can be dropped before or after the line is cut off at a NUL. -/
theorem lineText_eq {line : Octets} (h : 10 ∉ line ∨ ∃ u, line = u ++ [10] ∧ 10 ∉ u) :
    lineText line = (chomp line).takeWhile (· != 0) := by
  obtain h | ⟨u, rfl, hu⟩ := h
  · rw [lineText, chomp_of_not_mem h]
    exact chomp_of_not_mem fun hmem => h (List.takeWhile_subset _ hmem)
  · have hchomp : chomp (u ++ [10]) = u := chomp_append_newline u
    rw [lineText, hchomp, List.takeWhile_append]
    split
    · next hwhole =>
      have hall := (List.takeWhile_sublist (· != 0)).eq_of_length hwhole
      exact hchomp.trans hall.symm
    · exact chomp_of_not_mem fun hmem => hu (List.takeWhile_subset _ hmem)

/-- Both readers get the same number from a line. -/
theorem atoi_lineText (octets : Octets) :
    C.atoi ((lineText (nextLine octets)).takeWhile (· != 0)) =
      Number.read (Utf8.decodeLossy (chomp (nextLine octets))) := by
  have htext : lineText (nextLine octets) = (chomp (nextLine octets)).takeWhile (· != 0) :=
    lineText_eq (throughNewline_cases _)
  rw [htext, C.atoi, Number.read, Number.readWide_decodeLossy, Number.strtol_takeWhile, Number.strtol_takeWhile]

end Lines

section Runs

/-- Asks the console for `k` numbers. Each comes with the octets consumed once it is read. -/
def askNumbers : Nat → ConsoleM (List (Int32 × Nat))
  | 0 => pure []
  | k + 1 => do
    let n ← Console.askNumber none
    let consumed := (← get).consumed
    let later ← askNumbers k
    pure ((n, consumed) :: later)

/-- Calls the number reader of a program `k` times on an input of this size, with the same account of it. -/
def readNumbers? (p : C.Program) (d size : Nat) : Nat → State → Option (List (Int32 × Nat))
  | 0, _ => some []
  | k + 1, m => do
    let (.int n, m') ← call p d m numberReader [.null] | none
    let later ← readNumbers? p d size k m'
    some ((n, size - m'.input.length) :: later)

/-- These are the answers of the number reader of a program, called `k` times from its start. -/
def Reads (p : C.Program) (input : Octets) (k : Nat) (answers : List (Int32 × Nat)) : Prop :=
  ∃ d, readNumbers? p d input.length k (p.start input) = some answers

theorem readNumbers_extends (p : C.Program) {d d' : Nat} (hd : d ≤ d') (size k : Nat) (m : State) :
    C.Extends (readNumbers? p d size k m) (readNumbers? p d' size k m) := by
  induction k generalizing m with
  | zero => exact .refl _
  | succ k ih =>
    apply (C.call_extends p hd m numberReader [.null]).bind
    rintro ⟨v, m'⟩
    cases v with
    | int n => exact (ih m').bind fun _ => .refl _
    | _ => exact .refl _

theorem Reads.iff_eq {p : C.Program} {input : Octets} {k : Nat} {answers : List (Int32 × Nat)}
    (h : Reads p input k answers) (answers' : List (Int32 × Nat)) : Reads p input k answers' ↔ answers' = answers := by
  constructor
  · rintro ⟨d', h'⟩
    obtain ⟨d, h⟩ := h
    exact C.Extends.unique (fun hd => readNumbers_extends p hd _ _ _) h' h
  · rintro rfl
    exact h

theorem taken_of_end {m : State} (h : m.input = []) : taken m = m := by
  cases m
  subst h
  rfl

variable (s : Settings) (v : Int32) (locals : Scope)

/-- Wherever the input stands, the emitted reader gives the number the console would. -/
theorem call_numberReader (m : State) (rest : C.Memory) {cells : Cells} (hcells : cells.length = bufferSize) :
    ∃ rest' cells', cells'.length = bufferSize ∧
      call (emitted s) 3 (reading m v rest locals cells) numberReader [.null] =
        some (.int (streamNumber m.input), reading (taken m) v rest' locals cells') := by
  by_cases hinput : m.input = []
  · have hcall := call_numberReader_end s 0 m v rest locals cells hinput
    rw [streamNumber, if_pos hinput, taken_of_end hinput]
    exact ⟨rest, cells, hcells, hcall⟩
  · obtain ⟨cells', hlength, hcall⟩ := call_numberReader_line s 0 m v rest locals cells hcells hinput
    rw [streamNumber, if_neg hinput, cutLine_buffer, ← atoi_lineText]
    exact ⟨rest ++ [none], cells', hlength, hcall⟩

theorem length_taken_input (m : State) : (nextLine m.input).length + (taken m).input.length = m.input.length := by
  have hle : (nextLine m.input).length ≤ m.input.length :=
    (throughNewline_isPrefix _).length_le.trans (List.take_sublist _ _).length_le
  rw [taken, List.length_drop, Nat.add_sub_cancel' hle]

/-- The two readers stay on the same octet of the input. -/
theorem readNumbers_emitted (size k : Nat) {c : Console} {m : State} (rest : C.Memory) {cells : Cells}
    (hcells : cells.length = bufferSize) (hstream : Streams c.events m.input)
    (hsize : c.consumed + m.input.length = size) :
    ∃ answers c', askNumbers k c = .ok answers c' ∧
      readNumbers? (emitted s) 3 size k (reading m v rest locals cells) = some answers ∧ answers.length = k := by
  induction k generalizing c m rest cells with
  | zero => exact ⟨[], c, rfl, rfl, rfl⟩
  | succ k ih =>
    obtain ⟨rest', cells', hcells', hcall⟩ := call_numberReader s v locals m rest hcells
    obtain ⟨c', hask, hstream', hconsumed⟩ := Console.askNumber_stream hstream
    simp only [cutLine_buffer] at hstream' hconsumed
    have hinput := length_taken_input m
    have hsize' : c'.consumed + (taken m).input.length = size := by omega
    obtain ⟨later, c'', hlater, hread, hlength⟩ := ih (m := taken m) rest' hcells' hstream' hsize'
    refine ⟨(streamNumber m.input, c'.consumed) :: later, c'', ?_, ?_, congrArg (· + 1) hlength⟩
    · exact ConsoleM.bind_eq_ok.2 ⟨_, c', hask, ConsoleM.bind_eq_ok.2 ⟨c', c', rfl,
        ConsoleM.bind_eq_ok.2 ⟨later, c'', hlater, rfl⟩⟩⟩
    · have hconsumed' : size - (reading (taken m) v rest' locals cells').input.length = c'.consumed :=
        Nat.sub_eq_of_eq_add hsize'.symm
      simp only [readNumbers?, hcall, hread, hconsumed', Option.bind_eq_bind, Option.bind_some]

end Runs

/-- The text for some settings is a program of C whose number reader agrees with the console: on the same stream of
octets, however it is cut into chunks, any number of calls gives the same numbers, and after each of them the same
octets are consumed. -/
theorem number_readers_agree (s : Settings) (c : Console) (hstart : c.consumed = 0) (stream : Octets)
    (hstream : Streams c.events stream) (k : Nat) :
    ∃ text p answers c', ofSettings s = .ok text ∧ C.read? text.toList = some p ∧
      askNumbers k c = .ok answers c' ∧ answers.length = k ∧
      ∀ answers', Reads p stream k answers' ↔ answers' = answers := by
  have hsize : c.consumed + stream.length = stream.length := by rw [hstart, Nat.zero_add]
  obtain ⟨answers, c', hask, hread, hlength⟩ :=
    readNumbers_emitted s 0 [] stream.length k (m := { input := stream }) [] List.length_replicate hstream hsize
  refine ⟨_, emitted s, answers, c', ofSettings_eq s, ?_, hask, hlength, Reads.iff_eq ⟨3, hread⟩⟩
  rw [String.toList_ofList, read_programLines]

set_option maxRecDepth 2000 in
/-- A line with a NUL, one with an octet that is no character, a number past every limit, and the end of input. -/
theorem number_readers_agree_mixed :
    ∃ (c : Console) (stream : Octets),
      stream = [0x2d, 0x37, 0, 0x39, 10, 0x34, 0xff, 10] ++ List.replicate 20 0x39 ∧ c.consumed = 0 ∧
      Streams c.events stream ∧
      ∃ text p c', ofSettings {} = .ok text ∧ C.read? text.toList = some p ∧
        askNumbers 4 c = .ok [(-7, 5), (4, 8), (-1, 28), (0, 28)] c' ∧
        ∀ answers, Reads p stream 4 answers ↔ answers = [(-7, 5), (4, 8), (-1, 28), (0, 28)] := by
  let c : Console :=
    { events := [.chunk [0x2d], .interrupted, .chunk ([0x37, 0, 0x39, 10, 0x34, 0xff, 10] ++ List.replicate 20 0x39)] }
  let stream : Octets := [0x2d, 0x37, 0, 0x39, 10, 0x34, 0xff, 10] ++ List.replicate 20 0x39
  have hstream : Streams c.events stream := by decide
  obtain ⟨text, p, answers, c', htext, hp, hask, -, hread⟩ := number_readers_agree {} c rfl stream hstream 4
  have hanswers : [(-7, 5), (4, 8), (-1, 28), (0, 28)] = answers := (EStateM.Result.ok.inj hask).1
  subst hanswers
  exact ⟨c, stream, rfl, rfl, hstream, text, p, c', htext, hp, hask, hread⟩

end RecursiveFactorial.CSource
