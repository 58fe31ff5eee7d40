import RecursiveFactorial.Proofs.Console.Stream
import RecursiveFactorial.Proofs.CSource.Simulation
import RecursiveFactorial.Proofs.Number

/-!
# How the emitted program reads numbers

The emitted program reads a line into an array, drops its newline, copies it to a fresh block and reads a number from
the copy. Each of these steps sees the line up to its first NUL. The array is the first block of memory and keeps
its size, which is all that one call needs from the calls before it.
-/
namespace RecursiveFactorial.CSource

open C (Cells Scope State Value eval exec execBlock call untilNul? throughNewline)

section Library

variable (s : Settings) (d : Nat) (m : State) (vs : List Value)

theorem call_fgets : call (emitted s) (d + 1) m "fgets" vs = C.fgets? m vs := C.call_of_library d rfl rfl vs
theorem call_strlen : call (emitted s) (d + 1) m "strlen" vs = C.strlen? m vs := C.call_of_library d rfl rfl vs
theorem call_strcpy : call (emitted s) (d + 1) m "strcpy" vs = C.strcpy? m vs := C.call_of_library d rfl rfl vs
theorem call_malloc : call (emitted s) (d + 1) m "malloc" vs = C.malloc? m vs := C.call_of_library d rfl rfl vs
theorem call_free : call (emitted s) (d + 1) m "free" vs = C.free? m vs := C.call_of_library d rfl rfl vs
theorem call_atoi : call (emitted s) (d + 1) m "atoi" vs = C.atoi? m vs := C.call_of_library d rfl rfl vs

end Library

section Memory

theorem untilNul_append (octets : Octets) (cells : Cells) :
    untilNul? (octets.map some ++ some 0 :: cells) = some (octets.takeWhile (· != 0)) := by
  induction octets with
  | nil => simp [untilNul?]
  | cons b octets ih =>
    by_cases hb : b = 0
    · simp [untilNul?, hb]
    · simp [untilNul?, hb, ih]

/-- The array after a line and a NUL are put at its start. -/
def withLine (line : Octets) (cells : Cells) : Cells :=
  line.map some ++ some 0 :: cells.drop (line.length + 1)

theorem length_withLine {line : Octets} {cells : Cells} (h : line.length < cells.length) :
    (withLine line cells).length = cells.length := by
  simp [withLine]
  omega

variable (cells : Cells) (rest : C.Memory)

theorem string_buffer : C.Memory.string? (some cells :: rest) (.place 0 0) = untilNul? cells := by
  simp [C.Memory.string?, C.Memory.cells?]

theorem store_buffer {line : Octets} (h : line.length < cells.length) :
    C.Memory.store? (some cells :: rest) 0 0 (line ++ [0]) = some (some (withLine line cells) :: rest) := by
  simpa [C.Memory.store?, withLine, Nat.succ_le_iff] using h

theorem load_buffer (u : Octets) (b : UInt8) :
    C.Memory.load? (some (u.map some ++ some b :: cells) :: rest) 0 u.length = some b := by
  simp [C.Memory.load?, C.Memory.cells?]

theorem store_octet (u : Octets) (b c : UInt8) :
    C.Memory.store? (some (u.map some ++ some b :: cells) :: rest) 0 u.length [c] =
      some (some (u.map some ++ some c :: cells) :: rest) := by
  have hdrop : (u.map some ++ some b :: cells).drop (u.length + 1) = cells := by
    rw [List.append_cons]
    exact List.drop_left' (by simp)
  simp [C.Memory.store?, hdrop]

theorem string_fresh (fresh : Cells) :
    C.Memory.string? (some cells :: (rest ++ [some fresh])) (.place (rest.length + 1) 0) = untilNul? fresh := by
  simp [C.Memory.string?, C.Memory.cells?]

theorem store_fresh (text : Octets) :
    C.Memory.store? (some cells :: (rest ++ [some (List.replicate (text.length + 1) none)])) (rest.length + 1) 0
        (text ++ [0]) =
      some (some cells :: (rest ++ [some (text.map some ++ [some 0])])) := by
  simp [C.Memory.store?]

end Memory

section Trim

theorem toSize_zero : C.toSize 0 = 0 := by decide

theorem toSize_one : C.toSize 1 = 1 := by decide

theorem promote_eq_newline : ∀ b : UInt8, C.promote b = C.promote 10 ↔ b = 10 :=
  Utf8.forall_octet (by decide +kernel)

@[simp] def promptScope : Scope :=
  [("prompt", ⟨.pointer, .null⟩)]

/-- The names that the line reader knows while it copies a line. -/
@[simp] def lenScope (n : UInt64) : Scope :=
  ("len", ⟨.size, .size n⟩) :: promptScope

/-- A state in which these names are known and the array has these cells. -/
def reading (m : State) (v : Int32) (rest : C.Memory) (locals : Scope) (cells : Cells) : State :=
  { m with locals, globals := emittedGlobals v, memory := some cells :: rest }

variable (c : C.Calls) (m : State) (v : Int32) (rest : C.Memory)

/-- An empty line has no newline. -/
theorem exec_trimLine_nil (cells : Cells) :
    exec c (reading m v rest (lenScope 0) cells) trimLine =
      some (.next, reading m v rest (lenScope 0) cells) := rfl

section LastOctet

variable (u : Octets) (b : UInt8) (tail : Cells) (n : UInt64) (hlast : (n - C.toSize 1).toNat = u.length)

include hlast

theorem eval_lastOctet :
    eval c (reading m v rest (lenScope n) (u.map some ++ some b :: tail)) lastOctet =
      some (.int (C.promote b), reading m v rest (lenScope n) (u.map some ++ some b :: tail)) := by
  have hload :
      C.Memory.load? (some (u.map some ++ some b :: tail) :: rest) 0 (0 + (n - C.toSize 1).toNat) = some b := by
    rw [hlast, Nat.zero_add, load_buffer]
  change (C.Memory.load? (some (u.map some ++ some b :: tail) :: rest) 0 (0 + (n - C.toSize 1).toNat)).bind _ = _
  rw [hload]
  rfl

theorem eval_assign_lastOctet :
    eval c (reading m v rest (lenScope n) (u.map some ++ some b :: tail)) (.assign lastOctet (.char 0)) =
      some (.int (C.promote 0), reading m v rest (lenScope n) (u.map some ++ some 0 :: tail)) := by
  have hstore : C.Memory.store? (some (u.map some ++ some b :: tail) :: rest) 0 (0 + (n - C.toSize 1).toNat) [0] =
      some (some (u.map some ++ some 0 :: tail) :: rest) := by
    rw [hlast, Nat.zero_add, store_octet]
  change (C.Memory.store? (some (u.map some ++ some b :: tail) :: rest) 0 (0 + (n - C.toSize 1).toNat) [0]).bind _ = _
  rw [hstore]
  rfl

end LastOctet

/-- The last octet of a line becomes a NUL if it is a newline. -/
theorem exec_trimLine_append (u : Octets) (b : UInt8) (tail : Cells) (n : UInt64) (hn : n.toNat = u.length + 1) :
    exec c (reading m v rest (lenScope n) (u.map some ++ some b :: tail)) trimLine =
      some (.next, reading m v rest (lenScope n) (u.map some ++ some (if b = 10 then 0 else b) :: tail)) := by
  have hlast : (n - C.toSize 1).toNat = u.length := by
    rw [toSize_one, UInt64.toNat_sub_of_le _ _ (by rw [UInt64.le_iff_toNat_le, hn]; exact Nat.succ_pos _), hn]
    rfl
  have hlength : eval c (reading m v rest (lenScope n) (u.map some ++ some b :: tail))
      (.binary .greater (.name "len") (.number 0)) =
      some (C.truth true, reading m v rest (lenScope n) (u.map some ++ some b :: tail)) := by
    have hpositive : C.toSize 0 < n := by
      rw [toSize_zero, UInt64.lt_iff_toNat_lt, hn]
      exact Nat.succ_pos _
    change some (C.truth (decide (C.toSize 0 < n)), _) = _
    rw [decide_eq_true hpositive]
  have hcompare : eval c (reading m v rest (lenScope n) (u.map some ++ some b :: tail))
      (.binary .equal lastOctet (.char 10)) =
      some (C.truth (C.promote b == C.promote 10), reading m v rest (lenScope n) (u.map some ++ some b :: tail)) := by
    rw [C.eval_binary, eval_lastOctet c m v rest u b tail n hlast]
    rfl
  rw [trimLine, C.exec_cond_of_eval (C.eval_and_of_true hlength hcompare) (C.isTrue?_truth _)]
  by_cases hb : b = 10
  · subst hb
    have hblock : execBlock c (reading m v rest (lenScope n) (u.map some ++ some 10 :: tail))
        (.ofList [.expr (.assign lastOctet (.char 0))]) =
        some (.next, reading m v rest (lenScope n) (u.map some ++ some 0 :: tail)) :=
      C.execBlock_of_next (C.exec_expr_of_eval (eval_assign_lastOctet c m v rest u 10 tail n hlast))
    rw [if_pos (beq_self_eq_true _), blockStmt, C.exec_block, hblock]
    rfl
  · have hne : (C.promote b == C.promote 10) = false :=
      beq_eq_false_iff_ne.mpr fun h => hb ((promote_eq_newline b).1 h)
    rw [hne, if_neg hb]
    rfl

theorem length_chomp_le (line : Octets) : (Console.chomp line).length ≤ line.length := by
  unfold Console.chomp
  split
  · simp
  · exact Nat.le_refl _

/-- What is read of a line: nothing past its first NUL, and no newline. -/
def lineText (line : Octets) : Octets :=
  Console.chomp (line.takeWhile (· != 0))

theorem length_lineText_le (line : Octets) : (lineText line).length ≤ line.length :=
  Nat.le_trans (length_chomp_le _) (List.takeWhile_sublist _).length_le

theorem exists_withLine_eq (cells : Cells) {line u : Octets} {b : UInt8} (h : line.takeWhile (· != 0) = u ++ [b]) :
    ∃ tail, withLine line cells = u.map some ++ some b :: tail := by
  obtain ⟨more, rfl⟩ : ∃ more, line = u ++ [b] ++ more :=
    ⟨_, by rw [← h, List.takeWhile_append_dropWhile]⟩
  exact ⟨more.map some ++ some 0 :: cells.drop ((u ++ [b] ++ more).length + 1), by simp [withLine]⟩

/-- The array holds the line without its newline, up to the first NUL. -/
theorem exec_trimLine (line : Octets) (cells : Cells) (n : UInt64)
    (hn : n.toNat = (line.takeWhile (· != 0)).length) (hline : line.length < cells.length) :
    ∃ cells', untilNul? cells' = some (lineText line) ∧ cells'.length = cells.length ∧
      exec c (reading m v rest (lenScope n) (withLine line cells)) trimLine =
        some (.next, reading m v rest (lenScope n) cells') := by
  have hstring : untilNul? (withLine line cells) = some (line.takeWhile (· != 0)) := untilNul_append line _
  have hlength := length_withLine hline
  unfold lineText
  obtain ht | ⟨u, b, ht⟩ := List.eq_nil_or_concat (line.takeWhile (· != 0))
  · have hzero : n = 0 := UInt64.toNat_inj.1 (by rw [hn, ht]; rfl)
    subst hzero
    rw [ht] at hstring ⊢
    exact ⟨_, hstring, hlength, exec_trimLine_nil c m v rest _⟩
  · rw [List.concat_eq_append] at ht
    obtain ⟨tail, htail⟩ := exists_withLine_eq cells ht
    rw [htail] at hstring hlength ⊢
    rw [ht] at hn hstring ⊢
    refine ⟨_, ?_, ?_, exec_trimLine_append c m v rest u b tail n (by simpa using hn)⟩
    · by_cases hb : b = 10
      · subst hb
        have hu : ∀ a ∈ u, (a != 0) = true := by
          intro a ha
          have hmem : a ∈ line.takeWhile (· != 0) := by
            rw [ht]
            exact List.mem_append_left [10] ha
          exact List.mem_takeWhile_imp (p := (· != 0)) hmem
        rw [if_pos rfl, untilNul_append, List.takeWhile_eq_self_iff.2 hu]
        exact congrArg some (Console.chomp_append_newline u).symm
      · rw [if_neg hb, hstring, Console.chomp_append_of_ne u hb]
    · rw [← hlength]
      simp

end Trim

section LineReader

/-- The next line of an input, as far as it fits the array. -/
def nextLine (input : Octets) : Octets :=
  throughNewline (input.take (Console.bufferSize - 1))

theorem throughNewline_isPrefix (octets : Octets) : throughNewline octets <+: octets := by
  have hfirst := List.take_prefix 1 (octets.dropWhile (· != 10))
  have h := (List.prefix_append_right_inj (octets.takeWhile (· != 10))).2 hfirst
  rwa [List.takeWhile_append_dropWhile] at h

theorem length_nextLine_lt (input : Octets) : (nextLine input).length < Console.bufferSize := by
  have hline := (throughNewline_isPrefix (input.take (Console.bufferSize - 1))).length_le
  have htake := List.length_take_le (Console.bufferSize - 1) input
  exact Nat.lt_of_le_of_lt (Nat.le_trans hline htake) (by decide)

/-- The state once the next line is taken from the input. -/
def taken (m : State) : State :=
  { m with input := m.input.drop (nextLine m.input).length }

/-- The block that holds a copy of a text. -/
def copyCells (text : Octets) : Cells :=
  text.map some ++ [some 0]

variable (s : Settings) (d : Nat) (m : State) (v : Int32) (rest : C.Memory) (locals : Scope) (cells : Cells)

theorem fgets_end (h : m.input = []) :
    C.fgets? m [.place 0 0, .int (Int32.ofNat Console.bufferSize), .stream] = some (.null, m) := by
  simp only [C.fgets?, h]
  rfl

theorem fgets_line (hcells : cells.length = Console.bufferSize) (h : m.input ≠ []) :
    C.fgets? (reading m v rest locals cells) [.place 0 0, .int (Int32.ofNat Console.bufferSize), .stream] =
      some (.place 0 0, reading (taken m) v rest locals (withLine (nextLine m.input) cells)) := by
  have hfits : (nextLine m.input).length < cells.length := hcells ▸ length_nextLine_lt m.input
  have hline : throughNewline (m.input.take ((Int32.ofNat Console.bufferSize).toNatClampNeg - 1)) = nextLine m.input :=
    rfl
  simp only [C.fgets?, reading, hline, store_buffer cells rest hfits]
  rw [if_neg (by decide), if_neg h]
  rfl

/-- Whether there was a line to read. -/
theorem eval_fgets {v' : Value} {m' : State}
    (h : C.fgets? (reading m v rest promptScope cells)
      [.place 0 0, .int (Int32.ofNat Console.bufferSize), .stream] = some (v', m'))
    (hnull : m'.value? "NULL" = some .null) :
    eval (call (emitted s) (d + 1)) (reading m v rest promptScope cells)
        (present (callExpr "fgets" [buffered, .number Console.bufferSize, .name "stdin"])) =
      (C.Binary.compute? .unequal v' .null).bind fun w => some (w, m') := by
  have hbuffer : (reading m v rest promptScope cells).value? bufferName = some (.place 0 0) := rfl
  have hstdin : (reading m v rest promptScope cells).value? "stdin" = some .stream := rfl
  have hsize : Console.bufferSize < 2147483648 := by decide
  simp only [present, callExpr, buffered, C.Args.ofList, C.eval_binary, C.eval_call, C.evalArgs_cons, C.evalArgs_nil,
    C.eval_name, C.eval_number, if_pos hsize, hbuffer, hstdin, Option.bind_some, call_fgets, h, hnull]

/-- A line in the array is copied to a fresh block. -/
theorem execBlock_copyLine (line : Octets) (hline : line.length < cells.length)
    (hcells : cells.length = Console.bufferSize) :
    ∃ cells' n, cells'.length = Console.bufferSize ∧
      execBlock (call (emitted s) (d + 1)) (reading m v rest promptScope (withLine line cells)) (.ofList copyLine) =
        some (.ret (.place (rest.length + 1) 0),
          reading m v (rest ++ [some (copyCells (lineText line))])
            (("result", ⟨.pointer, .place (rest.length + 1) 0⟩) :: lenScope n) cells') := by
  have hsize : (line.takeWhile (· != 0)).length ≤ line.length := (List.takeWhile_sublist _).length_le
  have hbuffer : Console.bufferSize = 1024 := rfl
  have hword : UInt64.size = 18446744073709551616 := rfl
  let n := UInt64.ofNat (line.takeWhile (· != 0)).length
  have hn : n.toNat = (line.takeWhile (· != 0)).length :=
    UInt64.toNat_ofNat_of_lt' (Nat.lt_of_le_of_lt hsize (by omega))
  have hstring : untilNul? (withLine line cells) = some (line.takeWhile (· != 0)) := untilNul_append line _
  obtain ⟨cells', hstring', hlength, htrim⟩ := exec_trimLine (call (emitted s) (d + 1)) m v rest line cells n hn hline
  have hlen : exec (call (emitted s) (d + 1)) (reading m v rest promptScope (withLine line cells))
      (.declare .size "len" (callExpr "strlen" [buffered])) =
      some (.next, reading m v rest (lenScope n) (withLine line cells)) := by
    simp [reading, List.lookup_cons, ThreeAddress.globalName, call_strlen, C.strlen?, string_buffer, hstring, n]
  have hroom : ((lineText line).length + (C.toSize 1).toNat) % 18446744073709551616 = (lineText line).length + 1 := by
    have htext := length_lineText_le line
    rw [toSize_one, UInt64.toNat_one]
    omega
  refine ⟨cells', n, hlength.trans hcells, ?_⟩
  simp only [copyLine, C.Block.ofList, C.execBlock_cons, hlen, Option.bind_some, htrim]
  simp [reading, List.lookup_cons, ThreeAddress.globalName, call_strlen, C.strlen?, string_buffer, hstring',
    call_malloc, C.malloc?, hroom, call_strcpy, C.strcpy?, store_fresh, copyCells]

theorem exec_withoutPrompt (c : C.Calls) (body : C.Stmt) :
    exec c (reading m v rest promptScope cells) (.cond (present (.name "prompt")) body) =
      some (.next, reading m v rest promptScope cells) := rfl

/-- At the end of input the line reader returns a null pointer. -/
theorem call_lineReader_end (hinput : m.input = []) :
    call (emitted s) (d + 2) (reading m v rest locals cells) lineReader [.null] =
      some (.null, reading m v rest locals cells) := by
  have hguard := eval_fgets s d m v rest cells (fgets_end (reading m v rest promptScope cells) hinput) rfl
  have hbody : execBlock (call (emitted s) (d + 1)) (reading m v rest promptScope cells) (.ofList lineReaderBody) =
      some (.ret .null, reading m v rest promptScope cells) :=
    ((C.execBlock_of_next (exec_withoutPrompt m v rest cells _ _)).trans
      (C.execBlock_of_next (C.exec_cond_of_eval hguard rfl))).trans
      (C.execBlock_of_ret (by simp only [C.exec_ret, C.eval_name]; rfl))
  have hcall := C.call_of_ret (d + 1) (reading m v rest locals cells) [.null] (function_lineReader s) rfl hbody rfl
  exact hcall

/-- The line reader returns a fresh copy of the next line. -/
theorem call_lineReader_line (hcells : cells.length = Console.bufferSize) (hinput : m.input ≠ []) :
    ∃ cells', cells'.length = Console.bufferSize ∧
      call (emitted s) (d + 2) (reading m v rest locals cells) lineReader [.null] =
        some (.place (rest.length + 1) 0,
          reading (taken m) v (rest ++ [some (copyCells (lineText (nextLine m.input)))]) locals cells') := by
  have hfits : (nextLine m.input).length < cells.length := hcells ▸ length_nextLine_lt m.input
  obtain ⟨cells', n, hlength, hcopy⟩ :=
    execBlock_copyLine s d (taken m) v rest cells (nextLine m.input) hfits hcells
  have hguard := eval_fgets s d m v rest cells (fgets_line m v rest promptScope cells hcells hinput) rfl
  have hblock :
      exec (call (emitted s) (d + 1)) (reading (taken m) v rest promptScope (withLine (nextLine m.input) cells))
        (blockStmt copyLine) =
      some (.ret (.place (rest.length + 1) 0),
        reading (taken m) v (rest ++ [some (copyCells (lineText (nextLine m.input)))]) promptScope cells') := by
    rw [blockStmt, C.exec_block, hcopy]
    rfl
  have hbody : execBlock (call (emitted s) (d + 1)) (reading m v rest promptScope cells) (.ofList lineReaderBody) =
      some (.ret (.place (rest.length + 1) 0),
        reading (taken m) v (rest ++ [some (copyCells (lineText (nextLine m.input)))]) promptScope cells') :=
    (C.execBlock_of_next (exec_withoutPrompt m v rest cells _ _)).trans
      (C.execBlock_of_ret ((C.exec_cond_of_eval hguard rfl).trans hblock))
  have hcall := C.call_of_ret (d + 1) (reading m v rest locals cells) [.null] (function_lineReader s) rfl hbody rfl
  exact ⟨cells', hlength, hcall⟩

end LineReader

section NumberReader

variable (s : Settings) (d : Nat) (m : State) (v : Int32) (rest : C.Memory) (locals : Scope) (cells : Cells)

/-- The names that the number reader knows while it reads a number from a line. -/
@[simp] def lineScope (line : Value) : Scope :=
  ("str_input", ⟨.pointer, line⟩) :: promptScope

/-- The first statement of the number reader asks for a line. -/
theorem exec_declareLine {c : C.Calls} {line : Value} {m' : State}
    (h : c (reading m v rest promptScope cells) lineReader [.null] = some (line, m'))
    (hconvert : C.convert? .pointer line = some line) (hlocals : m'.locals = promptScope) :
    exec c (reading m v rest promptScope cells)
        (.declare .pointer "str_input" (callExpr lineReader [.name "prompt"])) =
      some (.next, { m' with locals := lineScope line }) := by
  have hprompt : (reading m v rest promptScope cells).value? "prompt" = some .null := rfl
  simp only [C.exec_declare, callExpr, C.Args.ofList, C.eval_call, C.evalArgs_cons, C.evalArgs_nil, C.eval_name,
    hprompt, Option.bind_some, h, State.declare?, hconvert, Option.map_some, hlocals, lineScope]

/-- The end of input reads as zero. -/
theorem call_numberReader_end (hinput : m.input = []) :
    call (emitted s) (d + 3) (reading m v rest locals cells) numberReader [.null] =
      some (.int 0, reading m v rest locals cells) := by
  have hline := exec_declareLine m v rest cells (call_lineReader_end s d m v rest promptScope cells hinput) rfl rfl
  have hbody : execBlock (call (emitted s) (d + 2)) (reading m v rest promptScope cells) (.ofList numberReaderBody) =
      some (.ret (.int 0), reading m v rest (lineScope .null) cells) := by
    refine (C.execBlock_of_next hline).trans ?_
    simp [reading, List.lookup_cons, ThreeAddress.globalName, C.constants]
  have hcall := C.call_of_ret (d + 2) (reading m v rest locals cells) [.null] (function_numberReader s) rfl hbody rfl
  exact hcall

/-- A line reads as the number in front of its first NUL, and its copy is freed. -/
theorem call_numberReader_line (hcells : cells.length = Console.bufferSize) (hinput : m.input ≠ []) :
    ∃ cells', cells'.length = Console.bufferSize ∧
      call (emitted s) (d + 3) (reading m v rest locals cells) numberReader [.null] =
        some (.int (C.atoi ((lineText (nextLine m.input)).takeWhile (· != 0))),
          reading (taken m) v (rest ++ [none]) locals cells') := by
  obtain ⟨cells', hlength, hcopy⟩ := call_lineReader_line s d m v rest promptScope cells hcells hinput
  have hline := exec_declareLine m v rest cells hcopy rfl rfl
  have hstring : untilNul? (copyCells (lineText (nextLine m.input))) =
      some ((lineText (nextLine m.input)).takeWhile (· != 0)) := untilNul_append _ []
  have hbody : execBlock (call (emitted s) (d + 2)) (reading m v rest promptScope cells) (.ofList numberReaderBody) =
      some (.ret (.int (C.atoi ((lineText (nextLine m.input)).takeWhile (· != 0)))),
        reading (taken m) v (rest ++ [none]) (lineScope (.place (rest.length + 1) 0)) cells') := by
    refine (C.execBlock_of_next hline).trans ?_
    simp [reading, List.lookup_cons, ThreeAddress.globalName, C.constants, call_atoi, C.atoi?, string_fresh,
      hstring, call_free, C.free?, State.leave]
  have hcall := C.call_of_ret (d + 2) (reading m v rest locals cells) [.null] (function_numberReader s) rfl hbody rfl
  exact ⟨cells', hlength, hcall⟩

end NumberReader

end RecursiveFactorial.CSource
