import RecursiveFactorial.Proofs.Console.Stream

/-!
# One line, and all lines

A read of one line is decided by the octets that stand in front of the first failure or end of input, and by what that
is. A newline and the limit come first: where either is met, whatever follows is left for the next read, also if it
follows at once. From a stream the reads go on until nothing is left, and the lines are pieces of the stream, without
loss or overlap.
-/
namespace RecursiveFactorial.Console

section OneLine

/-- The octets in front of the first failure or end of input. -/
def ahead : List Mark → Octets
  | [] => []
  | .octet b :: ms => b :: ahead ms
  | .pause :: _ => []
  | .failure _ :: _ => []

/-- What stands behind the octets. -/
inductive Stop where
  /-- The end of input that lasts. -/
  | final
  /-- An end of input that is seen once. -/
  | pause
  | failure (text : String)
  deriving DecidableEq, Repr

def stop : List Mark → Stop
  | [] => .final
  | .octet _ :: ms => stop ms
  | .pause :: _ => .pause
  | .failure text :: _ => .failure text

/-- What a line comes to that is stopped there: a failure loses it, and without octets there is no line. -/
def Stop.outcome (line : Octets) : Stop → Except String (Option Octets)
  | .failure text => .error text
  | .pause => .ok (if line = [] then none else some line)
  | .final => .ok (if line = [] then none else some line)

/-- Marks up to the first stop are octets. -/
theorem map_take_ahead {ms : List Mark} {n : Nat} (hn : n ≤ (ahead ms).length) :
    ((ahead ms).take n).map .octet ++ ms.drop n = ms := by
  induction ms generalizing n with
  | nil => simp [ahead]
  | cons m ms ih =>
    cases n with
    | zero => rfl
    | succ n =>
      cases m with
      | octet b =>
        have hn : n ≤ (ahead ms).length := by simpa [ahead] using hn
        rw [ahead, List.take_succ_cons, List.drop_succ_cons, List.map_cons, List.cons_append, ih hn]
      | pause => simp [ahead] at hn
      | failure text => simp [ahead] at hn

/-- Octets without a newline are added to the line while there is room. -/
theorem readMarks_append {u : Octets} (hu : newline ∉ u) (room : Nat) (line : Octets) (ms : List Mark) :
    readMarks (u.length + room) line (u.map .octet ++ ms) = readMarks room (line ++ u) ms := by
  induction u generalizing line with
  | nil => simp
  | cons b u ih =>
    obtain ⟨hb, hu⟩ : newline ≠ b ∧ newline ∉ u := by simpa using hu
    have hroom : (b :: u).length + room = (u.length + room) + 1 := by
      rw [List.length_cons]
      omega
    rw [hroom, List.map_cons, List.cons_append, readMarks, if_neg hb.symm, ih hu, List.append_assoc]
    rfl

/-- A line with room left takes the stop. -/
theorem readMarks_stop (room : Nat) (line : Octets) (ms : List Mark) :
    readMarks (room + 1) line (ms.drop (ahead ms).length) =
      ⟨(stop ms).outcome line, line.length, ms.drop ((ahead ms).length + 1)⟩ := by
  induction ms with
  | nil => rfl
  | cons m ms ih =>
    cases m with
    | octet b => simpa [ahead, stop] using ih
    | pause => rfl
    | failure text => rfl

theorem readMarks_newline {u : Octets} (hu : newline ∉ u) (room : Nat) (ms : List Mark) :
    readMarks (u.length + room + 1) [] ((u ++ [newline]).map .octet ++ ms) =
      ⟨.ok (some (u ++ [newline])), u.length + 1, ms⟩ := by
  rw [List.map_append, List.append_assoc, Nat.add_assoc, readMarks_append hu]
  rfl

theorem extendLine_error {room : Nat} {line : Octets} {events : List Event} {text : String}
    (h : (extendLine room line events).outcome = .error text) : .failure text ∈ events := by
  fun_induction extendLine room line events with
  | case1 => cases h
  | case2 => cases h
  | case3 => cases h
  | case4 room line events hroom ih => exact List.mem_cons_of_mem _ (ih h)
  | case5 room line events hroom text' =>
    cases h
    exact List.mem_cons_self
  | case6 => cases h
  | case7 room line events hroom octets hne part rest hcut longer hopen ih => exact List.mem_cons_of_mem _ (ih h)
  | case8 => cases h

variable {limit : Nat} {ms : List Mark}

/-- The first newline ends the line, and nothing behind it is looked at. -/
theorem readMarks_of_newline (h : newline ∈ (ahead ms).take limit) :
    readMarks limit [] ms =
      ⟨.ok (some ((ahead ms).take ((ahead ms).idxOf newline + 1))), (ahead ms).idxOf newline + 1,
        ms.drop ((ahead ms).idxOf newline + 1)⟩ := by
  obtain ⟨u, v, hahead, hu⟩ := List.eq_append_cons_of_mem (List.mem_of_mem_take h)
  have hindex : (ahead ms).idxOf newline = u.length := by
    rw [hahead, List.idxOf_append, if_neg hu, List.idxOf_cons_self, Nat.zero_add]
  have htake : (ahead ms).take (u.length + 1) = u ++ [newline] := by
    rw [hahead, List.take_length_add_append]
    rfl
  -- The newline is among the first `limit` octets, and `u` has none.
  have hroom : u.length < limit := by
    apply Nat.lt_of_not_le
    intro hle
    rw [hahead, List.take_append_of_le_length hle] at h
    exact hu (List.mem_of_mem_take h)
  obtain ⟨room, rfl⟩ := Nat.exists_eq_add_of_lt hroom
  have hmarks : (u ++ [newline]).map .octet ++ ms.drop (u.length + 1) = ms := by
    rw [← htake]
    exact map_take_ahead (by simp [hahead])
  have hread := readMarks_newline hu room (ms.drop (u.length + 1))
  rw [hmarks] at hread
  rw [hindex, htake, hread]

/-- A line that is full without a newline looks at nothing behind it either. -/
theorem readMarks_of_full (h : newline ∉ (ahead ms).take limit) (hfull : limit ≤ (ahead ms).length) :
    readMarks limit [] ms = ⟨.ok (some ((ahead ms).take limit)), limit, ms.drop limit⟩ := by
  have hlength : ((ahead ms).take limit).length = limit := List.length_take_of_le hfull
  have hread := readMarks_append h 0 [] (ms.drop limit)
  rwa [map_take_ahead hfull, hlength, List.nil_append, readMarks, hlength] at hread

/-- A line with room left comes to the stop and takes it. -/
theorem readMarks_of_short (h : newline ∉ (ahead ms).take limit) (hshort : (ahead ms).length < limit) :
    readMarks limit [] ms = ⟨(stop ms).outcome (ahead ms), (ahead ms).length, ms.drop ((ahead ms).length + 1)⟩ := by
  rw [List.take_of_length_le (Nat.le_of_lt hshort)] at h
  have hmarks := map_take_ahead (Nat.le_refl (ahead ms).length)
  rw [List.take_length] at hmarks
  obtain ⟨room, rfl⟩ := Nat.exists_eq_add_of_lt hshort
  have hread := readMarks_append h (room + 1) [] (ms.drop (ahead ms).length)
  rw [hmarks] at hread
  exact hread.trans (readMarks_stop room (ahead ms) ms)

/-- A read is decided by the octets in front of the first stop. If there is a newline among the first `limit` of them,
it takes the octets through the first newline, and else it takes `limit` of them if there are so many. In both cases
the marks behind these octets are all left. Otherwise it takes all the octets and the stop: a failure is passed on, and
at an end of input the octets are the line, which is missing if there are none. No failure is reported but those of the
input, and an interruption is none. -/
theorem readLine_exact (limit : Nat) (events : List Event) :
    let ms := marks events
    let octets := ahead ms
    let through := octets.idxOf newline + 1
    (newline ∈ octets.take limit →
      (readLine limit events).marks = ⟨.ok (some (octets.take through)), through, ms.drop through⟩) ∧
    (newline ∉ octets.take limit → limit ≤ octets.length →
      (readLine limit events).marks = ⟨.ok (some (octets.take limit)), limit, ms.drop limit⟩) ∧
    (newline ∉ octets.take limit → octets.length < limit →
      (readLine limit events).marks =
        ⟨(stop ms).outcome octets, octets.length, ms.drop (octets.length + 1)⟩) ∧
    ∀ text, (readLine limit events).outcome = .error text → .failure text ∈ events := by
  intro ms octets through
  rw [readLine_marks]
  exact ⟨readMarks_of_newline, readMarks_of_full, readMarks_of_short, fun text => extendLine_error⟩

/-- A newline that is the last octet with room and a failure at once behind it; a full line and an end of input at once
behind it; and a line with room left that comes to a failure. -/
theorem readLine_exact_edges :
    (newline ∈ ([97, 10] : Octets).take 2 ∧
      (readLine 2 [.chunk [97], .interrupted, .chunk [10], .failure "gone"]).marks =
        ⟨.ok (some [97, 10]), 2, [.failure "gone"]⟩) ∧
    (newline ∉ ([97, 98] : Octets).take 2 ∧ 2 ≤ ([97, 98] : Octets).length ∧
      (readLine 2 [.chunk [97, 98], .chunk []]).marks = ⟨.ok (some [97, 98]), 2, [.pause]⟩) ∧
    newline ∉ ([97, 98] : Octets).take 3 ∧ ([97, 98] : Octets).length < 3 ∧
      (readLine 3 [.chunk [97, 98], .failure "gone", .chunk [99]]).marks = ⟨.error "gone", 2, [.octet 99]⟩ := by
  have hnewline : newline ∈ ([97, 10] : Octets).take 2 := by decide
  have hfull : newline ∉ ([97, 98] : Octets).take 2 := by decide
  have hshort : newline ∉ ([97, 98] : Octets).take 3 := by decide
  exact ⟨⟨hnewline, (readLine_exact 2 _).1 hnewline⟩,
    ⟨hfull, by decide, (readLine_exact 2 _).2.1 hfull (by decide)⟩,
    hshort, by decide, (readLine_exact 3 _).2.2.1 hshort (by decide)⟩

end OneLine

section AllLines

/-- A line of at most `room` octets that was cut off in front of `rest`, and not without a reason. -/
structure CutOff (room : Nat) (line rest : Octets) : Prop where
  short : line.length ≤ room
  newline_last : newline ∉ line.dropLast
  ended : rest ≠ [] → line.getLast? = some newline ∨ line.length = room

theorem cutOff_cutLine (room : Nat) (s : Octets) : CutOff room (cutLine room s).1 (cutLine room s).2 := by
  fun_induction cutLine room s with
  | case1 s => exact ⟨Nat.le_refl 0, by simp, fun _ => .inr rfl⟩
  | case2 room => exact ⟨Nat.zero_le _, by simp, fun h => absurd rfl h⟩
  | case3 room s => exact ⟨by simp, by simp, fun _ => .inl rfl⟩
  | case4 room b s hb line rest hcut ih =>
    rw [hcut] at ih
    refine ⟨Nat.succ_le_succ ih.short, ?_, fun hrest => ?_⟩
    · cases line with
      | nil => simp
      | cons a line =>
        rw [List.dropLast_cons_of_ne_nil (by simp), List.mem_cons, not_or]
        exact ⟨Ne.symm hb, ih.newline_last⟩
    · rw [getLast?_cons_eq_newline hb, List.length_cons, Nat.add_right_cancel_iff]
      exact ih.ended hrest

/-- Reads until there is no line any more give these lines. -/
inductive Drains (limit : Nat) : List Event → List Octets → Prop where
  | done {events : List Event} (h : (readLine limit events).outcome = .ok none) : Drains limit events []
  | line {events : List Event} {line : Octets} {lines : List Octets}
      (h : (readLine limit events).outcome = .ok (some line))
      (hlines : Drains limit (readLine limit events).rest lines) : Drains limit events (line :: lines)

theorem Drains.unique {limit : Nat} {events : List Event} {lines lines' : List Octets} (h : Drains limit events lines)
    (h' : Drains limit events lines') : lines = lines' := by
  induction h generalizing lines' with
  | done hnone =>
    cases h' with
    | done => rfl
    | line hline => cases hnone.symm.trans hline
  | line hline _ ih =>
    cases h' with
    | done hnone => cases hnone.symm.trans hline
    | line hline' hlines' =>
      cases hline.symm.trans hline'
      rw [ih hlines']

/-- A stream in pieces: all of it, in order, each piece as long as the newlines and the limit allow. -/
structure Pieces (limit : Nat) (s : Octets) (lines : List Octets) : Prop where
  flatten : lines.flatten = s
  ne_nil : ∀ line ∈ lines, line ≠ []
  short : ∀ line ∈ lines, line.length ≤ limit
  newline_last : ∀ line ∈ lines, newline ∉ line.dropLast
  ended : ∀ line ∈ lines.dropLast, line.getLast? = some newline ∨ line.length = limit

theorem Pieces.nil (limit : Nat) : Pieces limit [] [] := by
  constructor <;> simp

theorem Pieces.cons {limit : Nat} {line rest : Octets} {lines : List Octets} (hne : line ≠ [])
    (hline : CutOff limit line rest) (hlines : Pieces limit rest lines) :
    Pieces limit (line ++ rest) (line :: lines) where
  flatten := by rw [List.flatten_cons, hlines.flatten]
  ne_nil := List.forall_mem_cons.mpr ⟨hne, hlines.ne_nil⟩
  short := List.forall_mem_cons.mpr ⟨hline.short, hlines.short⟩
  newline_last := List.forall_mem_cons.mpr ⟨hline.newline_last, hlines.newline_last⟩
  ended := by
    cases lines with
    | nil => simp
    | cons next lines =>
      -- A piece that is not the last has a piece behind it, so it was not cut off by the end of the stream.
      have hrest : rest ≠ [] := by
        rw [← hlines.flatten, List.flatten_cons]
        exact List.append_ne_nil_of_left_ne_nil (hlines.ne_nil next List.mem_cons_self) _
      rw [List.dropLast_cons_of_ne_nil (by simp)]
      exact List.forall_mem_cons.mpr ⟨hline.ended hrest, hlines.ended⟩

/-- Reading a stream line by line comes to an end, whatever its chunks and interruptions, and the lines are the pieces
of the stream. -/
theorem lines_of_stream {limit : Nat} (hlimit : 0 < limit) {events : List Event} {s : Octets} (h : Streams events s) :
    ∃ lines, Drains limit events lines ∧ (∀ other, Drains limit events other → other = lines) ∧
      Pieces limit s lines := by
  suffices hdrains : ∃ lines, Drains limit events lines ∧ Pieces limit s lines by
    obtain ⟨lines, hlines, hpieces⟩ := hdrains
    exact ⟨lines, hlines, fun other hother => hother.unique hlines, hpieces⟩
  -- Each line takes something off the stream.
  induction hn : s.length using Nat.strongRecOn generalizing events s with
  | ind n ih =>
    obtain ⟨houtcome, -, hrest⟩ := readLine_stream hlimit h
    by_cases hs : s = []
    · subst hs
      exact ⟨[], .done houtcome, .nil limit⟩
    · rw [if_neg hs] at houtcome
      have hne := cutLine_ne_nil hlimit hs
      have happend := cutLine_append limit s
      have hlength := congrArg List.length happend
      have hpos := List.length_pos_iff.mpr hne
      rw [List.length_append] at hlength
      obtain ⟨lines, hlines, hpieces⟩ := ih _ (by omega) hrest rfl
      have hall := hpieces.cons hne (cutOff_cutLine limit s)
      rw [happend] at hall
      exact ⟨_, .line houtcome hlines, hall⟩

/-- A line of exactly two octets whose newline is left for the next read, on a stream in chunks with an interruption.
-/
theorem lines_of_stream_twoOctets :
    0 < 2 ∧ Streams [.chunk [97], .interrupted, .chunk [98, 10, 99], .chunk [10, 100]] [97, 98, 10, 99, 10, 100] ∧
      ∃ lines, Drains 2 [.chunk [97], .interrupted, .chunk [98, 10, 99], .chunk [10, 100]] lines ∧
        lines = [[97, 98], [10], [99, 10], [100]] ∧ Pieces 2 [97, 98, 10, 99, 10, 100] lines := by
  have hstream : Streams [.chunk [97], .interrupted, .chunk [98, 10, 99], .chunk [10, 100]]
      [97, 98, 10, 99, 10, 100] := by decide
  have hdrains : Drains 2 [.chunk [97], .interrupted, .chunk [98, 10, 99], .chunk [10, 100]]
      [[97, 98], [10], [99, 10], [100]] :=
    .line rfl (.line rfl (.line rfl (.line rfl (.done rfl))))
  obtain ⟨lines, hlines, honly, hpieces⟩ := lines_of_stream (by decide : 0 < 2) hstream
  exact ⟨by decide, hstream, lines, hlines, (honly _ hdrains).symm, hpieces⟩

end AllLines

end RecursiveFactorial.Console
