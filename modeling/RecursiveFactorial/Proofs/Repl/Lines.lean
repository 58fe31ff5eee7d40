import RecursiveFactorial.CommandLine.Run
import RecursiveFactorial.Proofs.Number

/-!
# Lines of a session

A line is told by its first word, which white characters of any kind stand around, while a number is read off the front
of the whole line, past blanks only. Both agree as long as no white character outside ASCII stands before the word; if
there is one, the line reads as zero. A session puts out what its lines put out by themselves, up to the first one that
asks to leave.
-/
namespace RecursiveFactorial

namespace Text

/-- A line around its first word: white characters before it, and nothing or a white character right after it. -/
structure FirstWord (line : String) (before : List Char) (word : String) (after : List Char) : Prop where
  chars : line.toList = before ++ (word.toList ++ after)
  white : ∀ c ∈ before, isWhite c = true
  nonempty : word.toList ≠ []
  solid : ∀ c ∈ word.toList, isWhite c = false
  stops : ∀ c ∈ after.head?, isWhite c = true

namespace FirstWord

variable {line word : String} {before after : List Char}

/-- A word starts with a character that is not white. -/
theorem exists_cons (h : FirstWord line before word after) :
    ∃ c cs, word.toList = c :: cs ∧ isWhite c = false := by
  obtain ⟨c, cs, hcs⟩ := List.exists_cons_of_ne_nil h.nonempty
  exact ⟨c, cs, hcs, h.solid c (hcs ▸ List.mem_cons_self)⟩

theorem dropWhile_white (h : FirstWord line before word after) :
    line.toList.dropWhile isWhite = word.toList ++ after := by
  obtain ⟨c, cs, hcs, hc⟩ := h.exists_cons
  rw [h.chars, List.dropWhile_append_of_pos h.white, hcs, List.cons_append, List.dropWhile_cons_of_neg (by simp [hc])]

theorem takeWhile_solid (h : FirstWord line before word after) :
    (word.toList ++ after).takeWhile (fun c => !isWhite c) = word.toList := by
  have hsolid : ∀ c ∈ word.toList, (!isWhite c) = true := fun c hc => by simp [h.solid c hc]
  rw [List.takeWhile_append_of_pos hsolid]
  cases after with
  | nil => simp
  | cons d ds => simp [h.stops d rfl]

end FirstWord

theorem firstWord?_eq_some {line word : String} :
    firstWord? line = some word ↔ ∃ before after, FirstWord line before word after := by
  constructor
  · intro h
    unfold firstWord? at h
    split at h
    · cases h
    · rename_i w hne
      cases h
      refine ⟨line.toList.takeWhile isWhite, (line.toList.dropWhile isWhite).dropWhile (fun c => !isWhite c), ?_⟩
      constructor
      · simp only [String.toList_ofList, List.takeWhile_append_dropWhile]
      · exact fun c hc => List.mem_takeWhile_imp hc
      · simpa using hne
      · intro c hc
        have hsolid := List.mem_takeWhile_imp (String.toList_ofList ▸ hc)
        simpa using hsolid
      · intro c hc
        have hstop := List.head?_dropWhile_not (fun c => !isWhite c) (line.toList.dropWhile isWhite)
        rw [Option.mem_def.mp hc] at hstop
        simpa using hstop
  · rintro ⟨before, after, h⟩
    unfold firstWord?
    rw [h.dropWhile_white, h.takeWhile_solid]
    split
    · rename_i hnil
      exact absurd hnil h.nonempty
    · rw [String.ofList_toList]

theorem isBlank_of_ascii {c : Char} (hwhite : isWhite c = true) (hascii : c.toNat < 0x80) : isBlank c = true := by
  have hspace : c = ' ' ↔ c.toNat = 32 := ⟨fun h => h ▸ rfl, fun h => Char.toNat_inj.mp h⟩
  simp only [isWhite, isBlank, Bool.or_eq_true, Bool.and_eq_true, decide_eq_true_eq, beq_iff_eq, hspace] at hwhite ⊢
  omega

theorem isDigit_of_isWhite {c : Char} (h : isWhite c = true) : c.isDigit = false := by
  cases hdigit : c.isDigit with
  | false => rfl
  | true =>
    have hrange : 48 ≤ c.toNat ∧ c.toNat ≤ 57 := by simpa [Char.isDigit, UInt32.le_iff_toNat_le] using hdigit
    simp only [isWhite, Bool.or_eq_true, Bool.and_eq_true, decide_eq_true_eq, beq_iff_eq] at h
    omega

end Text

namespace Number

/-- The digits in front end before any character that is none. -/
theorem readDigits_append (negative : Bool) (cs : List Char) {ds : List Char}
    (hds : ∀ c ∈ ds.head?, c.isDigit = false) : readDigits negative (cs ++ ds) = readDigits negative cs := by
  have hrun : (cs ++ ds).takeWhile Char.isDigit = cs.takeWhile Char.isDigit := by
    induction cs with
    | nil =>
      cases ds with
      | nil => rfl
      | cons d ds => simp [hds d rfl]
    | cons c cs ih =>
      by_cases hc : c.isDigit = true
      · simp only [List.cons_append, List.takeWhile_cons_of_pos hc, ih]
      · simp only [List.cons_append, List.takeWhile_cons_of_neg hc]
  rw [readDigits, hrun, readDigits]

/-- What follows a word does not count for the number that the word starts with. -/
theorem readSigned_append {cs ds : List Char} (hcs : cs ≠ []) (hds : ∀ c ∈ ds.head?, c.isDigit = false) :
    readSigned (cs ++ ds) = readSigned cs := by
  obtain ⟨c, cs, rfl⟩ := List.exists_cons_of_ne_nil hcs
  by_cases hminus : c = '-'
  · subst hminus
    exact readDigits_append true cs hds
  by_cases hplus : c = '+'
  · subst hplus
    exact readDigits_append false cs hds
  rw [List.cons_append, readSigned_of_ne hminus hplus, readSigned_of_ne hminus hplus]
  exact readDigits_append false (c :: cs) hds

/-- A white character that is no blank ends a number before it starts. -/
theorem readSigned_white {c : Char} (h : Text.isWhite c = true) (cs : List Char) : readSigned (c :: cs) = 0 := by
  have hne {d : Char} (hd : Text.isWhite d = false) : c ≠ d := by
    rintro rfl
    rw [h] at hd
    cases hd
  rw [readSigned_of_ne (hne (by decide)) (hne (by decide)), readDigits,
    List.takeWhile_cons_of_neg (by simp [Text.isDigit_of_isWhite h])]
  rfl

section FirstWord

variable {line word : String} {before after : List Char} (h : Text.FirstWord line before word after)
include h

/-- Past blanks, a line reads as its first word does. -/
theorem read_of_ascii (hascii : ∀ c ∈ before, c.toNat < 0x80) : read line = read word := by
  have hblank : ∀ c ∈ before, Text.isBlank c = true := fun c hc =>
    Text.isBlank_of_ascii (h.white c hc) (hascii c hc)
  obtain ⟨c, cs, hcs, hc⟩ := h.exists_cons
  have hstart : Text.isBlank c = false := by
    cases hb : Text.isBlank c with
    | false => rfl
    | true => rw [← hc, Text.isWhite_of_isBlank hb]
  have hstay (ds : List Char) : (c :: ds).dropWhile Text.isBlank = c :: ds :=
    List.dropWhile_cons_of_neg (by simp [hstart])
  have hline : line.toList.dropWhile Text.isBlank = word.toList ++ after := by
    rw [h.chars, List.dropWhile_append_of_pos hblank, hcs, List.cons_append, hstay]
  have hword : word.toList.dropWhile Text.isBlank = word.toList := by rw [hcs, hstay]
  rw [read, read, readWide_eq, readWide_eq, hline, hword,
    readSigned_append h.nonempty fun c hc => Text.isDigit_of_isWhite (h.stops c hc)]

/-- A white character outside ASCII is no blank, so nothing is read past it. -/
theorem read_of_foreign (hforeign : ∃ c ∈ before, 0x80 ≤ c.toNat) : read line = 0 := by
  obtain ⟨c, hc, hforeign⟩ := hforeign
  have hne : before.dropWhile Text.isBlank ≠ [] := by
    intro hnil
    have hblank := List.dropWhile_eq_nil_iff.mp hnil c hc
    rw [asciiClass_blank.foreignChar c hforeign] at hblank
    cases hblank
  obtain ⟨d, ds, hds⟩ := List.exists_cons_of_ne_nil hne
  have hd : Text.isWhite d = true := h.white d ((List.dropWhile_sublist _).mem (hds ▸ List.mem_cons_self))
  have hline : line.toList.dropWhile Text.isBlank = d :: (ds ++ (word.toList ++ after)) := by
    rw [h.chars, List.dropWhile_append, hds]
    simp
  rw [read, readWide_eq, hline, readSigned_white hd]
  rfl

end FirstWord

end Number

namespace Repl

open Text (FirstWord)

/-- The first words that are not taken for a number. -/
def commands : List String :=
  ["help", "q", "quit"]

/-- A line that asks to leave. -/
def Leaves (line : String) : Prop :=
  ∃ before word after, FirstWord line before word after ∧ (word = "q" ∨ word = "quit")

/-- A line with a number that has no factorial. -/
def Fails (s : Settings) (line : String) : Prop :=
  ∃ before word after cause, FirstWord line before word after ∧ word ∉ commands ∧ factorialOn s line = .error cause

section Replies

theorem leaves_iff {line : String} :
    Leaves line ↔ Text.firstWord? line = some "q" ∨ Text.firstWord? line = some "quit" := by
  simp only [Leaves, Text.firstWord?_eq_some]
  constructor
  · rintro ⟨before, word, after, h, rfl | rfl⟩
    · exact .inl ⟨before, after, h⟩
    · exact .inr ⟨before, after, h⟩
  · rintro (⟨before, after, h⟩ | ⟨before, after, h⟩)
    · exact ⟨before, "q", after, h, .inl rfl⟩
    · exact ⟨before, "quit", after, h, .inr rfl⟩

instance Leaves.decidable (line : String) : Decidable (Leaves line) :=
  decidable_of_iff _ leaves_iff.symm

/-- What an evaluation puts out: the label and the result, and nothing if there is none. -/
def shownResult (s : Settings) : Except Rejection Int32 → String
  | .ok result => s.label ++ " " ++ Number.decimal result.toInt ++ "\n"
  | .error _ => ""

theorem reply_leaves (s : Settings) {line : String} (h : Leaves line) : reply s line = { leave := true } := by
  unfold reply
  obtain h | h := leaves_iff.mp h
  · rw [h]
    rfl
  · rw [h]
    rfl

theorem leave_of_not_leaves (s : Settings) {line : String} (h : ¬ Leaves line) : (reply s line).leave = false := by
  rw [leaves_iff, not_or] at h
  unfold reply
  split
  · rfl
  · rfl
  · rename_i hq
    exact absurd hq h.1
  · rename_i hquit
    exact absurd hquit h.2
  · split <;> rfl

theorem out_of_blank (s : Settings) {line : String} (h : ∀ c ∈ line.toList, Text.isWhite c = true) :
    (reply s line).out = "" := by
  have hfirst : Text.firstWord? line = none := by
    unfold Text.firstWord?
    rw [List.dropWhile_eq_nil_iff.mpr h]
    rfl
  rw [reply, hfirst]

theorem out_of_help (s : Settings) {line : String} {before after : List Char}
    (h : FirstWord line before "help" after) :
    (reply s line).out = "help - show this help\nq | quit - leave\n<n> - print n!\n" := by
  rw [reply, Text.firstWord?_eq_some.mpr ⟨before, after, h⟩]
  rfl

theorem out_of_number (s : Settings) {line word : String} {before after : List Char}
    (h : FirstWord line before word after) (hword : word ∉ commands) :
    (reply s line).out = shownResult s (factorialOn s line) := by
  have hfirst := Text.firstWord?_eq_some.mpr ⟨before, after, h⟩
  simp only [commands, List.mem_cons, List.not_mem_nil, or_false, not_or] at hword
  unfold reply
  rw [hfirst]
  split
  · rename_i heq
    cases heq
  · rename_i heq
    exact absurd (Option.some.inj heq) hword.1
  · rename_i heq
    exact absurd (Option.some.inj heq) hword.2.1
  · rename_i heq
    exact absurd (Option.some.inj heq) hword.2.2
  · cases factorialOn s line <;> rfl

theorem out_of_fails {s : Settings} {line : String} (h : Fails s line) : (reply s line).out = "" := by
  obtain ⟨before, word, after, cause, hline, hword, hcause⟩ := h
  rw [out_of_number s hline hword, hcause]
  rfl

theorem not_leaves_of_fails {s : Settings} {line : String} (h : Fails s line) : ¬ Leaves line := by
  obtain ⟨before, word, after, cause, hline, hword, -⟩ := h
  rw [leaves_iff, Text.firstWord?_eq_some.mpr ⟨before, after, hline⟩]
  rintro (heq | heq)
  · exact hword (Option.some.inj heq ▸ by decide)
  · exact hword (Option.some.inj heq ▸ by decide)

end Replies

section Runs

variable (s : Settings) (shown : String)

/-- A line that stays adds what it puts out by itself. -/
theorem answerAll_stays (t : Transcript) {line : String} (h : ¬ Leaves line) (ds : List Delivery) :
    answerAll s shown t (.line line :: ds) =
      answerAll s shown
        ⟨t.out ++ shown ++ (reply s line).out, t.err ++ (reply s line).err, t.history.add line⟩ ds := by
  simp [answerAll, take, leave_of_not_leaves s h]

theorem answerAll_leaves (t : Transcript) {line : String} (h : Leaves line) (ds : List Delivery) :
    (answerAll s shown t (.line line :: ds)).out = t.out ++ shown := by
  simp [answerAll, take, reply_leaves s h]

/-- The lines in front of the first one that asks to leave. -/
def stayed (lines : List String) : List String :=
  lines.takeWhile fun line => ¬ Leaves line

/-- The last thing that is put out: whether the lines came to their end. -/
def ending (lines : List String) : String :=
  if ∃ line ∈ lines, Leaves line then "" else "CTRL-D\n"

/-- What all lines put out together, where the prompt is shown before each line that is waited for. -/
theorem out_answerAll (t : Transcript) (lines : List String) :
    (answerAll s shown t (lines.map .line)).out =
      t.out ++ String.join ((stayed lines).map fun line => shown ++ (reply s line).out) ++ shown ++ ending lines := by
  induction lines generalizing t with
  | nil => simp [answerAll, take, stayed, ending, endText]
  | cons line lines ih =>
    rw [List.map_cons]
    by_cases hline : Leaves line
    · rw [answerAll_leaves s shown t hline]
      simp [stayed, ending, hline]
    · have hstayed : stayed (line :: lines) = line :: stayed lines := by simp [stayed, hline]
      have hending : ending (line :: lines) = ending lines := by simp [ending, hline]
      rw [answerAll_stays s shown t hline, ih, hstayed, hending]
      simp [String.append_assoc]

/-- A line that fails could as well not be there. -/
theorem out_answerAll_fails {line : String} (h : Fails s line) (t : Transcript) (before after : List String) :
    (answerAll s "" t ((before ++ line :: after).map .line)).out =
      (answerAll s "" t ((before ++ after).map .line)).out := by
  induction before generalizing t with
  | nil =>
    rw [List.nil_append, List.nil_append, List.map_cons, answerAll_stays s "" t (not_leaves_of_fails h), out_answerAll,
      out_answerAll, out_of_fails h]
    simp
  | cons first before ih =>
    rw [List.cons_append, List.cons_append, List.map_cons, List.map_cons]
    by_cases hfirst : Leaves first
    · rw [answerAll_leaves s "" t hfirst, answerAll_leaves s "" t hfirst]
    · rw [answerAll_stays s "" t hfirst, answerAll_stays s "" t hfirst, ih]

/-- The standard output does not depend on what becomes of the history. -/
theorem out_finishRepl (start : CommandLine.Start) :
    (CommandLine.finishRepl s start).out =
      Utf8.encode (session s (History.load (start.files.read History.fileName)) start.showPrompt start.input).out := by
  unfold CommandLine.finishRepl
  dsimp only
  split
  · rfl
  · split <;> rfl

theorem promptOf_eq : promptOf s = if s.prompt = "" then ">> " else s.prompt := by
  unfold promptOf Settings.prompt?
  split <;> rfl

end Runs

/-- What the lines of a session put out, apart from the prompt that the editor may show before each, is what each of
them puts out by itself, up to the first one that asks to leave, and `CTRL-D` if there is none such. So it is for the
program as a whole, which puts out the banner first. By itself a blank line puts out nothing, and a line that starts
with `help` puts out the help. Any other line that does not ask to leave stands for the number that its first word
reads as, or for zero if a white character outside ASCII stands before that word, and it puts out the label and the
result. A line that fails puts out nothing, and without a prompt the others put out the same without it. -/
theorem session_answers_lines (s : Settings) (lines : List String) :
    (∀ (shown : String) (t : Transcript),
      (answerAll s shown t (lines.map .line)).out =
        t.out ++ String.join ((stayed lines).map fun line => shown ++ (reply s line).out) ++ shown ++ ending lines) ∧
    (∀ (start : CommandLine.Start) (shown : String),
      shown = (if start.showPrompt then (if s.prompt = "" then ">> " else s.prompt) else "") →
      deliveries start.input = lines.map .line →
      (CommandLine.finishRepl s start).out =
        Utf8.encode ((if (History.load (start.files.read History.fileName)).2 then "" else "No previous history\n") ++
          s.banner ++ "\n" ++ String.join ((stayed lines).map fun line => shown ++ (reply s line).out) ++ shown ++
          ending lines)) ∧
    (∀ line, Fails s line →
      (reply s line).out = "" ∧ ∀ (t : Transcript) (before after : List String),
        (answerAll s "" t ((before ++ line :: after).map .line)).out =
          (answerAll s "" t ((before ++ after).map .line)).out) ∧
    (∀ line, (∀ c ∈ line.toList, Text.isWhite c = true) → (reply s line).out = "") ∧
    (∀ line before after, FirstWord line before "help" after →
      (reply s line).out = "help - show this help\nq | quit - leave\n<n> - print n!\n") ∧
    ∀ line before word after, FirstWord line before word after → word ∉ commands →
      ((∀ c ∈ before, c.toNat < 0x80) → factorialOn s line = s.mode.eval (Number.read word)) ∧
      ((∃ c ∈ before, 0x80 ≤ c.toNat) → factorialOn s line = s.mode.eval 0) ∧
      (reply s line).out = shownResult s (factorialOn s line) := by
  refine ⟨fun shown t => out_answerAll s shown t lines, fun start shown hshown hlines => ?_,
    fun line h => ⟨out_of_fails h, out_answerAll_fails s h⟩, fun line h => out_of_blank s h,
    fun line before after h => out_of_help s h,
    fun line before word after h hword => ⟨fun hascii => ?_, fun hforeign => ?_, out_of_number s h hword⟩⟩
  · rw [out_finishRepl, session, hlines, promptOf_eq, ← hshown]
    exact congrArg Utf8.encode (out_answerAll s shown _ lines)
  · rw [factorialOn, Number.read_of_ascii h hascii]
  · rw [factorialOn, Number.read_of_foreign h hforeign]

/-- A number, a negative one, a number behind a space that is not ASCII, a blank line, the help and a line that asks to
leave before the last number; and a single number on the standard input of the program, which shows its prompt. -/
theorem session_answers_lines_mixed :
    ∃ s : Settings, s.label = "L" ∧ s.banner = "B" ∧ s.prompt = "" ∧
      (answerAll s "" {} (["3", "-1", "\u00a05", " ", "help me", " q ", "4"].map .line)).out =
        "L 6\nL 1\nhelp - show this help\nq | quit - leave\n<n> - print n!\n" ∧
      (∀ files, (CommandLine.finishRepl s { args := [], input := [0x33, 0x0a], files, showPrompt := true }).out =
        Utf8.encode ((if (History.load (files.read History.fileName)).2 then "" else "No previous history\n") ++
          "B\n>> L 6\n>> CTRL-D\n")) ∧
      Fails s "-1" ∧ (reply s "-1").out = "" ∧
      FirstWord "\u00a05" ['\u00a0'] "5" [] ∧ factorialOn s "\u00a05" = .ok 1 := by
  have hnegative : FirstWord "-1" [] "-1" [] := ⟨rfl, by simp, by simp, by simp [Text.isWhite], by simp⟩
  have hforeign : FirstWord "\u00a05" ['\u00a0'] "5" [] :=
    ⟨rfl, by simp [Text.isWhite], by simp, by simp [Text.isWhite], by simp⟩
  have hfails : Fails { label := "L", banner := "B" } "-1" := ⟨_, _, _, .negative (-1), hnegative, by decide, rfl⟩
  have hdelivered : deliveries [0x33, 0x0a] = ["3"].map .line := by decide +kernel
  obtain ⟨hrun, -, hfailed, -, -, hnumber⟩ := session_answers_lines { label := "L", banner := "B" }
    ["3", "-1", "\u00a05", " ", "help me", " q ", "4"]
  refine ⟨_, rfl, rfl, rfl, ?_, fun files => ?_, hfails, (hfailed _ hfails).1, hforeign, ?_⟩
  · rw [hrun "" {}]
    decide +kernel
  · have hanswered :
        String.join ((stayed ["3"]).map fun line => ">> " ++ (reply { label := "L", banner := "B" } line).out) =
          ">> L 6\n" := by decide +kernel
    have hending : ending ["3"] = "CTRL-D\n" := by decide +kernel
    rw [(session_answers_lines { label := "L", banner := "B" } ["3"]).2.1
      { args := [], input := [0x33, 0x0a], files, showPrompt := true } ">> " rfl hdelivered, hanswered, hending]
    simp only [String.append_assoc]
    rfl
  · exact (hnumber _ _ _ _ hforeign (by decide)).2.1 ⟨'\u00a0', by simp, by decide⟩

end Repl

end RecursiveFactorial
