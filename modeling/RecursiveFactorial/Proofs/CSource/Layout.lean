import RecursiveFactorial.CSource.Listing
import RecursiveFactorial.Proofs.Text.Utf8

/-!
# The lines of a listing

What a listing gains from a program is a list of lines that depends on the program alone. The lines of a block are its
declarations, one line for each instruction in order, and an empty statement after a label that
would otherwise end the block. Levels are left as often as they are entered, so nothing fails, and one listing may take
several programs in turn.
-/
namespace RecursiveFactorial.CSource

open ThreeAddress

/-- A line at a level. -/
def indented (level : Nat) (text : String) : String :=
  Listing.margin level ++ text

@[simp] theorem indented_zero (text : String) : indented 0 text = text := by
  simp [indented, Listing.margin]

theorem newline_not_mem_indented {level : Nat} {text : String} (h : '\n' ∉ text.toList) :
    '\n' ∉ (indented level text).toList := by
  simp [indented, Listing.margin, h]

def isLabel : Instr → Bool
  | .label _ => true
  | _ => false

/-- A label stands one level out. -/
def instrLine (level : Nat) (i : Instr) : String :=
  indented (if isLabel i then level - 1 else level) (statement i)

def tempLines (level : Nat) (ts : List Nat) : List String :=
  if ts = [] then []
  else indented level "// Temporary variables" ::
    ts.map (fun t => indented level ("int " ++ tempName t ++ " = 0;")) ++ [""]

/-- The empty statement after a label that is the last instruction. -/
def fillLines (level : Nat) (body : List Instr) : List String :=
  if (body.getLast?.map isLabel).getD false then [indented level ";  // Empty statement after label"] else []

def blockLines (level : Nat) (body : List Instr) : List String :=
  tempLines level (assignedTemps body) ++ body.map (instrLine level) ++ fillLines level body

def functionLines (f : Function) : List String :=
  (signature f ++ " \x7b") :: blockLines 1 f.body ++ ["\x7d", ""]

def mainLines (body : List Instr) : List String :=
  "int main() \x7b" :: blockLines 1 body ++ ["", indented 1 "return 0;", "\x7d"]

def preambleLines : List String :=
  Listing.includes.map (fun name => "#include <" ++ name ++ ">") ++
    ["", "// Input handling", "#define INPUT_BUFFER_SIZE " ++ natural Console.bufferSize,
      "char __input_buffer[INPUT_BUFFER_SIZE];", ""] ++ Listing.inputFunctions ++ [""]

def titledLines (title : String) (texts : List String) : List String :=
  if texts = [] then [] else title :: texts ++ [""]

def declarationLines (p : Program) : List String :=
  titledLines "// Forward declarations" (p.functions.map fun f => signature f ++ ";") ++
    titledLines "// Global variables" (p.globals.map fun name => "int " ++ name ++ ";  // Global variable")

/-- All lines of a program. -/
def programLines (p : Program) : List String :=
  preambleLines ++ declarationLines p ++ p.functions.flatMap functionLines ++ mainLines p.main

/-- The octets of lines, each with its newline. -/
def lineOctets (texts : List String) : Octets :=
  texts.flatMap fun text => Utf8.encode text ++ ['\n'.toUInt8]

/-- The characters of lines, each with its newline. -/
def lineChars (texts : List String) : List Char :=
  texts.flatMap fun text => text.toList ++ ['\n']

theorem mem_tempLines {level : Nat} {ts : List Nat} {text : String} (h : text ∈ tempLines level ts) :
    text = indented level "// Temporary variables" ∨
      (∃ t, text = indented level ("int " ++ tempName t ++ " = 0;")) ∨ text = "" := by
  unfold tempLines at h
  split at h
  · cases h
  · simp only [List.cons_append, List.mem_cons, List.mem_append, List.mem_map, List.not_mem_nil, or_false] at h
    obtain rfl | ⟨t, -, rfl⟩ | rfl := h
    · exact .inl rfl
    · exact .inr (.inl ⟨t, rfl⟩)
    · exact .inr (.inr rfl)

theorem encode_lineChars (texts : List String) : Utf8.encode (String.ofList (lineChars texts)) = lineOctets texts := by
  induction texts with
  | nil => simp [lineChars, lineOctets]
  | cons text texts ih =>
    simp only [Utf8.encode, String.toList_ofList, lineChars, lineOctets, List.flatMap_cons, List.flatMap_append]
      at ih ⊢
    rw [ih]
    rfl

theorem lineChars_append (as bs : List String) : lineChars (as ++ bs) = lineChars as ++ lineChars bs :=
  List.flatMap_append

theorem lineChars_cons (t : String) (ts : List String) : lineChars (t :: ts) = t.toList ++ '\n' :: lineChars ts := by
  simp [lineChars]

@[simp] theorem lineOctets_append (as bs : List String) : lineOctets (as ++ bs) = lineOctets as ++ lineOctets bs :=
  List.flatMap_append

theorem lineOctets_flatMap {α : Type} (texts : α → List String) (as : List α) :
    lineOctets (as.flatMap texts) = as.flatMap fun a => lineOctets (texts a) :=
  List.flatMap_assoc

theorem ok_bind {ε α β : Type} (a : α) (f : α → Except ε β) : (Except.ok a >>= f) = f a := rfl

namespace Listing

/-- The listing with more lines, and all else as it was. -/
def put (l : Listing) (texts : List String) : Listing :=
  { l with output := l.output.append (lineOctets texts) }

@[simp] theorem put_indent (l : Listing) (texts : List String) : (l.put texts).indent = l.indent := rfl
@[simp] theorem put_afterLabel (l : Listing) (texts : List String) : (l.put texts).afterLabel = l.afterLabel := rfl
@[simp] theorem put_body (l : Listing) (texts : List String) :
    (l.put texts).output.body = l.output.body ++ lineOctets texts := rfl
@[simp] theorem put_nil (l : Listing) : l.put [] = l := by
  simp [put, Output.append, lineOctets]
@[simp] theorem put_put (l : Listing) (as bs : List String) : (l.put as).put bs = l.put (as ++ bs) := by
  simp [put, Output.append]

/-- The listing after a line that is a label, or is none. -/
def marked (l : Listing) (afterLabel : Bool) : Listing :=
  { l with afterLabel }

@[simp] theorem marked_indent (l : Listing) (b : Bool) : (l.marked b).indent = l.indent := rfl
@[simp] theorem marked_afterLabel (l : Listing) (b : Bool) : (l.marked b).afterLabel = b := rfl
@[simp] theorem marked_output (l : Listing) (b : Bool) : (l.marked b).output = l.output := rfl
@[simp] theorem marked_marked (l : Listing) (a b : Bool) : (l.marked a).marked b = l.marked b := rfl
@[simp] theorem marked_put (l : Listing) (b : Bool) (texts : List String) :
    (l.marked b).put texts = (l.put texts).marked b := rfl

theorem rawLine_eq (l : Listing) (text : String) : l.rawLine text = l.put [text] := by
  simp [rawLine, put, Output.appendLine, Output.append, lineOctets]

theorem line_eq (l : Listing) (text : String) : l.line text = l.put [indented l.indent text] := by
  simp [line, put, Output.appendLine, Output.append, lineOctets, indented]

theorem blank_eq (l : Listing) : l.blank = l.put [""] :=
  rawLine_eq l ""

theorem lines_eq (l : Listing) (texts : List String) : l.lines texts = l.put (texts.map (indented l.indent)) := by
  unfold lines
  induction texts generalizing l with
  | nil => simp
  | cons text texts ih => simp [line_eq, ih]

theorem rawLines_eq (l : Listing) (texts : List String) : texts.foldl rawLine l = l.put texts := by
  induction texts generalizing l with
  | nil => simp
  | cons text texts ih => simp [rawLine_eq, ih]

theorem declareTemps_eq (l : Listing) (ts : List Nat) : l.declareTemps ts = l.put (tempLines l.indent ts) := by
  unfold declareTemps tempLines
  split
  · simp
  · simp [line_eq, lines_eq, blank_eq, Function.comp_def]

theorem titled_eq (l : Listing) (hl : l.indent = 0) (title : String) (texts : List String) :
    l.titled title texts = l.put (titledLines title texts) := by
  unfold titled titledLines
  split
  · simp
  · have hid : indented 0 = id := by
      funext text
      simp
    simp [line_eq, lines_eq, blank_eq, hl, hid]

theorem fillLabel_eq (l : Listing) :
    l.fillLabel =
      (l.put (if l.afterLabel then [indented l.indent ";  // Empty statement after label"] else [])).marked false := by
  unfold fillLabel
  split
  · rw [line_eq]
    rfl
  · rename_i h
    have hf : l.afterLabel = false := by simpa using h
    rw [put_nil, marked, ← hf]

/-- An instruction adds one line. Labels leave the level they stand in and enter it again. -/
theorem addInstr_eq (l : Listing) (i : Instr) (level : Nat) (hl : l.indent = level + 1) :
    l.addInstr i = .ok ((l.put [instrLine (level + 1) i]).marked (isLabel i)) := by
  cases i with
  | label n => simp [addInstr, shallower, hl, line_eq, deeper, instrLine, isLabel, bind, Except.bind, put, marked]
  | _ => simp [addInstr, line_eq, instrLine, isLabel, put, marked, hl]

theorem addInstrs_eq (l : Listing) (body : List Instr) (level : Nat) (hl : l.indent = level + 1) :
    body.foldlM addInstr l =
      .ok ((l.put (body.map (instrLine (level + 1)))).marked ((body.getLast?.map isLabel).getD l.afterLabel)) := by
  induction body generalizing l with
  | nil =>
    simp
    rfl
  | cons i body ih =>
    have hrest := ih ((l.put [instrLine (level + 1) i]).marked (isLabel i)) hl
    rw [List.foldlM_cons, addInstr_eq l i level hl]
    refine hrest.trans ?_
    cases hlast : body.getLast? with
    | none => simp [List.getLast?_cons, hlast]
    | some j => simp [List.getLast?_cons, hlast]

/-- A block leaves the listing one level in, past a line that is no label. -/
theorem addBlock_eq (l : Listing) (body : List Instr) :
    l.addBlock body = .ok ((l.put (blockLines (l.indent + 1) body)).openBlock) := by
  have hbody := addInstrs_eq (l.openBlock.declareTemps (assignedTemps body)) body l.indent
    (by rw [declareTemps_eq]; rfl)
  unfold addBlock
  rw [hbody]
  change Except.ok (fillLabel _) = _
  rw [fillLabel_eq, declareTemps_eq]
  simp [blockLines, fillLines]
  rfl

@[simp] theorem openBlock_indent (l : Listing) : l.openBlock.indent = l.indent + 1 := rfl
@[simp] theorem openBlock_put (l : Listing) (texts : List String) :
    l.openBlock.put texts = (l.put texts).openBlock := rfl
@[simp] theorem shallower_openBlock (l : Listing) : l.openBlock.shallower = .ok (l.marked false) := rfl

/-- A function at any level, with its block one level in. -/
theorem addFunction_indented (l : Listing) (f : Function) :
    l.addFunction f =
      .ok ((l.put (indented l.indent (signature f ++ " \x7b") :: blockLines (l.indent + 1) f.body ++
        [indented l.indent "\x7d", ""])).marked false) := by
  unfold addFunction
  rw [line_eq, addBlock_eq, ok_bind, shallower_openBlock, ok_bind, line_eq, blank_eq]
  simp

theorem addFunction_eq (l : Listing) (f : Function) (hl : l.indent = 0) :
    l.addFunction f = .ok ((l.put (functionLines f)).marked false) := by
  rw [addFunction_indented]
  simp [hl, functionLines]

/-- Steps that each add their lines at the margin add them one after another. -/
theorem foldlM_eq {α : Type} {add : Listing → α → Except Failure Listing} {texts : α → List String}
    (hadd : ∀ l a, l.indent = 0 → l.afterLabel = false → add l a = .ok ((l.put (texts a)).marked false))
    (l : Listing) (as : List α) (hl : l.indent = 0) (hlabel : l.afterLabel = false) :
    as.foldlM add l = .ok ((l.put (as.flatMap texts)).marked false) := by
  induction as generalizing l with
  | nil =>
    rw [List.foldlM_nil, List.flatMap_nil, put_nil, marked, ← hlabel]
    rfl
  | cons a as ih =>
    have hrest := ih ((l.put (texts a)).marked false) hl rfl
    rw [List.foldlM_cons, hadd l a hl hlabel]
    refine hrest.trans ?_
    simp

theorem addFunctions_eq (l : Listing) (fs : List Function) (hl : l.indent = 0) (hlabel : l.afterLabel = false) :
    fs.foldlM addFunction l = .ok ((l.put (fs.flatMap functionLines)).marked false) :=
  foldlM_eq (fun l f hl _ => addFunction_eq l f hl) l fs hl hlabel

/-- The main function at any level. -/
theorem addMain_indented (l : Listing) (body : List Instr) :
    l.addMain body =
      .ok ((l.put (indented l.indent "int main() \x7b" :: blockLines (l.indent + 1) body ++
        ["", indented (l.indent + 1) "return 0;", indented l.indent "\x7d"])).marked false) := by
  unfold addMain
  rw [line_eq, addBlock_eq, ok_bind, blank_eq, line_eq]
  simp only [openBlock_put, shallower_openBlock, ok_bind, line_eq]
  simp

theorem addMain_eq (l : Listing) (body : List Instr) (hl : l.indent = 0) :
    l.addMain body = .ok ((l.put (mainLines body)).marked false) := by
  rw [addMain_indented]
  simp [hl, mainLines]

theorem preamble_eq (l : Listing) (hl : l.indent = 0) : l.preamble = l.put preambleLines := by
  have hid : indented 0 = id := by
    funext text
    simp
  unfold preamble
  simp [lines_eq, blank_eq, rawLines_eq, hl, hid, preambleLines]

theorem declare_eq (l : Listing) (p : Program) (hl : l.indent = 0) : l.declare p = l.put (declarationLines p) := by
  unfold declare
  simp only [titled_eq l hl]
  rw [titled_eq _ (by simpa using hl), put_put, declarationLines]

/-- A program adds its lines to a listing at the margin, and leaves it at the margin. -/
theorem addProgram_eq (l : Listing) (p : Program) (hl : l.indent = 0) (hlabel : l.afterLabel = false) :
    l.addProgram p = .ok ((l.put (programLines p)).marked false) := by
  unfold addProgram
  rw [preamble_eq l hl, declare_eq _ p (by simpa using hl),
    addFunctions_eq _ _ (by simpa using hl) (by simpa using hlabel), ok_bind, addMain_eq _ _ (by simpa using hl)]
  simp [programLines]

/-- Each program of several finds the listing at the margin, as the first one does. -/
theorem addPrograms_eq (l : Listing) (ps : List Program) (hl : l.indent = 0) (hlabel : l.afterLabel = false) :
    l.addPrograms ps = .ok ((l.put (ps.flatMap programLines)).marked false) :=
  foldlM_eq addProgram_eq l ps hl hlabel

theorem marked_put_margin (o : Output) (texts : List String) :
    ((⟨o, 0, false⟩ : Listing).put texts).marked false = ⟨⟨o.name, o.body ++ lineOctets texts⟩, 0, false⟩ := rfl

/-- A listing with nothing in it. -/
def fresh (name : String) : Listing :=
  { output := { name := name } }

@[simp] theorem fresh_body (name : String) : (fresh name).output.body = [] := rfl

/-- One listing may take any programs in turn. No level is left at the margin, since that would fail. After each
program the listing is at the margin again and past a line that is no label. It has kept its octets, and after
them it has those that each program so far has in a listing of its own. -/
theorem addPrograms_eq_fresh :
    ∃ text : Program → Octets,
      (∀ name p, (fresh name).addProgram p = .ok ⟨⟨name, text p⟩, 0, false⟩) ∧
      ∀ (o : Output) (ps : List Program) (k : Nat),
        addPrograms ⟨o, 0, false⟩ (ps.take k) = .ok ⟨⟨o.name, o.body ++ (ps.take k).flatMap text⟩, 0, false⟩ := by
  refine ⟨fun p => lineOctets (programLines p), fun name p => ?_, fun o ps k => ?_⟩
  · rw [addProgram_eq _ _ rfl rfl, fresh, marked_put_margin, List.nil_append]
  · rw [addPrograms_eq _ _ rfl rfl, marked_put_margin, lineOctets_flatMap]

/-- Lines are a text once they are finished. -/
theorem finish_put (l : Listing) (hl : l.output.body = []) (texts : List String) (b : Bool) :
    ((l.put texts).marked b).output.finish = .ok (String.ofList (lineChars texts)) := by
  rw [marked_output, Output.finish, put_body, hl, List.nil_append, ← encode_lineChars, Utf8.decode_encode]

end Listing

/-- The source for some settings is the text with the lines of their program. -/
theorem ofSettings_eq (s : Settings) :
    ofSettings s = .ok (String.ofList (lineChars (programLines (Program.ofSettings s)))) := by
  unfold ofSettings
  rw [Listing.addProgram_eq _ _ rfl rfl, ok_bind]
  exact Listing.finish_put _ rfl _ _

end RecursiveFactorial.CSource
