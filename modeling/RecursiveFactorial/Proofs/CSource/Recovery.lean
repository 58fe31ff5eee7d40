import RecursiveFactorial.Proofs.CSource.Statement

/-!
# A program from its source

A text is cut into its lines at the newlines. The declarations say how many functions there are, the lines of a block
end before its closing brace, and the declarations of temporaries before a blank line. So the text of a program
determines the program, save for the results of calls that print.
-/
namespace RecursiveFactorial

namespace ThreeAddress

def Function.forgetPrinted (f : Function) : Function :=
  { f with body := f.body.map Instr.forgetPrinted }

/-- The program without the results of calls that print. -/
def Program.forgetPrinted (p : Program) : Program :=
  { p with functions := p.functions.map Function.forgetPrinted, main := p.main.map Instr.forgetPrinted }

/-- The names of a function, of its parameters and in its body are plain. -/
structure Function.WellNamed (f : Function) : Prop where
  name : PlainName f.name
  params : ∀ param ∈ f.params, PlainName param
  body : ∀ i ∈ f.body, i.WellNamed

/-- Every name in the program is an identifier that cannot be taken for a temporary, and no function called
`printf` is called. -/
structure Program.WellNamed (p : Program) : Prop where
  globals : ∀ global ∈ p.globals, PlainName global
  functions : ∀ f ∈ p.functions, f.WellNamed
  main : ∀ i ∈ p.main, i.WellNamed

instance Function.WellNamed.decidable (f : Function) : Decidable f.WellNamed :=
  decidable_of_iff (PlainName f.name ∧ (∀ param ∈ f.params, PlainName param) ∧ ∀ i ∈ f.body, i.WellNamed)
    ⟨fun h => ⟨h.1, h.2.1, h.2.2⟩, fun h => ⟨h.name, h.params, h.body⟩⟩

instance Program.WellNamed.decidable (p : Program) : Decidable p.WellNamed :=
  decidable_of_iff
    ((∀ global ∈ p.globals, PlainName global) ∧ (∀ f ∈ p.functions, f.WellNamed) ∧ ∀ i ∈ p.main, i.WellNamed)
    ⟨fun h => ⟨h.1, h.2.1, h.2.2⟩, fun h => ⟨h.globals, h.functions, h.main⟩⟩

end ThreeAddress

namespace CSource

open ThreeAddress

section Signatures

def paramLexemes (param : String) : List Lexeme :=
  [.word ['i', 'n', 't'], .mark ' ', .word param.toList]

def signatureLexemes (f : Function) : List Lexeme :=
  .word ['i', 'n', 't'] :: .mark ' ' :: .word f.name.toList :: .mark '(' ::
    (listLexemes paramLexemes f.params ++ [.mark ')'])

theorem chars_signature (f : Function) : (signature f).toList = lexemeChars (signatureLexemes f) := by
  have hparam (param : String) : ("int " ++ param).toList = lexemeChars (paramLexemes param) := by
    simp [paramLexemes, Lexeme.chars]
  have hparams := chars_list hparam f.params
  simp [signature, signatureLexemes, hparams, Lexeme.chars]

theorem wellFormed_int : (Lexeme.word ['i', 'n', 't']).WellFormed := by
  simp [Lexeme.WellFormed]
  decide

theorem separated_signature {f : Function} (hf : f.WellNamed) : Separated (signatureLexemes f) := by
  refine .word_mark_cons wellFormed_int (.mark_cons (wellFormed_mark (by decide)) (.word_mark_cons
    (wellFormed_name hf.name) (.mark_cons (wellFormed_mark (by decide)) ?_)))
  refine separated_list (P := PlainName) (fun param c xs hparam h => ?_) hf.params (separated_end (by decide))
  exact .word_mark_cons wellFormed_int (.mark_cons (wellFormed_mark (by decide))
    (.word_mark_cons (wellFormed_name hparam) h))

/-- A signature determines the names of a function and of its parameters. -/
theorem names_eq_of_signature {f g : Function} (hf : f.WellNamed) (hg : g.WellNamed) (h : signature f = signature g) :
    f.name = g.name ∧ f.params = g.params := by
  have hlexemes : signatureLexemes f = signatureLexemes g := by
    apply eq_of_lexemeChars_eq (separated_signature hf) (separated_signature hg)
    rw [← chars_signature, ← chars_signature, h]
  simp only [signatureLexemes, List.cons.injEq, Lexeme.word.injEq, true_and] at hlexemes
  have hitem (param param' : String) (xs ys : List Lexeme) (_ : PlainName param) (_ : PlainName param')
      (h : paramLexemes param ++ xs = paramLexemes param' ++ ys) : param = param' ∧ xs = ys := by
    simp only [paramLexemes, List.cons_append, List.nil_append, List.cons.injEq, Lexeme.word.injEq, true_and] at h
    exact ⟨String.toList_inj.mp h.1, h.2⟩
  have hhead (param : String) (xs : List Lexeme) : (paramLexemes param ++ xs).head? ≠ some (.mark ')') := by
    simp [paramLexemes]
  have hparams := listLexemes_append_inj hitem hhead hf.params hg.params hlexemes.2
  exact ⟨String.toList_inj.mp hlexemes.1, hparams.1⟩

end Signatures

section Lines

theorem cut_append_inj {α : Type} [DecidableEq α] {x : α} {as bs cs ds : List α} (ha : x ∉ as) (hb : x ∉ bs)
    (h : as ++ x :: cs = bs ++ x :: ds) : as = bs ∧ cs = ds := by
  have hne {es : List α} (he : x ∉ es) : ∀ e ∈ es, (e != x) = true := by
    intro e hmem
    rw [bne_iff_ne]
    rintro rfl
    exact he hmem
  obtain ⟨rfl, hrest⟩ := run_append_inj (hne ha) (hne hb) (by simp) (by simp) h
  exact ⟨rfl, (List.cons.inj hrest).2⟩

/-- A text is cut into its lines in one way. -/
theorem eq_of_lineOctets_eq {ts us : List String} (ht : ∀ t ∈ ts, '\n' ∉ t.toList) (hu : ∀ u ∈ us, '\n' ∉ u.toList)
    (h : lineOctets ts = lineOctets us) : ts = us := by
  have hchars : lineChars ts = lineChars us := by
    rw [← encode_lineChars, ← encode_lineChars] at h
    exact String.ofList_inj.mp (Utf8.encode_injective h)
  clear h
  induction ts generalizing us with
  | nil =>
    cases us with
    | nil => rfl
    | cons u us => simp [lineChars] at hchars
  | cons t ts ih =>
    cases us with
    | nil => simp [lineChars] at hchars
    | cons u us =>
      rw [lineChars_cons, lineChars_cons] at hchars
      obtain ⟨htu, hrest⟩ := cut_append_inj (ht t List.mem_cons_self) (hu u List.mem_cons_self) hchars
      rw [String.toList_inj.mp htu, ih (fun v hv => ht v (List.mem_cons_of_mem t hv))
        (fun v hv => hu v (List.mem_cons_of_mem u hv)) hrest]

/-- A section with a title ends at its blank line, and is there exactly if its title is. -/
theorem titledLines_append_inj {title : String} {as bs rs ss : List String} (ha : "" ∉ as) (hb : "" ∉ bs)
    (hr : as = [] → rs.head? ≠ some title) (hs : bs = [] → ss.head? ≠ some title)
    (h : titledLines title as ++ rs = titledLines title bs ++ ss) : as = bs ∧ rs = ss := by
  unfold titledLines at h
  by_cases has : as = []
  · by_cases hbs : bs = []
    · simp only [if_pos has, if_pos hbs, List.nil_append] at h
      exact ⟨has.trans hbs.symm, h⟩
    · simp only [if_pos has, if_neg hbs, List.nil_append] at h
      exact absurd (congrArg List.head? h) (hr has)
  · by_cases hbs : bs = []
    · simp only [if_neg has, if_pos hbs, List.nil_append] at h
      exact absurd (congrArg List.head? h.symm) (hs hbs)
    · simp only [if_neg has, if_neg hbs, List.cons_append, List.append_assoc, List.nil_append, List.cons.injEq,
        true_and] at h
      exact cut_append_inj ha hb h

end Lines

section Blocks

theorem toList_indented (text : String) : (indented 1 text).toList = ' ' :: ' ' :: ' ' :: ' ' :: text.toList := by
  simp [indented, Listing.margin]

theorem head_statement {i : Instr} (hi : i.WellNamed) :
    ∃ c cs, (statement i).toList = c :: cs ∧ isNamePart c = true := by
  have hsep := separated_statement hi
  have hword : ∃ w xs, statementLexemes i = .word w :: xs := by
    cases i with
    | call function args result =>
      rw [statementLexemes]
      split
      · exact ⟨_, _, rfl⟩
      · cases result with
        | none => exact ⟨_, _, rfl⟩
        | some t => exact ⟨_, _, rfl⟩
    | _ => exact ⟨_, _, rfl⟩
  obtain ⟨w, xs, hxs⟩ := hword
  rw [hxs] at hsep
  obtain ⟨c, cs, rfl⟩ := List.exists_cons_of_ne_nil hsep.wellFormed.1
  exact ⟨c, cs ++ lexemeChars xs, by rw [chars_statement, hxs]; rfl, hsep.wellFormed.2 c List.mem_cons_self⟩

/-- A line of an instruction starts with a character of a name, after a margin if it is no label. -/
theorem toList_instrLine {i : Instr} (hi : i.WellNamed) :
    ∃ c cs, isNamePart c = true ∧ (statement i).toList = c :: cs ∧
      (instrLine 1 i).toList = if isLabel i then c :: cs else ' ' :: ' ' :: ' ' :: ' ' :: c :: cs := by
  obtain ⟨c, cs, hcs, hc⟩ := head_statement hi
  refine ⟨c, cs, hc, hcs, ?_⟩
  unfold instrLine
  split
  · rw [indented_zero, hcs]
  · rw [toList_indented, hcs]

/-- Neither the first character of a line nor the first one after a margin stands in a name, so that the line is no
instruction. -/
def isApart (text : String) : Bool :=
  !(text.toList.head?.any isNamePart || (text.toList.drop 4).head?.any isNamePart)

theorem instrLine_ne {i : Instr} (hi : i.WellNamed) {text : String} (htext : isApart text = true) :
    instrLine 1 i ≠ text := by
  obtain ⟨c, cs, hc, -, hline⟩ := toList_instrLine hi
  rintro rfl
  rw [isApart, hline] at htext
  split at htext
  · simp [hc] at htext
  · simp [hc] at htext

theorem forgetPrinted_eq_of_instrLine {i j : Instr} (hi : i.WellNamed) (hj : j.WellNamed)
    (h : instrLine 1 i = instrLine 1 j) : i.forgetPrinted = j.forgetPrinted := by
  obtain ⟨c, cs, hc, hcs, hline⟩ := toList_instrLine hi
  obtain ⟨d, ds, hd, hds, hline'⟩ := toList_instrLine hj
  have hblank : isNamePart ' ' = false := by decide
  apply forgetPrinted_eq_of_statement hi hj
  apply String.toList_inj.mp
  rw [hcs, hds]
  rw [h, hline'] at hline
  by_cases hl : isLabel i = true
  · by_cases hm : isLabel j = true
    · rw [if_pos hl, if_pos hm] at hline
      exact hline.symm
    · rw [if_pos hl, if_neg hm] at hline
      rw [← (List.cons.inj hline).1, hblank] at hc
      cases hc
  · by_cases hm : isLabel j = true
    · rw [if_neg hl, if_pos hm] at hline
      rw [(List.cons.inj hline).1, hblank] at hd
      cases hd
    · rw [if_neg hl, if_neg hm] at hline
      simpa using hline.symm

theorem map_forgetPrinted_eq {body body' : List Instr} (h : ∀ i ∈ body, i.WellNamed) (h' : ∀ i ∈ body', i.WellNamed)
    (hlines : body.map (instrLine 1) = body'.map (instrLine 1)) :
    body.map Instr.forgetPrinted = body'.map Instr.forgetPrinted := by
  induction body generalizing body' with
  | nil => simpa using hlines
  | cons i body ih =>
    cases body' with
    | nil => simp at hlines
    | cons j body' =>
      simp only [List.map_cons, List.cons.injEq] at hlines ⊢
      exact ⟨forgetPrinted_eq_of_instrLine (h i List.mem_cons_self) (h' j List.mem_cons_self) hlines.1,
        ih (fun k hk => h k (List.mem_cons_of_mem i hk)) (fun k hk => h' k (List.mem_cons_of_mem j hk)) hlines.2⟩

def fillLine : String :=
  indented 1 ";  // Empty statement after label"

def tempTitle : String :=
  indented 1 "// Temporary variables"

def tempTexts (ts : List Nat) : List String :=
  ts.map fun t => indented 1 ("int " ++ tempName t ++ " = 0;")

theorem tempLines_eq (ts : List Nat) : tempLines 1 ts = titledLines tempTitle (tempTexts ts) := by
  simp [tempLines, titledLines, tempTitle, tempTexts]

variable {body body' : List Instr} (h : ∀ i ∈ body, i.WellNamed) (h' : ∀ i ∈ body', i.WellNamed)
include h

theorem head_body_ne : (body.map (instrLine 1) ++ fillLines 1 body).head? ≠ some tempTitle := by
  cases body with
  | nil => simp [fillLines]
  | cons i body =>
    have hne : instrLine 1 i ≠ tempTitle := instrLine_ne (h i List.mem_cons_self) (by decide)
    simpa using hne

theorem filter_body :
    (body.map (instrLine 1) ++ fillLines 1 body).filter (· != fillLine) = body.map (instrLine 1) := by
  have hne : ∀ t ∈ body.map (instrLine 1), (t != fillLine) = true := by
    intro t ht
    obtain ⟨i, hi, rfl⟩ := List.mem_map.mp ht
    rw [bne_iff_ne]
    exact instrLine_ne (h i hi) (by decide)
  have hend : (fillLines 1 body).filter (· != fillLine) = [] := by
    unfold fillLines fillLine
    split <;> simp
  rw [List.filter_append, List.filter_eq_self.mpr hne, hend, List.append_nil]

include h'

/-- The lines of a block determine its instructions. -/
theorem forgetPrinted_eq_of_blockLines (hlines : blockLines 1 body = blockLines 1 body') :
    body.map Instr.forgetPrinted = body'.map Instr.forgetPrinted := by
  have hblank (ts : List Nat) : "" ∉ tempTexts ts := by
    rintro hmem
    obtain ⟨t, -, ht⟩ := List.mem_map.mp hmem
    have hlist := congrArg String.toList ht
    rw [toList_indented] at hlist
    cases hlist
  simp only [blockLines, tempLines_eq, List.append_assoc] at hlines
  have hrest :=
    titledLines_append_inj (hblank _) (hblank _) (fun _ => head_body_ne h) (fun _ => head_body_ne h') hlines
  have hfilter := congrArg (List.filter (· != fillLine)) hrest.2
  rw [filter_body h, filter_body h'] at hfilter
  exact map_forgetPrinted_eq h h' hfilter

omit h' in
/-- No line of a block is the brace that closes it. -/
theorem brace_not_mem_blockLines : "\x7d" ∉ blockLines 1 body := by
  intro hmem
  simp only [blockLines, List.mem_append] at hmem
  obtain (hmem | hmem) | hmem := hmem
  · obtain hline | ⟨t, hline⟩ | hline := mem_tempLines hmem
    · exact absurd hline (by decide)
    · have hlist := congrArg String.toList hline
      rw [toList_indented] at hlist
      simp at hlist
    · exact absurd hline (by decide)
  · obtain ⟨i, hi, hline⟩ := List.mem_map.mp hmem
    exact instrLine_ne (h i hi) (by decide) hline
  · unfold fillLines at hmem
    split at hmem
    · have hbrace := List.mem_singleton.mp hmem
      exact absurd hbrace (by decide)
    · simp at hmem

end Blocks

section Programs

/-- The text of a function determines the function, and where it ends. -/
theorem functionLines_append_inj {f g : Function} (hf : f.WellNamed) (hg : g.WellNamed) {rs ss : List String}
    (h : functionLines f ++ rs = functionLines g ++ ss) : f.forgetPrinted = g.forgetPrinted ∧ rs = ss := by
  simp only [functionLines, List.cons_append, List.append_assoc, List.nil_append, List.cons.injEq] at h
  obtain ⟨hblock, hrest⟩ :=
    cut_append_inj (brace_not_mem_blockLines hf.body) (brace_not_mem_blockLines hg.body) h.2
  have hsignature : signature f = signature g := by
    have hlist := congrArg String.toList h.1
    rw [String.toList_append, String.toList_append] at hlist
    exact String.toList_inj.mp (List.append_cancel_right hlist)
  obtain ⟨hname, hparams⟩ := names_eq_of_signature hf hg hsignature
  have hbody := forgetPrinted_eq_of_blockLines hf.body hg.body hblock
  refine ⟨?_, (List.cons.inj hrest).2⟩
  rw [Function.forgetPrinted, Function.forgetPrinted, hname, hparams, hbody]

theorem functionsLines_append_inj {fs gs : List Function} (hf : ∀ f ∈ fs, f.WellNamed) (hg : ∀ g ∈ gs, g.WellNamed)
    (hlength : fs.length = gs.length) {rs ss : List String}
    (h : fs.flatMap functionLines ++ rs = gs.flatMap functionLines ++ ss) :
    fs.map Function.forgetPrinted = gs.map Function.forgetPrinted ∧ rs = ss := by
  induction fs generalizing gs with
  | nil =>
    obtain rfl := List.eq_nil_of_length_eq_zero hlength.symm
    exact ⟨rfl, h⟩
  | cons f fs ih =>
    cases gs with
    | nil => cases hlength
    | cons g gs =>
      simp only [List.flatMap_cons, List.append_assoc] at h
      obtain ⟨hfg, hrest⟩ := functionLines_append_inj (hf f List.mem_cons_self) (hg g List.mem_cons_self) h
      obtain ⟨hfgs, hend⟩ := ih (fun k hk => hf k (List.mem_cons_of_mem f hk))
        (fun k hk => hg k (List.mem_cons_of_mem g hk)) (by simpa using hlength) hrest
      exact ⟨by rw [List.map_cons, List.map_cons, hfg, hfgs], hend⟩

/-- Definitions start with a type, so no title stands right before the first of them. -/
theorem head_definitions (fs : List Function) (body : List Instr) {title : String}
    (ht : title.toList.head? ≠ some 'i') : (fs.flatMap functionLines ++ mainLines body).head? ≠ some title := by
  cases fs with
  | nil =>
    simp only [List.flatMap_nil, List.nil_append, mainLines, List.cons_append, List.head?_cons, ne_eq,
      Option.some.injEq]
    rintro rfl
    exact ht (by decide)
  | cons f fs =>
    simp only [List.flatMap_cons, functionLines, List.cons_append, List.head?_cons, ne_eq, Option.some.injEq]
    rintro rfl
    exact ht (by simp [signature])

theorem blank_not_mem_map {α : Type} {text : α → String} (htext : ∀ a, (text a).toList ≠ []) (as : List α) :
    "" ∉ as.map text := by
  intro hmem
  obtain ⟨a, -, ha⟩ := List.mem_map.mp hmem
  exact htext a (by rw [ha]; rfl)

theorem globals_eq_of_lines {as bs : List String}
    (h : as.map (fun name => "int " ++ name ++ ";  // Global variable") =
      bs.map fun name => "int " ++ name ++ ";  // Global variable") : as = bs := by
  refine (List.map_inj_right fun a b hab => ?_).mp h
  have hlist := congrArg String.toList hab
  simp only [String.toList_append, List.append_assoc] at hlist
  exact String.toList_inj.mp (List.append_cancel_right (List.append_cancel_left hlist))

/-- The lines after the ones that every program starts with. -/
def ownLines (p : Program) : List String :=
  declarationLines p ++ p.functions.flatMap functionLines ++ mainLines p.main

theorem programLines_eq (p : Program) : programLines p = preambleLines ++ ownLines p := by
  simp [programLines, ownLines]

/-- The lines of a program determine the program. -/
theorem forgetPrinted_eq_of_ownLines {p q : Program} (hp : p.WellNamed) (hq : q.WellNamed)
    (h : ownLines p = ownLines q) : p.forgetPrinted = q.forgetPrinted := by
  simp only [ownLines, declarationLines, List.append_assoc] at h
  have hsignatures (r : Program) : "" ∉ r.functions.map fun f => signature f ++ ";" :=
    blank_not_mem_map (fun f => by simp) _
  have hglobals (r : Program) : "" ∉ r.globals.map fun name => "int " ++ name ++ ";  // Global variable" :=
    blank_not_mem_map (fun name => by simp) _
  -- Without functions, the title of the globals or `main` comes first.
  have hfirst (r : Program) : r.functions.map (fun f => signature f ++ ";") = [] →
      (titledLines "// Global variables" (r.globals.map fun name => "int " ++ name ++ ";  // Global variable") ++
        (r.functions.flatMap functionLines ++ mainLines r.main)).head? ≠ some "// Forward declarations" := by
    intro _
    unfold titledLines
    split
    · exact head_definitions _ _ (by decide)
    · simp
  obtain ⟨hforward, hrest⟩ := titledLines_append_inj (hsignatures p) (hsignatures q) (hfirst p) (hfirst q) h
  obtain ⟨hnames, hdefinitions⟩ := titledLines_append_inj (hglobals p) (hglobals q)
    (fun _ => head_definitions _ _ (by decide)) (fun _ => head_definitions _ _ (by decide)) hrest
  have hlength : p.functions.length = q.functions.length := by
    simpa using congrArg List.length hforward
  obtain ⟨hfunctions, hmain⟩ := functionsLines_append_inj hp.functions hq.functions hlength hdefinitions
  have hbody : p.main.map Instr.forgetPrinted = q.main.map Instr.forgetPrinted := by
    simp only [mainLines, List.cons_append, List.cons.injEq, true_and] at hmain
    exact forgetPrinted_eq_of_blockLines hp.main hq.main (List.append_cancel_right hmain)
  rw [Program.forgetPrinted, Program.forgetPrinted, globals_eq_of_lines hnames, hfunctions, hbody]

end Programs

section Newlines

theorem newline_not_mem_statement {i : Instr} (hi : i.WellNamed) : '\n' ∉ (statement i).toList := by
  rw [chars_statement]
  exact newline_not_mem_lexemeChars (separated_statement hi)

theorem newline_not_mem_name {name : String} (h : PlainName name) : '\n' ∉ name.toList :=
  fun hmem => absurd ((wellFormed_name h).2 '\n' hmem) (by decide)

theorem newline_not_mem_signature {f : Function} (hf : f.WellNamed) : '\n' ∉ (signature f).toList := by
  rw [chars_signature]
  exact newline_not_mem_lexemeChars (separated_signature hf)

theorem newline_not_mem_titledLines {title : String} {texts : List String} (ht : '\n' ∉ title.toList)
    (h : ∀ t ∈ texts, '\n' ∉ t.toList) : ∀ t ∈ titledLines title texts, '\n' ∉ t.toList := by
  intro t hmem
  unfold titledLines at hmem
  split at hmem
  · simp at hmem
  · simp only [List.cons_append, List.mem_cons, List.mem_append, List.not_mem_nil, or_false] at hmem
    obtain rfl | hmem | rfl := hmem
    · exact ht
    · exact h t hmem
    · decide

theorem newline_not_mem_blockLines {body : List Instr} (h : ∀ i ∈ body, i.WellNamed) :
    ∀ t ∈ blockLines 1 body, '\n' ∉ t.toList := by
  intro t hmem
  simp only [blockLines, List.mem_append] at hmem
  obtain (hmem | hmem) | hmem := hmem
  · exact newline_not_mem_tempLines t hmem
  · obtain ⟨i, hi, rfl⟩ := List.mem_map.mp hmem
    exact newline_not_mem_indented (newline_not_mem_statement (h i hi))
  · unfold fillLines at hmem
    split at hmem
    · rw [List.mem_singleton.mp hmem]
      decide
    · simp at hmem

theorem newline_not_mem_ownLines {p : Program} (hp : p.WellNamed) : ∀ t ∈ ownLines p, '\n' ∉ t.toList := by
  intro t hmem
  simp only [ownLines, declarationLines, List.mem_append, List.mem_flatMap] at hmem
  obtain ((hmem | hmem) | ⟨f, hf, hmem⟩) | hmem := hmem
  · refine newline_not_mem_titledLines (by decide) (fun u hu => ?_) t hmem
    obtain ⟨f, hf, rfl⟩ := List.mem_map.mp hu
    simp [newline_not_mem_signature (hp.functions f hf)]
  · refine newline_not_mem_titledLines (by decide) (fun u hu => ?_) t hmem
    obtain ⟨name, hname, rfl⟩ := List.mem_map.mp hu
    simp [newline_not_mem_name (hp.globals name hname)]
  · simp only [functionLines, List.cons_append, List.mem_cons, List.mem_append, List.not_mem_nil, or_false] at hmem
    obtain rfl | hmem | rfl | rfl := hmem
    · simp [newline_not_mem_signature (hp.functions f hf)]
    · exact newline_not_mem_blockLines (hp.functions f hf).body t hmem
    · decide
    · decide
  · simp only [mainLines, List.cons_append, List.mem_cons, List.mem_append, List.not_mem_nil, or_false] at hmem
    obtain rfl | hmem | rfl | rfl | rfl := hmem
    · decide
    · exact newline_not_mem_blockLines hp.main t hmem
    · decide
    · decide
    · decide

end Newlines

/-- What a program is listed as determines the program, save for the results of calls that print. -/
theorem program_of_listing {p q : Program} (hp : p.WellNamed) (hq : q.WellNamed) (name name' : String)
    (h : ((Listing.fresh name).addProgram p).map (·.output.body) =
      ((Listing.fresh name').addProgram q).map (·.output.body)) : p.forgetPrinted = q.forgetPrinted := by
  rw [Listing.addProgram_eq _ _ rfl rfl, Listing.addProgram_eq _ _ rfl rfl] at h
  simp only [Except.map, Listing.marked_output, Listing.put_body, Listing.fresh_body, List.nil_append, Except.ok.injEq,
    programLines_eq, lineOctets_append, List.append_cancel_left_eq] at h
  exact forgetPrinted_eq_of_ownLines hp hq
    (eq_of_lineOctets_eq (newline_not_mem_ownLines hp) (newline_not_mem_ownLines hq) h)

/-- A program with a string that looks like the end of its own statement, negative numbers next to an operator, a
function that is nothing but a label, and a call that prints and has `result`. -/
def printingProgram (result : Option Nat) : Program :=
  ⟨["x"], [⟨"main", [], [.label 0]⟩, ⟨"f", ["a", "b"], []⟩],
    [.binary .sub (.int (-1)) (.int (-2)) 1, .call "print" [.str "%d\", t1);\n\x00", .temp 1] result,
      .call "f" [.var "x", .temp 1] none]⟩

/-- The results of the calls that print differ, and nothing else can. -/
theorem program_of_listing_printing :
    (printingProgram (some 1)).WellNamed ∧ (printingProgram none).WellNamed ∧
      printingProgram (some 1) ≠ printingProgram none ∧
      ((Listing.fresh "a").addProgram (printingProgram (some 1))).map (·.output.body) =
        ((Listing.fresh "b").addProgram (printingProgram none)).map (·.output.body) ∧
      (printingProgram (some 1)).forgetPrinted = (printingProgram none).forgetPrinted := by
  have hsome : (printingProgram (some 1)).WellNamed := by decide +kernel
  have hnone : (printingProgram none).WellNamed := by decide +kernel
  have hlines : programLines (printingProgram (some 1)) = programLines (printingProgram none) := by
    have htemps : assignedTemps (printingProgram (some 1)).main = assignedTemps (printingProgram none).main := by
      decide
    have hmain : (printingProgram (some 1)).main.map (instrLine 1) = (printingProgram none).main.map (instrLine 1) :=
      rfl
    have hfill : fillLines 1 (printingProgram (some 1)).main = fillLines 1 (printingProgram none).main := rfl
    have hdeclarations : declarationLines (printingProgram (some 1)) = declarationLines (printingProgram none) := rfl
    have hfunctions : (printingProgram (some 1)).functions = (printingProgram none).functions := rfl
    simp only [programLines, mainLines, blockLines, htemps, hmain, hfill, hdeclarations, hfunctions]
  have hsame : ((Listing.fresh "a").addProgram (printingProgram (some 1))).map (·.output.body) =
      ((Listing.fresh "b").addProgram (printingProgram none)).map (·.output.body) := by
    rw [Listing.addProgram_eq _ _ rfl rfl, Listing.addProgram_eq _ _ rfl rfl]
    simp only [Except.map, Listing.marked_output, Listing.put_body, Listing.fresh_body, hlines]
  exact ⟨hsome, hnone, by decide, hsame, program_of_listing hsome hnone "a" "b" hsame⟩

end CSource

end RecursiveFactorial
