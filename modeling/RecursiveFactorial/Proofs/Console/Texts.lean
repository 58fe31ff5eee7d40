import RecursiveFactorial.Proofs.Console.Line
import RecursiveFactorial.Proofs.Text.Torn

/-!
# All texts of a stream

Asking a stream for text until there is none gives each of its lines as a text. The lines are octets, and where a line
is full before its newline it may end inside a character. If no line does, the texts together are the text of the
stream without its newlines, and if one does, they show more U+FFFD than the stream has.
-/
namespace RecursiveFactorial.Console

open Utf8 (encodeChars lossyChars damage Torn)

section Asking

/-- Asking for text until there is none gives these texts. -/
inductive Recites : Console → List String → Prop where
  | done {c c' : Console} (h : askText none c = .ok none c') : Recites c []
  | text {c c' : Console} {t : String} {texts : List String} (h : askText none c = .ok (some t) c')
      (hmore : Recites c' texts) : Recites c (t :: texts)

theorem Recites.unique {c : Console} {texts texts' : List String} (h : Recites c texts) (h' : Recites c texts') :
    texts = texts' := by
  induction h generalizing texts' with
  | done hnone =>
    cases h' with
    | done => rfl
    | text htext => cases hnone.symm.trans htext
  | text htext _ ih =>
    cases h' with
    | done hnone => cases hnone.symm.trans htext
    | text htext' hmore =>
      cases htext.symm.trans htext'
      rw [ih hmore]

/-- A stream is nothing, or a line and then a shorter stream. -/
theorem stream_induction {limit : Nat} (hlimit : 0 < limit) {motive : Octets → Prop} (nil : motive [])
    (line : ∀ s, s ≠ [] → motive (cutLine limit s).2 → motive s) (s : Octets) : motive s := by
  induction hn : s.length using Nat.strongRecOn generalizing s with
  | ind n ih =>
    by_cases hs : s = []
    · rw [hs]
      exact nil
    · have hlength := congrArg List.length (cutLine_append limit s)
      have hpos := List.length_pos_iff.mpr (cutLine_ne_nil hlimit hs)
      rw [List.length_append] at hlength
      exact line s hs (ih _ (by omega) _ rfl)

theorem readLine_of_takeLine {limit : Nat} {c c' : Console} {line : Option Octets}
    (h : takeLine limit c = .ok line c') :
    (readLine limit c.events).outcome = .ok line ∧ (readLine limit c.events).rest = c'.events := by
  simp only [takeLine] at h
  cases houtcome : (readLine limit c.events).outcome with
  | ok line' =>
    rw [houtcome] at h
    cases h
    exact ⟨rfl, rfl⟩
  | error text =>
    rw [houtcome] at h
    cases h

/-- The texts are those of the lines, and the lines are the pieces of the stream. -/
theorem exists_recites {c : Console} {s : Octets} (h : Streams c.events s) :
    ∃ lines, Drains (bufferSize - 1) c.events lines ∧ Recites c (lines.map textOfLine) ∧
      Pieces (bufferSize - 1) s lines := by
  have hlimit : 0 < bufferSize - 1 := by decide
  induction s using stream_induction hlimit generalizing c with
  | nil =>
    obtain ⟨c', hline, -⟩ := takeLine_stream h
    exact ⟨[], .done (readLine_of_takeLine hline).1, .done (askText_of_end hline), .nil _⟩
  | line s hs ih =>
    obtain ⟨c', hline, hrest, -⟩ := takeLine_stream h
    rw [if_neg hs] at hline
    obtain ⟨houtcome, hevents⟩ := readLine_of_takeLine hline
    obtain ⟨lines, hdrains, hrecites, hpieces⟩ := ih hrest
    have hall := hpieces.cons (cutLine_ne_nil hlimit hs) (cutOff_cutLine (bufferSize - 1) s)
    rw [cutLine_append] at hall
    exact ⟨_, .line houtcome (hevents ▸ hdrains), .text (askText_of_line hline) hrecites, hall⟩

end Asking

section Whole

theorem toList_join_texts (lines : List Octets) :
    (String.join (lines.map textOfLine)).toList = lines.flatMap fun line => lossyChars (chomp line) := by
  induction lines with
  | nil => simp
  | cons line lines ih =>
    rw [List.map_cons, String.join_cons, String.toList_append, ih, List.flatMap_cons, textOfLine,
      Utf8.toList_decodeLossy]

/-- A line that is whole characters is read as these, without its newline. -/
theorem lossyChars_chomp_encodeChars {cs : List Char} (h : newline ∉ (encodeChars cs).dropLast) :
    lossyChars (chomp (encodeChars cs)) = cs.filter (· ≠ '\n') := by
  by_cases hmem : '\n' ∈ cs
  · obtain ⟨u, v, rfl⟩ := List.append_of_mem hmem
    have hsplit : encodeChars (u ++ '\n' :: v) = encodeChars u ++ newline :: encodeChars v := by
      rw [Utf8.encodeChars_append, Utf8.encodeChars_ascii (by decide)]
      rfl
    rw [hsplit] at h ⊢
    cases v with
    | cons c v =>
      have hne : encodeChars (c :: v) ≠ [] := by simp [Utf8.encodeChars_cons]
      rw [List.dropLast_append_of_ne_nil (by simp), List.dropLast_cons_of_ne_nil hne] at h
      exact absurd (by simp) h
    | nil =>
      rw [Utf8.encodeChars_nil, List.dropLast_concat] at h
      have hu : '\n' ∉ u := mt (Utf8.mem_encodeChars_ascii (by decide)).mpr h
      have hkeep : u.filter (· ≠ '\n') = u := List.filter_eq_self.mpr fun c hc => by
        simpa using ne_of_mem_of_not_mem hc hu
      rw [Utf8.encodeChars_nil, chomp_append_newline, Utf8.lossyChars_encodeChars, List.filter_append, hkeep]
      simp
  · have hline : newline ∉ encodeChars cs := mt (Utf8.mem_encodeChars_ascii (by decide)).mp hmem
    have hkeep : cs.filter (· ≠ '\n') = cs := List.filter_eq_self.mpr fun c hc => by
      simpa using ne_of_mem_of_not_mem hc hmem
    rw [chomp_of_not_mem hline, Utf8.lossyChars_encodeChars, hkeep]

/-- Lines that all end between characters are read as the characters, without the newlines. -/
theorem lossyChars_of_not_torn {cs : List Char} {lines : List Octets} (hlines : encodeChars cs = lines.flatten)
    (hnewline : ∀ line ∈ lines, newline ∉ line.dropLast)
    (hwhole : ∀ before line after, lines = before ++ line :: after →
      ¬Torn cs (before.flatten ++ line) after.flatten) :
    lines.flatMap (fun line => lossyChars (chomp line)) = cs.filter (· ≠ '\n') := by
  induction lines generalizing cs with
  | nil =>
    have hcs : lossyChars (encodeChars cs) = [] := by
      rw [hlines]
      rfl
    rw [Utf8.lossyChars_encodeChars] at hcs
    rw [hcs]
    rfl
  | cons line lines ih =>
    obtain ⟨hline, hmore⟩ := List.forall_mem_cons.mp hnewline
    rw [List.flatten_cons] at hlines
    obtain ⟨u, v, rfl, rfl, hv⟩ | htorn := Utf8.torn_or_between hlines
    · have hrest := ih hv.symm hmore fun before line after hsplit htorn => by
        apply hwhole (encodeChars u :: before) line after (by rw [hsplit, List.cons_append])
        rw [List.flatten_cons, List.append_assoc]
        exact htorn.append_left u
      rw [List.flatMap_cons, lossyChars_chomp_encodeChars hline, hrest, List.filter_append]
    · exact absurd htorn (hwhole [] line lines rfl)

end Whole

section Damaged

/-- A newline at the end of a line does no harm. -/
theorem damage_chomp (line : Octets) : damage (chomp line) = damage line := by
  obtain rfl | ⟨u, b, hline⟩ := List.eq_nil_or_concat line
  · rfl
  · rw [List.concat_eq_append] at hline
    subst hline
    by_cases hb : b = newline
    · subst hb
      have hnewline : lossyChars [newline] = ['\n'] := rfl
      rw [chomp_append_newline, damage, damage, Utf8.lossyChars_append_ascii u (by decide), hnewline,
        List.count_append, List.count_eq_zero.mpr (by decide : '\ufffd' ∉ ['\n']), Nat.add_zero]
    · rw [chomp_append_of_ne u hb]

/-- Where a character is torn, the texts show more U+FFFD than the stream has. -/
theorem count_lt_of_torn {cs : List Char} {before after : List Octets} {line : Octets}
    (h : Torn cs (before.flatten ++ line) after.flatten) :
    cs.count '\ufffd' < ((before ++ line :: after).flatMap fun line => lossyChars (chomp line)).count '\ufffd' := by
  have hcount (lines : List Octets) :
      damage lines.flatten ≤ (lines.flatMap fun line => lossyChars (chomp line)).count '\ufffd' := by
    have hchomp : (fun line => damage (chomp line)) = damage := funext damage_chomp
    have hle := Utf8.damage_flatten_le lines
    rw [List.count_flatMap] at hle ⊢
    exact Nat.le_trans hle (Nat.le_of_eq (congrArg (fun f => (lines.map f).sum) hchomp.symm))
  have hfront := hcount (before ++ [line])
  have hback := hcount after
  have hsplit : before ++ line :: after = before ++ [line] ++ after := by simp
  have hflatten : (before ++ [line]).flatten = before.flatten ++ line := by simp
  rw [hflatten] at hfront
  rw [hsplit, List.flatMap_append, List.count_append]
  have hlt := h.count_lt
  omega

/-- Only a line that is full before its newline ends inside a character. -/
theorem Pieces.full_of_torn {limit : Nat} {s : Octets} {cs : List Char} {before after : List Octets} {line : Octets}
    (hpieces : Pieces limit s (before ++ line :: after)) (h : Torn cs (before.flatten ++ line) after.flatten) :
    line.length = limit ∧ newline ∉ line := by
  have hne : line ≠ [] := hpieces.ne_nil line (by simp)
  have hafter : after ≠ [] := by
    rintro rfl
    exact h.back_ne_nil rfl
  have hlast : line.getLast hne ≠ newline := by
    intro hnewline
    have hforeign := h.last_foreign newline (by
      rw [List.getLast?_append, List.getLast?_eq_some_getLast hne, hnewline]
      rfl)
    exact absurd hforeign (by decide)
  constructor
  · have hended := hpieces.ended line (by
      rw [List.dropLast_append_of_ne_nil (by simp), List.dropLast_cons_of_ne_nil hafter]
      simp)
    rw [List.getLast?_eq_some_getLast hne, Option.some_inj] at hended
    exact hended.resolve_left hlast
  · rw [← List.dropLast_concat_getLast hne, List.mem_append, List.mem_singleton, not_or]
    exact ⟨hpieces.newline_last line (by simp), Ne.symm hlast⟩

end Damaged

/-- From a stream that is well-formed UTF-8, asking for text until there is none comes to an end, whatever the chunks
and interruptions. The texts together are the text of the stream without its newlines if and only if no line that was
full before its newline ended inside a character. -/
theorem texts_of_stream {c : Console} {text : String} (h : Streams c.events (Utf8.encode text)) :
    ∃ lines texts, Drains (bufferSize - 1) c.events lines ∧
      (∀ other, Drains (bufferSize - 1) c.events other → other = lines) ∧
      Recites c texts ∧ (∀ other, Recites c other → other = texts) ∧
      (String.join texts = String.ofList (text.toList.filter (· ≠ '\n')) ↔
        ∀ before line after, lines = before ++ line :: after → line.length = bufferSize - 1 → newline ∉ line →
          ¬Torn text.toList (before.flatten ++ line) after.flatten) := by
  obtain ⟨lines, hdrains, hrecites, hpieces⟩ := exists_recites h
  refine ⟨lines, _, hdrains, fun _ hother => hother.unique hdrains, hrecites,
    fun _ hother => hother.unique hrecites, ?_⟩
  rw [← String.toList_inj, toList_join_texts, String.toList_ofList]
  constructor
  · rintro hjoin before line after rfl - - htorn
    have hlt := count_lt_of_torn htorn
    rw [hjoin, List.count_filter (by decide)] at hlt
    exact absurd hlt (Nat.lt_irrefl _)
  · intro hwhole
    refine lossyChars_of_not_torn hpieces.flatten.symm hpieces.newline_last ?_
    rintro before line after rfl htorn
    obtain ⟨hfull, hnewline⟩ := hpieces.full_of_torn htorn
    exact hwhole before line after rfl hfull hnewline htorn

/-- A stream in chunks with an interruption whose only full line ends inside a character. -/
theorem texts_of_stream_torn :
    let text := String.ofList (List.replicate 1022 'a' ++ ['é'])
    let c : Console := { events := [.chunk (List.replicate 1000 97), .interrupted,
      .chunk (List.replicate 22 97 ++ [0xc3, 0xa9])] }
    Streams c.events (Utf8.encode text) ∧ ∃ lines texts, Drains (bufferSize - 1) c.events lines ∧
      lines = [List.replicate 1022 97 ++ [0xc3], [0xa9]] ∧ Recites c texts ∧
      String.join texts ≠ String.ofList (text.toList.filter (· ≠ '\n')) := by
  intro text c
  have hencode : Utf8.encode text = List.replicate 1022 97 ++ [0xc3, 0xa9] := by
    rw [Utf8.encode_eq, String.toList_ofList]
    decide +kernel
  have hstream : Streams c.events (Utf8.encode text) := by
    rw [hencode]
    decide +kernel
  have hlines : Drains (bufferSize - 1) c.events [List.replicate 1022 97 ++ [0xc3], [0xa9]] := by
    have hlimit : 0 < bufferSize - 1 := by decide
    have hcut : cutLine (bufferSize - 1) (Utf8.encode text) = (List.replicate 1022 97 ++ [0xc3], [0xa9]) := by
      rw [hencode]
      decide +kernel
    obtain ⟨hfirst, -, hrest⟩ := readLine_stream hlimit hstream
    rw [hcut] at hfirst hrest
    obtain ⟨hsecond, -, hrest⟩ := readLine_stream hlimit hrest
    obtain ⟨hend, -⟩ := readLine_stream hlimit hrest
    have hne : Utf8.encode text ≠ [] := by
      rw [hencode]
      exact List.append_ne_nil_of_right_ne_nil _ (by decide)
    rw [if_neg hne] at hfirst
    exact .line hfirst (.line hsecond (.done hend))
  have htorn : Torn text.toList (List.replicate 1022 97 ++ [0xc3]) [0xa9] := by
    refine ⟨List.replicate 1022 'a', 'é', [], [0xc3], [0xa9], String.toList_ofList, by decide, by simp, by simp, ?_,
      rfl⟩
    decide +kernel
  obtain ⟨lines, texts, hdrains, honly, hrecites, -, hjoin⟩ := texts_of_stream hstream
  obtain rfl := honly _ hlines
  refine ⟨hstream, _, texts, hdrains, rfl, hrecites, fun hwhole => ?_⟩
  exact hjoin.mp hwhole [] _ [[0xa9]] rfl (by decide +kernel) (by decide +kernel) htorn

end RecursiveFactorial.Console
