import RecursiveFactorial.Proofs.Document.Numeral

/-!
# Passing over values

Values are passed over with a stack of open frames. `Closes` says what text closes the frames that are open after a
value, and `Valued` what text does so from the start of a value on. A step from one value to the next keeps this: every
way to go on from where it stops is a way to go on from where it started. In the other direction a value is passed over
whatever the frames around it are.
-/
namespace RecursiveFactorial.Document

open Json
open Utf8 (encodeChars encodeChars_ascii cons_of_encodeChars)

section Entries

def Frame.openChar : Frame → Char
  | .list => '['
  | .object => '\x7b'

def Frame.closeChar : Frame → Char
  | .list => ']'
  | .object => '\x7d'

theorem Frame.closing_eq (f : Frame) : f.closing = f.closeChar.toUInt8 := by
  cases f <;> rfl

theorem Frame.closeChar_lt (f : Frame) : f.closeChar.toNat < 0x80 := by
  cases f <;> decide

/-- What comes before the value of an entry: nothing in a list, a key with its colon in an object. -/
inductive Leads : Frame → List Char → Prop
  | list : Leads .list []
  | object {before key between : List Char} : Blanks before → IsBody key → Blanks between →
      Leads .object (before ++ quoted key ++ between ++ [':'])

/-- A value of a frame with what comes before it. -/
structure Entry where
  lead : List Char
  item : Item

namespace Entry

def chars (e : Entry) : List Char :=
  e.lead ++ e.item.chars

structure Fits (f : Frame) (e : Entry) : Prop where
  lead : Leads f e.lead
  spaced : e.item.Spaced
  value : IsValue e.item.value

end Entry

/-- A frame with its brackets. -/
def frameChars (f : Frame) (es : List Entry) (blanks : List Char) : List Char :=
  f.openChar :: (separated (es.map Entry.chars) ++ blanks ++ [f.closeChar])

variable {f : Frame} {es : List Entry} {blanks : List Char}

/-- The item of a list as an entry. -/
def Entry.ofItem (e : Item) : Entry :=
  ⟨[], e⟩

def Entry.ofMember (m : Member) : Entry :=
  ⟨m.before ++ quoted m.key ++ m.between ++ [':'], m.item⟩

theorem listChars_eq (es : List Item) (blanks : List Char) :
    listChars es blanks = frameChars .list (es.map Entry.ofItem) blanks := by
  have hchars : (es.map Entry.ofItem).map Entry.chars = es.map Item.chars := by
    rw [List.map_map]
    rfl
  rw [listChars, frameChars, hchars]
  rfl

theorem objectChars_eq (ms : List Member) (blanks : List Char) :
    objectChars ms blanks = frameChars .object (ms.map Entry.ofMember) blanks := by
  have hchars : (ms.map Entry.ofMember).map Entry.chars = ms.map Member.chars := by
    rw [List.map_map]
    apply List.map_congr_left
    intro m hm
    simp [Entry.chars, Entry.ofMember, Member.chars]
  rw [objectChars, frameChars, hchars]
  rfl

theorem exists_items (h : ∀ e ∈ es, e.Fits .list) : ∃ items : List Item, es = items.map Entry.ofItem := by
  induction es with
  | nil => exact ⟨[], rfl⟩
  | cons e es ih =>
    obtain ⟨items, rfl⟩ := ih fun e he => h e (List.mem_cons_of_mem _ he)
    obtain ⟨hlead, -, -⟩ := h e List.mem_cons_self
    obtain ⟨lead, item⟩ := e
    cases hlead
    exact ⟨item :: items, rfl⟩

theorem exists_members (h : ∀ e ∈ es, e.Fits .object) :
    ∃ ms : List Member, es = ms.map Entry.ofMember ∧ ∀ m ∈ ms, m.Spaced ∧ IsBody m.key := by
  induction es with
  | nil => exact ⟨[], rfl, by simp⟩
  | cons e es ih =>
    obtain ⟨ms, rfl, hvalid⟩ := ih fun e he => h e (List.mem_cons_of_mem _ he)
    obtain ⟨hlead, hspaced, -⟩ := h e List.mem_cons_self
    obtain ⟨lead, item⟩ := e
    cases hlead with
    | @object before key between hbefore hkey hbetween =>
      refine ⟨⟨before, key, between, item⟩ :: ms, rfl, ?_⟩
      intro m hm
      obtain rfl | hm := List.mem_cons.mp hm
      · exact ⟨⟨hbefore, hbetween, hspaced⟩, hkey⟩
      · exact hvalid m hm

/-- A frame whose entries fit it is a value. -/
theorem isValue_frame (h : ∀ e ∈ es, e.Fits f) (hblanks : Blanks blanks) : IsValue (frameChars f es blanks) := by
  cases f with
  | list =>
    obtain ⟨items, rfl⟩ := exists_items h
    rw [← listChars_eq]
    refine .list ?_ ?_ hblanks
    · intro item hitem
      exact (h _ (List.mem_map_of_mem hitem)).spaced
    · intro item hitem
      exact (h _ (List.mem_map_of_mem hitem)).value
  | object =>
    obtain ⟨ms, rfl, hvalid⟩ := exists_members h
    rw [← objectChars_eq]
    refine .object (fun m hm => (hvalid m hm).1) (fun m hm => (hvalid m hm).2) ?_ hblanks
    intro m hm
    exact (h _ (List.mem_map_of_mem hm)).value

end Entries

section Closing

/-- The characters up to `rest` close all frames after a value. -/
inductive Closes : List Frame → List Char → List Char → Prop
  | nil {rest : List Char} : Closes [] rest rest
  | close {f : Frame} {outer : List Frame} {w cs rest : List Char} : Blanks w → Closes outer cs rest →
      Closes (f :: outer) (w ++ f.closeChar :: cs) rest
  | next {f : Frame} {outer : List Frame} {w lead w' v cs rest : List Char} : Blanks w → Leads f lead → Blanks w' →
      IsValue v → Closes (f :: outer) cs rest → Closes (f :: outer) (w ++ ',' :: (lead ++ (w' ++ (v ++ cs)))) rest

/-- The characters up to `rest` are a value, with blanks before it, and close all frames. -/
def Valued (frames : List Frame) (cs rest : List Char) : Prop :=
  ∃ w v ds, Blanks w ∧ IsValue v ∧ Closes frames ds rest ∧ cs = w ++ (v ++ ds)

variable {f : Frame} {outer frames : List Frame} {cs rest : List Char} {r s : Octets} {p : Progress}

/-- What follows a value inside a frame: further entries and the closing bracket. -/
theorem entries_of_closes (h : Closes (f :: outer) cs rest) :
    ∃ (after : List Char) (es : List Entry) (blanks ds : List Char), Blanks after ∧ (∀ e ∈ es, e.Fits f) ∧
      Blanks blanks ∧ Closes outer ds rest ∧
      cs = after ++ ((es.map Entry.chars).flatMap (',' :: ·) ++ (blanks ++ f.closeChar :: ds)) := by
  generalize hframes : f :: outer = frames at h
  induction h with
  | nil => cases hframes
  | @close f' outer' w ds rest hw hds =>
    obtain ⟨rfl, rfl⟩ := List.cons.inj hframes
    exact ⟨[], [], w, ds, blanks_nil, by simp, hw, hds, rfl⟩
  | @next f' outer' w lead w' v cs rest hw hlead hw' hv _ ih =>
    obtain ⟨rfl, rfl⟩ := List.cons.inj hframes
    obtain ⟨after, es, blanks, ds, hafter, hes, hblanks, hds, rfl⟩ := ih rfl
    refine ⟨w, ⟨lead, ⟨w', v, after⟩⟩ :: es, blanks, ds, hw, ?_, hblanks, hds, ?_⟩
    · intro e he
      obtain rfl | he := List.mem_cons.mp he
      · exact ⟨hlead, ⟨hw', hafter⟩, hv⟩
      · exact hes e he
    · simp [Entry.chars, Item.chars]

/-- Blanks before an entry belong to it. -/
theorem exists_entry {w lead w' v after : List Char} (hw : Blanks w) (hlead : Leads f lead) (hw' : Blanks w')
    (hv : IsValue v) (hafter : Blanks after) :
    ∃ e : Entry, e.Fits f ∧ e.chars = w ++ (lead ++ (w' ++ (v ++ after))) := by
  cases hlead with
  | list => exact ⟨⟨[], ⟨w ++ w', v, after⟩⟩, ⟨.list, ⟨hw.append hw', hafter⟩, hv⟩, by simp [Entry.chars, Item.chars]⟩
  | @object before key between hbefore hkey hbetween =>
    refine ⟨⟨(w ++ before) ++ quoted key ++ between ++ [':'], ⟨w', v, after⟩⟩, ⟨?_, ⟨hw', hafter⟩, hv⟩, ?_⟩
    · exact .object (hw.append hbefore) hkey hbetween
    · simp [Entry.chars, Item.chars]

/-- After the first value of a frame the rest of the frame is closed, and the whole is a value. -/
theorem valued_of_first {w lead : List Char} (hw : Blanks w) (hlead : Leads f lead) (h : Valued (f :: outer) cs rest) :
    Valued outer (f.openChar :: (w ++ (lead ++ cs))) rest := by
  obtain ⟨w', v, ds, hw', hv, hds, rfl⟩ := h
  obtain ⟨after, es, blanks, ds, hafter, hes, hblanks, houter, rfl⟩ := entries_of_closes hds
  obtain ⟨e, he, hchars⟩ := exists_entry hw hlead hw' hv hafter
  refine ⟨[], frameChars f (e :: es) blanks, ds, blanks_nil, ?_, houter, ?_⟩
  · apply isValue_frame _ hblanks
    intro e' he'
    obtain rfl | he' := List.mem_cons.mp he'
    · exact he
    · exact hes e' he'
  · simp [frameChars, separated, hchars]

/-- Where passing over values stands: whatever goes on from there fulfils `P`. -/
def Progress.Fulfils (P : List Char → Prop) : Progress → Prop
  | .done r => ∃ rest, r = encodeChars rest ∧ P rest
  | .value frames r => ∃ cs, r = encodeChars cs ∧ ∀ rest, Valued frames cs rest → P rest

theorem Progress.Fulfils.imp {P Q : List Char → Prop} (h : p.Fulfils P) (himp : ∀ rest, P rest → Q rest) :
    p.Fulfils Q := by
  cases p with
  | done r =>
    obtain ⟨rest, hr, hrest⟩ := h
    exact ⟨rest, hr, himp rest hrest⟩
  | value frames r =>
    obtain ⟨cs, hr, hrest⟩ := h
    exact ⟨cs, hr, fun rest hvalued => himp rest (hrest rest hvalued)⟩

theorem colon_of_expectColon (h : expectColon (encodeChars cs) = .ok r) :
    ∃ w rest, Blanks w ∧ cs = w ++ ':' :: rest ∧ r = encodeChars rest := by
  unfold expectColon at h
  split at h
  · cases h
  · next b t ht =>
    split at h
    · next hcolon =>
      subst hcolon
      obtain ⟨w, rest, rfl, hw, rfl⟩ := cons_of_skipBlanks (a := ':') (by decide) ht
      exact ⟨w, rest, hw, rfl, (Except.ok.inj h).symm⟩
    · cases h

theorem lead_of_skipKey (h : skipKey (encodeChars cs) = .ok r) :
    ∃ lead rest, Leads .object lead ∧ cs = lead ++ rest ∧ r = encodeChars rest := by
  unfold skipKey at h
  split at h
  · cases h
  · next b t ht =>
    split at h
    · next hquote =>
      subst hquote
      obtain ⟨before, ds, rfl, hbefore, rfl⟩ := cons_of_skipBlanks (a := '"') (by decide) ht
      split at h
      · cases h
      · next u hu =>
        obtain ⟨key, ds, hkey, rfl, rfl⟩ := body_of_skipText hu
        obtain ⟨between, rest, hbetween, rfl, rfl⟩ := colon_of_expectColon h
        exact ⟨_, rest, .object hbefore hkey hbetween, by simp [quoted], rfl⟩
    · cases h

theorem lead_of_toNextValue (h : toNextValue f outer (encodeChars cs) = .ok p) :
    ∃ lead ds, Leads f lead ∧ cs = lead ++ ds ∧ p = .value (f :: outer) (encodeChars ds) := by
  cases f with
  | list =>
    cases h
    exact ⟨[], cs, .list, rfl, rfl⟩
  | object =>
    obtain ⟨u, hu, rfl⟩ := map_eq_ok.mp h
    obtain ⟨lead, ds, hlead, rfl, rfl⟩ := lead_of_skipKey hu
    exact ⟨lead, ds, hlead, rfl, rfl⟩

theorem afterValue_fulfils (h : afterValue frames (encodeChars cs) = .ok p) : p.Fulfils (Closes frames cs) := by
  induction frames generalizing cs with
  | nil =>
    cases h
    exact ⟨cs, rfl, .nil⟩
  | cons f outer ih =>
    simp only [afterValue] at h
    split at h
    · cases h
    · next b t ht =>
      split at h
      · next hcomma =>
        subst hcomma
        obtain ⟨w, ds, rfl, hw, rfl⟩ := cons_of_skipBlanks (a := ',') (by decide) ht
        obtain ⟨lead, es, hlead, rfl, rfl⟩ := lead_of_toNextValue h
        refine ⟨es, rfl, ?_⟩
        rintro rest ⟨w', v, ds, hw', hv, hds, rfl⟩
        exact .next hw hlead hw' hv hds
      · split at h
        · next hclose =>
          rw [hclose, f.closing_eq] at ht
          obtain ⟨w, ds, rfl, hw, rfl⟩ := cons_of_skipBlanks f.closeChar_lt ht
          exact (ih h).imp fun rest hrest => .close hw hrest
        · cases h

theorem intoFrame_fulfils (h : intoFrame f outer (encodeChars cs) = .ok p) :
    p.Fulfils (Valued outer (f.openChar :: cs)) := by
  unfold intoFrame at h
  split at h
  · cases h
  · next b t ht =>
    split at h
    · next hclose =>
      rw [hclose, f.closing_eq] at ht
      obtain ⟨w, ds, rfl, hw, rfl⟩ := cons_of_skipBlanks f.closeChar_lt ht
      apply (afterValue_fulfils h).imp
      intro rest hrest
      exact ⟨[], frameChars f [] w, ds, blanks_nil, isValue_frame (by simp) hw, hrest, by simp [frameChars, separated]⟩
    · obtain ⟨w, ds, rfl, hw, hds⟩ := blanks_of_skipBlanks ht
      rw [← hds] at h
      obtain ⟨lead, es, hlead, rfl, rfl⟩ := lead_of_toNextValue h
      exact ⟨es, rfl, fun rest hrest => valued_of_first hw hlead hrest⟩

theorem value_of_skipPlain {b : UInt8} (hs : encodeChars cs = b :: s) (h : skipPlain b s = .ok r) :
    ∃ v rest, IsValue v ∧ cs = v ++ rest ∧ r = encodeChars rest := by
  unfold skipPlain at h
  split at h
  · next hb =>
    subst hb
    obtain ⟨ds, rfl, rfl⟩ := cons_of_encodeChars (a := 'n') (by decide) hs
    obtain ⟨rest, rfl, rfl⟩ := (readWord_encode (by decide)).mp h
    exact ⟨_, rest, .null, by simp, rfl⟩
  split at h
  · next hb =>
    subst hb
    obtain ⟨ds, rfl, rfl⟩ := cons_of_encodeChars (a := 't') (by decide) hs
    obtain ⟨rest, rfl, rfl⟩ := (readWord_encode (by decide)).mp h
    exact ⟨_, rest, .true, by simp, rfl⟩
  split at h
  · next hb =>
    subst hb
    obtain ⟨ds, rfl, rfl⟩ := cons_of_encodeChars (a := 'f') (by decide) hs
    obtain ⟨rest, rfl, rfl⟩ := (readWord_encode (by decide)).mp h
    exact ⟨_, rest, .false, by simp, rfl⟩
  split at h
  · next hb =>
    subst hb
    obtain ⟨ds, rfl, rfl⟩ := cons_of_encodeChars (a := '-') (by decide) hs
    obtain ⟨n, rest, hn, rfl, rfl⟩ := numeral_of_skipNumeral h
    exact ⟨'-' :: n, rest, .number (.negative hn), rfl, rfl⟩
  split at h
  · rw [← hs] at h
    obtain ⟨n, rest, hn, rfl, rfl⟩ := numeral_of_skipNumeral h
    exact ⟨n, rest, .number (.plain hn), rfl, rfl⟩
  split at h
  · next hb =>
    subst hb
    obtain ⟨ds, rfl, rfl⟩ := cons_of_encodeChars (a := '"') (by decide) hs
    obtain ⟨raw, rest, hraw, rfl, rfl⟩ := body_of_skipText h
    exact ⟨quoted raw, rest, .text hraw, by simp [quoted], rfl⟩
  · cases h

theorem Valued.blanks {w : List Char} (hw : Blanks w) (h : Valued frames cs rest) : Valued frames (w ++ cs) rest := by
  obtain ⟨w', v, ds, hw', hv, hds, rfl⟩ := h
  exact ⟨w ++ w', v, ds, hw.append hw', hv, hds, by simp⟩

theorem skipStep_fulfils (h : skipStep frames (encodeChars cs) = .ok p) : p.Fulfils (Valued frames cs) := by
  unfold skipStep at h
  split at h
  · cases h
  · next b t ht =>
    obtain ⟨w, ds, rfl, hw, hds⟩ := blanks_of_skipBlanks ht
    suffices hvalued : p.Fulfils (Valued frames ds) from hvalued.imp fun rest hrest => hrest.blanks hw
    split at h
    · next hb =>
      subst hb
      obtain ⟨es, rfl, rfl⟩ := cons_of_encodeChars (a := '[') (by decide) hds
      exact intoFrame_fulfils h
    split at h
    · next hb =>
      subst hb
      obtain ⟨es, rfl, rfl⟩ := cons_of_encodeChars (a := '\x7b') (by decide) hds
      exact intoFrame_fulfils h
    split at h
    · cases h
    · next u hu =>
      obtain ⟨v, es, hv, rfl, rfl⟩ := value_of_skipPlain hds hu
      apply (afterValue_fulfils h).imp
      intro rest hrest
      exact ⟨[], v, es, blanks_nil, hv, hrest, rfl⟩

/-- What is passed over from the start of a value on is a value and closes all frames. -/
theorem valued_of_skipFrom (h : skipFrom frames (encodeChars cs) = .ok r) :
    ∃ rest, r = encodeChars rest ∧ Valued frames cs rest := by
  generalize hs : encodeChars cs = s at h
  fun_induction skipFrom frames s generalizing cs with
  | case1 frames s f hstep => cases h
  | case2 frames s r' hstep =>
    subst hs
    obtain ⟨rest, rfl, hrest⟩ := skipStep_fulfils hstep
    exact ⟨rest, (Except.ok.inj h).symm, hrest⟩
  | case3 frames s frames' r' hstep ih =>
    subst hs
    obtain ⟨ds, rfl, hds⟩ := skipStep_fulfils hstep
    obtain ⟨rest, hr, hrest⟩ := ih rfl h
    exact ⟨rest, hr, hds rest hrest⟩

/-- A value that is passed over belongs to the grammar. -/
theorem value_of_skipValue (h : skipValue (encodeChars cs) = .ok r) :
    ∃ w v rest, Blanks w ∧ IsValue v ∧ cs = w ++ (v ++ rest) ∧ r = encodeChars rest := by
  obtain ⟨rest, rfl, w, v, ds, hw, hv, hds, rfl⟩ := valued_of_skipFrom h
  cases hds
  exact ⟨w, v, rest, hw, hv, rfl, rfl⟩

end Closing

section Passing

variable {f : Frame} {outer frames : List Frame} {v w cs rest : List Char}

/-- Goes on from where a step has led. -/
def proceed : Except Fault Progress → Except Fault Octets
  | .error f => .error f
  | .ok (.done r) => .ok r
  | .ok (.value frames r) => skipFrom frames r

theorem skipFrom_eq (frames : List Frame) (s : Octets) : skipFrom frames s = proceed (skipStep frames s) := by
  rw [skipFrom]
  split <;> simp_all [proceed]

/-- A value is passed over up to what comes after it, in any frames. -/
def Passes (v : List Char) : Prop :=
  ∀ w frames rest, Blanks w → Ends rest →
    skipFrom frames (encodeChars (w ++ (v ++ rest))) = proceed (afterValue frames (encodeChars rest))

theorem ends_cons {c : Char} (hc : c ∈ [',', ']', '\x7d', ' ', '\t', '\n', '\r']) : Ends (c :: cs) := by
  intro d hd
  cases hd
  simp only [List.mem_cons, List.not_mem_nil, or_false] at hc
  rcases hc with rfl | rfl | rfl | rfl | rfl | rfl | rfl <;> decide

theorem ends_blanks (hw : Blanks w) (hcs : Ends cs) : Ends (w ++ cs) := by
  cases w with
  | nil => exact hcs
  | cons c w =>
    apply ends_cons
    have hc : Json.isBlank c = true := hw c List.mem_cons_self
    simp only [Json.isBlank, Bool.or_eq_true, beq_iff_eq] at hc
    obtain ((rfl | rfl) | rfl) | rfl := hc <;> simp

theorem head_whole (hw : IsWhole w) : ∃ d ds, d.isDigit = true ∧ w = d :: ds := by
  cases hw with
  | zero => exact ⟨'0', [], rfl, rfl⟩
  | digits hd hzero hds => exact ⟨_, _, hd, rfl⟩

theorem head_numeral {n : List Char} (hn : IsNumeral n) : ∃ d ds, d.isDigit = true ∧ n = d :: ds := by
  cases hn with
  | mk hw hf he =>
    obtain ⟨d, ds, hd, rfl⟩ := head_whole hw
    exact ⟨d, _, hd, rfl⟩

theorem digit_ne {d a : Char} (hd : d.isDigit = true) (ha : a.isDigit = false) : d ≠ a := by
  rintro rfl
  rw [ha] at hd
  cases hd

theorem isBlank_digit {d : Char} (hd : d.isDigit = true) : Json.isBlank d = false := by
  simp [Json.isBlank, digit_ne (a := ' ') hd rfl, digit_ne (a := '\t') hd rfl, digit_ne (a := '\n') hd rfl,
    digit_ne (a := '\r') hd rfl]

/-- A value starts with something else than a blank or a closing bracket. -/
theorem head_value (hv : IsValue v) : ∃ c cs, v = c :: cs ∧ Json.isBlank c = false ∧ c ≠ ']' ∧ c ≠ '\x7d' := by
  cases hv with
  | null => exact ⟨'n', "ull".toList, by simp, by decide, by decide, by decide⟩
  | true => exact ⟨'t', "rue".toList, by simp, by decide, by decide, by decide⟩
  | false => exact ⟨'f', "alse".toList, by simp, by decide, by decide, by decide⟩
  | number hn =>
    cases hn with
    | plain hn =>
      obtain ⟨d, ds, hd, rfl⟩ := head_numeral hn
      exact ⟨d, ds, rfl, isBlank_digit hd, digit_ne hd rfl, digit_ne hd rfl⟩
    | negative hn => exact ⟨'-', _, rfl, by decide, by decide, by decide⟩
  | text hraw => exact ⟨'"', _, rfl, by decide, by decide, by decide⟩
  | list => exact ⟨'[', _, rfl, by decide, by decide, by decide⟩
  | object => exact ⟨'\x7b', _, rfl, by decide, by decide, by decide⟩

theorem expectColon_append (hw : Blanks w) :
    expectColon (encodeChars (w ++ ':' :: rest)) = .ok (encodeChars rest) := by
  rw [expectColon, skipBlanks_append hw (by decide), encodeChars_ascii (by decide)]
  rfl

theorem skipKey_append {before key between : List Char} (hbefore : Blanks before) (hkey : IsBody key)
    (hbetween : Blanks between) :
    skipKey (encodeChars (before ++ quoted key ++ between ++ [':'] ++ cs)) = .ok (encodeChars cs) := by
  have htext : before ++ quoted key ++ between ++ [':'] ++ cs =
      before ++ '"' :: (key ++ '"' :: (between ++ ':' :: cs)) := by simp [quoted]
  rw [htext, skipKey, skipBlanks_append hbefore (by decide), encodeChars_ascii (by decide)]
  simp only [if_true, skipText_body hkey, expectColon_append hbetween]

theorem toNextValue_append {lead : List Char} (hlead : Leads f lead) (outer : List Frame) (cs : List Char) :
    toNextValue f outer (encodeChars (lead ++ cs)) = .ok (.value (f :: outer) (encodeChars cs)) := by
  cases hlead with
  | list => rfl
  | object hbefore hkey hbetween =>
    rw [toNextValue, skipKey_append hbefore hkey hbetween]
    rfl

theorem intoFrame_head {c : Char} (hw : Blanks w) (hblank : Json.isBlank c = false) (hclose : c ≠ f.closeChar)
    (outer : List Frame) (cs : List Char) :
    intoFrame f outer (encodeChars (w ++ c :: cs)) = toNextValue f outer (encodeChars (c :: cs)) := by
  have hhead : f.closeChar ∉ (c :: cs).head? := by
    intro hmem
    exact hclose (Option.some.inj hmem)
  rw [intoFrame, skipBlanks_append hw hblank]
  generalize hs : encodeChars (c :: cs) = s
  cases s with
  | nil => exact absurd (List.append_eq_nil_iff.mp hs).1 (by simp)
  | cons b s =>
    have hb : b ≠ f.closing := by
      rw [f.closing_eq]
      exact octet_ne_of_head f.closeChar_lt hhead hs
    simp only [if_neg hb]

/-- The first value of a frame is reached past its lead. -/
theorem intoFrame_first {lead : List Char} (hlead : Leads f lead) (hw : Blanks w) (hv : IsValue v)
    (outer : List Frame) (cs : List Char) :
    ∃ w', Blanks w' ∧ intoFrame f outer (encodeChars (lead ++ (w ++ (v ++ cs)))) =
      .ok (.value (f :: outer) (encodeChars (w' ++ (v ++ cs)))) := by
  cases hlead with
  | list =>
    obtain ⟨c, ds, rfl, hblank, hclose, -⟩ := head_value hv
    exact ⟨[], blanks_nil, intoFrame_head (f := .list) hw hblank hclose outer _⟩
  | @object before key between hbefore hkey hbetween =>
    have hnext := toNextValue_append (.object blanks_nil hkey hbetween) outer (w ++ (v ++ cs))
    have hinto := intoFrame_head (f := .object) (c := '"') hbefore (by decide) (by decide) outer
      (key ++ '"' :: (between ++ ':' :: (w ++ (v ++ cs))))
    refine ⟨w, hw, ?_⟩
    simpa [quoted] using hinto.trans (by simpa [quoted] using hnext)

theorem afterValue_comma (hw : Blanks w) :
    afterValue (f :: outer) (encodeChars (w ++ ',' :: cs)) = toNextValue f outer (encodeChars cs) := by
  rw [afterValue, skipBlanks_append hw (by decide), encodeChars_ascii (by decide)]
  rfl

theorem afterValue_close (hw : Blanks w) :
    afterValue (f :: outer) (encodeChars (w ++ f.closeChar :: cs)) = afterValue outer (encodeChars cs) := by
  have hblank : Json.isBlank f.closeChar = false := by cases f <;> decide
  have hcomma : f.closeChar.toUInt8 ≠ ','.toUInt8 := by cases f <;> decide
  rw [afterValue, skipBlanks_append hw hblank, encodeChars_ascii f.closeChar_lt]
  simp only [if_neg hcomma, if_pos f.closing_eq.symm]

variable {es : List Entry} {blanks : List Char}

/-- What is left of a frame after one of its values. -/
def tailChars (f : Frame) (es : List Entry) (blanks rest : List Char) : List Char :=
  (es.map Entry.chars).flatMap (',' :: ·) ++ (blanks ++ f.closeChar :: rest)

theorem ends_tail (f : Frame) (es : List Entry) (hblanks : Blanks blanks) (rest : List Char) :
    Ends (tailChars f es blanks rest) := by
  cases es with
  | nil =>
    apply ends_blanks hblanks
    apply ends_cons
    cases f <;> simp [Frame.closeChar]
  | cons e es => exact ends_cons (by simp)

theorem tailChars_cons (e : Entry) :
    tailChars f (e :: es) blanks rest =
      ',' :: (e.lead ++ (e.item.before ++ (e.item.value ++ (e.item.after ++ tailChars f es blanks rest)))) := by
  simp [tailChars, Entry.chars, Item.chars]

/-- From the end of a value, a frame is passed over to its end. -/
theorem proceed_tail (hes : ∀ e ∈ es, e.Fits f) (hpass : ∀ e ∈ es, Passes e.item.value) (hblanks : Blanks blanks)
    (hw : Blanks w) :
    proceed (afterValue (f :: outer) (encodeChars (w ++ tailChars f es blanks rest))) =
      proceed (afterValue outer (encodeChars rest)) := by
  induction es generalizing w with
  | nil =>
    have htail : w ++ tailChars f [] blanks rest = (w ++ blanks) ++ f.closeChar :: rest := by simp [tailChars]
    rw [htail, afterValue_close (hw.append hblanks)]
  | cons e es ih =>
    obtain ⟨hlead, hspaced, hvalue⟩ := hes e List.mem_cons_self
    have hmore := ends_blanks hspaced.2 (ends_tail f es hblanks rest)
    rw [tailChars_cons, afterValue_comma hw, toNextValue_append hlead outer, proceed,
      hpass e List.mem_cons_self _ _ _ hspaced.1 hmore]
    exact ih (fun e he => hes e (List.mem_cons_of_mem _ he)) (fun e he => hpass e (List.mem_cons_of_mem _ he))
      hspaced.2

theorem skipStep_open (hw : Blanks w) :
    skipStep frames (encodeChars (w ++ f.openChar :: cs)) = intoFrame f frames (encodeChars cs) := by
  have hblank : Json.isBlank f.openChar = false := by cases f <;> decide
  have hascii : f.openChar.toNat < 0x80 := by cases f <;> decide
  rw [skipStep, skipBlanks_append hw hblank, encodeChars_ascii hascii]
  cases f <;> rfl

theorem intoFrame_close (hblanks : Blanks blanks) :
    intoFrame f outer (encodeChars (blanks ++ f.closeChar :: rest)) = afterValue outer (encodeChars rest) := by
  have hblank : Json.isBlank f.closeChar = false := by cases f <;> decide
  rw [intoFrame, skipBlanks_append hblanks hblank, encodeChars_ascii f.closeChar_lt]
  simp only [if_pos f.closing_eq.symm]

theorem passes_frame (hes : ∀ e ∈ es, e.Fits f) (hpass : ∀ e ∈ es, Passes e.item.value) (hblanks : Blanks blanks) :
    Passes (frameChars f es blanks) := by
  intro w frames rest hw _
  cases es with
  | nil =>
    have hchars : w ++ (frameChars f [] blanks ++ rest) = w ++ f.openChar :: (blanks ++ f.closeChar :: rest) := by
      simp [frameChars, separated]
    rw [hchars, skipFrom_eq, skipStep_open hw, intoFrame_close hblanks]
  | cons e es =>
    obtain ⟨hlead, hspaced, hvalue⟩ := hes e List.mem_cons_self
    have hchars : w ++ (frameChars f (e :: es) blanks ++ rest) =
        w ++ f.openChar :: (e.lead ++ (e.item.before ++
          (e.item.value ++ (e.item.after ++ tailChars f es blanks rest)))) := by
      simp [frameChars, separated, tailChars, Entry.chars, Item.chars]
    have hmore := ends_blanks hspaced.2 (ends_tail f es hblanks rest)
    obtain ⟨w', hw', hinto⟩ := intoFrame_first hlead hspaced.1 hvalue frames
      (e.item.after ++ tailChars f es blanks rest)
    rw [hchars, skipFrom_eq, skipStep_open hw, hinto, proceed, hpass e List.mem_cons_self _ _ _ hw' hmore]
    exact proceed_tail (fun e he => hes e (List.mem_cons_of_mem _ he))
      (fun e he => hpass e (List.mem_cons_of_mem _ he)) hblanks hspaced.2

/-- A value without brackets is passed over by its first character. -/
theorem passes_plain {c : Char} (hc : c.toNat < 0x80) (hblank : Json.isBlank c = false) (hlist : c ≠ '[')
    (hobject : c ≠ '\x7b') {cs : List Char}
    (h : ∀ rest, Ends rest → skipPlain c.toUInt8 (encodeChars (cs ++ rest)) = .ok (encodeChars rest)) :
    Passes (c :: cs) := by
  intro w frames rest hw hrest
  have hlist' : c.toUInt8 ≠ '['.toUInt8 := by rwa [ne_eq, Utf8.toUInt8_inj hc (by decide)]
  have hobject' : c.toUInt8 ≠ '\x7b'.toUInt8 := by rwa [ne_eq, Utf8.toUInt8_inj hc (by decide)]
  rw [skipFrom_eq, skipStep, List.cons_append, skipBlanks_append hw hblank, encodeChars_ascii hc]
  simp only [if_neg hlist', if_neg hobject', h rest hrest]

theorem passes_numeral {n : List Char} (hn : IsNumeral n) : Passes n := by
  obtain ⟨d, ds, hd, rfl⟩ := head_numeral hn
  have hascii := toNat_lt_of_isDigit hd
  have hne {a : Char} (ha : a.isDigit = false) (hlt : a.toNat < 0x80) : d.toUInt8 ≠ a.toUInt8 := by
    rw [ne_eq, Utf8.toUInt8_inj hascii hlt]
    exact digit_ne hd ha
  apply passes_plain hascii (isBlank_digit hd) (digit_ne hd rfl) (digit_ne hd rfl)
  intro rest hrest
  rw [skipPlain, if_neg (hne rfl (by decide)), if_neg (hne rfl (by decide)), if_neg (hne rfl (by decide)),
    if_neg (hne rfl (by decide)), if_pos (isDigit_toUInt8 hd), ← encodeChars_ascii hascii]
  exact skipNumeral_append hn hrest

/-- Every value is passed over. -/
theorem passes_of_isValue (hv : IsValue v) : Passes v := by
  induction hv with
  | null =>
    have hskip (rest : List Char) (_ : Ends rest) :
        skipPlain 'n'.toUInt8 (encodeChars ("ull".toList ++ rest)) = .ok (encodeChars rest) :=
      (readWord_encode (by decide)).mpr ⟨rest, rfl, rfl⟩
    exact passes_plain (by decide) (by decide) (by decide) (by decide) hskip
  | true =>
    have hskip (rest : List Char) (_ : Ends rest) :
        skipPlain 't'.toUInt8 (encodeChars ("rue".toList ++ rest)) = .ok (encodeChars rest) :=
      (readWord_encode (by decide)).mpr ⟨rest, rfl, rfl⟩
    exact passes_plain (by decide) (by decide) (by decide) (by decide) hskip
  | false =>
    have hskip (rest : List Char) (_ : Ends rest) :
        skipPlain 'f'.toUInt8 (encodeChars ("alse".toList ++ rest)) = .ok (encodeChars rest) :=
      (readWord_encode (by decide)).mpr ⟨rest, rfl, rfl⟩
    exact passes_plain (by decide) (by decide) (by decide) (by decide) hskip
  | number hn =>
    cases hn with
    | plain hn => exact passes_numeral hn
    | negative hn =>
      apply passes_plain (by decide) (by decide) (by decide) (by decide)
      intro rest hrest
      exact skipNumeral_append hn hrest
  | @text raw hraw =>
    apply passes_plain (by decide) (by decide) (by decide) (by decide)
    intro rest _
    rw [List.append_assoc]
    exact skipText_body hraw rest
  | @list es blanks hspaced hvalue hblanks ih =>
    rw [listChars_eq]
    apply passes_frame _ _ hblanks
    · intro e he
      obtain ⟨item, hitem, rfl⟩ := List.mem_map.mp he
      exact ⟨.list, hspaced item hitem, hvalue item hitem⟩
    · intro e he
      obtain ⟨item, hitem, rfl⟩ := List.mem_map.mp he
      exact ih item hitem
  | @object ms blanks hspaced hkey hvalue hblanks ih =>
    rw [objectChars_eq]
    apply passes_frame _ _ hblanks
    · intro e he
      obtain ⟨m, hm, rfl⟩ := List.mem_map.mp he
      obtain ⟨hbefore, hbetween, hitem⟩ := hspaced m hm
      exact ⟨.object hbefore (hkey m hm) hbetween, hitem, hvalue m hm⟩
    · intro e he
      obtain ⟨m, hm, rfl⟩ := List.mem_map.mp he
      exact ih m hm

theorem skipValue_append (hw : Blanks w) (hv : IsValue v) (hrest : Ends rest) :
    skipValue (encodeChars (w ++ (v ++ rest))) = .ok (encodeChars rest) := by
  rw [skipValue, passes_of_isValue hv w [] rest hw hrest]
  rfl

end Passing

end RecursiveFactorial.Document
