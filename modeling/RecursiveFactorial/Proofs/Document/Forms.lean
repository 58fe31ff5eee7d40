import RecursiveFactorial.Proofs.Document.Context
import RecursiveFactorial.Proofs.Document.Load

/-!
# The two forms of a document

A list of values and an object that gives the same values to the first keys come to the same settings, or to the same
complaint. Both readers go through the values in the order of the keys: what they come to is `fill`, which
knows of no brackets, commas, names or blanks. A list may go on after the last key, and is then refused.
-/
namespace RecursiveFactorial

open Json
open Utf8 (encodeChars encodeChars_ascii)

namespace Document

/-- A list of these values. -/
inductive ListOf (vs : List (List Char)) : List Char → Prop
  | mk {before blanks after : List Char} {es : List Item} : Blanks before → Blanks blanks → Blanks after →
      (∀ e ∈ es, e.Spaced) → (∀ e ∈ es, IsValue e.value) → es.map Item.value = vs →
      ListOf vs (before ++ listChars es blanks ++ after)

/-- An object with these names and values. -/
inductive ObjectOf (given : List (String × List Char)) : List Char → Prop
  | mk {before blanks after : List Char} {ms : List Named} : Blanks before → Blanks blanks → Blanks after →
      (∀ m ∈ ms, m.WellFormed) → ms.map Named.pair = given →
      ObjectOf given (before ++ objectChars (ms.map Named.member) blanks ++ after)

/-- What a draft becomes with values for the keys in their order, or the first complaint. -/
def fill : List Key → List (List Char) → Draft → Except Complaint Draft
  | _, [], d => .ok d
  | [], _ :: _, _ => .error .trailingCharacters
  | key :: keys, v :: vs, d =>
    match fieldOf key v with
    | .error c => .error c
    | .ok t => fill keys vs (d.withField t key)

variable {d : Draft} {keys : List Key} {key : Key} {after blanks rest : List Char}

theorem fill_nil (keys : List Key) (d : Draft) : fill keys [] d = .ok d := by
  cases keys <;> rfl

/-- Going on with the fields after the first one. -/
theorem gives_fill {v : List Char} {vs : List (List Char)} {between rest : Octets} {r : Except Fault (Draft × Octets)}
    {f : Draft × Octets → Except Fault (Draft × Octets)}
    (h : Gives between r ((fieldOf key v).map (d.withField · key)))
    (hf : ∀ t, Gives rest (f (d.withField t key, between)) (fill keys vs (d.withField t key))) :
    Gives rest (r >>= f) (fill (key :: keys) (v :: vs) d) := by
  cases hfield : fieldOf key v with
  | error c =>
    rw [hfield] at h
    obtain ⟨n, rfl⟩ := h.eq_error
    simp only [fill, hfield]
    exact .complaint c n
  | ok t =>
    rw [hfield] at h
    simp only [fill, hfield]
    rw [bind_of_value h.eq_ok]
    exact hf t

section Elements

variable {e : Item} {es : List Item}

theorem closeList_comma {w v : List Char} (hafter : Blanks after) (hw : Blanks w) (hv : IsValue v) (cs : List Char) :
    ∃ n, closeList (encodeChars (after ++ ',' :: (w ++ (v ++ cs)))) = .error ⟨.trailingCharacters, n⟩ := by
  obtain ⟨c, ds, rfl, hblank, hclose, -⟩ := head_value hv
  obtain ⟨b, s, hs, -, hne⟩ := exists_octet c (ds ++ cs)
  rw [closeList, skipBlanks_append hafter (by decide), encodeChars_ascii (by decide)]
  simp only [List.cons_append, skipBlanks_append hw hblank, hs, if_neg (hne ']' (by decide) hclose)]
  exact ⟨_, rfl⟩

theorem closeList_append (hblanks : Blanks blanks) :
    closeList (encodeChars (blanks ++ ']' :: rest)) = .ok (encodeChars rest) := by
  rw [closeList, skipBlanks_append hblanks (by decide), encodeChars_ascii (by decide)]
  rfl

theorem readElements_close {first : Bool} (hblanks : Blanks blanks) :
    readElements first (key :: keys) d (encodeChars (blanks ++ ']' :: rest)) = .ok (d, encodeChars rest) := by
  rw [readElements, skipBlanks_append hblanks (by decide), encodeChars_ascii (by decide)]
  rfl

/-- One value of a list. -/
theorem readElements_next {first : Bool} {w v cs : List Char} (hafter : Blanks after) (hw : Blanks w)
    (hv : IsValue v) :
    readElements first (key :: keys) d (encodeChars (after ++ (comma first ++ (w ++ (v ++ cs))))) =
      readField key d (encodeChars (v ++ cs)) >>= fun x => readElements false keys x.1 x.2 := by
  obtain ⟨c, ds, rfl, hblank, hclose, -⟩ := head_value hv
  obtain ⟨b, s, hs, -, hne⟩ := exists_octet c (ds ++ cs)
  have hb := hne ']' (by decide) hclose
  cases first with
  | true =>
    rw [comma, if_pos rfl, List.nil_append, ← List.append_assoc, readElements, List.cons_append,
      skipBlanks_append (hafter.append hw) hblank, hs]
    simp only [if_neg hb, if_true]
  | false =>
    rw [comma, if_neg (by decide), List.singleton_append, readElements, skipBlanks_append hafter (by decide),
      encodeChars_ascii (by decide)]
    simp only [List.cons_append, skipBlanks_append hw hblank, hs, if_neg hb]
    rfl

theorem Item.chars_append (e : Item) (cs : List Char) : e.chars ++ cs = e.before ++ (e.value ++ (e.after ++ cs)) := by
  simp [Item.chars]

/-- A list comes to what its values come to in their order. -/
theorem readElements_gives {first : Bool} (hfirst : first = true → keys ≠ []) (hafter : Blanks after)
    (hspaced : ∀ e ∈ es, e.Spaced) (hvalue : ∀ e ∈ es, IsValue e.value) (hblanks : Blanks blanks) :
    Gives (encodeChars rest)
      (readElements first keys d (encodeChars (after ++ (entries first (es.map Item.chars) ++
        (blanks ++ ']' :: rest)))))
      (fill keys (es.map Item.value) d) := by
  induction es generalizing first keys d after with
  | nil =>
    have hchars : after ++ (entries first (List.map Item.chars []) ++ (blanks ++ ']' :: rest)) =
        (after ++ blanks) ++ ']' :: rest := by cases first <;> simp [entries, separated]
    rw [hchars, List.map_nil, fill_nil]
    cases keys with
    | nil =>
      rw [readElements, closeList_append (hafter.append hblanks)]
      exact .value d
    | cons key keys =>
      rw [readElements_close (hafter.append hblanks)]
      exact .value d
  | cons e es ih =>
    obtain ⟨⟨hbefore, hlast⟩, hspaced⟩ := List.forall_mem_cons.mp hspaced
    obtain ⟨hv, hvalue⟩ := List.forall_mem_cons.mp hvalue
    rw [List.map_cons, List.map_cons, entries_cons, List.append_assoc, List.append_assoc, Item.chars_append]
    cases keys with
    | nil =>
      have hfalse : first = false := by
        cases first with
        | false => rfl
        | true => exact absurd rfl (hfirst rfl)
      subst hfalse
      have hcomma := closeList_comma hafter hbefore hv
      obtain ⟨n, hn⟩ := hcomma (e.after ++ (entries false (es.map Item.chars) ++ (blanks ++ ']' :: rest)))
      rw [comma, if_neg (by decide), List.singleton_append, readElements, hn]
      exact .complaint _ n
    | cons key keys =>
      have hends : Ends (e.after ++ (entries false (es.map Item.chars) ++ (blanks ++ ']' :: rest))) :=
        ends_blanks hlast (ends_entries _ hblanks (ends_cons (by simp)))
      rw [readElements_next hafter hbefore hv]
      exact gives_fill (readField_gives key d blanks_nil hv hends) fun t => ih (by simp) hlast hspaced hvalue

end Elements

section Members

variable {m : Named} {ms : List Named} {s u : Octets}

theorem readMembers_fault {first : Bool} {b : UInt8} {f : Fault} (h : skipBlanks s = b :: u) (hb : b ≠ '\x7d'.toUInt8)
    (hnext : readNextMember first b d u = .error f) : readMembers first d s = .error f := by
  rw [readMembers]
  split
  · next hs => rw [h] at hs; cases hs
  · next b' u' hs =>
    rw [h] at hs
    obtain ⟨rfl, rfl⟩ := List.cons.inj hs
    rw [if_neg hb]
    split
    · next herror =>
      rw [hnext] at herror
      cases herror
      rfl
    · next hok => rw [hnext] at hok; cases hok

/-- One member of an object, and the ones behind it. -/
theorem readMembers_bind {first : Bool} {b : UInt8} (h : skipBlanks s = b :: u) (hb : b ≠ '\x7d'.toUInt8) :
    readMembers first d s = readNextMember first b d u >>= fun x => readMembers false x.1 x.2 := by
  cases hnext : readNextMember first b d u with
  | error f => exact readMembers_fault h hb hnext
  | ok x => exact readMembers_next h hb hnext

/-- A member with a new key is the field of that key. -/
theorem readNextMember_known {first : Bool} {b : UInt8} (hm : m.WellFormed) (hname : m.name = key.text)
    (hnew : d.content? key = none)
    (hkey : toKey first b s = .ok (encodeChars (m.member.key ++ '"' :: (m.member.between ++ ':' ::
      (m.member.item.before ++ (m.member.item.value ++ rest)))))) :
    readNextMember first b d s =
      readField key d (encodeChars (m.member.item.before ++ (m.member.item.value ++ rest))) := by
  obtain ⟨⟨-, hbetween, -⟩, hspells, -⟩ := hm
  have hknown : Key.ofText? m.name = some key := Key.ofText?_eq_some.mpr hname
  have habsent : d.has key = false := by simp [Draft.has_eq, hnew]
  refine (bind_of_value hkey).trans ((bind_of_value (readText_spells hspells _)).trans ?_)
  simp only [String.ofList_toList, readMember, hknown, habsent, Bool.false_eq_true, if_false]
  exact bind_of_value (expectColon_append hbetween)

theorem toKey_quote (s : Octets) : toKey true '"'.toUInt8 s = .ok s := rfl

theorem readMembers_known {first : Bool} (hafter : Blanks after) (hm : m.WellFormed) (hname : m.name = key.text)
    (hnew : d.content? key = none) (cs : List Char) :
    readMembers first d (encodeChars (after ++ (comma first ++ (m.chars ++ cs)))) =
      readField key d (encodeChars (m.member.item.before ++ (m.member.item.value ++ (m.member.item.after ++ cs)))) >>=
        fun x => readMembers false x.1 x.2 := by
  rw [Named.chars_append]
  cases first with
  | true =>
    rw [comma, if_pos rfl, List.nil_append, ← List.append_assoc after,
      ← readNextMember_known hm hname hnew (toKey_quote _)]
    apply readMembers_bind _ (by decide)
    rw [skipBlanks_append (hafter.append hm.spaced.1) (by decide), encodeChars_ascii (by decide)]
  | false =>
    rw [comma, if_neg (by decide), List.singleton_append,
      ← readNextMember_known hm hname hnew (toKey_comma hm.spaced.1 _)]
    apply readMembers_bind _ (by decide)
    rw [skipBlanks_append hafter (by decide), encodeChars_ascii (by decide)]

/-- An object comes to what its values come to, if its names are the first keys in their order. -/
theorem readMembers_gives {first : Bool} {vs : List (List Char)} (hafter : Blanks after) (hms : ∀ m ∈ ms, m.WellFormed)
    (hblanks : Blanks blanks) (hpairs : ms.map Named.pair = (keys.map Key.text).zip vs)
    (hlength : vs.length ≤ keys.length) (hnodup : keys.Nodup) (hnew : ∀ k ∈ keys, d.content? k = none) :
    Gives (encodeChars rest)
      (readMembers first d (encodeChars (after ++ (entries first (ms.map Named.chars) ++ (blanks ++ '\x7d' :: rest)))))
      (fill keys vs d) := by
  induction vs generalizing first keys d after ms with
  | nil =>
    rw [List.zip_nil_right] at hpairs
    obtain rfl := List.map_eq_nil_iff.mp hpairs
    rw [fill_nil, readMembers_append hafter hms hblanks (.nil d)]
    exact .value d
  | cons v vs ih =>
    cases keys with
    | nil => exact absurd hlength (by simp)
    | cons key keys =>
      rw [List.map_cons, List.zip_cons_cons] at hpairs
      obtain ⟨m, ms, rfl, hpair, hlater⟩ := List.map_eq_cons_iff.mp hpairs
      obtain ⟨hname, rfl⟩ := Prod.mk.inj hpair
      obtain ⟨hm, hms⟩ := List.forall_mem_cons.mp hms
      obtain ⟨hkey, hnodup⟩ := List.nodup_cons.mp hnodup
      have hends : Ends (m.member.item.after ++ (entries false (ms.map Named.chars) ++ (blanks ++ '\x7d' :: rest))) :=
        ends_blanks hm.spaced.2.2.2 (ends_entries _ hblanks (ends_cons (by simp)))
      rw [List.map_cons, entries_cons, List.append_assoc, List.append_assoc,
        readMembers_known hafter hm hname (hnew key List.mem_cons_self)]
      refine gives_fill (readField_gives key d hm.spaced.2.2.1 hm.value hends) fun t => ?_
      refine ih hm.spaced.2.2.2 hms hlater (Nat.le_of_succ_le_succ hlength) hnodup fun k hk => ?_
      have hne : k ≠ key := by
        rintro rfl
        exact hkey hk
      rw [Draft.content?_withField, if_neg hne]
      exact hnew k (List.mem_cons_of_mem _ hk)

end Members

section Documents

variable {cs : List Char} {vs : List (List Char)}

theorem Draft.withField_withField (d t : Draft) (key : Key) :
    d.withField (({} : Draft).withField t key) key = d.withField t key := by
  cases key <;> rfl

theorem fieldOf_of_denotes {v : List Char} {c : Content} {t : Draft} (hv : Denotes v c)
    (hc : t.content? key = some c) :
    fieldOf key v = .ok (({} : Draft).withField t key) := by
  have hread : readField key {} (encodeChars ([] ++ (v ++ []))) = .ok (({} : Draft).withField t key, encodeChars []) :=
    readField_append blanks_nil hv hc (by simp [Ends])
  rw [List.nil_append, List.append_nil] at hread
  rw [fieldOf, hread]
  rfl

/-- Values of the types that the keys ask for are accepted, but not more of them than keys. -/
theorem fill_of_follows {t : Draft} (h : Follows d ((keys.map Key.text).zip vs) t) :
    fill keys vs d = if vs.length ≤ keys.length then .ok t else .error .trailingCharacters := by
  induction keys generalizing vs d with
  | nil =>
    obtain rfl := Follows.eq h
    cases vs with
    | nil => rfl
    | cons v vs => rfl
  | cons key keys ih =>
    cases vs with
    | nil =>
      obtain rfl := Follows.eq h
      rfl
    | cons v vs =>
      rw [List.map_cons, List.zip_cons_cons] at h
      obtain ⟨d', htakes, hlater⟩ := h.uncons
      generalize hname : key.text = name at htakes
      cases htakes with
      | unknown hunknown => exact absurd hname.symm (ne_text_of_unknown hunknown key)
      | @known key' v c u hnone hv hc =>
        obtain rfl : key' = key := by
          have hkey := Key.ofText?_eq_some.mpr hname
          rw [Key.ofText?_eq_some.mpr rfl] at hkey
          exact (Option.some.inj hkey).symm
        simp only [fill, fieldOf_of_denotes hv hc, Draft.withField_withField, ih hlater, List.length_cons,
          Nat.succ_le_succ_iff]

/-- More values than keys are always refused. -/
theorem fill_of_length_lt (hlength : keys.length < vs.length) : ∃ c, fill keys vs d = .error c := by
  induction keys generalizing vs d with
  | nil =>
    cases vs with
    | nil => exact absurd hlength (by simp)
    | cons v vs => exact ⟨_, rfl⟩
  | cons key keys ih =>
    cases vs with
    | nil => exact absurd hlength (by simp)
    | cons v vs =>
      rw [fill]
      split
      · next c _ => exact ⟨c, rfl⟩
      · exact ih (Nat.lt_of_succ_lt_succ hlength)

theorem readDraft_list (h : ListOf vs cs) :
    ∃ after, Blanks after ∧ Gives (encodeChars after) (readDraft (encodeChars cs)) (fill Key.all vs {}) := by
  cases h with
  | @mk before blanks after es hbefore hblanks hafter hspaced hvalue hvs =>
    subst hvs
    refine ⟨after, hafter, ?_⟩
    have helements : Gives (encodeChars after) (readElements true Key.all {} (encodeChars ([] ++
        (entries true (es.map Item.chars) ++ (blanks ++ ']' :: after))))) (fill Key.all (es.map Item.value) {}) :=
      readElements_gives (by decide) blanks_nil hspaced hvalue hblanks
    have hchars : before ++ listChars es blanks ++ after =
        before ++ '[' :: ([] ++ (entries true (es.map Item.chars) ++ (blanks ++ ']' :: after))) := by
      simp [listChars, entries]
    rw [hchars, readDraft, skipBlanks_append hbefore (by decide), encodeChars_ascii (by decide)]
    exact helements

theorem readDraft_object (hlength : vs.length ≤ 5) (h : ObjectOf ((Key.all.map Key.text).zip vs) cs) :
    ∃ after, Blanks after ∧ Gives (encodeChars after) (readDraft (encodeChars cs)) (fill Key.all vs {}) := by
  cases h with
  | @mk before blanks after ms hbefore hblanks hafter hms hpairs =>
    refine ⟨after, hafter, ?_⟩
    have hmembers : Gives (encodeChars after) (readMembers true {} (encodeChars ([] ++
        (entries true (ms.map Named.chars) ++ (blanks ++ '\x7d' :: after))))) (fill Key.all vs {}) :=
      readMembers_gives blanks_nil hms hblanks hpairs hlength (by decide) fun key _ => content?_empty key
    rw [object_eq_entries, readDraft, skipBlanks_append hbefore (by decide), encodeChars_ascii (by decide)]
    exact hmembers

end Documents

end Document

namespace Settings

open Document

variable {files : FileTree} {path text : String} {after : List Char}

theorem load_of_draft {d : Draft} (hfile : files.read path = .ok (Utf8.encode text)) (hafter : Blanks after)
    (h : Gives (encodeChars after) (readDraft (encodeChars text.toList)) (.ok d)) :
    load files (some path) = .ok d.complete := by
  have hend : expectEnd (encodeChars after) = .ok () := by
    rw [expectEnd, skipBlanks_all hafter]
  have hread : readDocument (encodeChars text.toList) = .ok d.complete :=
    (bind_of_value h.eq_ok).trans (bind_of_value hend)
  exact ofFile_eq_ok.mpr ⟨text, hfile, hread⟩

theorem load_of_complaint {c : Complaint} (hfile : files.read path = .ok (Utf8.encode text))
    (h : Gives (encodeChars after) (readDraft (encodeChars text.toList)) (.error c)) :
    ∃ line column, load files (some path) = .error (.invalidSettings path ⟨c, line, column⟩) := by
  obtain ⟨n, hn⟩ := h.eq_error
  have hread : readDocument (encodeChars text.toList) = .error ⟨c, n⟩ := bind_of_fault hn
  have hparse : parse (Utf8.encode text) = .error (Fault.locate ⟨c, n⟩ (Utf8.encode text)) := by
    rw [parse, Utf8.encode_eq, hread]
  refine ⟨(Fault.locate ⟨c, n⟩ (Utf8.encode text)).line, (Fault.locate ⟨c, n⟩ (Utf8.encode text)).column, ?_⟩
  simp only [load, hfile, ofFile, Utf8.decode_encode, hparse]
  rfl

/-- A list of at most five values and the object that gives them to the keys in their order hold the same settings, or
are refused with the same complaint. A longer list is always refused, and for its further values if the first five
are of the types that the keys ask for. -/
theorem list_and_object_agree {vs : List (List Char)} (hfile : files.read path = .ok (Utf8.encode text))
    (htext : ListOf vs text.toList) :
    (vs.length ≤ 5 → ∀ (files' : FileTree) (path' text' : String), files'.read path' = .ok (Utf8.encode text') →
      ObjectOf (["value", "banner", "label", "prompt", "overflow"].zip vs) text'.toList →
        (∃ s, load files (some path) = .ok s ∧ load files' (some path') = .ok s) ∨
          ∃ c line column line' column', load files (some path) = .error (.invalidSettings path ⟨c, line, column⟩) ∧
            load files' (some path') = .error (.invalidSettings path' ⟨c, line', column'⟩)) ∧
      (5 < vs.length → ∃ c line column, load files (some path) = .error (.invalidSettings path ⟨c, line, column⟩) ∧
        ((∃ d, Follows {} (["value", "banner", "label", "prompt", "overflow"].zip vs) d) →
          c = .trailingCharacters)) := by
  obtain ⟨after, hafter, hlist⟩ := readDraft_list htext
  constructor
  · intro hlength files' path' text' hfile' htext'
    obtain ⟨after', hafter', hobject⟩ := readDraft_object hlength htext'
    cases hfill : fill Key.all vs {} with
    | ok d =>
      rw [hfill] at hlist hobject
      exact .inl ⟨d.complete, load_of_draft hfile hafter hlist, load_of_draft hfile' hafter' hobject⟩
    | error c =>
      rw [hfill] at hlist hobject
      obtain ⟨line, column, hload⟩ := load_of_complaint hfile hlist
      obtain ⟨line', column', hload'⟩ := load_of_complaint hfile' hobject
      exact .inr ⟨c, line, column, line', column', hload, hload'⟩
  · intro hlength
    obtain ⟨c, hfill⟩ : ∃ c, fill Key.all vs {} = .error c := fill_of_length_lt hlength
    rw [hfill] at hlist
    obtain ⟨line, column, hload⟩ := load_of_complaint hfile hlist
    refine ⟨c, line, column, hload, ?_⟩
    rintro ⟨d, hfollows⟩
    have hrefused : fill Key.all vs {} = if vs.length ≤ 5 then .ok d else .error .trailingCharacters :=
      fill_of_follows hfollows
    rw [hfill, if_neg (Nat.not_le.mpr hlength)] at hrefused
    exact Except.error.inj hrefused

/-- A number, and a text that spells no character. -/
def loneValues : List (List Char) :=
  ["7".toList, quoted "\\ud800".toList]

def loneList : String := "[ 7,\"\\ud800\" ]\n"

def loneObject : String := "\x7b\"value\":7,\n\"b\\u0061nner\":\"\\ud800\"\x7d"

/-- Settings with one value too many. -/
def surplusValues : List (List Char) :=
  ["7".toList, quoted [], quoted [], quoted [],
    objectChars [⟨[], "checked".toList, [], ⟨[], "null".toList, []⟩⟩] [], "null".toList]

def surplusList : String := "[7,\"\",\"\",\"\",\x7b\"checked\":null\x7d,null]"

theorem denotes_seven : Denotes "7".toList (.whole 7) :=
  .whole (.plain (.digits (by decide) (by decide) (by decide)))

theorem denotes_empty : Denotes (quoted []) (.text "") :=
  .text .nil

theorem denotes_checked :
    Denotes (objectChars [⟨[], "checked".toList, [], ⟨[], "null".toList, []⟩⟩] []) (.mode .checked) :=
  .modeObject (by decide) (spells_plain (by decide)) rfl (by decide)

theorem isValue_lone : IsValue (quoted "\\ud800".toList) :=
  .text (.cons (.code (.mk (i := 13) (j := 8) (k := 0) (l := 0) rfl rfl rfl rfl)) .nil)

theorem listOf_lone : ListOf loneValues loneList.toList := by
  have hchars : loneList.toList =
      [] ++ listChars [⟨[' '], "7".toList, []⟩, ⟨[], quoted "\\ud800".toList, [' ']⟩] [] ++ ['\n'] := by decide +kernel
  have hvalues := List.forall_mem_cons.mpr ⟨denotes_seven.isValue, List.forall_mem_singleton.mpr isValue_lone⟩
  rw [hchars]
  refine .mk (by decide) (by decide) (by decide) (by decide) ?_ rfl
  intro e he
  exact hvalues e.value (List.mem_map_of_mem he)

theorem objectOf_lone :
    ObjectOf (["value", "banner", "label", "prompt", "overflow"].zip loneValues) loneObject.toList := by
  have hchars : loneObject.toList =
      [] ++ objectChars ([⟨"value", ⟨[], "value".toList, [], ⟨[], "7".toList, []⟩⟩⟩,
        ⟨"banner", ⟨['\n'], "b\\u0061nner".toList, [], ⟨[], quoted "\\ud800".toList, []⟩⟩⟩].map Named.member) [] ++
        [] := by
    decide +kernel
  have hnner : Spells "nner".toList "nner".toList := spells_plain (by decide)
  have hbanner : Spells "b\\u0061nner".toList "banner".toList :=
    .cons (.plain (c := 'b') (by decide))
      (.cons (.code (c := 'a') (.mk (i := 0) (j := 0) (k := 6) (l := 1) rfl rfl rfl rfl)) hnner)
  rw [hchars]
  exact .mk (by decide) (by decide) (by decide)
    (List.forall_mem_cons.mpr ⟨⟨by decide, spells_plain (by decide), denotes_seven.isValue⟩,
      List.forall_mem_singleton.mpr ⟨by decide, hbanner, isValue_lone⟩⟩) rfl

theorem listOf_surplus : ListOf surplusValues surplusList.toList := by
  have hchars : surplusList.toList = [] ++ listChars (surplusValues.map fun v => ⟨[], v, []⟩) [] ++ [] := by
    decide +kernel
  have hvalues : ∀ v ∈ surplusValues, IsValue v :=
    List.forall_mem_cons.mpr ⟨denotes_seven.isValue, List.forall_mem_cons.mpr ⟨denotes_empty.isValue,
      List.forall_mem_cons.mpr ⟨denotes_empty.isValue, List.forall_mem_cons.mpr ⟨denotes_empty.isValue,
        List.forall_mem_cons.mpr ⟨denotes_checked.isValue, List.forall_mem_singleton.mpr .null⟩⟩⟩⟩⟩
  rw [hchars]
  refine .mk (by decide) (by decide) (by decide) ?_ ?_ (by simp [Function.comp_def])
  · intro e he
    obtain ⟨v, -, rfl⟩ := List.mem_map.mp he
    exact ⟨blanks_nil, blanks_nil⟩
  · intro e he
    obtain ⟨v, hv, rfl⟩ := List.mem_map.mp he
    exact hvalues v hv

theorem follows_surplus : Follows {} (["value", "banner", "label", "prompt", "overflow"].zip surplusValues)
    { value := some 7, banner := some "", label := some "", prompt := some "", mode := some .checked } := by
  intro key
  cases key with
  | value => exact .given denotes_seven
  | banner => exact .given denotes_empty
  | label => exact .given denotes_empty
  | prompt => exact .given denotes_empty
  | overflow => exact .given denotes_checked

/-- A key with an escape before a text with a lone surrogate, and six values of which five are acceptable. -/
theorem list_and_object_agree_lone :
    FileTree.read ⟨[(["a"], Utf8.encode loneList)], []⟩ "a" = .ok (Utf8.encode loneList) ∧
      ListOf loneValues loneList.toList ∧
      ObjectOf (["value", "banner", "label", "prompt", "overflow"].zip loneValues) loneObject.toList ∧
      ((∃ s, load ⟨[(["a"], Utf8.encode loneList)], []⟩ (some "a") = .ok s ∧
          load ⟨[(["a"], Utf8.encode loneObject)], []⟩ (some "a") = .ok s) ∨
        ∃ c line column line' column',
          load ⟨[(["a"], Utf8.encode loneList)], []⟩ (some "a") = .error (.invalidSettings "a" ⟨c, line, column⟩) ∧
            load ⟨[(["a"], Utf8.encode loneObject)], []⟩ (some "a") =
              .error (.invalidSettings "a" ⟨c, line', column'⟩)) ∧
      ListOf surplusValues surplusList.toList ∧ 5 < surplusValues.length ∧
      ∃ line column, load ⟨[(["a"], Utf8.encode surplusList)], []⟩ (some "a") =
        .error (.invalidSettings "a" ⟨.trailingCharacters, line, column⟩) := by
  have hlone := (list_and_object_agree (read_single _) listOf_lone).1 (by decide) _ _ _ (read_single _) objectOf_lone
  obtain ⟨c, line, column, hload, hfollows⟩ := (list_and_object_agree (read_single _) listOf_surplus).2 (by decide)
  obtain rfl := hfollows ⟨_, follows_surplus⟩
  exact ⟨read_single _, listOf_lone, objectOf_lone, hlone, listOf_surplus, by decide, line, column, hload⟩

end Settings

end RecursiveFactorial
