import RecursiveFactorial.Proofs.Document.Draft
import RecursiveFactorial.Settings.Load

/-!
# Settings files

The settings in a file are those that its text stands for, and every text for settings is accepted.
-/
namespace RecursiveFactorial

open Json
open Utf8 (encodeChars encodeChars_ascii cons_of_encodeChars)

namespace Document

/-- An object that gives the fields of a draft, each at most once. Its members stand in any order, and those with other
names hold any values. -/
inductive WrittenAsObject (d : Draft) : List Char → Prop
  | mk {before blanks after : List Char} {ms : List Named} : Blanks before → Blanks blanks → Blanks after →
      (∀ m ∈ ms, m.WellFormed) → Follows {} (ms.map Named.pair) d →
      WrittenAsObject d (before ++ objectChars (ms.map Named.member) blanks ++ after)

/-- A list that gives the first fields of a draft in the order of the keys. -/
inductive WrittenAsList (d : Draft) : List Char → Prop
  | mk {before blanks after : List Char} {es : List Item} : Blanks before → Blanks blanks → Blanks after →
      (∀ e ∈ es, e.Spaced) → (∀ e ∈ es, IsValue e.value) → es.length ≤ 5 →
      Follows {} ((Key.all.map Key.text).zip (es.map Item.value)) d →
      WrittenAsList d (before ++ listChars es blanks ++ after)

variable {d : Draft} {cs : List Char} {r : Octets}

theorem WrittenAsObject.isText (h : WrittenAsObject d cs) : IsText cs := by
  obtain ⟨hbefore, hblanks, hafter, hms, -⟩ := h
  refine ⟨_, _, _, rfl, hbefore, .object ?_ ?_ ?_ hblanks, hafter⟩
  · intro member hmember
    obtain ⟨m, hm, rfl⟩ := List.mem_map.mp hmember
    exact (hms m hm).spaced
  · intro member hmember
    obtain ⟨m, hm, rfl⟩ := List.mem_map.mp hmember
    exact (hms m hm).key.isBody
  · intro member hmember
    obtain ⟨m, hm, rfl⟩ := List.mem_map.mp hmember
    exact (hms m hm).value

theorem WrittenAsList.isText (h : WrittenAsList d cs) : IsText cs := by
  obtain ⟨hbefore, hblanks, hafter, hspaced, hvalue, -, -⟩ := h
  exact ⟨_, _, _, rfl, hbefore, .list hspaced hvalue hblanks, hafter⟩

theorem content?_empty (key : Key) : ({} : Draft).content? key = none := by
  cases key <;> rfl

theorem map_chars_eq (ms : List Named) : ms.map Named.chars = (ms.map Named.member).map Member.chars := by
  rw [List.map_map]
  rfl

/-- The text of an object up to its members, as the reader of these meets them. -/
theorem object_eq_entries (before blanks after : List Char) (ms : List Named) :
    before ++ objectChars (ms.map Named.member) blanks ++ after =
      before ++ '\x7b' :: ([] ++ (entries true (ms.map Named.chars) ++ (blanks ++ '\x7d' :: after))) := by
  simp only [objectChars, entries, if_true, map_chars_eq, List.nil_append]
  simp

/-- A draft that was read is written in one of the two forms, up to what is left. -/
theorem written_of_readDraft (h : readDraft (encodeChars cs) = .ok (d, r)) :
    ∃ ds rest, cs = ds ++ rest ∧ r = encodeChars rest ∧
      ∀ after, Blanks after → WrittenAsObject d (ds ++ after) ∨ WrittenAsList d (ds ++ after) := by
  unfold readDraft at h
  split at h
  · cases h
  · next b u hu =>
    split at h
    · next hb =>
      subst hb
      obtain ⟨before, ds, rfl, hbefore, rfl⟩ := cons_of_skipBlanks (a := '\x7b') (by decide) hu
      obtain ⟨w, ms, blanks, rest, -, hw, hms, hblanks, hfollows, rfl, rfl⟩ := members_of_readMembers h
      obtain rfl := hw rfl
      refine ⟨before ++ objectChars (ms.map Named.member) blanks, rest, ?_, rfl, ?_⟩
      · simp only [objectChars, entries, if_true, map_chars_eq, List.nil_append]
        simp
      · intro after hafter
        exact .inl (.mk hbefore hblanks hafter hms hfollows)
    · split at h
      · next hb =>
        subst hb
        obtain ⟨before, ds, rfl, hbefore, rfl⟩ := cons_of_skipBlanks (a := '[') (by decide) hu
        obtain ⟨w, es, blanks, rest, hes, -, hw, hblanks, rfl, rfl⟩ :=
          elements_of_readElements (by decide) (fun key _ => content?_empty key) h
        obtain rfl := hw rfl
        refine ⟨before ++ listChars es blanks, rest, ?_, rfl, ?_⟩
        · simp [listChars, entries]
        · intro after hafter
          exact .inr (.mk hbefore hblanks hafter hes.spaced hes.value hes.length hes.follows)
      · exact absurd h (refuse_ne_ok _ _ _)

theorem blanks_of_expectEnd (h : expectEnd (encodeChars cs) = .ok ()) : Blanks cs := by
  unfold expectEnd at h
  split at h
  · next hs => exact blanks_of_skipBlanks_nil hs
  · cases h

theorem written_of_readDocument {s : Settings} (h : readDocument (encodeChars cs) = .ok s) :
    ∃ d : Draft, (WrittenAsObject d cs ∨ WrittenAsList d cs) ∧ s = d.complete := by
  simp only [readDocument, bind_eq_ok] at h
  obtain ⟨⟨d, r⟩, hdraft, ⟨⟩, hend, h⟩ := h
  obtain ⟨ds, rest, rfl, rfl, hwritten⟩ := written_of_readDraft hdraft
  exact ⟨d, hwritten rest (blanks_of_expectEnd hend), (Except.ok.inj h).symm⟩

/-- An object is read whatever its layout. -/
theorem readDocument_of_object (h : WrittenAsObject d cs) : readDocument (encodeChars cs) = .ok d.complete := by
  cases h with
  | @mk before blanks after ms hbefore hblanks hafter hms hfollows =>
    have hmembers : readMembers true {} (encodeChars ([] ++ (entries true (ms.map Named.chars) ++
        (blanks ++ '\x7d' :: after)))) = .ok (d, encodeChars after) :=
      readMembers_append blanks_nil hms hblanks hfollows
    have hdraft : readDraft (encodeChars (before ++ objectChars (ms.map Named.member) blanks ++ after)) =
        .ok (d, encodeChars after) := by
      rw [object_eq_entries, readDraft, skipBlanks_append hbefore (by decide), encodeChars_ascii (by decide)]
      exact hmembers
    have hend : expectEnd (encodeChars after) = .ok () := by
      rw [expectEnd, skipBlanks_all hafter]
    simp only [readDocument, bind_eq_ok]
    exact ⟨_, hdraft, (), hend, rfl⟩

end Document

namespace Settings

open Document (Draft WrittenAsObject WrittenAsList)

variable {path : String}

theorem ofFile_eq_ok {content : Except FileFault Octets} {s : Settings} :
    ofFile path content = .ok s ↔
      ∃ text : String, content = .ok (Utf8.encode text) ∧ Document.readDocument (encodeChars text.toList) = .ok s := by
  constructor
  · intro h
    unfold ofFile at h
    split at h
    · cases h
    · next octets =>
      split at h
      · cases h
      · next text htext =>
        obtain rfl := Utf8.eq_encode_of_decode htext
        refine ⟨text, rfl, ?_⟩
        unfold Document.parse at h
        split at h
        · next hparse =>
          split at hparse
          · next hread =>
            cases h
            cases hparse
            exact hread
          · cases hparse
        · cases h
  · rintro ⟨text, rfl, hread⟩
    have hparse : Document.parse (Utf8.encode text) = .ok s := by
      rw [Document.parse, Utf8.encode_eq, hread]
    simp only [ofFile, Utf8.decode_encode, hparse]

/-- A file is accepted only if it holds a JSON text with the settings as an object or a list. -/
theorem text_of_ofFile {content : Except FileFault Octets} {s : Settings} (h : ofFile path content = .ok s) :
    ∃ (text : String) (d : Draft), content = .ok (Utf8.encode text) ∧ IsText text.toList ∧
      (WrittenAsObject d text.toList ∨ WrittenAsList d text.toList) ∧
      s =
        { value := d.value.getD ({} : Settings).value
          banner := d.banner.getD ({} : Settings).banner
          label := d.label.getD ({} : Settings).label
          prompt := d.prompt.getD ({} : Settings).prompt
          mode := d.mode.getD ({} : Settings).mode } := by
  obtain ⟨text, hcontent, hread⟩ := ofFile_eq_ok.mp h
  obtain ⟨d, hwritten, hs⟩ := Document.written_of_readDocument hread
  refine ⟨text, d, hcontent, ?_, hwritten, hs⟩
  obtain hobject | hlist := hwritten
  · exact hobject.isText
  · exact hlist.isText

def listText : String :=
  "\t[ -2147483648, \"\\ud83d\\uDE00é\\u0000\",\n\"\" ,\"\\/\\\\\" , \x7b\"wr\\u0061pping\" : null\x7d ]\r\n"

def listSettings : Settings :=
  { value := -2147483648, banner := "😀é\x00", label := "", prompt := "/\\", mode := .wrapping }

theorem text_of_ofFile_list :
    ofFile "settings" (.ok (Utf8.encode listText)) = .ok listSettings ∧
      ∃ (text : String) (d : Draft), (.ok (Utf8.encode listText) : Except FileFault Octets) = .ok (Utf8.encode text) ∧
        IsText text.toList ∧ (WrittenAsObject d text.toList ∨ WrittenAsList d text.toList) ∧
        listSettings =
          { value := d.value.getD ({} : Settings).value
            banner := d.banner.getD ({} : Settings).banner
            label := d.label.getD ({} : Settings).label
            prompt := d.prompt.getD ({} : Settings).prompt
            mode := d.mode.getD ({} : Settings).mode } := by
  have hread : (ofFile "settings" (.ok (Utf8.encode listText))).toOption = some listSettings := by decide +kernel
  have hfile : ofFile "settings" (.ok (Utf8.encode listText)) = .ok listSettings := by
    cases hresult : ofFile "settings" (.ok (Utf8.encode listText)) with
    | error failure => rw [hresult] at hread; cases hread
    | ok settings => rw [hresult] at hread; cases hread; rfl
  exact ⟨hfile, text_of_ofFile hfile⟩

/-- Settings written as an object are loaded. -/
theorem load_object {files : FileTree} {text : String} {d : Draft} (hfile : files.read path = .ok (Utf8.encode text))
    (h : WrittenAsObject d text.toList) :
    load files (some path) = .ok
      { value := d.value.getD ({} : Settings).value
        banner := d.banner.getD ({} : Settings).banner
        label := d.label.getD ({} : Settings).label
        prompt := d.prompt.getD ({} : Settings).prompt
        mode := d.mode.getD ({} : Settings).mode } :=
  ofFile_eq_ok.mpr ⟨text, hfile, Document.readDocument_of_object h⟩

/-- Members in an order of their own: an unknown name twice, a key with an escape, a mode as an object, a character
with two surrogates and the least number. -/
def crowdedMembers : List Document.Named :=
  [⟨"x", ⟨[], ['x'], [' '],
      ⟨[], listChars [⟨[], objectChars [⟨[], ['x'], [], ⟨[' '], "-1.5e+3".toList, []⟩⟩] [], []⟩] [], []⟩⟩⟩,
    ⟨"overflow", ⟨['\n'], "\\u006fverflow".toList, [],
      ⟨['\t'], objectChars [⟨[' '], "wrapping".toList, [], ⟨[], "null".toList, []⟩⟩] [' '], []⟩⟩⟩,
    ⟨"x", ⟨[], ['x'], [], ⟨[], quoted "\\udc00".toList, [' ']⟩⟩⟩,
    ⟨"label", ⟨[], "label".toList, [], ⟨[], quoted "\\ud83d\\uDE00".toList, []⟩⟩⟩,
    ⟨"value", ⟨[], "value".toList, [], ⟨[], "-2147483648".toList, []⟩⟩⟩]

def crowdedText : String :=
  "\n\x7b\"x\" :[\x7b\"x\": -1.5e+3\x7d],\n\"\\u006fverflow\":\t\x7b \"wrapping\":null \x7d,\"x\":\"\\udc00\" ," ++
    "\"label\":\"\\ud83d\\uDE00\",\"value\":-2147483648\r\x7d "

def crowdedDraft : Draft :=
  { value := some (-2147483648), label := some "😀", mode := some .wrapping }

theorem spells_plain {cs : List Char} (h : cs.all isPlain = true) : Spells cs cs := by
  induction cs with
  | nil => exact .nil
  | cons c cs ih =>
    rw [List.all_cons, Bool.and_eq_true] at h
    exact .cons (.plain h.1) (ih h.2)

theorem writtenAsObject_crowded : WrittenAsObject crowdedDraft crowdedText.toList := by
  have hchars : crowdedText.toList =
      ['\n'] ++ objectChars (crowdedMembers.map Document.Named.member) ['\r'] ++ [' '] := by decide +kernel
  have hexponent : IsExponent ('e' :: (['+'] ++ '3' :: [])) :=
    .digits (by decide) (by decide) (by decide) (by decide)
  have hnumber : IsValue "-1.5e+3".toList :=
    .number (.negative (.mk (w := ['1']) (f := ['.', '5']) (.digits (by decide) (by decide) (by decide))
      (.digits (by decide) (by decide)) hexponent))
  have hx : Spells ['x'] "x".toList := spells_plain (by decide)
  have hnested : IsValue (listChars [⟨[], objectChars [⟨[], ['x'], [], ⟨[' '], "-1.5e+3".toList, []⟩⟩] [], []⟩] []) :=
    .list (by decide) (List.forall_mem_singleton.mpr (.object (by decide) (List.forall_mem_singleton.mpr hx.isBody)
      (List.forall_mem_singleton.mpr hnumber) blanks_nil)) blanks_nil
  have hlone : IsValue (quoted "\\udc00".toList) :=
    .text (.cons (.code (.mk (i := 13) (j := 12) (k := 0) (l := 0) rfl rfl rfl rfl)) .nil)
  have hverflow : Spells "verflow".toList "verflow".toList := spells_plain (by decide)
  have hkey : Spells "\\u006fverflow".toList "overflow".toList :=
    .cons (.code (c := 'o') (.mk (i := 0) (j := 0) (k := 6) (l := 15) rfl rfl rfl rfl)) hverflow
  have hmode : Document.Denotes (objectChars [⟨[' '], "wrapping".toList, [], ⟨[], "null".toList, []⟩⟩] [' '])
      (.mode .wrapping) :=
    .modeObject (by decide) (spells_plain (by decide)) rfl (by decide)
  have hface : Spells "\\ud83d\\uDE00".toList "😀".toList :=
    .cons (.pair (c := '😀') (.mk (i := 13) (j := 8) (k := 3) (l := 13) rfl rfl rfl rfl)
      (.mk (i := 13) (j := 14) (k := 0) (l := 0) rfl rfl rfl rfl) (by decide) (by decide) (by decide) (by decide)
        (by decide)) .nil
  have hleast : IsWhole ('2' :: "147483648".toList) := .digits (by decide) (by decide) (by decide)
  have hvalue : Document.Denotes "-2147483648".toList (.whole (-2147483648)) := .whole (.negative hleast (by decide))
  have hmembers : ∀ m ∈ crowdedMembers, m.WellFormed :=
    List.forall_mem_cons.mpr ⟨⟨by decide, hx, hnested⟩, List.forall_mem_cons.mpr ⟨⟨by decide, hkey, hmode.isValue⟩,
      List.forall_mem_cons.mpr ⟨⟨by decide, hx, hlone⟩, List.forall_mem_cons.mpr
        ⟨⟨by decide, spells_plain (by decide), .text hface.isBody⟩, List.forall_mem_singleton.mpr
          ⟨by decide, spells_plain (by decide), hvalue.isValue⟩⟩⟩⟩⟩
  have hfollows : Document.Follows {} (crowdedMembers.map Document.Named.pair) crowdedDraft := by
    intro key
    cases key with
    | value => exact .given hvalue
    | banner => exact .same
    | label => exact .given (.text hface)
    | prompt => exact .same
    | overflow => exact .given hmode
  rw [hchars]
  exact .mk (by decide) (by decide) (by decide) hmembers hfollows

theorem read_single (bs : Octets) : FileTree.read ⟨[(["a"], bs)], []⟩ "a" = .ok bs := by
  have hnames : FileTree.components "a" = ["a"] := by
    rw [FileTree.components, String.splitOn, String.splitOnAux, String.splitOnAux]
    decide +kernel
  have hlength : "a".utf8ByteSize = 1 := by decide
  have hrelative : "a".startsWith "/" = false := by decide +kernel
  simp [FileTree.read, FileTree.resolve, FileTree.walk, FileTree.enter, FileTree.place, FileTree.content?, hnames,
    hlength, hrelative, FileTree.longestPath, FileTree.longestName, bind, Except.bind, pure, Except.pure]

/-- All fields are found among the other members, and the absent ones have their defaults. -/
theorem load_object_crowded :
    FileTree.read ⟨[(["a"], Utf8.encode crowdedText)], []⟩ "a" = .ok (Utf8.encode crowdedText) ∧
      WrittenAsObject crowdedDraft crowdedText.toList ∧
      load ⟨[(["a"], Utf8.encode crowdedText)], []⟩ (some "a") =
        .ok { value := -2147483648, label := "😀", mode := .wrapping } :=
  ⟨read_single _, writtenAsObject_crowded, load_object (read_single _) writtenAsObject_crowded⟩

end Settings

end RecursiveFactorial
