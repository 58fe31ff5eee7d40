import RecursiveFactorial.Document.Field
import RecursiveFactorial.Proofs.Document.Skip

/-!
# Reading fields

`Denotes` says which texts stand for a whole number of 32 bits, for a text and for a mode. The reader of a field
accepts exactly the texts that denote something of its type, and puts what they denote into the draft.
-/
namespace RecursiveFactorial.Document

open Json
open Utf8 (encodeChars encodeChars_ascii cons_of_encodeChars)

/-- What a field holds. -/
inductive Content where
  | whole (n : Int32)
  | text (s : String)
  | mode (m : Mode)
  deriving DecidableEq, Repr

/-- The name of a mode in a document. -/
def modeName : Mode → String
  | .checked => "checked"
  | .wrapping => "wrapping"

/-- A value and what it stands for. A mode is its name, or an object with its name as the only key and a null. -/
inductive Denotes : List Char → Content → Prop
  | whole {n : Int32} {cs : List Char} : IsInteger cs n.toInt → Denotes cs (.whole n)
  | text {s : String} {raw : List Char} : Spells raw s.toList → Denotes (quoted raw) (.text s)
  | mode {m : Mode} {raw : List Char} : Spells raw (modeName m).toList → Denotes (quoted raw) (.mode m)
  | modeObject {m : Mode} {member : Member} {blanks : List Char} : member.Spaced →
      Spells member.key (modeName m).toList → member.item.value = "null".toList → Blanks blanks →
      Denotes (objectChars [member] blanks) (.mode m)

/-- What a draft holds for a key. -/
def Draft.content? (d : Draft) : Key → Option Content
  | .value => d.value.map .whole
  | .banner => d.banner.map .text
  | .label => d.label.map .text
  | .prompt => d.prompt.map .text
  | .overflow => d.mode.map .mode

/-- A draft with one field taken from another. -/
def Draft.withField (d t : Draft) : Key → Draft
  | .value => { d with value := t.value }
  | .banner => { d with banner := t.banner }
  | .label => { d with label := t.label }
  | .prompt => { d with prompt := t.prompt }
  | .overflow => { d with mode := t.mode }

namespace Draft

theorem has_eq (d : Draft) (key : Key) : d.has key = (d.content? key).isSome := by
  cases key <;> simp [has, content?]

theorem content?_withField (d t : Draft) (key k : Key) :
    (d.withField t key).content? k = if k = key then t.content? key else d.content? k := by
  cases key <;> cases k <;> rfl

/-- Drafts with the same contents are equal. -/
theorem ext_content {d t : Draft} (h : ∀ key, d.content? key = t.content? key) : d = t := by
  have hvalue : d.value = t.value := Option.map_injective (fun _ _ => Content.whole.inj) (h .value)
  have hbanner : d.banner = t.banner := Option.map_injective (fun _ _ => Content.text.inj) (h .banner)
  have hlabel : d.label = t.label := Option.map_injective (fun _ _ => Content.text.inj) (h .label)
  have hprompt : d.prompt = t.prompt := Option.map_injective (fun _ _ => Content.text.inj) (h .prompt)
  have hmode : d.mode = t.mode := Option.map_injective (fun _ _ => Content.mode.inj) (h .overflow)
  cases d
  cases t
  simp only at hvalue hbanner hlabel hprompt hmode
  rw [hvalue, hbanner, hlabel, hprompt, hmode]

end Draft

/-- What stands for a content is a value of the grammar. -/
theorem Denotes.isValue {cs : List Char} {c : Content} (h : Denotes cs c) : IsValue cs := by
  cases h with
  | whole hn => exact .number hn.isNumber
  | text hraw => exact .text hraw.isBody
  | mode hraw => exact .text hraw.isBody
  | modeObject hspaced hkey hnull hblanks =>
    refine .object ?_ ?_ ?_ hblanks
    · simpa using hspaced
    · simpa using hkey.isBody
    · simpa [hnull] using IsValue.null

section Reading

variable {cs v w rest : List Char} {r : Octets}

theorem whole_of_readWhole {n : Int32} (h : readWhole (encodeChars cs) = .ok (n, r)) :
    ∃ w v rest, Blanks w ∧ IsInteger v n.toInt ∧ cs = w ++ (v ++ rest) ∧ r = encodeChars rest := by
  have hnarrow {x : Numeral} {s : Octets} (hx : narrow x s = .ok (n, r)) : x = .whole n.toInt ∧ r = s := by
    unfold narrow at hx
    split at hx
    · cases hx
    · split at hx
      · next k hk =>
        obtain ⟨rfl, rfl⟩ := Prod.mk.inj (Except.ok.inj hx)
        have hmin : Int32.minValue.toInt = -2147483648 := rfl
        have hmax : Int32.maxValue.toInt = 2147483647 := rfl
        rw [Int32.toInt_ofInt_of_le (by omega) (by omega)]
        exact ⟨rfl, rfl⟩
      · cases hx
  unfold readWhole at h
  split at h
  · cases h
  · next b t ht =>
    obtain ⟨w, ds, rfl, hw, hds⟩ := blanks_of_skipBlanks ht
    split at h
    · next hb =>
      subst hb
      obtain ⟨es, rfl, rfl⟩ := cons_of_encodeChars (a := '-') (by decide) hds
      obtain ⟨⟨x, s⟩, hread, hx⟩ := bind_eq_ok.mp h
      obtain ⟨rfl, rfl⟩ := hnarrow hx
      obtain ⟨u, rest, hu, rfl, rfl, hn⟩ := whole_of_readNumeral hread
      obtain ⟨hfalse, -⟩ | ⟨-, hzero, hn⟩ := hn
      · cases hfalse
      · refine ⟨w, '-' :: u, rest, hw, ?_, rfl, rfl⟩
        rw [hn]
        exact .negative hu hzero
    · split at h
      · rw [← hds] at h
        obtain ⟨⟨x, s⟩, hread, hx⟩ := bind_eq_ok.mp h
        obtain ⟨rfl, rfl⟩ := hnarrow hx
        obtain ⟨u, rest, hu, rfl, rfl, hn⟩ := whole_of_readNumeral hread
        obtain ⟨-, hn⟩ | ⟨htrue, -⟩ := hn
        · refine ⟨w, u, rest, hw, ?_, rfl, rfl⟩
          rw [hn]
          exact .plain hu
        · cases htrue
      · exact absurd h (refuse_ne_ok _ _ _)

theorem narrow_whole (n : Int32) (s : Octets) : narrow (.whole n.toInt) s = .ok (n, s) := by
  have hlow : Int32.minValue.toInt ≤ n.toInt := n.le_toInt
  rw [narrow, if_pos ⟨hlow, n.toInt_le⟩, Int32.ofInt_toInt]

theorem wholeNumeral_plain (m : Nat) (s : Octets) : wholeNumeral false m s = .ok (.whole m, s) := rfl

theorem wholeNumeral_negative {m : Nat} (hzero : m ≠ 0) (hle : m ≤ 0x8000000000000000) (s : Octets) :
    wholeNumeral true m s = .ok (.whole (-m), s) := by
  have hwide : ¬(m = 0 ∨ 0x8000000000000000 < m) := by omega
  simp only [wholeNumeral, Bool.not_true, Bool.false_eq_true, if_false, if_neg hwide]

theorem ofDigitChars_pos {u : List Char} (hu : IsWhole u) (hzero : u ≠ ['0']) : Nat.ofDigitChars 10 u 0 ≠ 0 := by
  cases hu with
  | zero => exact absurd rfl hzero
  | @digits d ds hd hne hds =>
    have hpos : 0 < d.toNat - '0'.toNat := by
      obtain ⟨hlow, -⟩ := Char.isDigit_iff_toNat.mp hd
      have hnat : d.toNat ≠ '0'.toNat := fun h => hne (Char.toNat_inj.mp h)
      omega
    rw [ofDigitChars_cons, Nat.zero_mul, Nat.zero_add]
    have hle := le_ofDigitChars ds (d.toNat - '0'.toNat)
    omega

/-- A whole number of 32 bits is read from any numeral for it. -/
theorem readWhole_append {n : Int32} (hw : Blanks w) (hv : IsInteger v n.toInt) (hrest : Ends rest) :
    readWhole (encodeChars (w ++ (v ++ rest))) = .ok (n, encodeChars rest) := by
  have hlow := n.le_toInt
  have hhigh := n.toInt_lt
  have hnarrow := narrow_whole n (encodeChars rest)
  generalize n.toInt = k at *
  cases hv with
  | plain hu =>
    have hle : Nat.ofDigitChars 10 v 0 ≤ greatestSignificand := by
      unfold greatestSignificand
      omega
    have hread := readNumeral_whole false hu hrest hle
    rw [wholeNumeral_plain] at hread
    obtain ⟨d, ds, hd, rfl⟩ := head_whole hu
    have hascii := toNat_lt_of_isDigit hd
    have hminus : d.toUInt8 ≠ '-'.toUInt8 := by
      rw [ne_eq, Utf8.toUInt8_inj hascii (by decide)]
      exact digit_ne hd rfl
    rw [readWhole, List.cons_append, skipBlanks_append hw (isBlank_digit hd), encodeChars_ascii hascii]
    simp only [if_neg hminus, if_pos (isDigit_toUInt8 hd)]
    rw [← encodeChars_ascii hascii]
    exact bind_eq_ok.mpr ⟨_, hread, hnarrow⟩
  | @negative u hu hzero =>
    have hle : Nat.ofDigitChars 10 u 0 ≤ greatestSignificand := by
      unfold greatestSignificand
      omega
    have hread := readNumeral_whole true hu hrest hle
    rw [wholeNumeral_negative (ofDigitChars_pos hu hzero) (by omega)] at hread
    rw [readWhole, List.cons_append, skipBlanks_append hw (by decide), encodeChars_ascii (by decide)]
    simp only [if_true]
    exact bind_eq_ok.mpr ⟨_, hread, hnarrow⟩

theorem text_of_readString {t : String} (h : readString (encodeChars cs) = .ok (t, r)) :
    ∃ w raw rest, Blanks w ∧ Spells raw t.toList ∧ cs = w ++ (quoted raw ++ rest) ∧ r = encodeChars rest := by
  unfold readString at h
  split at h
  · cases h
  · next b u hu =>
    split at h
    · next hb =>
      subst hb
      obtain ⟨w, ds, rfl, hw, rfl⟩ := cons_of_skipBlanks (a := '"') (by decide) hu
      obtain ⟨raw, rest, hraw, rfl, rfl⟩ := spells_of_readText h
      exact ⟨w, raw, rest, hw, hraw, by simp [quoted], rfl⟩
    · exact absurd h (refuse_ne_ok _ _ _)

theorem readString_append {t : String} {raw : List Char} (hw : Blanks w) (hraw : Spells raw t.toList) :
    readString (encodeChars (w ++ (quoted raw ++ rest))) = .ok (t, encodeChars rest) := by
  have htext : w ++ (quoted raw ++ rest) = w ++ '"' :: (raw ++ '"' :: rest) := by simp [quoted]
  rw [htext, readString, skipBlanks_append hw (by decide), encodeChars_ascii (by decide)]
  simp only [if_true, readText_spells hraw, String.ofList_toList]

theorem modeNamed_eq_ok {name : String} {s : Octets} {m : Mode} :
    modeNamed name s = .ok (m, r) ↔ name = modeName m ∧ r = s := by
  unfold modeNamed
  split
  · next hname => subst hname; cases m <;> simp [modeName, eq_comm]
  · split
    · next hname => subst hname; cases m <;> simp [modeName, eq_comm]
    · next hchecked hwrapping => cases m <;> simp [modeName, hchecked, hwrapping]

theorem null_of_expectNull (h : expectNull (encodeChars cs) = .ok r) :
    ∃ w rest, Blanks w ∧ cs = w ++ ("null".toList ++ rest) ∧ r = encodeChars rest := by
  unfold expectNull at h
  split at h
  · cases h
  · next b t ht =>
    split at h
    · next hb =>
      subst hb
      obtain ⟨w, ds, rfl, hw, rfl⟩ := cons_of_skipBlanks (a := 'n') (by decide) ht
      obtain ⟨rest, rfl, rfl⟩ := (readWord_encode (by decide)).mp h
      exact ⟨w, rest, hw, by simp, rfl⟩
    · exact absurd h (refuse_ne_ok _ _ _)

theorem expectNull_append (hw : Blanks w) :
    expectNull (encodeChars (w ++ ("null".toList ++ rest))) = .ok (encodeChars rest) := by
  have hnull : w ++ ("null".toList ++ rest) = w ++ 'n' :: ("ull".toList ++ rest) := by simp
  rw [hnull, expectNull, skipBlanks_append hw (by decide), encodeChars_ascii (by decide)]
  simp only [if_true]
  exact (readWord_encode (by decide)).mpr ⟨rest, rfl, rfl⟩

theorem close_of_closeMode (h : closeMode (encodeChars cs) = .ok r) :
    ∃ w rest, Blanks w ∧ cs = w ++ '\x7d' :: rest ∧ r = encodeChars rest := by
  unfold closeMode at h
  split at h
  · cases h
  · next b t ht =>
    split at h
    · next hb =>
      subst hb
      obtain ⟨w, rest, rfl, hw, rfl⟩ := cons_of_skipBlanks (a := '\x7d') (by decide) ht
      exact ⟨w, rest, hw, rfl, (Except.ok.inj h).symm⟩
    · cases h

theorem closeMode_append (hw : Blanks w) : closeMode (encodeChars (w ++ '\x7d' :: rest)) = .ok (encodeChars rest) := by
  rw [closeMode, skipBlanks_append hw (by decide), encodeChars_ascii (by decide)]
  rfl

/-- The characters of an object with one member. -/
theorem objectChars_singleton (m : Member) (blanks : List Char) :
    objectChars [m] blanks = '\x7b' :: (m.before ++ '"' :: (m.key ++ '"' :: (m.between ++ ':' :: (m.item.before ++
      (m.item.value ++ (m.item.after ++ blanks ++ ['\x7d'])))))) := by
  simp [objectChars, separated, Member.chars, Item.chars, quoted]

theorem mode_of_readModeObject {m : Mode} (h : readModeObject (encodeChars cs) = .ok (m, r)) :
    ∃ v rest, Denotes ('\x7b' :: v) (.mode m) ∧ cs = v ++ rest ∧ r = encodeChars rest := by
  unfold readModeObject at h
  split at h
  · cases h
  · next b t ht =>
    split at h
    · next hb =>
      subst hb
      obtain ⟨before, ds, rfl, hbefore, rfl⟩ := cons_of_skipBlanks (a := '"') (by decide) ht
      simp only [bind_eq_ok] at h
      obtain ⟨⟨name, s₁⟩, h₁, ⟨m', s₂⟩, h₂, s₃, h₃, s₄, h₄, s₅, h₅, h⟩ := h
      obtain ⟨rfl, rfl⟩ := Prod.mk.inj (Except.ok.inj h)
      obtain ⟨key, ds, hkey, rfl, rfl⟩ := spells_of_readText h₁
      obtain ⟨rfl, rfl⟩ := modeNamed_eq_ok.mp h₂
      obtain ⟨between, ds, hbetween, rfl, rfl⟩ := colon_of_expectColon h₃
      obtain ⟨w, ds, hw, rfl, rfl⟩ := null_of_expectNull h₄
      obtain ⟨after, rest, hafter, rfl, rfl⟩ := close_of_closeMode h₅
      have hmode : Denotes (objectChars [⟨before, key, between, ⟨w, "null".toList, after⟩⟩] []) (.mode m') :=
        .modeObject ⟨hbefore, hbetween, hw, hafter⟩ hkey rfl blanks_nil
      rw [objectChars_singleton] at hmode
      exact ⟨_, rest, hmode, by simp, rfl⟩
    · split at h <;> cases h

theorem mode_of_readMode {m : Mode} (h : readMode (encodeChars cs) = .ok (m, r)) :
    ∃ w v rest, Blanks w ∧ Denotes v (.mode m) ∧ cs = w ++ (v ++ rest) ∧ r = encodeChars rest := by
  unfold readMode at h
  split at h
  · cases h
  · next b t ht =>
    split at h
    · next hb =>
      subst hb
      obtain ⟨w, ds, rfl, hw, rfl⟩ := cons_of_skipBlanks (a := '"') (by decide) ht
      obtain ⟨⟨name, s⟩, hread, h⟩ := bind_eq_ok.mp h
      obtain ⟨raw, rest, hraw, rfl, rfl⟩ := spells_of_readText hread
      obtain ⟨rfl, rfl⟩ := modeNamed_eq_ok.mp h
      exact ⟨w, quoted raw, rest, hw, .mode hraw, by simp [quoted], rfl⟩
    · split at h
      · next hb =>
        subst hb
        obtain ⟨w, ds, rfl, hw, rfl⟩ := cons_of_skipBlanks (a := '\x7b') (by decide) ht
        obtain ⟨v, rest, hv, rfl, rfl⟩ := mode_of_readModeObject h
        exact ⟨w, '\x7b' :: v, rest, hw, hv, rfl, rfl⟩
      · cases h

theorem readMode_append {m : Mode} (hw : Blanks w) (hv : Denotes v (.mode m)) :
    readMode (encodeChars (w ++ (v ++ rest))) = .ok (m, encodeChars rest) := by
  cases hv with
  | @mode _ raw hraw =>
    have htext : w ++ (quoted raw ++ rest) = w ++ '"' :: (raw ++ '"' :: rest) := by simp [quoted]
    rw [htext, readMode, skipBlanks_append hw (by decide), encodeChars_ascii (by decide)]
    simp only [if_true, bind_eq_ok]
    refine ⟨_, readText_spells hraw rest, ?_⟩
    rw [String.ofList_toList]
    exact modeNamed_eq_ok.mpr ⟨rfl, rfl⟩
  | @modeObject _ member blanks hspaced hkey hnull hblanks =>
    obtain ⟨hbefore, hbetween, hitem⟩ := hspaced
    have hobject : w ++ (objectChars [member] blanks ++ rest) = w ++ '\x7b' :: (member.before ++ '"' :: (member.key ++
        '"' :: (member.between ++ ':' :: (member.item.before ++ ("null".toList ++
          ((member.item.after ++ blanks) ++ '\x7d' :: rest)))))) := by
      rw [objectChars_singleton, hnull]
      simp
    rw [hobject, readMode, skipBlanks_append hw (by decide), encodeChars_ascii (by decide)]
    simp only [readModeObject, skipBlanks_append hbefore (c := '"') (by decide),
      encodeChars_ascii (c := '"') (by decide)]
    simp only [show '\x7b'.toUInt8 ≠ '"'.toUInt8 by decide, if_false, if_true, bind_eq_ok]
    refine ⟨_, readText_spells hkey _, _, modeNamed_eq_ok.mpr ⟨String.ofList_toList, rfl⟩, _,
      expectColon_append hbetween, _, expectNull_append hitem.1, _, closeMode_append (hitem.2.append hblanks), rfl⟩

/-- The reader of a field accepts what denotes something of its type. -/
theorem content_of_readField {key : Key} {d d' : Draft} (h : readField key d (encodeChars cs) = .ok (d', r)) :
    ∃ w v rest c, Blanks w ∧ Denotes v c ∧ d'.content? key = some c ∧ d' = d.withField d' key ∧
      cs = w ++ (v ++ rest) ∧ r = encodeChars rest := by
  cases key with
  | value =>
    obtain ⟨⟨n, u⟩, hread, h⟩ := map_eq_ok.mp h
    obtain ⟨rfl, rfl⟩ := Prod.mk.inj h
    obtain ⟨w, v, rest, hw, hv, hcs, hr⟩ := whole_of_readWhole hread
    exact ⟨w, v, rest, .whole n, hw, .whole hv, rfl, rfl, hcs, hr⟩
  | banner =>
    obtain ⟨⟨t, u⟩, hread, h⟩ := map_eq_ok.mp h
    obtain ⟨rfl, rfl⟩ := Prod.mk.inj h
    obtain ⟨w, raw, rest, hw, hraw, hcs, hr⟩ := text_of_readString hread
    exact ⟨w, quoted raw, rest, .text t, hw, .text hraw, rfl, rfl, hcs, hr⟩
  | label =>
    obtain ⟨⟨t, u⟩, hread, h⟩ := map_eq_ok.mp h
    obtain ⟨rfl, rfl⟩ := Prod.mk.inj h
    obtain ⟨w, raw, rest, hw, hraw, hcs, hr⟩ := text_of_readString hread
    exact ⟨w, quoted raw, rest, .text t, hw, .text hraw, rfl, rfl, hcs, hr⟩
  | prompt =>
    obtain ⟨⟨t, u⟩, hread, h⟩ := map_eq_ok.mp h
    obtain ⟨rfl, rfl⟩ := Prod.mk.inj h
    obtain ⟨w, raw, rest, hw, hraw, hcs, hr⟩ := text_of_readString hread
    exact ⟨w, quoted raw, rest, .text t, hw, .text hraw, rfl, rfl, hcs, hr⟩
  | overflow =>
    obtain ⟨⟨m, u⟩, hread, h⟩ := map_eq_ok.mp h
    obtain ⟨rfl, rfl⟩ := Prod.mk.inj h
    obtain ⟨w, v, rest, hw, hv, hcs, hr⟩ := mode_of_readMode hread
    exact ⟨w, v, rest, .mode m, hw, hv, rfl, rfl, hcs, hr⟩

/-- A field is read from any text for its content. -/
theorem readField_append {key : Key} {d t : Draft} {c : Content} (hw : Blanks w) (hv : Denotes v c)
    (hc : t.content? key = some c) (hrest : Ends rest) :
    readField key d (encodeChars (w ++ (v ++ rest))) = .ok (d.withField t key, encodeChars rest) := by
  cases key with
  | value =>
    obtain ⟨n, hn, rfl⟩ := Option.map_eq_some_iff.mp hc
    cases hv with
    | whole hv => rw [readField, readWhole_append hw hv hrest, Draft.withField, hn]; rfl
  | banner =>
    obtain ⟨s, hs, rfl⟩ := Option.map_eq_some_iff.mp hc
    cases hv with
    | text hraw => rw [readField, readString_append hw hraw, Draft.withField, hs]; rfl
  | label =>
    obtain ⟨s, hs, rfl⟩ := Option.map_eq_some_iff.mp hc
    cases hv with
    | text hraw => rw [readField, readString_append hw hraw, Draft.withField, hs]; rfl
  | prompt =>
    obtain ⟨s, hs, rfl⟩ := Option.map_eq_some_iff.mp hc
    cases hv with
    | text hraw => rw [readField, readString_append hw hraw, Draft.withField, hs]; rfl
  | overflow =>
    obtain ⟨m, hm, rfl⟩ := Option.map_eq_some_iff.mp hc
    rw [readField, readMode_append hw hv, Draft.withField, hm]
    rfl

end Reading

end RecursiveFactorial.Document
