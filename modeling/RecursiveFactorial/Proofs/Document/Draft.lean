import RecursiveFactorial.Document.Basic
import RecursiveFactorial.Proofs.Document.Field

/-!
# From values with names to a draft

Both forms of a document come down to values with names: the members of an object, or the values of a list with the
keys in their order. `Follows` says what a draft becomes with such values. It is kept by one member, by one element,
and hence by the readers of all of them.
-/
namespace RecursiveFactorial.Document

open Json
open Utf8 (encodeChars encodeChars_ascii cons_of_encodeChars)

section Names

theorem Key.ofText?_eq_some {name : String} {key : Key} : Key.ofText? name = some key ↔ name = key.text := by
  constructor
  · intro h
    have hname := List.find?_some h
    simpa [eq_comm] using hname
  · rintro rfl
    cases key <;> rfl

theorem Key.text_ne {key k : Key} (h : k ≠ key) : key.text ≠ k.text := by
  intro htext
  have hkey := Key.ofText?_eq_some.mpr htext
  rw [Key.ofText?_eq_some.mpr rfl] at hkey
  exact h (Option.some.inj hkey).symm

/-- The values that are given to a key. -/
def valuesOf (key : Key) (given : List (String × List Char)) : List (List Char) :=
  (given.filter fun p => p.1 = key.text).map Prod.snd

/-- Without a value nothing changes, and what is absent can be given one value. -/
inductive Becomes : Option Content → List (List Char) → Option Content → Prop
  | same {c : Option Content} : Becomes c [] c
  | given {c : Content} {v : List Char} : Denotes v c → Becomes none [v] (some c)

/-- The first draft becomes the second one with the values that are given to each key. -/
def Follows (d : Draft) (given : List (String × List Char)) (t : Draft) : Prop :=
  ∀ key, Becomes (d.content? key) (valuesOf key given) (t.content? key)

variable {d d' t : Draft} {given : List (String × List Char)} {name : String} {v : List Char}

theorem valuesOf_cons_self (key : Key) (v : List Char) (given : List (String × List Char)) :
    valuesOf key ((key.text, v) :: given) = v :: valuesOf key given := by
  simp [valuesOf]

theorem valuesOf_cons_of_ne {key : Key} (h : name ≠ key.text) (v : List Char) (given : List (String × List Char)) :
    valuesOf key ((name, v) :: given) = valuesOf key given := by
  simp [valuesOf, h]

theorem Follows.nil (d : Draft) : Follows d [] d := by
  intro key
  exact .same

theorem Follows.eq (h : Follows d [] t) : d = t := by
  apply Draft.ext_content
  intro key
  generalize hd : d.content? key = c, ht : t.content? key = c'
  have hkey : Becomes c [] c' := by
    rw [← hd, ← ht]
    exact h key
  cases hkey
  rfl

/-- What a draft becomes with one more named value: an unknown name changes nothing, and a known one must be new. -/
inductive Takes (d : Draft) : String → List Char → Draft → Prop
  | unknown {name : String} {v : List Char} : Key.ofText? name = none → Takes d name v d
  | known {key : Key} {v : List Char} {c : Content} {t : Draft} : d.content? key = none → Denotes v c →
      t.content? key = some c → Takes d key.text v (d.withField t key)

theorem ne_text_of_unknown (h : Key.ofText? name = none) (key : Key) : name ≠ key.text := by
  intro hname
  rw [Key.ofText?_eq_some.mpr hname] at h
  cases h

theorem Follows.cons (htakes : Takes d name v d') (h : Follows d' given t) : Follows d ((name, v) :: given) t := by
  intro k
  have hk := h k
  cases htakes with
  | unknown hname => rwa [valuesOf_cons_of_ne (ne_text_of_unknown hname k)]
  | @known key v c u hnone hv hc =>
    rw [Draft.content?_withField] at hk
    by_cases hkey : k = key
    · subst hkey
      rw [if_pos rfl, hc] at hk
      rw [valuesOf_cons_self, hnone]
      generalize valuesOf k given = vs, t.content? k = x at hk
      cases hk
      exact .given hv
    · rw [if_neg hkey] at hk
      rwa [valuesOf_cons_of_ne (Key.text_ne hkey)]

theorem Follows.uncons (h : Follows d ((name, v) :: given) t) : ∃ d', Takes d name v d' ∧ Follows d' given t := by
  cases hname : Key.ofText? name with
  | none =>
    refine ⟨d, .unknown hname, ?_⟩
    intro k
    have hk := h k
    rwa [valuesOf_cons_of_ne (ne_text_of_unknown hname k)] at hk
  | some key =>
    obtain rfl := Key.ofText?_eq_some.mp hname
    have hkey := h key
    rw [valuesOf_cons_self] at hkey
    generalize hd : d.content? key = x, hvs : valuesOf key given = vs, ht : t.content? key = y at hkey
    cases hkey with
    | given hv =>
      refine ⟨d.withField t key, .known hd hv ht, ?_⟩
      intro k
      rw [Draft.content?_withField]
      by_cases hk : k = key
      · subst hk
        rw [if_pos rfl, hvs]
        exact .same
      · have hother := h k
        rw [valuesOf_cons_of_ne (Key.text_ne hk)] at hother
        rwa [if_neg hk]

end Names

section Members

variable {d d' t : Draft} {cs : List Char} {r s : Octets} {name : String}

/-- A member with the text that its key spells. -/
structure Named where
  name : String
  member : Member

namespace Named

structure WellFormed (m : Named) : Prop where
  spaced : m.member.Spaced
  key : Spells m.member.key m.name.toList
  value : IsValue m.member.item.value

/-- The name with the value. -/
def pair (m : Named) : String × List Char :=
  (m.name, m.member.item.value)

def chars (m : Named) : List Char :=
  m.member.chars

end Named

theorem takes_of_readMember (h : readMember name d (encodeChars cs) = .ok (d', r)) :
    ∃ between w v rest, Blanks between ∧ Blanks w ∧ IsValue v ∧ Takes d name v d' ∧
      cs = between ++ ':' :: (w ++ (v ++ rest)) ∧ r = encodeChars rest := by
  unfold readMember at h
  split at h
  · next hname =>
    simp only [bind_eq_ok] at h
    obtain ⟨s₁, h₁, s₂, h₂, h⟩ := h
    obtain ⟨rfl, rfl⟩ := Prod.mk.inj (Except.ok.inj h)
    obtain ⟨between, ds, hbetween, rfl, rfl⟩ := colon_of_expectColon h₁
    obtain ⟨w, v, rest, hw, hv, rfl, rfl⟩ := value_of_skipValue h₂
    exact ⟨between, w, v, rest, hbetween, hw, hv, .unknown hname, rfl, rfl⟩
  · next key hname =>
    obtain rfl := Key.ofText?_eq_some.mp hname
    split at h
    · exact absurd h (complainOfRepeated_ne_ok _ _ _)
    · next hnew =>
      obtain ⟨s₁, h₁, h⟩ := bind_eq_ok.mp h
      obtain ⟨between, ds, hbetween, rfl, rfl⟩ := colon_of_expectColon h₁
      obtain ⟨w, v, rest, c, hw, hv, hc, hd, rfl, rfl⟩ := content_of_readField h
      have hnone : d.content? key = none := by simpa [Draft.has_eq] using hnew
      have htakes := Takes.known hnone hv hc
      rw [← hd] at htakes
      exact ⟨between, w, v, rest, hbetween, hw, hv.isValue, htakes, rfl, rfl⟩

theorem readMember_append {between w v rest : List Char} (htakes : Takes d name v d') (hbetween : Blanks between)
    (hw : Blanks w) (hv : IsValue v) (hrest : Ends rest) :
    readMember name d (encodeChars (between ++ ':' :: (w ++ (v ++ rest)))) = .ok (d', encodeChars rest) := by
  cases htakes with
  | unknown hname =>
    simp only [readMember, hname, bind_eq_ok]
    exact ⟨_, expectColon_append hbetween, _, skipValue_append hw hv hrest, rfl⟩
  | @known key v c u hnone hvalue hc =>
    have hnew : d.has key = false := by simp [Draft.has_eq, hnone]
    have hname : Key.ofText? key.text = some key := Key.ofText?_eq_some.mpr rfl
    simp only [readMember, hname, hnew, Bool.false_eq_true, if_false, bind_eq_ok]
    exact ⟨_, expectColon_append hbetween, readField_append hw hvalue hc hrest⟩

/-- Entries after the opening bracket, or after entries that came before. -/
def entries (first : Bool) (xs : List (List Char)) : List Char :=
  if first then separated xs else xs.flatMap (',' :: ·)

/-- The comma before an entry that is not the first one. -/
def comma (first : Bool) : List Char :=
  if first then [] else [',']

theorem entries_cons (first : Bool) (x : List Char) (xs : List (List Char)) :
    entries first (x :: xs) = comma first ++ (x ++ entries false xs) := by
  cases first <;> simp [entries, comma, separated]

theorem key_of_toKey {first : Bool} {b : UInt8} (hs : encodeChars cs = b :: s) (h : toKey first b s = .ok r) :
    ∃ before rest, Blanks before ∧ cs = comma first ++ (before ++ '"' :: rest) ∧ r = encodeChars rest := by
  unfold toKey at h
  cases first with
  | true =>
    simp only [if_true] at h
    split at h
    · next hb =>
      subst hb
      obtain ⟨ds, rfl, rfl⟩ := cons_of_encodeChars (a := '"') (by decide) hs
      exact ⟨[], ds, blanks_nil, rfl, (Except.ok.inj h).symm⟩
    · cases h
  | false =>
    simp only [Bool.false_eq_true, if_false] at h
    split at h
    · next hb =>
      subst hb
      obtain ⟨ds, rfl, rfl⟩ := cons_of_encodeChars (a := ',') (by decide) hs
      split at h
      · cases h
      · next c t ht =>
        split at h
        · next hc =>
          subst hc
          obtain ⟨before, rest, rfl, hbefore, rfl⟩ := cons_of_skipBlanks (a := '"') (by decide) ht
          exact ⟨before, rest, hbefore, rfl, (Except.ok.inj h).symm⟩
        · split at h <;> cases h
    · cases h

/-- One member, without the blanks around it. -/
theorem member_of_readNextMember {first : Bool} {b : UInt8} (hs : encodeChars cs = b :: s)
    (h : readNextMember first b d s = .ok (d', r)) :
    ∃ name before key between w v rest, Blanks before ∧ Spells key (String.toList name) ∧ Blanks between ∧ Blanks w ∧
      IsValue v ∧ Takes d name v d' ∧ r = encodeChars rest ∧
      cs = comma first ++ (before ++ (quoted key ++ (between ++ ':' :: (w ++ (v ++ rest))))) := by
  simp only [readNextMember, bind_eq_ok] at h
  obtain ⟨s₁, h₁, ⟨name, s₂⟩, h₂, h⟩ := h
  obtain ⟨before, ds, hbefore, rfl, rfl⟩ := key_of_toKey hs h₁
  obtain ⟨key, ds, hkey, rfl, rfl⟩ := spells_of_readText h₂
  obtain ⟨between, w, v, rest, hbetween, hw, hv, htakes, rfl, rfl⟩ := takes_of_readMember h
  exact ⟨name, before, key, between, w, v, rest, hbefore, hkey, hbetween, hw, hv, htakes, rfl, by simp [quoted]⟩

/-- The members of an object that was read. -/
theorem members_of_readMembers {first : Bool} (h : readMembers first d (encodeChars cs) = .ok (t, r)) :
    ∃ (after : List Char) (ms : List Named) (blanks rest : List Char), Blanks after ∧ (first = true → after = []) ∧
      (∀ m ∈ ms, m.WellFormed) ∧ Blanks blanks ∧ Follows d (ms.map Named.pair) t ∧ r = encodeChars rest ∧
      cs = after ++ (entries first (ms.map Named.chars) ++ (blanks ++ '\x7d' :: rest)) := by
  generalize hs : encodeChars cs = s at h
  fun_induction readMembers first d s generalizing cs with
  | case1 first d s hskip => cases h
  | case2 first d s u hskip =>
    subst hs
    obtain ⟨w, rest, rfl, hw, rfl⟩ := cons_of_skipBlanks (a := '\x7d') (by decide) hskip
    obtain ⟨rfl, rfl⟩ := Prod.mk.inj (Except.ok.inj h)
    exact ⟨[], [], w, rest, blanks_nil, fun _ => rfl, by simp, hw, .nil d, rfl, by cases first <;> rfl⟩
  | case3 first d s b u hskip hclose f hnext => cases h
  | case4 first d s b u hskip hclose d' r' hnext ih =>
    subst hs
    obtain ⟨w, ds, rfl, hw, hds⟩ := blanks_of_skipBlanks hskip
    obtain ⟨name, before, key, between, w', v, es, hbefore, hkey, hbetween, hw', hv, htakes, rfl, rfl⟩ :=
      member_of_readNextMember hds hnext
    obtain ⟨after, ms, blanks, rest, hafter, -, hms, hblanks, hfollows, rfl, rfl⟩ := ih rfl h
    -- Blanks before a comma belong to the member before it.
    cases first with
    | true =>
      refine ⟨[], ⟨name, ⟨w ++ before, key, between, ⟨w', v, after⟩⟩⟩ :: ms, blanks, rest, blanks_nil, fun _ => rfl,
        ?_, hblanks, .cons htakes hfollows, rfl, ?_⟩
      · intro m hm
        obtain rfl | hm := List.mem_cons.mp hm
        · exact ⟨⟨hw.append hbefore, hbetween, hw', hafter⟩, hkey, hv⟩
        · exact hms m hm
      · simp [entries_cons, Named.chars, Member.chars, Item.chars, comma]
    | false =>
      refine ⟨w, ⟨name, ⟨before, key, between, ⟨w', v, after⟩⟩⟩ :: ms, blanks, rest, hw, by simp, ?_,
        hblanks, .cons htakes hfollows, rfl, ?_⟩
      · intro m hm
        obtain rfl | hm := List.mem_cons.mp hm
        · exact ⟨⟨hbefore, hbetween, hw', hafter⟩, hkey, hv⟩
        · exact hms m hm
      · simp [entries_cons, Named.chars, Member.chars, Item.chars]

theorem readMembers_close {first : Bool} (h : skipBlanks s = '\x7d'.toUInt8 :: r) :
    readMembers first d s = .ok (d, r) := by
  rw [readMembers]
  split
  · next hs => rw [h] at hs; cases hs
  · next b u hs =>
    rw [h] at hs
    obtain ⟨rfl, rfl⟩ := List.cons.inj hs
    rw [if_pos rfl]

theorem readMembers_next {first : Bool} {b : UInt8} {u : Octets} (h : skipBlanks s = b :: u) (hb : b ≠ '\x7d'.toUInt8)
    (hnext : readNextMember first b d u = .ok (d', r)) : readMembers first d s = readMembers false d' r := by
  rw [readMembers]
  split
  · next hs => rw [h] at hs; cases hs
  · next b' u' hs =>
    rw [h] at hs
    obtain ⟨rfl, rfl⟩ := List.cons.inj hs
    rw [if_neg hb]
    split
    · next herror => rw [hnext] at herror; cases herror
    · next hok =>
      rw [hnext] at hok
      cases hok
      rfl

variable {m : Named} {ms : List Named} {after blanks rest : List Char}

theorem Named.chars_append (m : Named) (cs : List Char) :
    m.chars ++ cs =
      m.member.before ++ '"' :: (m.member.key ++ '"' :: (m.member.between ++ ':' ::
        (m.member.item.before ++ (m.member.item.value ++ (m.member.item.after ++ cs))))) := by
  simp [Named.chars, Member.chars, Item.chars, quoted]

theorem toKey_comma {before : List Char} (hbefore : Blanks before) (rest : List Char) :
    toKey false ','.toUInt8 (encodeChars (before ++ '"' :: rest)) = .ok (encodeChars rest) := by
  rw [toKey, skipBlanks_append hbefore (by decide), encodeChars_ascii (by decide)]
  rfl

theorem readNextMember_of_toKey {first : Bool} {b : UInt8} (hm : m.WellFormed)
    (htakes : Takes d m.name m.member.item.value d') (hrest : Ends rest)
    (hkey : toKey first b s = .ok (encodeChars (m.member.key ++ '"' :: (m.member.between ++ ':' ::
      (m.member.item.before ++ (m.member.item.value ++ rest)))))) :
    readNextMember first b d s = .ok (d', encodeChars rest) := by
  obtain ⟨⟨-, hbetween, hitem⟩, hspells, hvalue⟩ := hm
  simp only [readNextMember, bind_eq_ok]
  refine ⟨_, hkey, _, readText_spells hspells _, ?_⟩
  rw [String.ofList_toList]
  exact readMember_append htakes hbetween hitem.1 hvalue hrest

theorem ends_entries (xs : List (List Char)) (hblanks : Blanks blanks) (hrest : Ends rest) :
    Ends (entries false xs ++ (blanks ++ rest)) := by
  cases xs with
  | nil =>
    apply ends_blanks hblanks
    exact hrest
  | cons x xs => exact ends_cons (by simp)

/-- The members of an object are read in their order. -/
theorem readMembers_append {first : Bool} (hafter : Blanks after) (hms : ∀ m ∈ ms, m.WellFormed)
    (hblanks : Blanks blanks) (hfollows : Follows d (ms.map Named.pair) t) :
    readMembers first d (encodeChars (after ++ (entries first (ms.map Named.chars) ++ (blanks ++ '\x7d' :: rest)))) =
      .ok (t, encodeChars rest) := by
  induction ms generalizing first d after with
  | nil =>
    obtain rfl := hfollows.eq
    have hchars : after ++ (entries first (List.map Named.chars []) ++ (blanks ++ '\x7d' :: rest)) =
        (after ++ blanks) ++ '\x7d' :: rest := by cases first <;> simp [entries, separated]
    apply readMembers_close
    rw [hchars, skipBlanks_append (hafter.append hblanks) (by decide), encodeChars_ascii (by decide)]
  | cons m ms ih =>
    obtain ⟨d', htakes, hfollows⟩ := hfollows.uncons
    have hm := hms m List.mem_cons_self
    have hclose : Ends ('\x7d' :: rest) := ends_cons (by simp)
    have hmore := ends_blanks hm.spaced.2.2.2 (ends_entries (ms.map Named.chars) hblanks hclose)
    rw [List.map_cons, entries_cons, List.append_assoc, List.append_assoc, Named.chars_append]
    have hlater : readMembers false d' (encodeChars (m.member.item.after ++
        (entries false (ms.map Named.chars) ++ (blanks ++ '\x7d' :: rest)))) = .ok (t, encodeChars rest) :=
      ih hm.spaced.2.2.2 (fun m hm => hms m (List.mem_cons_of_mem _ hm)) hfollows
    rw [← hlater]
    cases first with
    | true =>
      rw [comma, if_pos rfl, List.nil_append, ← List.append_assoc after]
      refine readMembers_next (b := '"'.toUInt8) ?_ (by decide) (readNextMember_of_toKey hm htakes hmore rfl)
      rw [skipBlanks_append (hafter.append hm.spaced.1) (by decide), encodeChars_ascii (by decide)]
    | false =>
      rw [comma, if_neg (by decide), List.singleton_append]
      refine readMembers_next (b := ','.toUInt8) ?_ (by decide)
        (readNextMember_of_toKey hm htakes hmore (toKey_comma hm.spaced.1 _))
      rw [skipBlanks_append hafter (by decide), encodeChars_ascii (by decide)]

end Members

section Elements

variable {d t : Draft} {cs : List Char} {r : Octets} {keys : List Key}

theorem close_of_closeList (h : closeList (encodeChars cs) = .ok r) :
    ∃ w rest, Blanks w ∧ cs = w ++ ']' :: rest ∧ r = encodeChars rest := by
  unfold closeList at h
  split at h
  · cases h
  · next b u hu =>
    split at h
    · next hb =>
      subst hb
      obtain ⟨w, rest, rfl, hw, rfl⟩ := cons_of_skipBlanks (a := ']') (by decide) hu
      exact ⟨w, rest, hw, rfl, (Except.ok.inj h).symm⟩
    · split at h
      · split at h
        · cases h
        · split at h <;> cases h
      · cases h

/-- Values of a list for the keys that are still to come. -/
structure Elements (keys : List Key) (d t : Draft) (es : List Item) : Prop where
  spaced : ∀ e ∈ es, e.Spaced
  value : ∀ e ∈ es, IsValue e.value
  length : es.length ≤ keys.length
  follows : Follows d ((keys.map Key.text).zip (es.map Item.value)) t

theorem Elements.nil (keys : List Key) (d : Draft) : Elements keys d d [] where
  spaced := by simp
  value := by simp
  length := by simp
  follows := by
    rw [List.map_nil, List.zip_nil_right]
    exact .nil d

theorem Elements.cons {key : Key} {d' : Draft} {e : Item} {es : List Item} (htakes : Takes d key.text e.value d')
    (hspaced : e.Spaced) (hvalue : IsValue e.value) (h : Elements keys d' t es) :
    Elements (key :: keys) d t (e :: es) where
  spaced := by
    intro e' he'
    obtain rfl | he' := List.mem_cons.mp he'
    · exact hspaced
    · exact h.spaced e' he'
  value := by
    intro e' he'
    obtain rfl | he' := List.mem_cons.mp he'
    · exact hvalue
    · exact h.value e' he'
  length := Nat.succ_le_succ h.length
  follows := .cons htakes h.follows

/-- One value of a list. -/
theorem takes_of_readField {key : Key} {d' : Draft} (hnew : d.content? key = none)
    (h : readField key d (encodeChars cs) = .ok (d', r)) :
    ∃ w v rest, Blanks w ∧ IsValue v ∧ Takes d key.text v d' ∧ cs = w ++ (v ++ rest) ∧ r = encodeChars rest ∧
      ∀ k, k ≠ key → d'.content? k = d.content? k := by
  obtain ⟨w, v, rest, c, hw, hv, hc, hd, rfl, rfl⟩ := content_of_readField h
  have htakes := Takes.known hnew hv hc
  rw [← hd] at htakes
  refine ⟨w, v, rest, hw, hv.isValue, htakes, rfl, rfl, ?_⟩
  intro k hk
  rw [hd, Draft.content?_withField, if_neg hk]

/-- Where a value may stand, a list ends or goes on with a value after its comma. -/
theorem step_of_readElements {first : Bool} {key : Key}
    (h : readElements first (key :: keys) d (encodeChars cs) = .ok (t, r)) :
    (∃ w rest, Blanks w ∧ cs = w ++ ']' :: rest ∧ d = t ∧ r = encodeChars rest) ∨
      ∃ after w ds, Blanks after ∧ (first = true → after = []) ∧ Blanks w ∧ cs = after ++ (comma first ++ (w ++ ds)) ∧
        (readField key d (encodeChars ds) >>= fun x => readElements false keys x.1 x.2) = .ok (t, r) := by
  rw [readElements] at h
  split at h
  · cases h
  · next b u hu =>
    split at h
    · next hb =>
      subst hb
      obtain ⟨w, rest, rfl, hw, rfl⟩ := cons_of_skipBlanks (a := ']') (by decide) hu
      obtain ⟨rfl, rfl⟩ := Prod.mk.inj (Except.ok.inj h)
      exact .inl ⟨w, rest, hw, rfl, rfl, rfl⟩
    · cases first with
      | true =>
        obtain ⟨w, ds, rfl, hw, hds⟩ := blanks_of_skipBlanks hu
        rw [if_pos rfl, ← hds] at h
        exact .inr ⟨[], w, ds, blanks_nil, fun _ => rfl, hw, rfl, h⟩
      | false =>
        rw [if_neg (by decide)] at h
        split at h
        · next hb =>
          subst hb
          obtain ⟨after, ds, rfl, hafter, rfl⟩ := cons_of_skipBlanks (a := ',') (by decide) hu
          split at h
          · cases h
          · next c q hq =>
            obtain ⟨w, ds, rfl, hw, hds⟩ := blanks_of_skipBlanks hq
            split at h
            · cases h
            · rw [← hds] at h
              exact .inr ⟨after, w, ds, hafter, by simp, hw, rfl, h⟩
        · cases h

/-- The values of a list that was read. -/
theorem elements_of_readElements {first : Bool} (hnodup : keys.Nodup) (hnew : ∀ k ∈ keys, d.content? k = none)
    (h : readElements first keys d (encodeChars cs) = .ok (t, r)) :
    ∃ (after : List Char) (es : List Item) (blanks rest : List Char), Elements keys d t es ∧ Blanks after ∧
      (first = true → after = []) ∧ Blanks blanks ∧ r = encodeChars rest ∧
      cs = after ++ (entries first (es.map Item.chars) ++ (blanks ++ ']' :: rest)) := by
  induction keys generalizing first d cs with
  | nil =>
    obtain ⟨u, hu, h⟩ := map_eq_ok.mp h
    obtain ⟨rfl, rfl⟩ := Prod.mk.inj h
    obtain ⟨w, rest, hw, rfl, rfl⟩ := close_of_closeList hu
    exact ⟨[], [], w, rest, .nil [] d, blanks_nil, fun _ => rfl, hw, rfl, by cases first <;> rfl⟩
  | cons key keys ih =>
    obtain ⟨hkey, hnodup⟩ := List.nodup_cons.mp hnodup
    obtain ⟨w, rest, hw, rfl, rfl, rfl⟩ | ⟨after, w, ds, hafter, hfirst, hw, rfl, hnext⟩ := step_of_readElements h
    · exact ⟨[], [], w, rest, .nil _ d, blanks_nil, fun _ => rfl, hw, rfl, by cases first <;> rfl⟩
    · obtain ⟨⟨d', s⟩, hfield, hread⟩ := bind_eq_ok.mp hnext
      obtain ⟨w', v, ds, hw', hv, htakes, rfl, rfl, hother⟩ := takes_of_readField (hnew key List.mem_cons_self) hfield
      have hnew' : ∀ k ∈ keys, d'.content? k = none := by
        intro k hk
        have hne : k ≠ key := by
          rintro rfl
          exact hkey hk
        rw [hother k hne]
        exact hnew k (List.mem_cons_of_mem _ hk)
      -- Blanks before the next comma belong to this value.
      obtain ⟨last, es, blanks, rest, hes, hlast, -, hblanks, rfl, rfl⟩ := ih hnodup hnew' hread
      refine ⟨after, ⟨w ++ w', v, last⟩ :: es, blanks, rest, .cons htakes ⟨hw.append hw', hlast⟩ hv hes, hafter,
        hfirst, hblanks, rfl, ?_⟩
      simp [entries_cons, Item.chars]

end Elements

end RecursiveFactorial.Document
