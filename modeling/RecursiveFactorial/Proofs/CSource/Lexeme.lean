import RecursiveFactorial.Proofs.CSource.Reading

/-!
# Lexemes of a line

A line is written with words, string literals and single marks. Where no two words touch, the text determines these
lexemes: a word ends where its run of characters does, and a literal where it is read to its end.
-/
namespace RecursiveFactorial

namespace ThreeAddress

/-- What an identifier of C is made of. Which characters outside ASCII are letters is left to the implementation, and
a universal character name has a backslash. -/
def isNamePart (c : Char) : Bool :=
  c.isAlphanum || c == '_' || c == '\\' || 0x80 ≤ c.toNat

end ThreeAddress

namespace CSource

open ThreeAddress
open C (Feeds lexStep)

section Literals

/-- A literal is no proper beginning of another one. -/
theorem eq_of_literal_eq_append {s t : String} {cs : List Char} (h : (literal t).toList = (literal s).toList ++ cs) :
    s = t ∧ cs = [] := by
  have hread := feeds_literal t
  rw [h] at hread
  obtain ⟨rest, -, htokens⟩ := hread.drop (feeds_literal s)
  simp only [List.singleton_append, List.cons.injEq, C.Token.text.injEq] at htokens
  obtain rfl := Utf8.encode_injective htokens.1
  exact ⟨rfl, by simpa using h⟩

/-- A literal ends at the same place whatever follows it. -/
theorem literal_append_inj {s t : String} {cs ds : List Char}
    (h : (literal s).toList ++ cs = (literal t).toList ++ ds) : s = t ∧ cs = ds := by
  obtain ⟨as, ht, hcs⟩ | ⟨as, hs, hds⟩ := List.append_eq_append_iff.mp h
  · obtain ⟨rfl, rfl⟩ := eq_of_literal_eq_append ht
    exact ⟨rfl, hcs⟩
  · obtain ⟨rfl, rfl⟩ := eq_of_literal_eq_append hs
    exact ⟨rfl, hds.symm⟩

end Literals

inductive Lexeme where
  | word (cs : List Char)
  | quoted (s : String)
  | mark (c : Char)
  deriving DecidableEq, Repr

namespace Lexeme

def chars : Lexeme → List Char
  | .word cs => cs
  | .quoted s => (literal s).toList
  | .mark c => [c]

/-- A word is a run of the characters of names, and a mark is none of them. -/
def WellFormed : Lexeme → Prop
  | .word cs => cs ≠ [] ∧ ∀ c ∈ cs, isNamePart c = true
  | .quoted _ => True
  | .mark c => isNamePart c = false ∧ c ≠ '"' ∧ c ≠ '\n'

def isWord : Lexeme → Bool
  | .word _ => true
  | _ => false

end Lexeme

/-- The text of lexemes that follow each other directly. -/
def lexemeChars (xs : List Lexeme) : List Char :=
  xs.flatMap Lexeme.chars

@[simp] theorem lexemeChars_nil : lexemeChars [] = [] := rfl
@[simp] theorem lexemeChars_cons (x : Lexeme) (xs : List Lexeme) :
    lexemeChars (x :: xs) = x.chars ++ lexemeChars xs := rfl
@[simp] theorem lexemeChars_append (xs ys : List Lexeme) :
    lexemeChars (xs ++ ys) = lexemeChars xs ++ lexemeChars ys := List.flatMap_append

/-- The lexemes are well formed, and no word stands right after a word. -/
def Separated : List Lexeme → Prop
  | [] => True
  | [x] => x.WellFormed
  | x :: y :: xs => x.WellFormed ∧ (x.isWord && y.isWord) = false ∧ Separated (y :: xs)

namespace Separated

theorem wellFormed {x : Lexeme} {xs : List Lexeme} (h : Separated (x :: xs)) : x.WellFormed := by
  cases xs with
  | nil => exact h
  | cons y ys => exact h.1

theorem tail {x : Lexeme} {xs : List Lexeme} (h : Separated (x :: xs)) : Separated xs := by
  cases xs with
  | nil => trivial
  | cons y ys => exact h.2.2

theorem mark_cons {c : Char} {xs : List Lexeme} (hc : (Lexeme.mark c).WellFormed) (h : Separated xs) :
    Separated (.mark c :: xs) := by
  cases xs with
  | nil => exact hc
  | cons y ys => exact ⟨hc, rfl, h⟩

theorem quoted_cons {s : String} {xs : List Lexeme} (h : Separated xs) : Separated (.quoted s :: xs) := by
  cases xs with
  | nil => trivial
  | cons y ys => exact ⟨trivial, rfl, h⟩

theorem word_mark_cons {cs : List Char} {c : Char} {xs : List Lexeme} (hcs : (Lexeme.word cs).WellFormed)
    (h : Separated (.mark c :: xs)) : Separated (.word cs :: .mark c :: xs) :=
  ⟨hcs, rfl, h⟩

/-- A word is followed by a character that cannot continue it. -/
theorem head_after_word {cs : List Char} {xs : List Lexeme} (h : Separated (.word cs :: xs)) :
    ∀ c ∈ (lexemeChars xs).head?, isNamePart c = false := by
  cases xs with
  | nil => simp
  | cons y ys =>
    have hy := h.tail.wellFormed
    cases y with
    | word ds => exact absurd h.2.1 (by simp [Lexeme.isWord])
    | quoted s =>
      intro c hc
      simp only [lexemeChars_cons, Lexeme.chars, literal, String.toList_ofList, List.cons_append, List.head?_cons,
        Option.mem_def, Option.some.injEq] at hc
      subst hc
      decide
    | mark d =>
      intro c hc
      simp only [lexemeChars_cons, Lexeme.chars, List.cons_append, List.head?_cons, Option.mem_def,
        Option.some.injEq] at hc
      subst hc
      exact hy.1

end Separated

/-- Two runs of elements of a kind are cut off at the same place. -/
theorem run_append_inj {α : Type} {p : α → Bool} {as bs cs ds : List α} (ha : ∀ c ∈ as, p c = true)
    (hb : ∀ c ∈ bs, p c = true) (hc : ∀ c ∈ cs.head?, p c = false) (hd : ∀ c ∈ ds.head?, p c = false)
    (h : as ++ cs = bs ++ ds) : as = bs ∧ cs = ds := by
  have hrun {es fs : List α} (he : ∀ c ∈ es, p c = true) (hf : ∀ c ∈ fs.head?, p c = false) :
      (es ++ fs).takeWhile p = es := by
    rw [List.takeWhile_append_of_pos he]
    cases fs with
    | nil => simp
    | cons f fs => rw [List.takeWhile_cons_of_neg (by simp [hf f (by simp)]), List.append_nil]
  have has : as = bs := by rw [← hrun ha hc, h, hrun hb hd]
  subst has
  exact ⟨rfl, List.append_cancel_left h⟩

theorem not_isNamePart_quote : isNamePart '"' = false := by decide

/-- The first character tells words, literals and marks apart. -/
theorem chars_append_inj {x y : Lexeme} {xs ys : List Lexeme} (hx : Separated (x :: xs)) (hy : Separated (y :: ys))
    (h : x.chars ++ lexemeChars xs = y.chars ++ lexemeChars ys) : x = y ∧ lexemeChars xs = lexemeChars ys := by
  have hquoted (s : String) (cs : List Char) : ((literal s).toList ++ cs).head? = some '"' := by
    simp [literal]
  have hword {cs : List Char} (hcs : (Lexeme.word cs).WellFormed) (ds : List Char) :
      ∃ c, (cs ++ ds).head? = some c ∧ isNamePart c = true := by
    obtain ⟨c, cs, rfl⟩ := List.exists_cons_of_ne_nil hcs.1
    exact ⟨c, rfl, hcs.2 c List.mem_cons_self⟩
  have hhead := congrArg List.head? h
  cases x with
  | word cs =>
    obtain ⟨c, hc, hpart⟩ := hword hx.wellFormed (lexemeChars xs)
    rw [Lexeme.chars, hc] at hhead
    cases y with
    | word ds =>
      obtain ⟨rfl, hrest⟩ := run_append_inj hx.wellFormed.2 hy.wellFormed.2 hx.head_after_word hy.head_after_word h
      exact ⟨rfl, hrest⟩
    | quoted t =>
      rw [Lexeme.chars, hquoted] at hhead
      cases hhead
      rw [not_isNamePart_quote] at hpart
      cases hpart
    | mark d =>
      cases hhead
      rw [hy.wellFormed.1] at hpart
      cases hpart
  | quoted s =>
    rw [Lexeme.chars, hquoted] at hhead
    cases y with
    | word ds =>
      obtain ⟨d, hd, hpart⟩ := hword hy.wellFormed (lexemeChars ys)
      rw [Lexeme.chars, hd] at hhead
      cases hhead
      rw [not_isNamePart_quote] at hpart
      cases hpart
    | quoted t =>
      obtain ⟨rfl, hrest⟩ := literal_append_inj h
      exact ⟨rfl, hrest⟩
    | mark d =>
      cases hhead
      exact absurd rfl hy.wellFormed.2.1
  | mark c =>
    cases y with
    | word ds =>
      obtain ⟨d, hd, hpart⟩ := hword hy.wellFormed (lexemeChars ys)
      rw [Lexeme.chars, hd] at hhead
      cases hhead
      rw [hx.wellFormed.1] at hpart
      cases hpart
    | quoted t =>
      rw [Lexeme.chars, hquoted] at hhead
      cases hhead
      exact absurd rfl hx.wellFormed.2.1
    | mark d =>
      obtain ⟨rfl, hrest⟩ := List.cons.inj h
      exact ⟨rfl, hrest⟩

theorem chars_ne_nil {x : Lexeme} (hx : x.WellFormed) : x.chars ≠ [] := by
  cases x with
  | word cs => exact hx.1
  | quoted s => simp [Lexeme.chars, literal]
  | mark c => simp [Lexeme.chars]

/-- A text has one reading as lexemes. -/
theorem eq_of_lexemeChars_eq {xs ys : List Lexeme} (hx : Separated xs) (hy : Separated ys)
    (h : lexemeChars xs = lexemeChars ys) : xs = ys := by
  induction xs generalizing ys with
  | nil =>
    cases ys with
    | nil => rfl
    | cons y ys => exact absurd (List.append_eq_nil_iff.mp h.symm).1 (chars_ne_nil hy.wellFormed)
  | cons x xs ih =>
    cases ys with
    | nil => exact absurd (List.append_eq_nil_iff.mp h).1 (chars_ne_nil hx.wellFormed)
    | cons y ys =>
      obtain ⟨rfl, hrest⟩ := chars_append_inj hx hy h
      rw [ih hx.tail hy.tail hrest]

/-- There is no newline in the text of lexemes. -/
theorem newline_not_mem_lexemeChars {xs : List Lexeme} (hx : Separated xs) : '\n' ∉ lexemeChars xs := by
  induction xs with
  | nil => simp
  | cons x xs ih =>
    have hrest := ih hx.tail
    have hwf := hx.wellFormed
    simp only [lexemeChars_cons, List.mem_append, not_or]
    refine ⟨?_, hrest⟩
    cases x with
    | word cs => exact fun hmem => absurd (hwf.2 '\n' hmem) (by decide)
    | quoted s => exact (printable_literal s).newline_not_mem
    | mark c => exact fun hmem => hwf.2.2 (List.mem_singleton.mp hmem).symm

end CSource

end RecursiveFactorial
