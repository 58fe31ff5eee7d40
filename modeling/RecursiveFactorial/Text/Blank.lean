/-!
# Blanks and words

Two notions of blank are in use. Words of a line are divided by every character with the Unicode property
White_Space, while a number is preceded only by the six blanks of a plain terminal line.
-/
namespace RecursiveFactorial.Text

/-- The Unicode property White_Space. -/
def isWhite (c : Char) : Bool :=
  let n := c.toNat
  (9 ≤ n && n ≤ 13) || n == 0x20 || n == 0x85 || n == 0xa0 || n == 0x1680 ||
    (0x2000 ≤ n && n ≤ 0x200a) || n == 0x2028 || n == 0x2029 || n == 0x202f || n == 0x205f ||
    n == 0x3000

/-- Space, tab, line feed, vertical tab, form feed and carriage return. -/
def isBlank (c : Char) : Bool :=
  c == ' ' || (9 ≤ c.toNat && c.toNat ≤ 13)

theorem isWhite_of_isBlank {c : Char} (h : isBlank c = true) : isWhite c = true := by
  simp only [isBlank, Bool.or_eq_true, beq_iff_eq] at h
  rcases h with h | h
  · subst h
    decide
  · simp [isWhite, h]

/-- The first word of a line, `none` when the line is all white. -/
def firstWord? (s : String) : Option String :=
  match (s.toList.dropWhile isWhite).takeWhile (fun c => !isWhite c) with
  | [] => none
  | w => some (String.ofList w)

end RecursiveFactorial.Text
