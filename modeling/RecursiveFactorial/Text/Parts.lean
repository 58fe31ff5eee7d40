/-!
# Parts of a text

Cutting a text goes from its end to its front: a character goes in front of the part that follows it, or a
new part is begun after it.
-/
namespace RecursiveFactorial.Text

/-- Puts a character in front of the first part. -/
def consFirst (c : Char) : List (List Char) → List (List Char)
  | [] => [[c]]
  | part :: parts => (c :: part) :: parts

@[simp]
theorem flatten_consFirst (c : Char) (parts : List (List Char)) :
    (consFirst c parts).flatten = c :: parts.flatten := by
  cases parts with
  | nil => rfl
  | cons part parts => simp [consFirst]

end RecursiveFactorial.Text
