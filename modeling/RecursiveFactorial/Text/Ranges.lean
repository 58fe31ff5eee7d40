/-!
# Classes of code points

A class of code points is given by the code points at which membership changes, in increasing order: a code point
is in the class when an odd number of them is at most that code point.
-/
namespace RecursiveFactorial.Text

/-- Membership in the class whose changes are listed: the parity of the changes up to `n`. -/
def member : List Nat → Nat → Bool
  | [], _ => false
  | b :: bs, n => if n < b then false else !member bs n

@[simp]
theorem member_nil (n : Nat) : member [] n = false := rfl

theorem member_of_lt {b n : Nat} (bs : List Nat) (h : n < b) : member (b :: bs) n = false := by
  simp [member, h]

/-- From a change on, membership is the opposite of what the later changes say. -/
theorem member_of_le {b n : Nat} (bs : List Nat) (h : b ≤ n) :
    member (b :: bs) n = !member bs n := by
  simp [member, Nat.not_lt.mpr h]

end RecursiveFactorial.Text
