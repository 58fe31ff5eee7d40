/-!
# Hangul

Syllables are written by letters that lead, letters for a vowel and letters that trail, or by one
character that stands for two or three such letters.
-/
namespace RecursiveFactorial.Text.Hangul

def isLeading (n : Nat) : Bool :=
  (0x1100 ≤ n && n < 0x1160) || (0xa960 ≤ n && n < 0xa97d)

def isVowel (n : Nat) : Bool :=
  (0x1160 ≤ n && n < 0x11a8) || (0xd7b0 ≤ n && n < 0xd7c7)

def isTrailing (n : Nat) : Bool :=
  (0x11a8 ≤ n && n < 0x1200) || (0xd7cb ≤ n && n < 0xd7fc)

/-- Whole syllables, from those without a trailing letter on, 28 for each. -/
def isSyllable (n : Nat) : Bool :=
  0xac00 ≤ n && n < 0xd7a4

/-- Whether a syllable has no trailing letter. -/
def isOpen (n : Nat) : Bool :=
  (n - 0xac00) % 28 == 0

end RecursiveFactorial.Text.Hangul
