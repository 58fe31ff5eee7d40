/-!
# Octets of a text

A text is written as UTF-8. Reading goes the other way octet by octet: `pieces` cuts any octets into
characters and ill-formed pieces, where an ill-formed piece is the longest prefix that could still start
a character (and one octet when there is none). Strict reading names the first ill-formed piece, lossy
reading puts U+FFFD for each.
-/
namespace RecursiveFactorial

abbrev Octets := List UInt8

namespace Utf8

def encode (s : String) : Octets :=
  s.toList.flatMap String.utf8EncodeChar

@[simp]
theorem encode_empty : encode "" = [] := by
  simp [encode]

@[simp]
theorem encode_append (s t : String) : encode (s ++ t) = encode s ++ encode t := by
  simp [encode]

structure Range where
  low : UInt8
  high : UInt8
  deriving DecidableEq, Repr

def Range.holds (r : Range) (b : UInt8) : Bool :=
  r.low ≤ b && b ≤ r.high

/-- The octets that may continue a character, where nothing narrower is said. -/
def continuation : Range := ⟨0x80, 0xbf⟩

/-- The ranges of the octets that follow a leading octet. Overlong forms, surrogates and values past
U+10FFFF are shut out by the range of the second octet, so no later check is needed. -/
def following (b : UInt8) : Option (List Range) :=
  if b < 0x80 then some []
  else if b < 0xc2 then none
  else if b < 0xe0 then some [continuation]
  else if b = 0xe0 then some [⟨0xa0, 0xbf⟩, continuation]
  else if b = 0xed then some [⟨0x80, 0x9f⟩, continuation]
  else if b < 0xf0 then some [continuation, continuation]
  else if b = 0xf0 then some [⟨0x90, 0xbf⟩, continuation, continuation]
  else if b < 0xf4 then some [continuation, continuation, continuation]
  else if b = 0xf4 then some [⟨0x80, 0x8f⟩, continuation, continuation]
  else none

/-- The bits of the code point that a leading octet with `n` octets after it carries. -/
def leadBits (b : UInt8) : Nat → Nat
  | 0 => b.toNat
  | 1 => b.toNat % 0x20
  | 2 => b.toNat % 0x10
  | _ => b.toNat % 0x08

/-- A maximal stretch of octets that stands for one character, or for none. -/
inductive Piece where
  | scalar (c : Char)
  /-- An ill-formed stretch followed by an octet that cannot continue it. -/
  | invalid (length : Nat)
  /-- The octets end inside a character that is well formed so far. -/
  | cutOff (length : Nat)
  deriving DecidableEq, Repr

/-- A character of which `length` octets are read and the `next` and `later` ones are missing. -/
structure Unfinished where
  length : Nat
  bits : Nat
  next : Range
  later : List Range
  deriving DecidableEq, Repr

def lead (b : UInt8) : Piece ⊕ Unfinished :=
  match following b with
  | none => .inl (.invalid 1)
  | some [] => .inl (.scalar (Char.ofNat b.toNat))
  | some (r :: rs) => .inr ⟨1, leadBits b (rs.length + 1), r, rs⟩

/-- What one more fitting octet makes of an unfinished character. -/
def Unfinished.extend (u : Unfinished) (b : UInt8) : Piece ⊕ Unfinished :=
  let bits := u.bits * 0x40 + b.toNat % 0x40
  match u.later with
  | [] => .inl (.scalar (Char.ofNat bits))
  | r :: rs => .inr ⟨u.length + 1, bits, r, rs⟩

/-- Cuts octets into pieces. An octet that does not continue the character at hand ends that piece and
is looked at again as a leading octet. -/
def scan : Option Unfinished → Octets → List Piece
  | none, [] => []
  | some u, [] => [.cutOff u.length]
  | none, b :: bs =>
    match lead b with
    | .inl p => p :: scan none bs
    | .inr u => scan (some u) bs
  | some u, b :: bs =>
    if u.next.holds b then
      match u.extend b with
      | .inl p => p :: scan none bs
      | .inr v => scan (some v) bs
    else
      .invalid u.length ::
        match lead b with
        | .inl p => p :: scan none bs
        | .inr v => scan (some v) bs

def pieces (bs : Octets) : List Piece :=
  scan none bs

structure Fault where
  index : Nat
  /-- `none` when the octets end inside a character. -/
  length : Option Nat
  deriving DecidableEq, Repr

/-- The first ill-formed piece, where the pieces start at `index`. -/
def firstFault : Nat → List Piece → Option Fault
  | _, [] => none
  | index, .scalar c :: ps => firstFault (index + c.utf8Size) ps
  | index, .invalid n :: _ => some ⟨index, some n⟩
  | index, .cutOff _ :: _ => some ⟨index, none⟩

/-- The character that stands for a piece, U+FFFD for an ill-formed one. -/
def Piece.shown : Piece → Char
  | .scalar c => c
  | .invalid _ => '\ufffd'
  | .cutOff _ => '\ufffd'

/-- Reads any octets, with one U+FFFD for each ill-formed piece. -/
def decodeLossy (bs : Octets) : String :=
  String.ofList ((pieces bs).map Piece.shown)

def decode (bs : Octets) : Except Fault String :=
  match firstFault 0 (pieces bs) with
  | none => .ok (decodeLossy bs)
  | some f => .error f

def decode? (bs : Octets) : Option String :=
  (decode bs).toOption

def Fault.message (f : Fault) : String :=
  match f.length with
  | some n => s!"invalid utf-8 sequence of {n} bytes from index {f.index}"
  | none => s!"incomplete utf-8 byte sequence from index {f.index}"

end Utf8

end RecursiveFactorial
