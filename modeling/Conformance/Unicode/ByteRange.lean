import Conformance.Unicode.CodePointSet

/-!
# Ranges of bytes

The encodings of the characters of a set are described by sequences of byte ranges: an encoding matches a
sequence when it has as many bytes and each is in its range. `CodePointSet.byteSequences` cuts the ranges of
a set until the encodings in between the two ends of a piece are just those between the bytes at both ends.
-/

set_option autoImplicit false

namespace Conformance.Unicode

structure ByteRange where
  low : Nat
  high : Nat
  deriving DecidableEq, Inhabited

/-- The bytes of a code point, one to four of them. -/
def encoding (code : Nat) : List Nat :=
  let tail (shift : Nat) : Nat := 0x80 + code / shift % 0x40
  if code < 0x80 then [code]
  else if code < 0x800 then [0xC0 + code / 0x40, tail 1]
  else if code < 0x10000 then [0xE0 + code / 0x1000, tail 0x40, tail 1]
  else [0xF0 + code / 0x40000, tail 0x1000, tail 0x40, tail 1]

/-- Where a range of code points has to be cut, as the first code point of the second piece. Encodings of
one length come first; then a piece that reaches over blocks with a common start takes whole blocks only. -/
def cut? (low high : Nat) : Option Nat :=
  match [0x80, 0x800, 0x10000].find? fun bound => low < bound && bound ≤ high with
  | some bound => some bound
  | none =>
    if high < 0x80 then none
    else [0x40, 0x1000, 0x40000].findSome? fun block =>
      if low / block = high / block then none
      else if low % block ≠ 0 then some ((low / block + 1) * block)
      else if high % block ≠ block - 1 then some (high / block * block)
      else none

def byteSequencesBetween (low high : Nat) : List (List ByteRange) :=
  match cut? low high with
  | some middle =>
    if _h : low < middle ∧ middle ≤ high then
      byteSequencesBetween low (middle - 1) ++ byteSequencesBetween middle high
    else []
  | none => [(encoding low).zipWith ByteRange.mk (encoding high)]
  termination_by high - low

namespace CodePointSet

/-- The byte sequences of the characters of a set, in the order of the characters. -/
def byteSequences (s : CodePointSet) : List (List ByteRange) :=
  s.ranges.flatMap fun (low, high) =>
    if low < 0xE000 && 0xD7FF < high then
      byteSequencesBetween low 0xD7FF ++ byteSequencesBetween 0xE000 high
    else byteSequencesBetween low high

def isAscii (s : CodePointSet) : Bool := s.ranges.all fun range => range.2 < 0x80

end CodePointSet

end Conformance.Unicode
