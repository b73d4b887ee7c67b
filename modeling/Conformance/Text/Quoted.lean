import Conformance.Unicode.Display

/-!
# Quoted text

Messages show strings between double quotes. The quote, the backslash and four control characters have
short escapes; any other character that would not be seen, or that would merge with its neighbour, is
written by its number in braces. All other characters stand for themselves.
-/

set_option autoImplicit false

namespace Conformance.Text

open Unicode

/-- Whether a character may stand for itself: it is visible and does not merge with its neighbour. The
space is the one separator among them. -/
def isVisible (c : Char) : Bool :=
  if c.toNat < 0x7F then ' ' ≤ c
  else !(invisibleCharacters.contains c || extendingMarks.contains c)

/-- The written form of one character inside quotes. -/
def quotedChar (c : Char) : List Char :=
  if c = '"' then ['\\', '"']
  else if c = '\\' then ['\\', '\\']
  else if c = '\n' then ['\\', 'n']
  else if c = '\r' then ['\\', 'r']
  else if c = '\t' then ['\\', 't']
  else if c.toNat = 0 then ['\\', '0']
  else if isVisible c then [c]
  else ['\\', 'u', '\x7b'] ++ Nat.toDigits 16 c.toNat ++ ['\x7d']

/-- A string between double quotes, escaped. -/
def quoted (s : String) : String :=
  String.ofList ('"' :: s.toList.flatMap quotedChar ++ ['"'])

end Conformance.Text
