import Conformance.Pattern.Expression
import Conformance.Unicode.CaseFolding

/-!
# Atoms of patterns

The readers here take the characters of a pattern from some place on and give the meaning of the atom that
stands there with the characters behind it, or nothing if the pattern is wrong. Under the flag for verbose
patterns, blanks and comments between the characters of a pattern count for nothing.
-/

set_option autoImplicit false

namespace Conformance.Pattern

open Unicode

/-- The flags that govern a stretch of a pattern. -/
structure Flags where
  ignoreCase : Bool := false
  multiLine : Bool := false
  dotAll : Bool := false
  swapGreed : Bool := false
  unicode : Bool := true
  returnLines : Bool := false
  verbose : Bool := false

/-- What one atom of a pattern means. -/
inductive Atom where
  /-- A character that stands for itself. A byte was written by two hexadecimal digits. -/
  | literal (c : Char) (byte : Bool)
  /-- Any character of a set. -/
  | set (characters : CodePointSet)
  | assertion (condition : Assertion)
  | dot

/-! ## Blanks -/

def isWhite (c : Char) : Bool := whiteSpace.contains c

/-- The characters behind blanks and comments; `inComment` says whether they start inside a comment. -/
def skipComments : (inComment : Bool) → List Char → List Char
  | _, [] => []
  | true, c :: rest => skipComments (c != '\n') rest
  | false, c :: rest =>
    if isWhite c then skipComments false rest
    else if c = '#' then skipComments true rest
    else c :: rest

/-- The characters behind what counts for nothing. -/
def skipIgnored (flags : Flags) (cs : List Char) : List Char :=
  if flags.verbose then skipComments false cs else cs

/-- The characters behind the first one and what counts for nothing. -/
def advance (flags : Flags) (cs : List Char) : List Char := skipIgnored flags (cs.drop 1)

/-- The longest run of characters for which `p` holds, when what counts for nothing is passed over behind
each. At most `room` characters are taken. -/
def takeRun (flags : Flags) (p : Char → Bool) : (room : Nat) → List Char → List Char × List Char
  | room + 1, c :: rest =>
    if p c then
      let (run, after) := takeRun flags p room (skipIgnored flags rest)
      (c :: run, after)
    else ([], c :: rest)
  | _, cs => ([], cs)

/-! ## Escapes -/

def hexValue? (c : Char) : Option Nat :=
  if c.isDigit then some (c.toNat - '0'.toNat)
  else if 'a' ≤ c && c ≤ 'f' then some (c.toNat - 'a'.toNat + 10)
  else if 'A' ≤ c && c ≤ 'F' then some (c.toNat - 'A'.toNat + 10)
  else none

def hexNumber? (digits : List Char) : Option Nat :=
  digits.foldlM (fun n d => (hexValue? d).map (n * 16 + ·)) 0

/-- The character with a number, unless the number is beyond all characters or a surrogate. -/
def characterOf? (n : Nat) : Option Char := if n.isValidChar then some (.ofNat n) else none

/-- The character that a hexadecimal escape names; the letter that opens it says how many digits there
are, unless they stand in braces. -/
def readHex (flags : Flags) (letter : Char) (cs : List Char) : Option (Atom × List Char) :=
  let count := if letter = 'x' then 2 else if letter = 'u' then 4 else 8
  match cs with
  | '\x7b' :: _ =>
    let (digits, after) := takeRun flags (· != '\x7d') cs.length (advance flags cs)
    match after with
    | [] => none
    | _ =>
      if digits.isEmpty then none
      else do
        let c ← characterOf? (← hexNumber? digits)
        return (.literal c false, advance flags after)
  | _ =>
    let (digits, after) := takeRun flags (fun c => (hexValue? c).isSome) count cs
    if digits.length < count then none
    else do
      let c ← characterOf? (← hexNumber? digits)
      return (.literal c (letter = 'x'), after)

def splitAt? (mark : List Char) : List Char → Option (List Char × List Char)
  | [] => none
  | c :: rest =>
    if mark.isPrefixOf (c :: rest) then some ([], (c :: rest).drop mark.length)
    else (splitAt? mark rest).map fun (before, after) => (c :: before, after)

/-- The set that the name of a property, or of a property and its value, stands for, and whether the
characters outside it are meant. -/
def propertySet? (name : List Char) : Option (CodePointSet × Bool) :=
  match splitAt? ['!', '='] name with
  | some (property, value) => (valueNamed? (.ofList property) (.ofList value)).map (·, true)
  | none =>
    let set := match (splitAt? [':'] name).or (splitAt? ['='] name) with
      | some (property, value) => valueNamed? (.ofList property) (.ofList value)
      | none => propertyNamed? (.ofList name)
    set.map (·, false)

/-- A set under the flags: closed under case if case does not matter, then complemented if negated. -/
def foldedSet (flags : Flags) (negated : Bool) (a : CodePointSet) : CodePointSet :=
  .negatedIf negated <|
    if !flags.ignoreCase then a
    else if flags.unicode then a.closedUnderCase
    else a.closedUnderLetterCase

/-- The set of a property, the characters being those behind its letter. Properties need the flag for
Unicode. A set that is negated twice is as it was, and case is dealt with before any negation. -/
def readProperty (flags : Flags) (negated : Bool) (cs : List Char) : Option (Atom × List Char) :=
  match cs with
  | [] => none
  | '\x7b' :: _ =>
    let (name, after) := takeRun flags (· != '\x7d') cs.length (advance flags cs)
    match after with
    | [] => none
    | _ =>
      if !flags.unicode then none
      else
        (propertySet? name).map fun (a, outside) =>
          (.set (foldedSet flags (negated != outside) a), after.drop 1)
  | c :: _ =>
    if c = '\\' || !flags.unicode then none
    else
      (propertyNamed? c.toString).map fun a => (.set (foldedSet flags negated a), advance flags cs)

/-- Characters with a meaning of their own in patterns, which a backslash takes away. -/
def isMeta (c : Char) : Bool :=
  ['\\', '.', '+', '*', '?', '(', ')', '|', '[', ']', '\x7b', '\x7d', '^', '$', '#', '&', '-', '~'].contains c

/-- Characters that may stand behind a backslash for themselves: those of ASCII that are no letters, digits
or angle brackets. -/
def isEscapable (c : Char) : Bool :=
  isMeta c || (c.toNat < 0x80 && !c.isAlphanum && c != '<' && c != '>')

def controlLetter? (c : Char) : Option Char :=
  if c = 'a' then some '\x07'
  else if c = 'f' then some '\x0c'
  else if c = 't' then some '\t'
  else if c = 'n' then some '\n'
  else if c = 'r' then some '\r'
  else if c = 'v' then some '\x0b'
  else none

def namedBoundary? (unicode : Bool) (name : List Char) : Option Assertion :=
  if name = "start".toList then some (.wordStart unicode)
  else if name = "end".toList then some (.wordEnd unicode)
  else if name = "start-half".toList then some (.wordStartHalf unicode)
  else if name = "end-half".toList then some (.wordEndHalf unicode)
  else none

/-- A word boundary, the characters being those behind its letter. A brace there opens a name if a letter
or a hyphen follows it, and is left for a repetition otherwise. -/
def readBoundary (flags : Flags) (cs : List Char) : Option (Atom × List Char) :=
  let letter (c : Char) : Bool := c.isAlpha || c = '-'
  match cs with
  | '\x7b' :: _ =>
    match advance flags cs with
    | [] => none
    | c :: rest =>
      -- a brace that opens no name is read again, as that of a repetition
      if !letter c then some (.assertion (.wordBoundary flags.unicode), cs)
      else
        match takeRun flags letter cs.length (c :: rest) with
        | (name, '\x7d' :: after) =>
          (namedBoundary? flags.unicode name).map fun condition => (.assertion condition, after)
        | _ => none
  | _ => some (.assertion (.wordBoundary flags.unicode), cs)

/-- Whether a set holds characters of ASCII only. Without the flag for Unicode all others go together. -/
def isAsciiOnly (a : CodePointSet) : Bool := !a.contains '\x80'

/-- The class of a letter behind a backslash, negated by a capital. Without the flag for Unicode it must
not reach beyond ASCII. -/
def classAtom? (flags : Flags) (c : Char) : Option (Option Atom) :=
  (classLetter? flags.unicode c).map fun a =>
    let a := CodePointSet.negatedIf c.isUpper a
    if flags.unicode || isAsciiOnly a then some (.set a) else none

/-- An escape, the characters being those behind the backslash. -/
def readEscape (flags : Flags) (cs : List Char) : Option (Atom × List Char) :=
  match cs with
  | [] => none
  | c :: rest =>
    if c = 'x' || c = 'u' || c = 'U' then readHex flags c (skipIgnored flags rest)
    else if c = 'p' || c = 'P' then readProperty flags (c = 'P') (skipIgnored flags rest)
    else
      match classAtom? flags c with
      | some atom => atom.map fun a => (a, rest)
      | none =>
        if isEscapable c then some (.literal c false, rest)
        else
          match controlLetter? c with
          | some control => some (.literal control false, rest)
          | none =>
            if c = 'A' then some (.assertion .textStart, rest)
            else if c = 'z' then some (.assertion .textEnd, rest)
            else if c = 'b' then readBoundary flags rest
            else if c = 'B' then some (.assertion (.noWordBoundary flags.unicode), rest)
            else if c = '<' then some (.assertion (.wordStart flags.unicode), rest)
            else if c = '>' then some (.assertion (.wordEnd flags.unicode), rest)
            else none

def readAtom (flags : Flags) (cs : List Char) : Option (Atom × List Char) :=
  match cs with
  | [] => none
  | '\\' :: rest => readEscape flags rest
  | '.' :: rest => some (.dot, rest)
  | '^' :: rest =>
    let condition :=
      if !flags.multiLine then .textStart
      else if flags.returnLines then .returnLineStart
      else .lineStart
    some (.assertion condition, rest)
  | '$' :: rest =>
    let condition :=
      if !flags.multiLine then .textEnd
      else if flags.returnLines then .returnLineEnd
      else .lineEnd
    some (.assertion condition, rest)
  | c :: rest => some (.literal c false, rest)

/-- The set of a literal, which is a class of its own when case does not matter. -/
def literalSet (flags : Flags) (c : Char) : CodePointSet := foldedSet flags false (.single c)

/-- The expression of an atom. A byte beyond ASCII, and any character at all without the flag for Unicode,
cannot be had. -/
def Atom.expression? (flags : Flags) : Atom → Option Expression
  | .literal c byte =>
    if !flags.unicode && byte && 0x80 ≤ c.toNat then none else some (.char (literalSet flags c) 0)
  | .set a => some (.char a 0)
  | .assertion condition => some (.assertion condition)
  | .dot =>
    if !flags.unicode then none
    else if flags.dotAll then some (.char .everything 0)
    else if flags.returnLines then some (.char (CodePointSet.complement (.unions [.single '\r', .single '\n'])) 0)
    else some (.char (CodePointSet.complement (.single '\n')) 0)

end Conformance.Pattern
