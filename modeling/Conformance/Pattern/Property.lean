import Conformance.Unicode.Age
import Conformance.Unicode.BinaryProperty
import Conformance.Unicode.GeneralCategory
import Conformance.Unicode.Script
import Conformance.Unicode.ScriptExtensions
import Conformance.Unicode.Segmentation

/-!
# Character properties in patterns

A property is named by a binary property, a general category or a script, or by a property and one of its
values. Names are compared without regard to case, blanks, hyphens, low lines and a leading `is`.
-/

set_option autoImplicit false

namespace Conformance.Pattern

open Unicode

/-- A name with its case, blanks, hyphens and low lines taken out, and whatever is not ASCII. -/
def plainName (chars : List Char) : List Char :=
  (chars.filter fun c => c.toNat < 0x80 && c != ' ' && c != '_' && c != '-').map Char.toLower

/-- The form in which names are compared. A leading `is` is dropped, unless `isc` is all there is. -/
def normalizedName (name : String) : String :=
  match name.toList with
  | i :: s :: rest =>
    if i.toLower = 'i' && s.toLower = 's' then
      if plainName rest = ['c'] then "isc" else String.ofList (plainName rest)
    else String.ofList (plainName (i :: s :: rest))
  | chars => String.ofList (plainName chars)

def setNamed? (table : List NamedSet) (name : String) : Option CodePointSet :=
  (findNamed table name).map (·.characters)

/-- The general categories that have a name together, each with the names of its group. -/
def categoryGroups : List (List String × List String) := [
  (["l", "letter"], ["lu", "ll", "lt", "lm", "lo"]),
  (["lc", "casedletter"], ["lu", "ll", "lt"]),
  (["m", "mark", "combiningmark"], ["mn", "mc", "me"]),
  (["n", "number"], ["nd", "nl", "no"]),
  (["p", "punctuation", "punct"], ["pc", "pd", "ps", "pe", "pi", "pf", "po"]),
  (["s", "symbol"], ["sm", "sc", "sk", "so"]),
  (["z", "separator"], ["zs", "zl", "zp"])]

def category (name : String) : CodePointSet := charactersNamed generalCategories name

def categories (names : List String) : CodePointSet := .unions (names.map category)

/-- Whatever is no letter, mark, number, punctuation, symbol or separator. -/
def otherCharacters : CodePointSet :=
  (categories (categoryGroups.flatMap (·.2))).complement

/-- The set of a general category or of a group of them; some names stand for sets that are made from
the categories. -/
def categoryNamed? (name : String) : Option CodePointSet :=
  if name = "any" then some .everything
  else if name = "assigned" then some (category "cn").complement
  else if name = "ascii" then some (.span 0 0x7F)
  else if name = "c" || name = "other" then some otherCharacters
  else
    match categoryGroups.find? (·.1.contains name) with
    | some (_, members) => some (categories members)
    | none => setNamed? generalCategories name

def propertyNamed? (name : String) : Option CodePointSet :=
  let name := normalizedName name
  (setNamed? binaryProperties name).or <| (categoryNamed? name).or (setNamed? scripts name)

/-- The characters that were assigned in a version or before it. -/
def assignedBy? (name : String) : Option CodePointSet :=
  let upTo := ages.takeWhile fun entry => !entry.names.contains name
  (findNamed ages name).map fun entry => .unions ((upTo ++ [entry]).map (·.characters))

def valueNamed? (property value : String) : Option CodePointSet :=
  let property := normalizedName property
  let value := normalizedName value
  if property = "generalcategory" || property = "gc" then categoryNamed? value
  else if property = "script" || property = "sc" then setNamed? scripts value
  else if property = "scriptextensions" || property = "scx" then setNamed? scriptExtensions value
  else if property = "age" then assignedBy? value
  else if property = "graphemeclusterbreak" || property = "gcb" then setNamed? graphemeClusterBreaks value
  else if property = "wordbreak" || property = "wb" then setNamed? wordBreaks value
  else if property = "sentencebreak" || property = "sb" then setNamed? sentenceBreaks value
  else none

/-! ## The classes with a letter of their own -/

def digits : CodePointSet := category "nd"

def whiteSpace : CodePointSet := charactersNamed binaryProperties "whitespace"

/-- Characters of words: letters, marks, decimal digits, connectors and joiners. -/
def wordCharacters : CodePointSet := .unions [
  charactersNamed binaryProperties "alphabetic",
  categories ["mn", "mc", "me", "nd", "pc"],
  charactersNamed binaryProperties "joincontrol"]

def asciiDigits : CodePointSet := .span 0x30 0x39

def asciiWhiteSpace : CodePointSet := .unions [.span 0x09 0x0D, .single ' ']

def asciiWordCharacters : CodePointSet :=
  .unions [asciiDigits, .span 0x41 0x5A, .single '_', .span 0x61 0x7A]

/-- The class that a letter after a backslash names, small or capital. -/
def classLetter? (unicode : Bool) (c : Char) : Option CodePointSet :=
  if c = 'd' || c = 'D' then some (if unicode then digits else asciiDigits)
  else if c = 's' || c = 'S' then some (if unicode then whiteSpace else asciiWhiteSpace)
  else if c = 'w' || c = 'W' then some (if unicode then wordCharacters else asciiWordCharacters)
  else none

def asciiClasses : List (String × CodePointSet) := [
  ("alnum", .unions [.span 0x30 0x39, .span 0x41 0x5A, .span 0x61 0x7A]),
  ("alpha", .unions [.span 0x41 0x5A, .span 0x61 0x7A]),
  ("ascii", .span 0 0x7F),
  ("blank", .unions [.single '\t', .single ' ']),
  ("cntrl", .unions [.span 0 0x1F, .span 0x7F 0x7F]),
  ("digit", .span 0x30 0x39),
  ("graph", .span 0x21 0x7E),
  ("lower", .span 0x61 0x7A),
  ("print", .span 0x20 0x7E),
  ("punct", .unions [.span 0x21 0x2F, .span 0x3A 0x40, .span 0x5B 0x60, .span 0x7B 0x7E]),
  ("space", asciiWhiteSpace),
  ("upper", .span 0x41 0x5A),
  ("word", asciiWordCharacters),
  ("xdigit", .unions [.span 0x30 0x39, .span 0x41 0x46, .span 0x61 0x66])]

end Conformance.Pattern
