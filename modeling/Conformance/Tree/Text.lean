import Conformance.Tree.Basic
import Conformance.Text.Quoted

/-!
# The two text forms of a value

Messages show a value by `display`, which looks like JSON. `debug` is the structural form, which names the
shape of every node. A rule node is shown by the text that it carries.
-/

set_option autoImplicit false

namespace Conformance

def boolText (b : Bool) : String := if b then "true" else "false"

namespace Tree

mutual

def display : Value → String
  | .null => "null"
  | .bool b => boolText b
  | .int i => toString i
  | .float x => x.write .plain
  | .string s => Text.quoted s
  | .array items => "[" ++ displayItems items ++ "]"
  | .document entries => "\x7b" ++ displayEntries entries ++ "\x7d"
  | .rule _ text => text

def displayItems : List Value → String
  | [] => ""
  | [x] => display x
  | x :: rest => display x ++ ", " ++ displayItems rest

def displayEntries : List (String × Value) → String
  | [] => ""
  | [(key, x)] => Text.quoted key ++ ": " ++ display x
  | (key, x) :: rest => Text.quoted key ++ ": " ++ display x ++ ", " ++ displayEntries rest

end

mutual

def debug : Value → String
  | .null => "Null"
  | .bool b => "Bool(" ++ boolText b ++ ")"
  | .int i => "Int(" ++ toString i ++ ")"
  | .float x => "Float(" ++ x.write .structural ++ ")"
  | .string s => "String(" ++ Text.quoted s ++ ")"
  | .array items => "Array([" ++ debugItems items ++ "])"
  | .document entries =>
    "Document(Document \x7b entries: [" ++ debugEntries entries ++ "] \x7d)"
  | .rule _ text => "Rule(" ++ text ++ ")"

def debugItems : List Value → String
  | [] => ""
  | [x] => debug x
  | x :: rest => debug x ++ ", " ++ debugItems rest

def debugEntries : List (String × Value) → String
  | [] => ""
  | [(key, x)] =>
    "Entry \x7b key: " ++ Text.quoted key ++ ", value: " ++ debug x ++ " \x7d"
  | (key, x) :: rest =>
    "Entry \x7b key: " ++ Text.quoted key ++ ", value: " ++ debug x ++ " \x7d, " ++ debugEntries rest

end

/-- A value as a message names it beside another one: its shape, then its text. -/
def describe : Value → String
  | .null => "null"
  | other => other.kind ++ " " ++ other.display

end Tree

def Number.debug : Number → String
  | .int i => "Int(" ++ toString i ++ ")"
  | .float x => "Float(" ++ x.write .structural ++ ")"

end Conformance
