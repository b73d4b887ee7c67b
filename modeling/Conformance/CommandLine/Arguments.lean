import Conformance.Report

/-!
# Arguments of the command line

Two commands: `check EXPECTED ACTUAL` compares two documents, `directives` lists the directives. Options may
stand anywhere behind the command; a word that starts with a hyphen is an option unless it is a hyphen and
nothing more, or unless two hyphens by themselves came before it. An option other than the one for log
output may be given once.
-/

set_option autoImplicit false

namespace Conformance

/-- What to compare, and how. A name that is a hyphen stands for the standard input. -/
structure CheckArguments where
  expected : String
  actual : String
  collectAll : Bool
  threshold : Option Int
  config : Option String
  format : ReportFormat
  deriving DecidableEq, Inhabited

inductive Command where
  | check (arguments : CheckArguments)
  | directives
  | version
  | help
  deriving DecidableEq, Inhabited

namespace Command

/-- The arguments of a check as far as they have been read. -/
structure Partial where
  files : List String := []
  collectAll : Bool := false
  threshold : Option Int := none
  config : Option String := none
  format : Option ReportFormat := none

/-- What reading an argument leads to: more arguments, or the help text at once. -/
inductive Progress (α : Type) where
  | more (state : α) (rest : List String)
  | help

def isOption (word : String) : Bool := word.startsWith "-" && word != "-"

/-- A whole number with an optional sign that fits a signed word of sixty-four bits. -/
def readInteger? (word : String) : Option Int :=
  let cs := word.toList
  let negative := cs.head? = some '-'
  let digits := if negative || cs.head? = some '+' then cs.drop 1 else cs
  if digits.isEmpty || !digits.all Char.isDigit then none
  else
    let n : Int := digits.foldl (fun n d => n * 10 + (d.toNat - '0'.toNat)) 0
    let i := if negative then -n else n
    if -0x8000000000000000 ≤ i && i < 0x8000000000000000 then some i else none

def readFormat? (word : String) : Option ReportFormat :=
  if word = "text" then some .text else if word = "json" then some .json else none

/-- Set the threshold, if it has not been set. -/
def setThreshold (p : Partial) (word : String) : Option Partial :=
  if p.threshold.isSome then none
  else (readInteger? word).map fun i => { p with threshold := some i }

def setConfig (p : Partial) (word : String) : Option Partial :=
  if p.config.isSome || word.isEmpty then none else some { p with config := some word }

def setFormat (p : Partial) (word : String) : Option Partial :=
  if p.format.isSome then none
  else (readFormat? word).map fun f => { p with format := some f }

/-- The option with a name that takes a value, as the way in which the value is set, and whether the value
may be a negative number in a word of its own. -/
def valueOption? (name : String) : Option ((Partial → String → Option Partial) × Bool) :=
  if name = "threshold" then some (setThreshold, true)
  else if name = "config" then some (setConfig, false)
  else if name = "format" then some (setFormat, false)
  else none

/-- Read a word of short options: each letter is one. `none` says that a letter is not known, `some true`
that help is asked for. -/
def shortOptions : List Char → Option Bool
  | [] => some false
  | 'v' :: rest => shortOptions rest
  | 'h' :: _ => some true
  | _ => none

/-- The name of a long option, and the value that an equals sign may attach to it. -/
def longOption (word : String) : String × Option String :=
  let cs := word.toList.drop 2
  let name := cs.takeWhile (· != '=')
  match cs.drop name.length with
  | [] => (.ofList name, none)
  | _ :: value => (.ofList name, some (.ofList value))

/-- Add a file, of which there may be two. -/
def addFile (p : Partial) (word : String) : Option Partial :=
  if word.isEmpty || 2 ≤ p.files.length then none else some { p with files := p.files ++ [word] }

def readLong (p : Partial) (word : String) (rest : List String) : Option (Progress Partial) :=
  let (name, attached) := longOption word
  match valueOption? name with
  | some (set, negativeNumbers) =>
    match attached, rest with
    | some value, _ => (set p value).map (.more · rest)
    | none, [] => none
    | none, value :: rest =>
      -- a word that looks like an option is no value, unless it is a negative number
      if isOption value && !(negativeNumbers && (readInteger? value).isSome) then none
      else (set p value).map (.more · rest)
  | none =>
    if attached.isSome then none
    else if name = "collect-all" then
      if p.collectAll then none else some (.more { p with collectAll := true } rest)
    else if name = "verbose" then some (.more p rest)
    else if name = "help" then some .help
    else none

def readWord (p : Partial) (word : String) (rest : List String) : Option (Progress Partial) :=
  if word = "--" then
    -- whatever follows is a file
    (rest.foldlM addFile p).map (.more · [])
  else if word.startsWith "--" then readLong p word rest
  else if isOption word then
    (shortOptions (word.toList.drop 1)).map fun help => if help then .help else .more p rest
  else (addFile p word).map (.more · rest)

def Partial.complete? (p : Partial) : Option CheckArguments :=
  match p.files with
  | [expected, actual] =>
    some ⟨expected, actual, p.collectAll, p.threshold, p.config, p.format.getD .text⟩
  | _ => none

/-- Read the words of a check. Each step takes up a word, so that their number is room enough. -/
def readCheck : (room : Nat) → Partial → List String → Option Command
  | _, p, [] => p.complete?.map .check
  | 0, _, _ => none
  | room + 1, p, word :: rest =>
    match readWord p word rest with
    | none => none
    | some .help => some .help
    | some (.more p rest) => readCheck room p rest

/-- Read the words behind the command that lists directives: log output and help only. -/
def readDirectives : List String → Option Command
  | [] => some .directives
  | ["--"] => some .directives
  | "--verbose" :: rest => readDirectives rest
  | "--help" :: _ => some .help
  | word :: rest =>
    if isOption word && !word.startsWith "--" then
      match shortOptions (word.toList.drop 1) with
      | none => none
      | some true => some .help
      | some false => readDirectives rest
    else none

/-- Read a word of short options before the command, where the version can be asked for as well. -/
def outerOptions : List Char → Option (Option Command)
  | [] => some none
  | 'v' :: rest => outerOptions rest
  | 'h' :: _ => some (some .help)
  | 'V' :: _ => some (some .version)
  | _ => none

/-- Read all arguments; nothing comes of arguments that are not understood. -/
def ofArguments? : List String → Option Command
  | [] => none
  | "check" :: rest => readCheck rest.length {} rest
  | "directives" :: rest => readDirectives rest
  | "help" :: rest =>
    match rest with
    | [] | ["check"] | ["directives"] | ["help"] => some .help
    | _ => none
  | "--verbose" :: rest => ofArguments? rest
  | "--version" :: _ => some .version
  | "--help" :: _ => some .help
  | word :: rest =>
    if isOption word && !word.startsWith "--" then
      match outerOptions (word.toList.drop 1) with
      | none => none
      | some (some command) => some command
      | some none => ofArguments? rest
    else none

end Command

end Conformance
