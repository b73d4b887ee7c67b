import Conformance.CommandLine.Arguments
import Conformance.Options.Reader

/-!
# Running commands

A command is run over any source of files and standard input. It ends with an exit status: `0` if the
document satisfies the expectation, `1` if it does not, `2` if the command could not be carried out.
-/

set_option autoImplicit false

namespace Conformance

inductive InputError where
  | missing
  | directory
  | notDirectory
  | notText
  | other (message : String)
  deriving DecidableEq, Inhabited

def InputError.message : InputError → String
  | .missing => "No such file or directory (os error 2)"
  | .directory => "Is a directory (os error 21)"
  | .notDirectory => "Not a directory (os error 20)"
  | .notText => "stream did not contain valid UTF-8"
  | .other message => message

inductive CommandError where
  | inputTwice
  | reading (name : String) (error : InputError)
  | readingInput (error : InputError)
  | options (name : String) (error : OptionsError)
  | expected (error : DecodeError)
  | actual (error : Json.ReadError)

/-- The messages of an error and of the errors behind it, outermost first. -/
def CommandError.chain : CommandError → List String
  | .inputTwice => ["only one of EXPECTED and ACTUAL can be read from stdin"]
  | .reading name error => ["reading " ++ name, error.message]
  | .readingInput error => ["reading stdin", error.message]
  | .options name error => ["parsing options from " ++ name, error.message]
  | .expected error => "decoding expected document" :: error.chain
  | .actual error => ["parsing actual document", error.message]

def CommandError.message (e : CommandError) : String := ": ".intercalate e.chain

def CommandError.ofTexts : TextsError → CommandError
  | .expected error => .expected error
  | .actual error => .actual error

/-- Where texts come from. Reading the standard input a second time finds nothing left. -/
structure InputSource (m : Type → Type) where
  file : String → m (Except InputError String)
  standard : m (Except InputError String)

/-- What a command leaves behind: its exit status, its output, and an error if there is one. -/
structure CommandResult where
  code : Nat
  output : String
  error : Option String := none
  deriving DecidableEq, Inhabited

namespace CommandLine

variable {m : Type → Type} [Monad m]

/-- The text of a file, or of the standard input if the name is a hyphen. -/
def readInput (source : InputSource m) (name : String) : ExceptT CommandError m String := do
  if name = "-" then
    match ← source.standard with
    | .ok text => return text
    | .error error => throw (.readingInput error)
  else
    match ← source.file name with
    | .ok text => return text
    | .error error => throw (.reading name error)

/-- The options of a file, if one is named, changed by what the arguments say. -/
def loadOptions (source : InputSource m) (config : Option String) (collectAll : Bool)
    (threshold : Option Int) : ExceptT CommandError m Options := do
  let options : Options ← match config with
    | none => pure {}
    | some name =>
      let text ← readInput source name
      match Options.read text with
      | .ok options => pure options
      | .error error => throw (.options name error)
  -- an argument can ask for all mismatches, but cannot take that back
  return ⟨threshold.getD options.threshold, collectAll || options.collectAll⟩

def check (source : InputSource m) (a : CheckArguments) : ExceptT CommandError m Report := do
  -- before anything is read: the second reading would find nothing left
  if a.expected = "-" && a.actual = "-" then throw .inputTwice
  let options ← loadOptions source a.config a.collectAll a.threshold
  let expected ← readInput source a.expected
  let actual ← readInput source a.actual
  match checkTexts .builtin (.ofOptions options) expected actual with
  | .ok (report, _) => return report
  | .error error => throw (.ofTexts error)

def versionText : String := "jsonmatch 0.1.0\n"

def helpText : String :=
  "Usage: jsonmatch [OPTIONS] <COMMAND>\n\nCommands:\n" ++
  "  check       Check that ACTUAL satisfies EXPECTED\n" ++
  "  directives  List the registered directive tokens\n"

def directivesText : String := "\n".intercalate Registry.builtin.tokens ++ "\n"

def run (source : InputSource m) (arguments : List String) : m CommandResult := do
  match Command.ofArguments? arguments with
  | none => return ⟨2, "", none⟩
  | some .version => return ⟨0, versionText, none⟩
  | some .help => return ⟨0, helpText, none⟩
  | some .directives => return ⟨0, directivesText, none⟩
  | some (.check a) =>
    match ← (check source a).run with
    | .ok report => return ⟨report.exitCode, report.render a.format, none⟩
    | .error error => return ⟨2, "", some ("Error: " ++ error.message ++ "\n")⟩

end CommandLine

end Conformance
