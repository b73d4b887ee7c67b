import Conformance.CommandLine.Run

/-!
# The program

The outermost layer: files and the standard streams. Which command is run and what it answers is decided
by `CommandLine.run`.
-/

set_option autoImplicit false

namespace Conformance

/-- The input error that an error of the file system is. The number of an error may come negated. -/
def InputError.ofSystem : IO.Error → InputError
  | .noFileOrDirectory _ _ _ => .missing
  | .inappropriateType _ code _ => if code = 20 || code = -20 then .notDirectory else .directory
  | error => .other (toString error)

def textOfBytes (bytes : Except IO.Error ByteArray) : Except InputError String :=
  match bytes with
  | .error error => .error (.ofSystem error)
  | .ok bytes =>
    match String.fromUTF8? bytes with
    | some text => .ok text
    | none => .error .notText

/-- Read a stream to its end, behind the bytes that were read before. -/
partial def readToEnd (stream : IO.FS.Stream) (before : ByteArray) : IO ByteArray := do
  let bytes ← stream.read 65536
  if bytes.isEmpty then return before else readToEnd stream (before ++ bytes)

/-- The files and the standard input of the process. -/
def processInput : InputSource IO where
  file name := do return textOfBytes (← (IO.FS.readBinFile name).toBaseIO)
  standard := do return textOfBytes (← (readToEnd (← IO.getStdin) .empty).toBaseIO)

end Conformance

def main (arguments : List String) : IO UInt32 := do
  let result ← Conformance.CommandLine.run Conformance.processInput arguments
  let out ← IO.getStdout
  out.putStr result.output
  out.flush
  if let some error := result.error then IO.eprint error
  return result.code.toUInt32
