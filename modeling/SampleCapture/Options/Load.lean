import SampleCapture.Options.Json

/-!
# Loading options

Options come from a file that the environment names, or are the defaults. A file that
is named has to be there, has to hold UTF-8 text, and has to make sense; whatever it
says is then put into its legal range.
-/

namespace SampleCapture

inductive OptionsFile where
  | missing
  | directory
  /-- The file cannot be read for another reason. -/
  | unreadable (cause : String)
  | content (bytes : ByteArray)

inductive LoadError where
  | unreadable (cause : String)
  | invalid (problem : Json.Problem)
deriving Repr, Inhabited

namespace LoadError

def context (path : String) : LoadError → String
  | unreadable _ => "can't read settings file " ++ path
  | invalid _ => "invalid settings file " ++ path

def message (path : String) (error : LoadError) : String :=
  match error with
  | unreadable cause => error.context path ++ ": " ++ cause
  | invalid (.content mismatch) => error.context path ++ ": " ++ mismatch.message
  | invalid .malformed => error.context path ++ ": malformed text"
  | invalid .truncated => error.context path ++ ": the text ends too early"

end LoadError

/-- The path of the settings file, if the environment gives one that is not empty. -/
def optionsPath (given : Option String) : Option String :=
  given.filter (· ≠ "")

def OptionsFile.text : OptionsFile → Except LoadError String
  | missing => .error (.unreadable "No such file or directory (os error 2)")
  | directory => .error (.unreadable "Is a directory (os error 21)")
  | unreadable cause => .error (.unreadable cause)
  | content bytes =>
      match String.fromUTF8? bytes with
      | some text => .ok text
      | none => .error (.unreadable "stream did not contain valid UTF-8")

def Options.ofText (text : String) : Except LoadError Options :=
  match Json.parse Options.shape.read text with
  | .ok options => .ok options.normalize
  | .error problem => .error (.invalid problem)

def Options.load : Option OptionsFile → Except LoadError Options
  | none => .ok ({} : Options).normalize
  | some file => file.text.bind Options.ofText

end SampleCapture
