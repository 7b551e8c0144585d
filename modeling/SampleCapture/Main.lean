import SampleCapture.CommandLine

/-!
# The program
-/

namespace SampleCapture

def configVariable : String := "SAMPLE_GRABBER_CONFIG"

def readOptionsFile (path : String) : IO OptionsFile := do
  try
    return .content (← IO.FS.readBinFile path)
  catch error =>
    match error with
    | .noFileOrDirectory .. => return .missing
    | _ => return .unreadable (toString error)

end SampleCapture

open SampleCapture in
def main (arguments : List String) : IO UInt32 := do
  let path := optionsPath (← IO.getEnv configVariable)
  let file ← path.mapM readOptionsFile
  let report := CommandLine.run arguments (path.getD "") file
  IO.print report.output
  for complaint in report.complaint do
    IO.eprintln complaint
  return report.exitCode.toUInt32
