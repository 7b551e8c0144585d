import SampleCapture.Fault
import SampleCapture.Options.Load

/-!
# The command line

The program takes at most one argument, the output file. Anything that looks like an
option asks for the usage text.
-/

namespace SampleCapture.CommandLine

inductive Command where
  | capture (output : Option String)
  | usage
deriving Repr, DecidableEq, Inhabited

def usageText : String :=
  "Usage: ./sample_grabber [filename]
       If some filename is given, write data read to that file. Progress
       information is printed each second. End sample capture with ^C.
Note : set_fifo_mode must be run before sample_grabber to configure the USB
       hardware on the device for FIFO mode. Run set_uart_mode after
       sample_grabber to set the device back to UART mode for normal
       operation.
Env  : SAMPLE_GRABBER_CONFIG=<file.json> overrides capture/USB settings,
       RUST_LOG controls log verbosity; the per-second progress line
       stays on unless RUST_LOG sets grabber_core::telemetry itself."

def parseFrom (output : Option String) : List String → Command
  | [] => .capture output
  | argument :: rest =>
      if argument.toList.head? = some '-' || output.isSome then .usage
      else parseFrom (some argument) rest

def parse (arguments : List String) : Command :=
  parseFrom none arguments

/-- Opens the capture device. There is no driver for it here, so this always fails. -/
def openDevice (_ : DeviceOptions) : CaptureError :=
  .deviceSetup "compiled without ftdi feature"

structure Report where
  output : String := ""
  complaint : Option String := none
  exitCode : UInt8
deriving Repr, DecidableEq, Inhabited

/-- A run of the program, given the settings file and its path. It prints the usage
text, or complains about the settings or the device. -/
def run (arguments : List String) (path : String) (file : Option OptionsFile) : Report :=
  match parse arguments with
  | .usage => { output := usageText ++ "\n", exitCode := 1 }
  | .capture _ =>
      match Options.load file with
      | .error error => { complaint := some (error.message path), exitCode := 1 }
      | .ok options =>
          let error := openDevice options.usb
          { complaint := some ("can't open ftdi device: " ++ error.message), exitCode := 1 }

end SampleCapture.CommandLine
