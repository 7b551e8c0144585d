import SampleCapture.Json.Printer
import SampleCapture.Json.Record
import SampleCapture.Options

/-!
# Options as JSON

Options are read with whatever fields are given; the others keep their defaults.
Nothing is put into its legal range here.
-/

namespace SampleCapture

open Json

/-- A field that is a 64-bit word; the name stands for its range in messages. -/
def wordField {σ : Type} (name range : String) (set : σ → UInt64 → σ) : RecordField σ where
  name := name
  read := fun record => (Reader.natural range UInt64.size).map fun n => set record n.toUInt64

namespace CaptureOptions

def fields : List (RecordField CaptureOptions) :=
  [wordField "warmUpBytes" "u64" fun config n => { config with warmUpBytes := n },
    wordField "writeSliceBytes" "usize" fun config n => { config with writeSliceBytes := n },
    wordField "queueCapacity" "usize" fun config n => { config with queueCapacity := n },
    wordField "writeBufferBytes" "usize" fun config n => { config with writeBufferBytes := n }]

def shape : Shape CaptureOptions where
  name := "CaptureConfig"
  fields := fields
  empty := {}
  optional := true

def toJson (config : CaptureOptions) : List Char :=
  Printer.record
    [("warmUpBytes", Printer.natural config.warmUpBytes.toNat),
      ("writeSliceBytes", Printer.natural config.writeSliceBytes.toNat),
      ("queueCapacity", Printer.natural config.queueCapacity.toNat),
      ("writeBufferBytes", Printer.natural config.writeBufferBytes.toNat)]

end CaptureOptions

namespace DeviceOptions

def shortField (name : String) (set : DeviceOptions → UInt16 → DeviceOptions) :
    RecordField DeviceOptions where
  name := name
  read := fun record => (Reader.natural "u16" UInt16.size).map fun n => set record n.toUInt16

def byteField (name : String) (set : DeviceOptions → UInt8 → DeviceOptions) :
    RecordField DeviceOptions where
  name := name
  read := fun record => (Reader.natural "u8" UInt8.size).map fun n => set record n.toUInt8

def fields : List (RecordField DeviceOptions) :=
  [shortField "vendorId" fun config n => { config with vendorId := n },
    shortField "productId" fun config n => { config with productId := n },
    byteField "latencyTimerMs" fun config n => { config with latencyTimerMs := n },
    wordField "readChunkBytes" "usize" fun config n => { config with readChunkBytes := n },
    wordField "readTimeoutMs" "u64" fun config n => { config with readTimeoutMs := n }]

def shape : Shape DeviceOptions where
  name := "UsbConfig"
  fields := fields
  empty := {}
  optional := true

def toJson (config : DeviceOptions) : List Char :=
  Printer.record
    [("vendorId", Printer.natural config.vendorId.toNat),
      ("productId", Printer.natural config.productId.toNat),
      ("latencyTimerMs", Printer.natural config.latencyTimerMs.toNat),
      ("readChunkBytes", Printer.natural config.readChunkBytes.toNat),
      ("readTimeoutMs", Printer.natural config.readTimeoutMs.toNat)]

end DeviceOptions

namespace Options

def fields : List (RecordField Options) :=
  [{ name := "capture"
     read := fun options => CaptureOptions.shape.read.map fun capture =>
       { options with capture := capture } },
    { name := "usb"
      read := fun options => DeviceOptions.shape.read.map fun usb =>
        { options with usb := usb } }]

def shape : Shape Options where
  name := "AppSettings"
  fields := fields
  empty := {}
  optional := true

def toJson (options : Options) : List Char :=
  Printer.record [("capture", options.capture.toJson), ("usb", options.usb.toJson)]

end Options

end SampleCapture
