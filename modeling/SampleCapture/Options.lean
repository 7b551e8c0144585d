/-!
# Options

What a user can set, the values in force when nothing is set, and the legal ranges. A
value outside its range is moved to the nearest legal one.
-/

namespace SampleCapture

def clampWord (low high word : UInt64) : UInt64 :=
  if word < low then low else if high < word then high else word

structure CaptureOptions where
  /-- Device bytes discarded before the capture starts. -/
  warmUpBytes : UInt64 := 50000
  /-- Bytes moved from the queue to the output at once. -/
  writeSliceBytes : UInt64 := 50
  /-- Bound of the queue in bytes, zero for none. -/
  queueCapacity : UInt64 := 0
  /-- Size of the buffer in front of the output file. -/
  writeBufferBytes : UInt64 := 65536
deriving Repr, DecidableEq, Inhabited

structure DeviceOptions where
  vendorId : UInt16 := 0x0403
  productId : UInt16 := 0x8398
  /-- Milliseconds; a timer of one millisecond loses blocks. -/
  latencyTimerMs : UInt8 := 2
  /-- Bytes asked for in one bulk read, in whole packets. -/
  readChunkBytes : UInt64 := 4096
  readTimeoutMs : UInt64 := 100
deriving Repr, DecidableEq, Inhabited

structure Options where
  capture : CaptureOptions := {}
  usb : DeviceOptions := {}
deriving Repr, DecidableEq, Inhabited

/-- A slice has at least one byte and at most a mebibyte; a buffer has 512 bytes to 64
mebibytes. -/
def CaptureOptions.normalize (options : CaptureOptions) : CaptureOptions :=
  { options with
    writeSliceBytes := clampWord 1 1048576 options.writeSliceBytes
    writeBufferBytes := clampWord 512 67108864 options.writeBufferBytes }

/-- The latency timer is at least two milliseconds, a read is one to 1024 whole packets
of 512 bytes, and a read may take ten milliseconds to five seconds. -/
def DeviceOptions.normalize (options : DeviceOptions) : DeviceOptions :=
  { options with
    latencyTimerMs := if options.latencyTimerMs < 2 then 2 else options.latencyTimerMs
    readChunkBytes := clampWord 1 1024 (options.readChunkBytes / 512) * 512
    readTimeoutMs := clampWord 10 5000 options.readTimeoutMs }

def Options.normalize (options : Options) : Options where
  capture := options.capture.normalize
  usb := options.usb.normalize

end SampleCapture
