/-!
# Packed sample bytes

The receiver delivers one byte for two samples. Bits 7 to 5 hold the first
three-bit sign-magnitude code, bits 4 to 2 the second, bit 1 is unused, and bit 0
is the overflow flag of the receiver's buffer, which is active low. Every byte is
valid. The second half of the file reads a whole byte stream: the part behind the
warm-up, the samples of its unflagged bytes, and the places of its flagged ones.
-/

namespace SampleCapture

structure SamplePair where
  first : Int8
  second : Int8
  /-- The receiver lost bytes; the samples around this byte are not contiguous. -/
  overflowed : Bool
deriving Repr, DecidableEq, Inhabited

/-- The sample with a sign-magnitude code: the odd number one above twice the two
magnitude bits, negative when the sign bit is set. -/
def level (code : UInt8) : Int8 :=
  let magnitude : Int8 := (2 * (code &&& 3) + 1).toInt8
  if code &&& 4 = 0 then magnitude else -magnitude

/-- The overflow flag is asserted when bit 0 is clear. -/
def isFlagged (byte : UInt8) : Bool :=
  byte &&& 1 == 0

namespace SamplePair

def ofByte (byte : UInt8) : SamplePair where
  first := level (byte >>> 5)
  second := level (byte >>> 2)
  overflowed := isFlagged byte

/-- The samples in output order, each in two's complement. -/
def bytes (pair : SamplePair) : List UInt8 :=
  [pair.first.toUInt8, pair.second.toUInt8]

end SamplePair

/-! ## Byte streams -/

def liveBytes (warmUp : Nat) (stream : List UInt8) : List UInt8 :=
  stream.drop warmUp

/-- The output bytes of a device stream: two for each unflagged byte, none for a
flagged one. -/
def sampleBytes (stream : List UInt8) : List UInt8 :=
  (stream.filter (!isFlagged ·)).flatMap fun byte => (SamplePair.ofByte byte).bytes

def unflaggedCount (stream : List UInt8) : Nat :=
  stream.countP (!isFlagged ·)

def flaggedCount (stream : List UInt8) : Nat :=
  stream.countP isFlagged

/-- The indices of the flagged bytes of a device stream, counted from `start`. -/
def flaggedIndices (start : Nat) : List UInt8 → List Nat
  | [] => []
  | byte :: rest =>
      if isFlagged byte then start :: flaggedIndices (start + 1) rest
      else flaggedIndices (start + 1) rest

theorem sampleBytes_append (first second : List UInt8) :
    sampleBytes (first ++ second) = sampleBytes first ++ sampleBytes second := by
  simp [sampleBytes]

theorem length_sampleBytes (stream : List UInt8) :
    (sampleBytes stream).length = 2 * unflaggedCount stream := by
  induction stream with
  | nil => rfl
  | cons byte rest ih =>
      by_cases flagged : isFlagged byte = true <;>
        simp_all [sampleBytes, unflaggedCount, SamplePair.bytes]
      omega

theorem length_flaggedIndices (start : Nat) (stream : List UInt8) :
    (flaggedIndices start stream).length = flaggedCount stream := by
  induction stream generalizing start with
  | nil => rfl
  | cons byte rest ih =>
      by_cases flagged : isFlagged byte = true <;>
        simp_all [flaggedIndices, flaggedCount]

theorem unflaggedCount_add_flaggedCount (stream : List UInt8) :
    unflaggedCount stream + flaggedCount stream = stream.length := by
  induction stream with
  | nil => rfl
  | cons byte rest ih =>
      by_cases flagged : isFlagged byte = true <;>
        simp_all [unflaggedCount, flaggedCount]
      all_goals omega

end SampleCapture
