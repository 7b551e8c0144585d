/-!
# Bulk packets

A bulk transfer is a row of 512-byte packets, the last one possibly shorter. Each
begins with two modem-status bytes that carry no sample data.
-/

namespace SampleCapture.Packet

def size : Nat := 512

def statusBytes : Nat := 2

def split (raw : List UInt8) : List (List UInt8) :=
  if raw = [] then []
  else raw.take size :: split (raw.drop size)
termination_by raw.length
decreasing_by
  rename_i nonempty
  have := List.length_pos_iff.mpr nonempty
  simp only [List.length_drop, size]
  omega

/-- The payload of a transfer: every packet without its status bytes. -/
def payload (raw : List UInt8) : List UInt8 :=
  (split raw).flatMap fun packet => packet.drop statusBytes

/-- Puts the payload of a transfer into a buffer; nothing is left of what was there before. -/
def refill (_buffer raw : List UInt8) : List UInt8 :=
  payload raw

theorem split_nil : split [] = [] := by
  unfold split
  rfl

/-- A transfer holds payload wherever its position within a packet is not that of a
status byte. -/
def payloadAt (raw : List UInt8) : List UInt8 :=
  (raw.zipIdx.filter fun entry => statusBytes ≤ entry.2 % size).map (·.1)

end SampleCapture.Packet
