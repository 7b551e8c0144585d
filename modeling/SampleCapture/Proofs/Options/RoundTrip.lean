import SampleCapture.Proofs.Json.Printing
import SampleCapture.Proofs.Options.Slots

/-!
# Options and counters read back

The text that is written for options or counters is read as these same options or counters.
-/

namespace SampleCapture

open Json

namespace Json

variable {σ : Type}

theorem Slot.natural_shows {name : String} {bound : Nat} {get : σ → Nat} {set : σ → Nat → σ}
    {record : σ} (below : get record < bound) :
    (Slot.natural name bound get set).Shows record (name, .ofNat (get record)) where
  name := rfl
  suits := trivial
  means := Tree.natural?_ofNat below

end Json

namespace CaptureOptions

def entries (options : CaptureOptions) : List (String × Tree) :=
  [("warmUpBytes", .ofNat options.warmUpBytes.toNat),
    ("writeSliceBytes", .ofNat options.writeSliceBytes.toNat),
    ("queueCapacity", .ofNat options.queueCapacity.toNat),
    ("writeBufferBytes", .ofNat options.writeBufferBytes.toNat)]

theorem shows (options : CaptureOptions) :
    List.Forall₂ (Slot.Shows options) slots options.entries := by
  refine .cons ?_ (.cons ?_ (.cons ?_ (.cons ?_ .nil)))
  all_goals exact Slot.natural_shows (UInt64.toNat_lt _)

theorem toJson_eq (options : CaptureOptions) :
    options.toJson = (Tree.object (.ofEntries options.entries)).compact := by
  rw [← record_eq_compact, toJson]
  simp only [natural_eq_compact]
  rfl

/-- The settings of a capture read back. -/
theorem parse_toJson (options : CaptureOptions) :
    parse shape.read (String.ofList options.toJson) = .ok options := by
  rw [toJson_eq]
  exact Shape.parse_entries options.shows holds

end CaptureOptions

namespace DeviceOptions

def entries (options : DeviceOptions) : List (String × Tree) :=
  [("vendorId", .ofNat options.vendorId.toNat),
    ("productId", .ofNat options.productId.toNat),
    ("latencyTimerMs", .ofNat options.latencyTimerMs.toNat),
    ("readChunkBytes", .ofNat options.readChunkBytes.toNat),
    ("readTimeoutMs", .ofNat options.readTimeoutMs.toNat)]

theorem shows (options : DeviceOptions) :
    List.Forall₂ (Slot.Shows options) slots options.entries := by
  refine .cons ?vendor (.cons ?product (.cons ?timer (.cons ?chunk (.cons ?timeout .nil))))
  case vendor | product => exact Slot.natural_shows (UInt16.toNat_lt _)
  case timer => exact Slot.natural_shows (UInt8.toNat_lt _)
  case chunk | timeout => exact Slot.natural_shows (UInt64.toNat_lt _)

theorem toJson_eq (options : DeviceOptions) :
    options.toJson = (Tree.object (.ofEntries options.entries)).compact := by
  rw [← record_eq_compact, toJson]
  simp only [natural_eq_compact]
  rfl

/-- The settings of the device read back. -/
theorem parse_toJson (options : DeviceOptions) :
    parse shape.read (String.ofList options.toJson) = .ok options := by
  rw [toJson_eq]
  exact Shape.parse_entries options.shows holds

end DeviceOptions

namespace Options

def entries (options : Options) : List (String × Tree) :=
  [("capture", .object (.ofEntries options.capture.entries)),
    ("usb", .object (.ofEntries options.usb.entries))]

theorem shows (options : Options) : List.Forall₂ (Slot.Shows options) slots options.entries := by
  refine .cons ⟨rfl, ⟨_, rfl⟩, ?_⟩ (.cons ⟨rfl, ⟨_, rfl⟩, ?_⟩ .nil)
  · exact (Shape.ofTree?_object_eq_some_iff CaptureOptions.holds (CaptureOptions.suits _)).mpr
      (Members.ofEntries_gives options.capture.shows CaptureOptions.holds _)
  · exact (Shape.ofTree?_object_eq_some_iff DeviceOptions.holds (DeviceOptions.suits _)).mpr
      (Members.ofEntries_gives options.usb.shows DeviceOptions.holds _)

theorem toJson_eq (options : Options) :
    options.toJson = (Tree.object (.ofEntries options.entries)).compact := by
  rw [← record_eq_compact, toJson, CaptureOptions.toJson_eq, DeviceOptions.toJson_eq]
  rfl

/-- All settings read back. -/
theorem parse_toJson (options : Options) :
    parse shape.read (String.ofList options.toJson) = .ok options := by
  rw [toJson_eq]
  exact Shape.parse_entries options.shows holds

end Options

namespace Counters

def entries (counters : Counters) : List (String × Tree) :=
  [("bytesReceived", .ofNat counters.received.toNat),
    ("bytesSaved", .ofNat counters.saved.toNat),
    ("bytesWritten", .ofNat counters.written.toNat),
    ("dropouts", .ofNat counters.dropouts.toNat)]

theorem shows (counters : Counters) :
    List.Forall₂ (Slot.Shows counters) slots counters.entries := by
  refine .cons ?_ (.cons ?_ (.cons ?_ (.cons ?_ .nil)))
  all_goals exact Slot.natural_shows (UInt64.toNat_lt _)

theorem toJson_eq (counters : Counters) :
    counters.toJson = (Tree.object (.ofEntries counters.entries)).compact := by
  rw [← record_eq_compact, toJson]
  simp only [natural_eq_compact]
  rfl

/-- The counters read back. -/
theorem parse_toJson (counters : Counters) :
    parse shape.read (String.ofList counters.toJson) = .ok counters := by
  rw [toJson_eq]
  exact Shape.parse_entries counters.shows holds

end Counters

end SampleCapture
