import SampleCapture.Options.Load
import SampleCapture.Proofs.Options.RoundTrip
import SampleCapture.Proofs.Packet

/-!
# Legal settings

Whatever settings are loaded are in their legal ranges, each as near as it can be to what was
asked for. Settings that are legal stay what they are, so that written out and loaded again they
are the same.
-/

namespace SampleCapture

open Json

/-- The number in a range that is nearest to what was asked for. -/
structure Nearest (low high asked value : Nat) : Prop where
  low_le : low ≤ value
  le_high : value ≤ high
  nearest : ∀ other, low ≤ other → other ≤ high → other ≠ value →
    ((value : Int) - asked).natAbs < ((other : Int) - asked).natAbs

structure WholePackets (bytes : Nat) : Prop where
  whole : Packet.size ∣ bytes
  low_le : 512 ≤ bytes
  le_high : bytes ≤ 2 ^ 19

/-- The greatest number of whole packets that is not above what was asked for, or else one packet.
-/
structure Chunk (asked bytes : Nat) : Prop where
  legal : WholePackets bytes
  greatest : ∀ other, WholePackets other → other ≤ asked → other ≤ bytes ∧ bytes ≤ asked
  least : (∀ other, WholePackets other → asked < other) → bytes = 512

theorem nearest_clamp {low high : Nat} (ordered : low ≤ high) (asked : Nat) :
    Nearest low high asked (max low (min high asked)) where
  low_le := Nat.le_max_left _ _
  le_high := by omega
  nearest := by omega

theorem clamp_of_range {low high n : Nat} (above : low ≤ n) (below : n ≤ high) :
    max low (min high n) = n := by
  omega

namespace CaptureOptions

structure Legal (options : CaptureOptions) : Prop where
  slice : 1 ≤ options.writeSliceBytes.toNat ∧ options.writeSliceBytes.toNat ≤ 2 ^ 20
  buffer : 512 ≤ options.writeBufferBytes.toNat ∧ options.writeBufferBytes.toNat ≤ 2 ^ 26

structure Settles (asked options : CaptureOptions) : Prop where
  warmUp : options.warmUpBytes = asked.warmUpBytes
  slice : Nearest 1 (2 ^ 20) asked.writeSliceBytes.toNat options.writeSliceBytes.toNat
  queue : options.queueCapacity = asked.queueCapacity
  buffer : Nearest 512 (2 ^ 26) asked.writeBufferBytes.toNat options.writeBufferBytes.toNat

theorem toNat_slice_normalize (options : CaptureOptions) :
    options.normalize.writeSliceBytes.toNat =
      max 1 (min (2 ^ 20) options.writeSliceBytes.toNat) :=
  toNat_clampWord (by decide) _

theorem toNat_buffer_normalize (options : CaptureOptions) :
    options.normalize.writeBufferBytes.toNat =
      max 512 (min (2 ^ 26) options.writeBufferBytes.toNat) :=
  toNat_clampWord (by decide) _

theorem settles_normalize (options : CaptureOptions) : options.Settles options.normalize where
  warmUp := rfl
  slice := by
    rw [toNat_slice_normalize]
    exact nearest_clamp (by decide) _
  queue := rfl
  buffer := by
    rw [toNat_buffer_normalize]
    exact nearest_clamp (by decide) _

theorem Settles.legal {asked options : CaptureOptions} (settles : asked.Settles options) :
    options.Legal where
  slice := ⟨settles.slice.low_le, settles.slice.le_high⟩
  buffer := ⟨settles.buffer.low_le, settles.buffer.le_high⟩

theorem Legal.normalize_eq {options : CaptureOptions} (legal : options.Legal) :
    options.normalize = options := by
  have slice : options.normalize.writeSliceBytes = options.writeSliceBytes := by
    rw [← UInt64.toNat_inj, toNat_slice_normalize, clamp_of_range legal.slice.1 legal.slice.2]
  have buffer : options.normalize.writeBufferBytes = options.writeBufferBytes := by
    rw [← UInt64.toNat_inj, toNat_buffer_normalize, clamp_of_range legal.buffer.1 legal.buffer.2]
  have fields : options.normalize =
      { options with
        writeSliceBytes := options.normalize.writeSliceBytes
        writeBufferBytes := options.normalize.writeBufferBytes } := rfl
  rw [fields, slice, buffer]

end CaptureOptions

namespace DeviceOptions

structure Legal (options : DeviceOptions) : Prop where
  timer : 2 ≤ options.latencyTimerMs.toNat ∧ options.latencyTimerMs.toNat ≤ 255
  chunk : WholePackets options.readChunkBytes.toNat
  timeout : 10 ≤ options.readTimeoutMs.toNat ∧ options.readTimeoutMs.toNat ≤ 5000

structure Settles (asked options : DeviceOptions) : Prop where
  vendor : options.vendorId = asked.vendorId
  product : options.productId = asked.productId
  timer : Nearest 2 255 asked.latencyTimerMs.toNat options.latencyTimerMs.toNat
  chunk : Chunk asked.readChunkBytes.toNat options.readChunkBytes.toNat
  timeout : Nearest 10 5000 asked.readTimeoutMs.toNat options.readTimeoutMs.toNat

theorem toNat_timer_normalize (options : DeviceOptions) :
    options.normalize.latencyTimerMs.toNat = max 2 (min 255 options.latencyTimerMs.toNat) := by
  have byte := options.latencyTimerMs.toNat_lt
  have two : (2 : UInt8).toNat = 2 := rfl
  rw [normalize]
  simp only [UInt8.lt_iff_toNat_lt, two]
  split
  · rw [two]
    omega
  · omega

theorem toNat_timeout_normalize (options : DeviceOptions) :
    options.normalize.readTimeoutMs.toNat = max 10 (min 5000 options.readTimeoutMs.toNat) :=
  toNat_clampWord (by decide) _

theorem chunk_rounded (asked : Nat) : Chunk asked (max 1 (min 1024 (asked / 512)) * 512) where
  legal := ⟨Nat.dvd_mul_left _ _, by omega, by omega⟩
  greatest := by
    rintro _ ⟨⟨packets, rfl⟩, least, most⟩ below
    rw [Packet.size] at least most below ⊢
    omega
  least := by
    intro above
    have := above 512 ⟨Nat.dvd_refl _, by omega, by omega⟩
    omega

theorem settles_normalize (options : DeviceOptions) : options.Settles options.normalize where
  vendor := rfl
  product := rfl
  timer := by
    rw [toNat_timer_normalize]
    exact nearest_clamp (by decide) _
  chunk := by
    rw [toNat_chunk_normalize]
    exact chunk_rounded _
  timeout := by
    rw [toNat_timeout_normalize]
    exact nearest_clamp (by decide) _

theorem Settles.legal {asked options : DeviceOptions} (settles : asked.Settles options) :
    options.Legal where
  timer := ⟨settles.timer.low_le, settles.timer.le_high⟩
  chunk := settles.chunk.legal
  timeout := ⟨settles.timeout.low_le, settles.timeout.le_high⟩

theorem Legal.normalize_eq {options : DeviceOptions} (legal : options.Legal) :
    options.normalize = options := by
  have timer : options.normalize.latencyTimerMs = options.latencyTimerMs := by
    rw [← UInt8.toNat_inj, toNat_timer_normalize, clamp_of_range legal.timer.1 legal.timer.2]
  have chunk : options.normalize.readChunkBytes = options.readChunkBytes := by
    obtain ⟨⟨packets, amount⟩, least, most⟩ := legal.chunk
    rw [← UInt64.toNat_inj, toNat_chunk_normalize, amount]
    rw [amount] at least most
    rw [Packet.size] at least most ⊢
    omega
  have timeout : options.normalize.readTimeoutMs = options.readTimeoutMs := by
    rw [← UInt64.toNat_inj, toNat_timeout_normalize,
      clamp_of_range legal.timeout.1 legal.timeout.2]
  have fields : options.normalize =
      { options with
        latencyTimerMs := options.normalize.latencyTimerMs
        readChunkBytes := options.normalize.readChunkBytes
        readTimeoutMs := options.normalize.readTimeoutMs } := rfl
  rw [fields, timer, chunk, timeout]

end DeviceOptions

namespace Options

structure Legal (options : Options) : Prop where
  capture : options.capture.Legal
  usb : options.usb.Legal

structure Settles (asked options : Options) : Prop where
  capture : asked.capture.Settles options.capture
  usb : asked.usb.Settles options.usb

theorem settles_normalize (options : Options) : options.Settles options.normalize where
  capture := options.capture.settles_normalize
  usb := options.usb.settles_normalize

theorem Settles.legal {asked options : Options} (settles : asked.Settles options) :
    options.Legal where
  capture := settles.capture.legal
  usb := settles.usb.legal

theorem legal_normalize (options : Options) : options.normalize.Legal :=
  options.settles_normalize.legal

theorem Legal.normalize_eq {options : Options} (legal : options.Legal) :
    options.normalize = options := by
  rw [normalize, legal.capture.normalize_eq, legal.usb.normalize_eq]

theorem normalize_eq_self_iff {options : Options} : options.normalize = options ↔ options.Legal :=
  ⟨fun same => same ▸ options.legal_normalize, Legal.normalize_eq⟩

/-! ## Loading -/

/-- What a file asks for, or what is asked for without a file. -/
inductive Asked : Option OptionsFile → Options → Prop where
  | defaults : Asked none {}
  | file {file : OptionsFile} {text : String} {options : Options} (found : file.text = .ok text)
      (parsed : parse shape.read text = .ok options) : Asked (some file) options

theorem ofText_eq_ok_iff {text : String} {options : Options} :
    ofText text = .ok options ↔
      ∃ asked, parse shape.read text = .ok asked ∧ asked.normalize = options := by
  rw [ofText]
  cases parse shape.read text with
  | error problem => exact ⟨nofun, nofun⟩
  | ok asked => simp

theorem load_eq_ok_iff {file : Option OptionsFile} {options : Options} :
    load file = .ok options ↔ ∃ asked, Asked file asked ∧ asked.normalize = options := by
  cases file with
  | none =>
      constructor
      · rintro ⟨⟩
        exact ⟨_, .defaults, rfl⟩
      · rintro ⟨_, ⟨⟩, rfl⟩
        rfl
  | some file =>
      constructor
      · intro loaded
        cases found : file.text with
        | error problem =>
            rw [load, found] at loaded
            cases loaded
        | ok text =>
            rw [load, found] at loaded
            obtain ⟨asked, parsed, same⟩ := ofText_eq_ok_iff.mp loaded
            exact ⟨asked, .file found parsed, same⟩
      · rintro ⟨asked, known, same⟩
        cases known with
        | file found parsed =>
            rw [load, found]
            exact ofText_eq_ok_iff.mpr ⟨asked, parsed, same⟩

theorem text_toUTF8 (text : String) : OptionsFile.text (.content text.toUTF8) = .ok text := by
  have valid : String.fromUTF8? text.toUTF8 = some text := dif_pos text.isValidUTF8
  rw [OptionsFile.text, valid]

/-- Legal settings that are written to a file are loaded from it as they are. -/
theorem Legal.load_toJson {options : Options} (legal : options.Legal) :
    load (some (.content (String.ofList options.toJson).toUTF8)) = .ok options :=
  load_eq_ok_iff.mpr
    ⟨options, .file (text_toUTF8 _) options.parse_toJson, legal.normalize_eq⟩

/-- Settings are loaded whenever a file asks for some or none is named. They are legal, each is as
near as can be to what was asked for, and written to a file they are loaded again; to put settings
into their ranges changes nothing the second time, and nothing at all if they are legal. -/
theorem load_settles :
    (∀ file asked, Asked file asked → ∃ options, load file = .ok options) ∧
      (∀ file options, load file = .ok options →
        options.Legal ∧ (∃ asked, Asked file asked ∧ asked.Settles options) ∧
          load (some (.content (String.ofList options.toJson).toUTF8)) = .ok options) ∧
      (∀ options : Options, options.normalize.normalize = options.normalize) ∧
      ∀ options : Options, options.normalize = options ↔ options.Legal := by
  refine ⟨fun file asked known => ⟨asked.normalize, load_eq_ok_iff.mpr ⟨asked, known, rfl⟩⟩, ?_,
    fun options => options.legal_normalize.normalize_eq, fun _ => normalize_eq_self_iff⟩
  intro file options loaded
  obtain ⟨asked, known, rfl⟩ := load_eq_ok_iff.mp loaded
  exact ⟨asked.legal_normalize, ⟨asked, known, asked.settles_normalize⟩,
    asked.legal_normalize.load_toJson⟩

end Options

end SampleCapture
