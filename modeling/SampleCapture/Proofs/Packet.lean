import Mathlib.Data.List.Basic
import SampleCapture.Options
import SampleCapture.Packet
import SampleCapture.Proofs.Slices

/-!
# The payload of packets

Which bytes of a transfer are payload is a matter of their places alone. Whole packets can be
taken off a transfer one by one, so that what has been packed comes out again, and so that a
transfer may be read in pieces, as long as the pieces are whole packets.
-/

namespace SampleCapture.Packet

/-! ## Packet by packet -/

theorem payload_nil : payload [] = [] := by
  rw [payload, split_nil, List.flatMap_nil]

theorem payload_of_ne_nil {raw : List UInt8} (filled : raw ≠ []) :
    payload raw = (raw.take size).drop statusBytes ++ payload (raw.drop size) := by
  rw [payload, split, if_neg filled, List.flatMap_cons]
  rfl

/-- The payload of a packet, of which there may be only a first part. -/
theorem payload_of_short {packet : List UInt8} (short : packet.length ≤ size) :
    payload packet = packet.drop statusBytes := by
  by_cases filled : packet = []
  · rw [filled, payload_nil, List.drop_nil]
  · rw [payload_of_ne_nil filled, List.take_of_length_le short,
      List.drop_eq_nil_of_le short, payload_nil, List.append_nil]

/-- A whole packet comes before the rest. -/
theorem payload_packet_append {packet : List UInt8} (whole : packet.length = size)
    (rest : List UInt8) : payload (packet ++ rest) = packet.drop statusBytes ++ payload rest := by
  have filled : packet ++ rest ≠ [] := by
    rw [← List.length_pos_iff, List.length_append, whole]
    exact Nat.add_pos_left (by decide) _
  rw [payload_of_ne_nil filled, List.take_left' whole, List.drop_left' whole]

/-- A row of whole packets comes before the rest. -/
theorem payload_append {first : List UInt8} (aligned : size ∣ first.length)
    (second : List UInt8) : payload (first ++ second) = payload first ++ payload second := by
  obtain ⟨packets, count⟩ := aligned
  induction packets generalizing first with
  | zero =>
      rw [List.eq_nil_of_length_eq_zero count, payload_nil]
      rfl
  | succ packets ih =>
      rw [Nat.mul_succ] at count
      have whole : (first.take size).length = size :=
        List.length_take_of_le (by omega)
      have later : (first.drop size).length = size * packets := by
        rw [List.length_drop]
        omega
      calc payload (first ++ second)
          = payload (first.take size ++ (first.drop size ++ second)) := by
            rw [← List.append_assoc, List.take_append_drop]
        _ = (first.take size).drop statusBytes ++ (payload (first.drop size) ++ payload second) := by
            rw [payload_packet_append whole, ih later]
        _ = payload (first.take size ++ first.drop size) ++ payload second := by
            rw [payload_packet_append whole, List.append_assoc]
        _ = payload first ++ payload second := by rw [List.take_append_drop]

/-! ## Places -/

def payloadFrom (start : Nat) (raw : List UInt8) : List UInt8 :=
  ((raw.zipIdx start).filter fun entry => statusBytes ≤ entry.2 % size).map (·.1)

theorem payloadFrom_append (start : Nat) (first second : List UInt8) :
    payloadFrom start (first ++ second) =
      payloadFrom start first ++ payloadFrom (start + first.length) second := by
  rw [payloadFrom, List.zipIdx_append, List.filter_append, List.map_append]
  rfl

/-- At the places of status bytes there is no payload. -/
theorem payloadFrom_eq_nil {start : Nat} {raw : List UInt8}
    (status : ∀ place, start ≤ place → place < start + raw.length → place % size < statusBytes) :
    payloadFrom start raw = [] := by
  rw [payloadFrom, List.filter_eq_nil_iff.mpr, List.map_nil]
  intro entry member
  have below := status entry.2 (List.le_snd_of_mem_zipIdx member)
    (List.snd_lt_add_of_mem_zipIdx member)
  simpa using below

/-- Elsewhere there is nothing else. -/
theorem payloadFrom_eq_self {start : Nat} {raw : List UInt8}
    (behind : ∀ place, start ≤ place → place < start + raw.length → statusBytes ≤ place % size) :
    payloadFrom start raw = raw := by
  rw [payloadFrom, List.filter_eq_self.mpr, List.zipIdx_map_fst]
  intro entry member
  have above := behind entry.2 (List.le_snd_of_mem_zipIdx member)
    (List.snd_lt_add_of_mem_zipIdx member)
  simpa using above

/-- In a packet, or a first part of one, the status bytes come first. -/
theorem payloadFrom_packet {start : Nat} (aligned : size ∣ start) {packet : List UInt8}
    (short : packet.length ≤ size) : payloadFrom start packet = packet.drop statusBytes := by
  obtain ⟨packets, rfl⟩ := aligned
  have length : (packet.take statusBytes).length ≤ statusBytes := List.length_take_le _ _
  have place (offset : Nat) (inside : offset < size) :
      (size * packets + offset) % size = offset := by
    rw [Nat.mul_add_mod, Nat.mod_eq_of_lt inside]
  calc payloadFrom (size * packets) packet
      = payloadFrom (size * packets) (packet.take statusBytes ++ packet.drop statusBytes) := by
        rw [List.take_append_drop]
    _ = [] ++ packet.drop statusBytes := by
        rw [payloadFrom_append]
        congr 1
        · refine payloadFrom_eq_nil fun other after before => ?_
          obtain ⟨offset, rfl⟩ := Nat.exists_eq_add_of_le after
          have small : offset < statusBytes := by omega
          rw [place offset (Nat.lt_trans small (by decide))]
          exact small
        · refine payloadFrom_eq_self fun other after before => ?_
          obtain ⟨offset, rfl⟩ := Nat.exists_eq_add_of_le (Nat.le_of_add_right_le after)
          rw [List.length_take] at after before
          rw [List.length_drop] at before
          rw [place offset (by omega)]
          omega
    _ = packet.drop statusBytes := List.nil_append _

/-- The payload lies where a place within a packet is not that of a status byte. -/
theorem payloadFrom_eq_payload {start : Nat} (aligned : size ∣ start) (raw : List UInt8) :
    payloadFrom start raw = payload raw := by
  fun_induction split raw generalizing start with
  | case1 => rw [payload_nil]; rfl
  | case2 raw filled ih =>
      rw [payload_of_ne_nil filled]
      by_cases short : raw.length ≤ size
      · rw [payloadFrom_packet aligned short, List.take_of_length_le short,
          List.drop_eq_nil_of_le short, payload_nil, List.append_nil]
      · have whole : (raw.take size).length = size := List.length_take_of_le (by omega)
        have next : size ∣ start + (raw.take size).length := by
          rw [whole]
          exact Nat.dvd_add aligned (Nat.dvd_refl _)
        conv_lhs => rw [← List.take_append_drop size raw]
        rw [payloadFrom_append, payloadFrom_packet aligned (Nat.le_of_eq whole), ih next]

/-! ## Packing -/

/-- A payload in packets, each of them behind its own two status bytes. -/
def pack (status : Nat → UInt8 × UInt8) (bytes : List UInt8) : List UInt8 :=
  ((cut (size - statusBytes) bytes).mapIdx fun index part =>
    (status index).1 :: (status index).2 :: part).flatten

/-- What has been packed comes out again. -/
theorem payload_pack (status : Nat → UInt8 × UInt8) (bytes : List UInt8) :
    payload (pack status bytes) = bytes := by
  fun_induction cut (size - statusBytes) bytes generalizing status with
  | case1 bytes none =>
      rcases none with rfl | zero
      · rw [pack, cut_nil]
        exact payload_nil
      · cases zero
  | case2 bytes some ih =>
      have filled := (not_or.mp some).1
      have packed : pack status bytes =
          ((status 0).1 :: (status 0).2 :: bytes.take (size - statusBytes)) ++
            pack (fun index => status (index + 1)) (bytes.drop (size - statusBytes)) := by
        rw [pack, cut_of_ne_nil (by decide) filled, List.mapIdx_cons, List.flatten_cons]
        rfl
      rw [packed]
      by_cases whole : size - statusBytes ≤ bytes.length
      · have length : ((status 0).1 :: (status 0).2 ::
            bytes.take (size - statusBytes)).length = size := by
          rw [List.length_cons, List.length_cons, List.length_take_of_le whole]
          rfl
        rw [payload_packet_append length, ih]
        exact List.take_append_drop _ _
      · -- The last packet is the only one that may be shorter.
        have short : bytes.length ≤ size - statusBytes := Nat.le_of_not_le whole
        rw [List.take_of_length_le short, List.drop_eq_nil_of_le short, pack, cut_nil,
          List.mapIdx_nil, List.flatten_nil, List.append_nil, payload_of_short]
        · rfl
        · rw [List.length_cons, List.length_cons]
          exact Nat.add_le_add_right short 2

/-! ## Reading in pieces -/

/-- What comes of a row of reads whose payload goes into the same buffer, one after the
other. -/
def refills (buffer : List UInt8) : List (List UInt8) → List UInt8
  | [] => []
  | read :: reads => refill buffer read ++ refills (refill buffer read) reads

theorem refills_eq_flatMap (buffer : List UInt8) (reads : List (List UInt8)) :
    refills buffer reads = reads.flatMap payload := by
  induction reads generalizing buffer with
  | nil => rfl
  | cons read reads ih => rw [refills, ih, refill, List.flatMap_cons]

/-- Whole packets may be read in pieces. -/
theorem payload_cut {amount : Nat} (positive : 0 < amount) (aligned : size ∣ amount)
    (raw : List UInt8) : (cut amount raw).flatMap payload = payload raw := by
  fun_induction cut amount raw with
  | case1 raw none =>
      rcases none with rfl | zero
      · rw [payload_nil, List.flatMap_nil]
      · exact absurd zero (Nat.ne_of_gt positive)
  | case2 raw some ih =>
      rw [List.flatMap_cons, ih]
      by_cases whole : amount ≤ raw.length
      · rw [← payload_append (by rwa [List.length_take_of_le whole]), List.take_append_drop]
      · have short : raw.length ≤ amount := Nat.le_of_not_le whole
        rw [List.take_of_length_le short, List.drop_eq_nil_of_le short, payload_nil,
          List.append_nil]

end Packet

theorem toNat_clampWord {low high : UInt64} (ordered : low.toNat ≤ high.toNat) (word : UInt64) :
    (clampWord low high word).toNat = max low.toNat (min high.toNat word.toNat) := by
  unfold clampWord
  simp only [UInt64.lt_iff_toNat_lt]
  split
  · omega
  · split <;> omega

theorem DeviceOptions.toNat_chunk_normalize (options : DeviceOptions) :
    options.normalize.readChunkBytes.toNat =
      max 1 (min 1024 (options.readChunkBytes.toNat / 512)) * 512 := by
  have clamped : (clampWord 1 1024 (options.readChunkBytes / 512)).toNat =
      max 1 (min 1024 (options.readChunkBytes.toNat / 512)) :=
    toNat_clampWord (by decide) _
  rw [normalize, UInt64.toNat_mul, clamped, Nat.mod_eq_of_lt]
  · rfl
  · change _ * 512 < _
    omega

/-- A read in its legal range asks for one to 1024 whole packets. -/
theorem DeviceOptions.readChunkBytes_normalize (options : DeviceOptions) :
    ∃ packets, 1 ≤ packets ∧ packets ≤ 1024 ∧
      options.normalize.readChunkBytes.toNat = Packet.size * packets := by
  refine ⟨max 1 (min 1024 (options.readChunkBytes.toNat / 512)), by omega, by omega, ?_⟩
  rw [toNat_chunk_normalize]
  exact Nat.mul_comm _ _

namespace Packet

/-- The payload of a transfer is what lies behind the status bytes of its packets, whatever the
buffer has held; what is packed behind any status bytes comes out again; and with any options a
transfer may be read in pieces. -/
theorem refill_positional :
    (∀ buffer raw, refill buffer raw = payloadAt raw) ∧
      (∀ buffer status bytes, refill buffer (pack status bytes) = bytes) ∧
      ∀ (options : DeviceOptions) (buffer raw : List UInt8),
        refills buffer (cut options.normalize.readChunkBytes.toNat raw) = refill buffer raw := by
  refine ⟨fun buffer raw => ?_, fun buffer status bytes => ?_, fun options buffer raw => ?_⟩
  · rw [refill, ← payloadFrom_eq_payload (Nat.dvd_zero size)]
    rfl
  · rw [refill, payload_pack]
  · obtain ⟨packets, least, -, amount⟩ := options.readChunkBytes_normalize
    rw [refills_eq_flatMap, refill, amount]
    exact payload_cut (Nat.mul_pos (by decide) least) (Nat.dvd_mul_right _ _) raw

end Packet

end SampleCapture
