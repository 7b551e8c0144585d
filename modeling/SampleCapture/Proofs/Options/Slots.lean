import SampleCapture.Proofs.Json.Objects
import SampleCapture.Stop.Json

/-!
# The places of options and counters

The records of options and of counters are read field by field: each number has a place with a
name and a bound, and each group of options has a place that holds an object.
-/

namespace SampleCapture

open Json

namespace Json

variable {σ : Type}

theorem Tree.lt_of_natural? {tree : Tree} {bound n : Nat} (means : tree.natural? bound = some n) :
    n < bound :=
  (Tree.natural?_eq_some_iff.mp means).1

def Slot.natural (name : String) (bound : Nat) (get : σ → Nat) (set : σ → Nat → σ) : Slot σ where
  name := name
  Value := Nat
  suits := fun _ => True
  means := Tree.natural? bound
  get := get
  set := set

theorem Slot.natural_serves {name range : String} {bound : Nat} {get : σ → Nat}
    {set : σ → Nat → σ} (word : bound ≤ UInt64.size) :
    (Slot.natural name bound get set).Serves
      { name := name, read := fun record => (Reader.natural range bound).map (set record) } where
  name := rfl
  reads := by
    intro record tree _ rest
    rw [Reader.get?_map, Reader.get?_natural word, Option.map_map]
    rfl

def Shape.ofTree? (shape : Shape σ) (tree : Tree) : Option σ :=
  (Reader.get? shape.read tree.tokens).map (·.1)

def Slot.object {τ : Type} (name : String) (shape : Shape τ) (get : σ → τ) (set : σ → τ → σ) :
    Slot σ where
  name := name
  Value := τ
  suits := fun tree => ∃ members : Members, tree = .object members
  means := shape.ofTree?
  get := get
  set := set

section Objects

variable {τ : Type} {shape : Shape τ} {slots : List (Slot τ)} {members : Members}

theorem Shape.ofTree?_object (holds : shape.Holds slots) (suits : members.Suits slots) :
    shape.ofTree? (.object members) =
      (absorb slots { record := shape.empty, seen := [] } members).bind shape.complete? := by
  rw [ofTree?, ← List.append_nil (Tree.tokens _), get?_read_object holds suits, Option.map_map]
  exact Option.map_id'

theorem Shape.ofTree?_object_eq_some_iff (holds : shape.Holds slots) (suits : members.Suits slots)
    {record : τ} :
    shape.ofTree? (.object members) = some record ↔
      members.Legible slots ∧ shape.Complete slots members ∧
        members.Gives slots shape.empty record := by
  have read : Reader.get? shape.read ((Tree.object members).tokens ++ []) = some (record, []) ↔ _ :=
    get?_read_eq_some_iff holds suits
  rw [get?_read_object holds suits, ← ofTree?_object holds suits, and_iff_left rfl] at read
  rw [← read, Option.map_eq_some_iff]
  constructor
  · exact fun found => ⟨record, found, rfl⟩
  · rintro ⟨_, found, ⟨⟩⟩
    exact found

theorem Slot.object_serves {name : String} {get : σ → τ} {set : σ → τ → σ}
    (holds : shape.Holds slots) (suits : ∀ members : Members, members.Suits slots) :
    (Slot.object name shape get set).Serves
      { name := name, read := fun record => shape.read.map (set record) } where
  name := rfl
  reads := by
    rintro record tree ⟨members, rfl⟩ rest
    have means : (Slot.object name shape get set).means (.object members) = _ :=
      Shape.ofTree?_object holds (suits members)
    rw [Reader.get?_map, Shape.get?_read_object holds (suits members), Option.map_map, means]
    rfl

end Objects

end Json

namespace CaptureOptions

def slots : List (Slot CaptureOptions) :=
  [.natural "warmUpBytes" UInt64.size (·.warmUpBytes.toNat)
      fun options n => { options with warmUpBytes := n.toUInt64 },
    .natural "writeSliceBytes" UInt64.size (·.writeSliceBytes.toNat)
      fun options n => { options with writeSliceBytes := n.toUInt64 },
    .natural "queueCapacity" UInt64.size (·.queueCapacity.toNat)
      fun options n => { options with queueCapacity := n.toUInt64 },
    .natural "writeBufferBytes" UInt64.size (·.writeBufferBytes.toNat)
      fun options n => { options with writeBufferBytes := n.toUInt64 }]

theorem suits (members : Members) : members.Suits slots := by
  simp [Members.Suits, slots, Slot.natural]

theorem holds : shape.Holds slots where
  fields := by
    refine .cons ?_ (.cons ?_ (.cons ?_ (.cons ?_ .nil)))
    all_goals exact Slot.natural_serves (Nat.le_refl _)
  apart := by
    simp only [slots, List.pairwise_cons, List.forall_mem_cons, List.not_mem_nil, false_implies,
      implies_true, List.Pairwise.nil, and_true]
    and_intros
    all_goals exact ⟨by decide, fun _ _ => rfl, fun _ _ => rfl⟩
  get_set := by
    simp only [slots, List.forall_mem_cons, List.not_mem_nil, false_implies, implies_true, and_true]
    and_intros
    all_goals
      intro tree n means record
      exact UInt64.toNat_ofNat_of_lt' (Tree.lt_of_natural? means)
  ext := by
    intro record other same
    simp only [slots, List.forall_mem_cons, List.not_mem_nil, false_implies, implies_true, and_true,
      Slot.natural, UInt64.toNat_inj] at same
    cases record
    cases other
    simpa using same

end CaptureOptions

namespace DeviceOptions

def slots : List (Slot DeviceOptions) :=
  [.natural "vendorId" UInt16.size (·.vendorId.toNat)
      fun options n => { options with vendorId := n.toUInt16 },
    .natural "productId" UInt16.size (·.productId.toNat)
      fun options n => { options with productId := n.toUInt16 },
    .natural "latencyTimerMs" UInt8.size (·.latencyTimerMs.toNat)
      fun options n => { options with latencyTimerMs := n.toUInt8 },
    .natural "readChunkBytes" UInt64.size (·.readChunkBytes.toNat)
      fun options n => { options with readChunkBytes := n.toUInt64 },
    .natural "readTimeoutMs" UInt64.size (·.readTimeoutMs.toNat)
      fun options n => { options with readTimeoutMs := n.toUInt64 }]

theorem suits (members : Members) : members.Suits slots := by
  simp [Members.Suits, slots, Slot.natural]

theorem holds : shape.Holds slots where
  fields := by
    refine .cons ?_ (.cons ?_ (.cons ?_ (.cons ?_ (.cons ?_ .nil))))
    all_goals exact Slot.natural_serves (by decide)
  apart := by
    simp only [slots, List.pairwise_cons, List.forall_mem_cons, List.not_mem_nil, false_implies,
      implies_true, List.Pairwise.nil, and_true]
    and_intros
    all_goals exact ⟨by decide, fun _ _ => rfl, fun _ _ => rfl⟩
  get_set := by
    simp only [slots, List.forall_mem_cons, List.not_mem_nil, false_implies, implies_true, and_true]
    refine ⟨?vendor, ?product, ?timer, ?chunk, ?timeout⟩
    all_goals intro tree n means record
    case vendor | product => exact UInt16.toNat_ofNat_of_lt' (Tree.lt_of_natural? means)
    case timer => exact UInt8.toNat_ofNat_of_lt' (Tree.lt_of_natural? means)
    case chunk | timeout => exact UInt64.toNat_ofNat_of_lt' (Tree.lt_of_natural? means)
  ext := by
    intro record other same
    simp only [slots, List.forall_mem_cons, List.not_mem_nil, false_implies, implies_true, and_true,
      Slot.natural, UInt64.toNat_inj, UInt16.toNat_inj, UInt8.toNat_inj] at same
    cases record
    cases other
    simpa using same

end DeviceOptions

namespace Options

def slots : List (Slot Options) :=
  [.object "capture" CaptureOptions.shape (·.capture)
      fun options capture => { options with capture := capture },
    .object "usb" DeviceOptions.shape (·.usb) fun options usb => { options with usb := usb }]

theorem holds : shape.Holds slots where
  fields := by
    exact .cons (Slot.object_serves CaptureOptions.holds CaptureOptions.suits)
      (.cons (Slot.object_serves DeviceOptions.holds DeviceOptions.suits) .nil)
  apart := by
    simp only [slots, List.pairwise_cons, List.forall_mem_cons, List.not_mem_nil, false_implies,
      implies_true, List.Pairwise.nil, and_true]
    exact ⟨by decide, fun _ _ => rfl, fun _ _ => rfl⟩
  get_set := by
    simp only [slots, List.forall_mem_cons, List.not_mem_nil, false_implies, implies_true, and_true]
    and_intros
    all_goals exact fun _ _ _ _ => rfl
  ext := by
    intro record other same
    simp only [slots, List.forall_mem_cons, List.not_mem_nil, false_implies, implies_true, and_true,
      Slot.object] at same
    cases record
    cases other
    simpa using same

end Options

namespace Counters

def slots : List (Slot Counters) :=
  [.natural "bytesReceived" UInt64.size (·.received.toNat)
      fun counters n => { counters with received := n.toUInt64 },
    .natural "bytesSaved" UInt64.size (·.saved.toNat)
      fun counters n => { counters with saved := n.toUInt64 },
    .natural "bytesWritten" UInt64.size (·.written.toNat)
      fun counters n => { counters with written := n.toUInt64 },
    .natural "dropouts" UInt64.size (·.dropouts.toNat)
      fun counters n => { counters with dropouts := n.toUInt64 }]

theorem holds : shape.Holds slots where
  fields := by
    refine .cons ?_ (.cons ?_ (.cons ?_ (.cons ?_ .nil)))
    all_goals exact Slot.natural_serves (Nat.le_refl _)
  apart := by
    simp only [slots, List.pairwise_cons, List.forall_mem_cons, List.not_mem_nil, false_implies,
      implies_true, List.Pairwise.nil, and_true]
    and_intros
    all_goals exact ⟨by decide, fun _ _ => rfl, fun _ _ => rfl⟩
  get_set := by
    simp only [slots, List.forall_mem_cons, List.not_mem_nil, false_implies, implies_true, and_true]
    and_intros
    all_goals
      intro tree n means record
      exact UInt64.toNat_ofNat_of_lt' (Tree.lt_of_natural? means)
  ext := by
    intro record other same
    simp only [slots, List.forall_mem_cons, List.not_mem_nil, false_implies, implies_true, and_true,
      Slot.natural, UInt64.toNat_inj] at same
    cases record
    cases other
    simpa using same

end Counters

end SampleCapture
