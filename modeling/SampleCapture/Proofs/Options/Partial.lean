import SampleCapture.Proofs.Json.Printing
import SampleCapture.Proofs.Options.Slots

/-!
# Partial settings

Settings may be given in part, in any order and among any other members. What is given is taken
as it is written, what is not keeps its default, and what cannot be taken as it is written is not
taken at all.
-/

namespace SampleCapture

open Json

namespace Json

theorem Key.eq_of_literal {key other : Key} (same : key.literal = other.literal) : key = other := by
  obtain ⟨literal, name, reads⟩ := key
  obtain ⟨_, called, reads'⟩ := other
  cases same
  have names : name.toList = called.toList := Option.some.inj (reads.symm.trans reads')
  cases String.toList_inj.mp names
  rfl

theorem Members.spelled_injective : Function.Injective Members.spelled := by
  refine List.map_injective_iff.mpr ?_
  rintro ⟨key, tree⟩ ⟨other, value⟩ same
  obtain ⟨literals, values⟩ := Prod.mk.inj same
  exact Prod.ext (Key.eq_of_literal literals) values

theorem Tree.object_injective : Function.Injective Tree.object :=
  fun _ _ same => Members.spelled_injective (Tree.map.inj same)

/-! ## Members that mean the same -/

variable {σ : Type}

/-- Two named values that mean the same for the slot with their name. -/
structure Slot.Same (slots : List (Slot σ)) (entry other : String × Tree) : Prop where
  name : entry.1 = other.1
  means : ∀ slot ∈ slots, slot.name = entry.1 → slot.means entry.2 = slot.means other.2

def Members.Same (slots : List (Slot σ)) (members others : Members) : Prop :=
  ∃ moved, (members.under (slots.map Slot.name)).Perm moved ∧
    List.Forall₂ (Slot.Same slots) moved (others.under (slots.map Slot.name))

namespace Members.Same

variable {slots : List (Slot σ)} {members others : Members} {slot : Slot σ} {tree : Tree}

theorem exists_right (same : members.Same slots others) (inside : slot ∈ slots)
    (has : members.Has slot.name tree) :
    ∃ other, others.Has slot.name other ∧ slot.means tree = slot.means other := by
  obtain ⟨moved, order, related⟩ := same
  have known : slot.name ∈ slots.map Slot.name := List.mem_map_of_mem inside
  have among := order.subset (Members.mem_under.mpr ⟨known, has⟩)
  obtain ⟨⟨name, other⟩, found, alike⟩ := exists_of_forall₂ related among
  cases alike.name
  exact ⟨other, (Members.mem_under.mp found).2, alike.means slot inside rfl⟩

theorem exists_left (same : members.Same slots others) (inside : slot ∈ slots)
    (has : others.Has slot.name tree) :
    ∃ other, members.Has slot.name other ∧ slot.means other = slot.means tree := by
  obtain ⟨moved, order, related⟩ := same
  have known : slot.name ∈ slots.map Slot.name := List.mem_map_of_mem inside
  have among := Members.mem_under.mpr ⟨known, has⟩
  obtain ⟨⟨name, other⟩, found, alike⟩ := exists_of_forall₂ related.flip among
  cases alike.name
  exact ⟨other, (Members.mem_under.mp (order.symm.subset found)).2, alike.means slot inside rfl⟩

theorem unrepeated (same : members.Same slots others)
    (once : members.Unrepeated (slots.map Slot.name)) :
    others.Unrepeated (slots.map Slot.name) := by
  obtain ⟨moved, order, related⟩ := same
  have names : moved.map (·.1) = (others.under (slots.map Slot.name)).map (·.1) := by
    rw [← List.forall₂_eq_eq_eq, List.forall₂_map_left_iff, List.forall₂_map_right_iff]
    exact related.imp fun _ _ => Slot.Same.name
  rw [Members.Unrepeated, ← names]
  exact (order.map _).nodup_iff.mp once

theorem legible (same : members.Same slots others) (legible : members.Legible slots) :
    others.Legible slots := by
  refine ⟨same.unrepeated legible.unrepeated, fun slot inside tree has => ?_⟩
  obtain ⟨other, given, means⟩ := same.exists_left inside has
  rw [← means]
  exact legible.means slot inside other given

theorem gives (same : members.Same slots others) {empty record : σ}
    (gives : members.Gives slots empty record) : others.Gives slots empty record := by
  refine ⟨fun slot inside tree has => ?_, fun slot inside absent => ?_⟩
  · obtain ⟨other, given, means⟩ := same.exists_left inside has
    rw [← means]
    exact gives.given slot inside other given
  · refine gives.kept slot inside fun tree has => ?_
    obtain ⟨other, given, -⟩ := same.exists_right inside has
    exact absent other given

theorem complete {shape : Shape σ} (same : members.Same slots others)
    (complete : shape.Complete slots members) : shape.Complete slots others := by
  refine complete.imp id fun all slot inside => ?_
  obtain ⟨tree, has⟩ := all slot inside
  obtain ⟨other, given, -⟩ := same.exists_right inside has
  exact ⟨other, given⟩

theorem of_perm (order : (members.under (slots.map Slot.name)).Perm
    (others.under (slots.map Slot.name))) : members.Same slots others :=
  ⟨_, order, List.forall₂_same.mpr fun _ _ => ⟨rfl, fun _ _ _ => rfl⟩⟩

end Members.Same

/-- The order of members and the unknown ones among them are all the same. -/
theorem Shape.ofTree?_eq_of_perm {shape : Shape σ} {slots : List (Slot σ)}
    {members others : Members} (holds : shape.Holds slots) (suits : members.Suits slots)
    (suits' : others.Suits slots)
    (order : (members.under (slots.map Slot.name)).Perm (others.under (slots.map Slot.name))) :
    shape.ofTree? (.object members) = shape.ofTree? (.object others) := by
  have there : members.Same slots others := .of_perm order
  have back : others.Same slots members := .of_perm order.symm
  refine Option.ext fun record => ?_
  rw [ofTree?_object_eq_some_iff holds suits, ofTree?_object_eq_some_iff holds suits']
  constructor
  · rintro ⟨legible, complete, gives⟩
    exact ⟨there.legible legible, there.complete complete, there.gives gives⟩
  · rintro ⟨legible, complete, gives⟩
    exact ⟨back.legible legible, back.complete complete, back.gives gives⟩

end Json

/-! ## Settings -/

namespace Options

def groups : List String := ["capture", "usb"]

def settings (group : String) : List String :=
  if group = "capture" then CaptureOptions.slots.map Slot.name
  else DeviceOptions.slots.map Slot.name

def Grouped (members : Members) : Prop :=
  ∀ group ∈ groups, ∀ tree, members.Has group tree → ∃ inner : Members, tree = .object inner

/-- No known name stands twice in its object, and each known number is an integer of its range. -/
structure Legible (members : Members) : Prop where
  unrepeated : members.Unrepeated groups
  capture : ∀ inner : Members, members.Has "capture" (.object inner) →
    inner.Legible CaptureOptions.slots
  usb : ∀ inner : Members, members.Has "usb" (.object inner) → inner.Legible DeviceOptions.slots

/-- The settings have the integers that are written, and elsewhere their defaults. -/
structure Written (members : Members) (options : Options) : Prop where
  capture : ∀ inner : Members, members.Has "capture" (.object inner) →
    inner.Gives CaptureOptions.slots {} options.capture
  noCapture : (∀ tree, ¬members.Has "capture" tree) → options.capture = {}
  usb : ∀ inner : Members, members.Has "usb" (.object inner) →
    inner.Gives DeviceOptions.slots {} options.usb
  noUsb : (∀ tree, ¬members.Has "usb" tree) → options.usb = {}

structure SameGroup (group other : String × Tree) : Prop where
  name : group.1 = other.1
  settings : ∃ inner outer : Members, group.2 = .object inner ∧ other.2 = .object outer ∧
    (inner.under (settings group.1)).Perm (outer.under (settings group.1))

/-- The same settings, in any order and among any other members on both levels. -/
def Alike (members others : Members) : Prop :=
  ∃ moved, (members.under groups).Perm moved ∧ List.Forall₂ SameGroup moved (others.under groups)

variable {members others : Members} {options : Options}

theorem suits_of_grouped (grouped : Grouped members) : members.Suits slots := by
  intro slot inside tree has
  have known : slot.name ∈ groups := List.mem_map_of_mem inside
  have found := grouped slot.name known tree has
  simp only [slots, List.mem_cons, List.not_mem_nil, or_false] at inside
  rcases inside with rfl | rfl <;> exact found

section Groups

variable {σ : Type} {shape : Shape σ} {slots : List (Slot σ)}

/-- A group of settings is what is written in it. -/
theorem ofTree?_group (holds : shape.Holds slots) (suits : members.Suits slots)
    (optional : shape.optional = true) {record : σ} :
    shape.ofTree? (.object members) = some record ↔
      members.Legible slots ∧ members.Gives slots shape.empty record := by
  have complete : shape.Complete slots members := .inl optional
  rw [Shape.ofTree?_object_eq_some_iff holds suits, and_iff_right complete]

/-- A group of settings can be read if what is written in it can. -/
theorem isSome_ofTree?_group (holds : shape.Holds slots) (suits : members.Suits slots)
    (optional : shape.optional = true) :
    (shape.ofTree? (.object members)).isSome ↔ members.Legible slots := by
  rw [Option.isSome_iff_exists]
  constructor
  · rintro ⟨record, found⟩
    exact ((ofTree?_group holds suits optional).mp found).1
  · intro legible
    obtain ⟨record, gives⟩ := legible.exists_gives holds
    exact ⟨record, (ofTree?_group holds suits optional).mpr ⟨legible, gives⟩⟩

theorem means_iff_legible {group : String} (known : group ∈ groups) (grouped : Grouped members)
    (holds : shape.Holds slots) (suits : ∀ inner : Members, inner.Suits slots)
    (optional : shape.optional = true) :
    (∀ tree, members.Has group tree → (shape.ofTree? tree).isSome) ↔
      ∀ inner : Members, members.Has group (.object inner) → inner.Legible slots := by
  constructor
  · intro means inner has
    exact (isSome_ofTree?_group holds (suits inner) optional).mp (means _ has)
  · intro legible tree has
    obtain ⟨inner, rfl⟩ := grouped group known tree has
    exact (isSome_ofTree?_group holds (suits inner) optional).mpr (legible inner has)

theorem means_iff_gives {group : String} (known : group ∈ groups) (grouped : Grouped members)
    (holds : shape.Holds slots) (suits : ∀ inner : Members, inner.Suits slots)
    (optional : shape.optional = true)
    (legible : ∀ inner : Members, members.Has group (.object inner) → inner.Legible slots)
    (record : σ) :
    (∀ tree, members.Has group tree → shape.ofTree? tree = some record) ↔
      ∀ inner : Members, members.Has group (.object inner) →
        inner.Gives slots shape.empty record := by
  constructor
  · intro means inner has
    exact ((ofTree?_group holds (suits inner) optional).mp (means _ has)).2
  · intro gives tree has
    obtain ⟨inner, rfl⟩ := grouped group known tree has
    exact (ofTree?_group holds (suits inner) optional).mpr ⟨legible inner has, gives inner has⟩

end Groups

theorem legible_iff (grouped : Grouped members) : members.Legible slots ↔ Legible members := by
  have capture := means_iff_legible (by decide : "capture" ∈ groups) grouped CaptureOptions.holds
    CaptureOptions.suits rfl
  have usb := means_iff_legible (by decide : "usb" ∈ groups) grouped DeviceOptions.holds
    DeviceOptions.suits rfl
  constructor
  · rintro ⟨unrepeated, means⟩
    simp only [slots, List.forall_mem_cons] at means
    exact ⟨unrepeated, capture.mp means.1, usb.mp means.2.1⟩
  · rintro ⟨unrepeated, first, second⟩
    refine ⟨unrepeated, ?_⟩
    simp only [slots, List.forall_mem_cons, List.not_mem_nil, false_implies, implies_true, and_true]
    exact ⟨capture.mpr first, usb.mpr second⟩

theorem gives_iff (grouped : Grouped members) (legible : Legible members) :
    members.Gives slots {} options ↔ Written members options := by
  have capture := means_iff_gives (by decide) grouped CaptureOptions.holds CaptureOptions.suits
    rfl legible.capture options.capture
  have usb := means_iff_gives (by decide) grouped DeviceOptions.holds DeviceOptions.suits
    rfl legible.usb options.usb
  constructor
  · rintro ⟨given, kept⟩
    simp only [slots, List.forall_mem_cons] at given kept
    exact ⟨capture.mp given.1, kept.1, usb.mp given.2.1, kept.2.1⟩
  · rintro ⟨first, noFirst, second, noSecond⟩
    constructor
    · simp only [slots, List.forall_mem_cons, List.not_mem_nil, false_implies, implies_true,
        and_true]
      exact ⟨capture.mpr first, usb.mpr second⟩
    · simp only [slots, List.forall_mem_cons, List.not_mem_nil, false_implies, implies_true,
        and_true]
      exact ⟨noFirst, noSecond⟩

/-- What is read off a text that spells an object. -/
theorem parse_eq_ok_iff (grouped : Grouped members) {text : String}
    (spells : Spells (Tree.object members).symbols text.toList) :
    parse shape.read text = .ok options ↔ Legible members ∧ Written members options := by
  have complete : shape.Complete slots members := .inl rfl
  rw [Shape.parse_eq_ok_iff holds (suits_of_grouped grouped) spells, legible_iff grouped,
    and_iff_right complete]
  exact and_congr_right fun legible => gives_iff grouped legible

theorem exists_written (legible : Legible members) (grouped : Grouped members) :
    ∃ options, Written members options := by
  obtain ⟨options, gives⟩ := ((legible_iff grouped).mpr legible).exists_gives holds
  exact ⟨options, (gives_iff grouped legible).mp gives⟩

/-! ## Order -/

theorem SameGroup.means {group other : String × Tree} (same : SameGroup group other) :
    Slot.Same slots group other := by
  obtain ⟨name, inner, outer, first, second, order⟩ := same
  refine ⟨name, fun slot inside called => ?_⟩
  simp only [slots, List.mem_cons, List.not_mem_nil, or_false] at inside
  rw [first, second]
  rcases inside with rfl | rfl
  · rw [← called] at order
    exact Shape.ofTree?_eq_of_perm CaptureOptions.holds (CaptureOptions.suits _)
      (CaptureOptions.suits _) order
  · rw [← called] at order
    exact Shape.ofTree?_eq_of_perm DeviceOptions.holds (DeviceOptions.suits _)
      (DeviceOptions.suits _) order

theorem Alike.same (alike : Alike members others) : members.Same slots others := by
  obtain ⟨moved, order, related⟩ := alike
  exact ⟨moved, order, related.imp fun _ _ => SameGroup.means⟩

theorem Alike.grouped (alike : Alike members others) : Grouped others := by
  intro group known tree has
  obtain ⟨moved, -, related⟩ := alike
  obtain ⟨_, -, same⟩ := exists_of_forall₂ related.flip (Members.mem_under.mpr ⟨known, has⟩)
  obtain ⟨-, outer, -, found, -⟩ := same.settings
  exact ⟨outer, found⟩

/-- The same settings are read off any text that spells alike members. -/
theorem parse_of_alike (grouped : Grouped members) (alike : Alike members others)
    {text other : String} (spells : Spells (Tree.object members).symbols text.toList)
    (spells' : Spells (Tree.object others).symbols other.toList)
    (found : parse shape.read text = .ok options) : parse shape.read other = .ok options := by
  rw [Shape.parse_eq_ok_iff holds (suits_of_grouped grouped) spells] at found
  rw [Shape.parse_eq_ok_iff holds (suits_of_grouped alike.grouped) spells']
  obtain ⟨legible, complete, gives⟩ := found
  exact ⟨alike.same.legible legible, alike.same.complete complete, alike.same.gives gives⟩

/-- An object is read exactly if no known name stands twice in it and each known number is an
integer of its range. Then each setting is the integer that is written or its default, whatever
the order of the members and whatever else stands among them. -/
theorem parse_partial (grouped : Grouped members) {text : String}
    (spells : Spells (Tree.object members).symbols text.toList) :
    ((∃ options, parse shape.read text = .ok options) ↔ Legible members) ∧
      (∀ options, parse shape.read text = .ok options → Written members options) ∧
      (¬Legible members → ∃ problem, parse shape.read text = .error problem) ∧
      ∀ others, Alike members others → ∀ other : String,
        Spells (Tree.object others).symbols other.toList →
          ∀ options, parse shape.read text = .ok options → parse shape.read other = .ok options := by
  have read : ∀ options, parse shape.read text = .ok options ↔ _ := fun _ =>
    parse_eq_ok_iff grouped spells
  refine ⟨⟨?_, fun legible => ?_⟩, fun options found => ((read options).mp found).2,
    fun illegible => ?_, fun others alike other spells' options found =>
      parse_of_alike grouped alike spells spells' found⟩
  · rintro ⟨options, found⟩
    exact ((read options).mp found).1
  · obtain ⟨options, written⟩ := exists_written legible grouped
    exact ⟨options, (read options).mpr ⟨legible, written⟩⟩
  · cases found : parse shape.read text with
    | error problem => exact ⟨problem, rfl⟩
    | ok options => exact absurd ((read options).mp found).1 illegible

/-- Settings of the device alone, with a member that nobody knows. -/
def chunksAlone : Members :=
  .ofEntries [("note", .list [.null]), ("readChunkBytes", .ofNat 8192)]

def chunksAlone.grouped : Members :=
  [(⟨.code 0x75 (by decide) :: Literal.ofString "sb", "usb", rfl⟩, .object chunksAlone)]

def chunksAlone.text : String :=
  "\x7b\"\\u0075sb\":\x7b\"note\":[null],\"readChunkBytes\":8192\x7d\x7d"

theorem chunksAlone.has_iff {name : String} {tree : Tree} :
    chunksAlone.grouped.Has name tree ↔ "usb" = name ∧ .object chunksAlone = tree := by
  rw [chunksAlone.grouped, Members.has_cons, or_iff_left Members.has_nil]

theorem chunksAlone.legible : Legible chunksAlone.grouped where
  unrepeated := by
    show List.Nodup _
    decide
  capture := by
    intro inner given
    exact absurd (has_iff.mp given).1 (by decide)
  usb := by
    intro inner given
    cases Tree.object_injective (has_iff.mp given).2
    constructor
    · rw [Members.Unrepeated, chunksAlone, Members.under_ofEntries]
      decide
    · intro slot inside tree given
      have written := Members.has_ofEntries.mp given
      simp only [DeviceOptions.slots, List.mem_cons, List.not_mem_nil, or_false] at inside
      rcases inside with rfl | rfl | rfl | rfl | rfl <;> simp [Slot.natural] at written
      cases written
      decide

theorem parse_partial_chunks :
    Grouped chunksAlone.grouped ∧
      Spells (Tree.object chunksAlone.grouped).symbols chunksAlone.text.toList ∧
      ∃ options, parse shape.read chunksAlone.text = .ok options ∧
        options.usb.readChunkBytes = 8192 ∧ options.capture = {} := by
  have grouped : Grouped chunksAlone.grouped := fun _ _ _ given =>
    ⟨chunksAlone, (chunksAlone.has_iff.mp given).2.symm⟩
  have spells : Spells (Tree.object chunksAlone.grouped).symbols chunksAlone.text.toList :=
    Tree.spells_compact _
  obtain ⟨accepted, written, -, -⟩ := parse_partial grouped spells
  obtain ⟨options, found⟩ := accepted.mpr chunksAlone.legible
  have given := written options found
  refine ⟨grouped, spells, options, found, ?_, given.noCapture fun tree there => ?_⟩
  · have usb := (given.usb chunksAlone (chunksAlone.has_iff.mpr ⟨rfl, rfl⟩)).given
    simp only [DeviceOptions.slots, List.forall_mem_cons, Slot.natural] at usb
    obtain ⟨-, -, -, chunks, -⟩ := usb
    have read := chunks (.ofNat 8192) (Members.has_ofEntries.mpr (by simp))
    rw [Tree.natural?_ofNat (by decide)] at read
    exact UInt64.toNat_inj.mp (Option.some.inj read).symm
  · exact absurd (chunksAlone.has_iff.mp there).1 (by decide)

end Options

end SampleCapture
