import Mathlib.Data.List.Forall2
import Mathlib.Data.List.Nodup
import SampleCapture.Proofs.Json.Reading

/-!
# Reading records from objects

A record is read from an object if none of its fields stands there twice and every field that is
there has a value of its kind. Then each field is what is written, or what it is in the empty
record. Where the members stand among each other, and what other members there are, is all the
same.
-/

namespace SampleCapture.Json

theorem exists_of_forall₂ {α β : Type*} {R : α → β → Prop} {xs : List α} {ys : List β}
    (related : List.Forall₂ R xs ys) {x : α} (inside : x ∈ xs) : ∃ y ∈ ys, R x y := by
  induction related with
  | nil => cases inside
  | @cons first second xs ys same later ih =>
      rcases List.mem_cons.mp inside with rfl | behind
      · exact ⟨second, List.mem_cons_self, same⟩
      · obtain ⟨y, among, found⟩ := ih behind
        exact ⟨y, List.mem_cons_of_mem _ among, found⟩

/-! ## The places of a record -/

/-- A place of a record: what it is called, which values are meant for it, and how it is filled.
-/
structure Slot (σ : Type) where
  name : String
  Value : Type
  /-- The values that may stand there; of others nothing is said. -/
  suits : Tree → Prop
  means : Tree → Option Value
  get : σ → Value
  set : σ → Value → σ

variable {σ : Type}

structure Slot.Serves (slot : Slot σ) (field : RecordField σ) : Prop where
  name : field.name = slot.name
  reads : ∀ record tree, slot.suits tree → ∀ rest,
    (field.read record).get? (tree.tokens ++ rest) =
      (slot.means tree).map fun value => (slot.set record value, rest)

/-- Two places that differ in name, and of which filling one leaves the other as it is. -/
structure Slot.Apart (slot other : Slot σ) : Prop where
  name : slot.name ≠ other.name
  first : ∀ record value, slot.get (other.set record value) = slot.get record
  second : ∀ record value, other.get (slot.set record value) = other.get record

instance : Std.Symm (@Slot.Apart σ) where
  symm _ _ apart := { name := apart.name.symm, first := apart.second, second := apart.first }

structure Shape.Holds (shape : Shape σ) (slots : List (Slot σ)) : Prop where
  fields : List.Forall₂ Slot.Serves slots shape.fields
  apart : slots.Pairwise Slot.Apart
  get_set : ∀ slot ∈ slots, ∀ tree value, slot.means tree = some value →
    ∀ record, slot.get (slot.set record value) = value
  ext : ∀ record other, (∀ slot ∈ slots, slot.get record = slot.get other) → record = other

namespace Shape.Holds

variable {shape : Shape σ} {slots : List (Slot σ)}

theorem distinct (holds : shape.Holds slots) : (slots.map Slot.name).Nodup :=
  List.pairwise_map.mpr (holds.apart.imp Slot.Apart.name)

theorem get_set_of_ne (holds : shape.Holds slots) {slot other : Slot σ} (inside : slot ∈ slots)
    (among : other ∈ slots) (different : slot.name ≠ other.name) (record : σ)
    (value : other.Value) : slot.get (other.set record value) = slot.get record :=
  (holds.apart.forall inside among (different <| congrArg Slot.name ·)).first record value

end Shape.Holds

/-- What may be written for a slot can be read for it. -/
structure Members.Legible (slots : List (Slot σ)) (members : Members) : Prop where
  unrepeated : members.Unrepeated (slots.map Slot.name)
  means : ∀ slot ∈ slots, ∀ tree, members.Has slot.name tree → (slot.means tree).isSome

/-- The record has what is written, and elsewhere what the empty one has. -/
structure Members.Gives (slots : List (Slot σ)) (members : Members) (empty record : σ) : Prop where
  given : ∀ slot ∈ slots, ∀ tree, members.Has slot.name tree →
    slot.means tree = some (slot.get record)
  kept : ∀ slot ∈ slots, (∀ tree, ¬members.Has slot.name tree) → slot.get record = slot.get empty

def Members.Suits (slots : List (Slot σ)) (members : Members) : Prop :=
  ∀ slot ∈ slots, ∀ tree, members.Has slot.name tree → slot.suits tree

namespace Members

variable {names : List String} {key : Key} {tree value : Tree} {members : Members} {name : String}

@[simp] theorem has_nil : ¬Has [] name value := by
  rintro ⟨_, ⟨⟩, -⟩

theorem has_cons : Has ((key, tree) :: members) name value ↔
    key.name = name ∧ tree = value ∨ members.Has name value := by
  constructor
  · rintro ⟨other, inside, called⟩
    rcases List.mem_cons.mp inside with same | later
    · cases same
      exact .inl ⟨called, rfl⟩
    · exact .inr ⟨other, later, called⟩
  · rintro (⟨called, rfl⟩ | ⟨other, later, called⟩)
    · exact ⟨key, List.mem_cons_self, called⟩
    · exact ⟨other, List.mem_cons_of_mem _ later, called⟩

theorem spelled_cons :
    spelled ((key, tree) :: members) = (key.literal, tree) :: members.spelled := rfl

theorem mem_under : (name, value) ∈ members.under names ↔ name ∈ names ∧ members.Has name value := by
  simp only [under, List.mem_filter, List.mem_map, decide_eq_true_eq, Has]
  constructor
  · rintro ⟨⟨⟨key, tree⟩, inside, same⟩, known⟩
    cases same
    exact ⟨known, key, inside, rfl⟩
  · rintro ⟨known, key, inside, rfl⟩
    exact ⟨⟨(key, value), inside, rfl⟩, known⟩

theorem under_cons_of_mem (known : key.name ∈ names) :
    under names ((key, tree) :: members) = (key.name, tree) :: under names members := by
  simp [under, known]

theorem under_cons_of_not_mem (unknown : key.name ∉ names) :
    under names ((key, tree) :: members) = under names members := by
  simp [under, unknown]

theorem unrepeated_cons_of_not_mem (unknown : key.name ∉ names) :
    Unrepeated names ((key, tree) :: members) ↔ members.Unrepeated names := by
  rw [Unrepeated, under_cons_of_not_mem unknown, ← Unrepeated]

theorem unrepeated_cons_of_mem (known : key.name ∈ names) :
    Unrepeated names ((key, tree) :: members) ↔
      (∀ value, ¬members.Has key.name value) ∧ members.Unrepeated names := by
  have fresh : key.name ∉ (members.under names).map (·.1) ↔ ∀ value, ¬members.Has key.name value := by
    simp [mem_under, known]
  rw [Unrepeated, under_cons_of_mem known, List.map_cons, List.nodup_cons, fresh, ← Unrepeated]

end Members

/-! ## Member by member -/

theorem Key.token (key : Key) :
    (Symbol.text key.literal).token = .text (.ok key.name) none := by
  rw [Symbol.token, key.reads, Option.map_some, String.ofList_toList]
  rfl

theorem Key.token_ne_endMap (key : Key) : (Symbol.text key.literal).token ≠ .endMap := by
  simp [key.token]

/-- What has been read after all these members, if `one` is what one member does to it. -/
def Members.absorbWith {π : Type} (one : π → String → Tree → Option π) (before : π) :
    Members → Option π
  | [] => some before
  | (key, tree) :: members =>
      (one before key.name tree).bind fun next => absorbWith one next members

/-- Members are read by the second reader as one is by the first, with commas between them, up to
the end of the map. -/
structure Reader.Loop {π : Type} (member members : π → Reader π) : Prop where
  failed : ∀ before tokens, (member before).get? tokens = none →
    (members before).get? tokens = none
  last : ∀ before after tokens rest, (member before).get? tokens = some (after, .endMap :: rest) →
    (members before).get? tokens = some (after, rest)
  more : ∀ before after tokens rest, (member before).get? tokens = some (after, .comma :: rest) →
    (members before).get? tokens = (members after).get? rest

/-- Members are absorbed one after the other. -/
theorem Reader.Loop.get?_members {π : Type} {member members : π → Reader π}
    (loop : Loop member members) {one : π → String → Tree → Option π} {Fits : Key → Tree → Prop}
    (reads : ∀ before key tree rest, Fits key tree →
      (member before).get? ((Symbol.text key.literal).token :: .colon :: (tree.tokens ++ rest)) =
        (one before key.name tree).map fun after => (after, rest))
    (before : π) {key : Key} {tree : Tree} {entries : Members}
    (fits : ∀ entry ∈ (key, tree) :: entries, Fits entry.1 entry.2) (rest : List Token) :
    (members before).get? ((Symbol.text key.literal).token :: .colon ::
        (tree.tokens ++ (Tree.laterTokens entries.spelled ++ rest))) =
      (Members.absorbWith one before ((key, tree) :: entries)).map fun last => (last, rest) := by
  induction entries generalizing before key tree with
  | nil =>
      have first := reads before key tree (Tree.laterTokens [] ++ rest)
        (fits (key, tree) List.mem_cons_self)
      rw [Members.absorbWith]
      cases found : one before key.name tree with
      | none =>
          rw [found] at first
          exact loop.failed _ _ first
      | some next =>
          rw [found] at first
          exact loop.last _ _ _ _ first
  | cons second entries ih =>
      obtain ⟨nextKey, nextTree⟩ := second
      obtain ⟨fit, later⟩ := List.forall_mem_cons.mp fits
      have first := reads before key tree
        (Tree.laterTokens (Members.spelled ((nextKey, nextTree) :: entries)) ++ rest) fit
      rw [Members.absorbWith]
      cases found : one before key.name tree with
      | none =>
          rw [found] at first
          exact loop.failed _ _ first
      | some next =>
          rw [found, Members.spelled_cons, Tree.laterTokens_cons] at first
          rw [Members.spelled_cons, Tree.laterTokens_cons]
          exact (loop.more _ _ _ _ first).trans (ih next later)

def absorbOne (slots : List (Slot σ)) (progress : Shape.Progress σ) (name : String)
    (tree : Tree) : Option (Shape.Progress σ) :=
  match slots.find? (·.name == name) with
  | none => some progress
  | some slot =>
      if name ∈ progress.seen then none
      else
        (slot.means tree).map fun value =>
          { record := slot.set progress.record value, seen := name :: progress.seen }

def absorb (slots : List (Slot σ)) (before : Shape.Progress σ) (members : Members) :
    Option (Shape.Progress σ) :=
  members.absorbWith (absorbOne slots) before

/-- A value behind a colon. -/
theorem Reader.get?_changed {α β : Type} (f : α → β) (reader : Reader α) (tokens : List Token) :
    ((behindColon reader).map f).get? (.colon :: tokens) =
      (reader.get? tokens).map fun found => (f found.1, found.2) := by
  rw [get?_map, get?_behindColon]

namespace Shape

variable {shape : Shape σ} {slots : List (Slot σ)} {rest tokens : List Token}

theorem find?_serves {fields : List (RecordField σ)} (served : List.Forall₂ Slot.Serves slots fields)
    (name : String) :
    Option.Rel Slot.Serves (slots.find? (·.name == name)) (fields.find? (·.name == name)) := by
  induction served with
  | nil => exact .none
  | @cons slot field slots fields first later ih =>
      rw [List.find?_cons, List.find?_cons, first.name]
      cases slot.name == name with
      | true => exact .some first
      | false => exact ih

theorem get?_memberValue (holds : shape.Holds slots) (progress : Progress σ) (name : String)
    {tree : Tree} (suits : ∀ slot ∈ slots, name = slot.name → slot.suits tree)
    (rest : List Token) :
    Reader.get? (shape.memberValue progress name) (.colon :: (tree.tokens ++ rest)) =
      (absorbOne slots progress name tree).map fun next => (next, rest) := by
  have served := find?_serves holds.fields name
  rw [memberValue, absorbOne, field?]
  cases found : slots.find? (·.name == name) with
  | none =>
      rw [found] at served
      cases none : shape.fields.find? (·.name == name) with
      | some field => rw [none] at served; cases served
      | none =>
          dsimp only
          rw [Reader.get?_changed, Reader.get?_thrown]
          rfl
  | some slot =>
      rw [found] at served
      cases same : shape.fields.find? (·.name == name) with
      | none => rw [same] at served; cases served
      | some field =>
          rw [same] at served
          obtain ⟨serves⟩ := served
          have called : slot.name = name := by simpa using List.find?_some found
          have reads := serves.reads progress.record tree
            (suits slot (List.mem_of_find?_eq_some found) called.symm) rest
          dsimp only
          split
          · rfl
          · rw [Reader.get?_changed, reads]
            cases slot.means tree <;> rfl

/-- A member is read as its slot says, or is passed over. -/
theorem get?_member (holds : shape.Holds slots) (progress : Progress σ) (key : Key) (tree : Tree)
    (rest : List Token) (suits : ∀ slot ∈ slots, key.name = slot.name → slot.suits tree) :
    Reader.get? (shape.member progress)
        ((Symbol.text key.literal).token :: .colon :: (tree.tokens ++ rest)) =
      (absorbOne slots progress key.name tree).map fun next => (next, rest) := by
  rw [key.token, ← get?_memberValue holds progress key.name suits rest]
  exact Reader.get?_of_behind rfl

/-- The members of a record are read in a loop. -/
theorem loop (shape : Shape σ) : Reader.Loop shape.member shape.members where
  failed := by
    intro before tokens found
    rw [Reader.get?] at found
    rw [Reader.get?, members]
    generalize shape.member before tokens = result at found ⊢
    cases result with
    | error problem => rfl
    | ok taken => cases found
  last := by
    intro before after tokens rest found
    rw [Reader.get?] at found
    rw [Reader.get?, members]
    generalize shape.member before tokens = result at found ⊢
    rcases result with problem | ⟨value, behind, shorter⟩ <;> cases found
    rfl
  more := by
    intro before after tokens rest found
    rw [Reader.get?] at found
    rw [Reader.get?, members]
    generalize shape.member before tokens = result at found ⊢
    rcases result with problem | ⟨value, behind, shorter⟩ <;> cases found
    rw [Reader.get?]
    dsimp only
    cases shape.members value rest <;> rfl

def complete? (shape : Shape σ) (progress : Progress σ) : Option σ :=
  (shape.complete progress).toOption

theorem get?_readMap {token : Token} (other : token ≠ .endMap) :
    Reader.get? shape.readMap (token :: tokens) =
      (Reader.get? (shape.members { record := shape.empty, seen := [] }) (token :: tokens)).bind
        fun all => (shape.complete? all.1).map fun record => (record, all.2) := by
  have same : shape.readMap (token :: tokens) =
      (shape.members { record := shape.empty, seen := [] } (token :: tokens)).bind fun all =>
        (shape.complete all.value).map fun record => all.map fun _ => record := by
    cases token <;> first | rfl | exact absurd rfl other
  rw [Reader.get?, Reader.get?, same]
  cases shape.members { record := shape.empty, seen := [] } (token :: tokens) with
  | error problem => rfl
  | ok all =>
      simp only [Except.bind, Option.bind_some, complete?]
      cases shape.complete all.value <;> rfl

theorem get?_readMap_nil :
    Reader.get? shape.readMap (.endMap :: rest) =
      (shape.complete? { record := shape.empty, seen := [] }).map fun record => (record, rest) := by
  rw [Reader.get?, readMap, complete?]
  cases shape.complete { record := shape.empty, seen := [] } <;> rfl

/-- What is read off an object. -/
theorem get?_read_object (holds : shape.Holds slots) {members : Members}
    (suits : members.Suits slots) (rest : List Token) :
    Reader.get? shape.read ((Tree.object members).tokens ++ rest) =
      ((absorb slots { record := shape.empty, seen := [] } members).bind shape.complete?).map
        fun record => (record, rest) := by
  cases members with
  | nil =>
      have tokens : (Tree.object []).tokens ++ rest = .beginMap :: .endMap :: rest := rfl
      rw [tokens, Reader.get?_of_behind rfl, get?_readMap_nil]
      rfl
  | cons member members =>
      obtain ⟨key, tree⟩ := member
      have fits : ∀ entry ∈ (key, tree) :: members, ∀ slot ∈ slots, entry.1.name = slot.name →
          slot.suits entry.2 := fun entry among slot inside called =>
        suits slot inside entry.2 ⟨entry.1, among, called⟩
      rw [Tree.object, Members.spelled_cons, Tree.tokens_map_cons, Reader.get?_of_behind rfl,
        get?_readMap key.token_ne_endMap,
        shape.loop.get?_members (get?_member holds) _ fits rest, ← absorb]
      cases absorb slots { record := shape.empty, seen := [] }
        ((key, tree) :: members) <;> rfl

end Shape

/-! ## What has been absorbed -/

section Absorbing

variable {slots : List (Slot σ)} {shape : Shape σ} {before after : Shape.Progress σ} {key : Key}
  {tree : Tree} {members : Members}

theorem Shape.Holds.find? (holds : shape.Holds slots) {slot : Slot σ} (inside : slot ∈ slots) :
    slots.find? (·.name == slot.name) = some slot := by
  obtain ⟨other, found⟩ : ∃ other, slots.find? (·.name == slot.name) = some other := by
    rw [← Option.isSome_iff_exists, List.find?_isSome]
    exact ⟨slot, inside, beq_self_eq_true _⟩
  have called : other.name = slot.name := by simpa using List.find?_some found
  rw [found, List.inj_on_of_nodup_map holds.distinct (List.mem_of_find?_eq_some found) inside called]

theorem absorb_unknown (unknown : key.name ∉ slots.map Slot.name) :
    absorb slots before ((key, tree) :: members) = absorb slots before members := by
  have none : slots.find? (·.name == key.name) = none := by
    rw [List.find?_eq_none]
    intro slot inside called
    exact unknown (List.mem_map.mpr ⟨slot, inside, by simpa using called⟩)
  rw [absorb, Members.absorbWith, absorbOne, none]
  rfl

theorem absorb_known (holds : shape.Holds slots) {slot : Slot σ} (inside : slot ∈ slots)
    (called : key.name = slot.name) :
    absorb slots before ((key, tree) :: members) =
      if slot.name ∈ before.seen then none
      else (slot.means tree).bind fun value =>
        absorb slots { record := slot.set before.record value, seen := slot.name :: before.seen }
          members := by
  rw [absorb, Members.absorbWith, absorbOne, called, holds.find? inside]
  dsimp only
  split
  · rfl
  · cases slot.means tree <;> rfl

/-- What the members of a record have done to what had been read before them. -/
structure Absorbed (slots : List (Slot σ)) (before after : Shape.Progress σ) (members : Members) :
    Prop where
  unrepeated : members.Unrepeated (slots.map Slot.name)
  fresh : ∀ slot ∈ slots, ∀ tree, members.Has slot.name tree → slot.name ∉ before.seen
  seen : ∀ name, name ∈ after.seen ↔
    name ∈ before.seen ∨ ∃ slot ∈ slots, slot.name = name ∧ ∃ tree, members.Has name tree
  given : ∀ slot ∈ slots, ∀ tree, members.Has slot.name tree →
    slot.means tree = some (slot.get after.record)
  kept : ∀ slot ∈ slots, (∀ tree, ¬members.Has slot.name tree) →
    slot.get after.record = slot.get before.record

/-- A member that is no field changes nothing. -/
theorem Absorbed.unknown (unknown : key.name ∉ slots.map Slot.name)
    (later : Absorbed slots before after members) :
    Absorbed slots before after ((key, tree) :: members) := by
  have has : ∀ slot ∈ slots, ∀ value,
      Members.Has ((key, tree) :: members) slot.name value ↔ members.Has slot.name value := by
    intro slot inside value
    rw [Members.has_cons, or_iff_right]
    rintro ⟨called, -⟩
    exact unknown (called ▸ List.mem_map_of_mem inside)
  constructor
  · exact (Members.unrepeated_cons_of_not_mem unknown).mpr later.unrepeated
  · intro slot inside value given
    exact later.fresh slot inside value ((has slot inside value).mp given)
  · intro name
    rw [later.seen, or_congr_right]
    refine exists_congr fun slot => and_congr_right fun inside => ?_
    constructor <;> rintro ⟨rfl, value, given⟩
    · exact ⟨rfl, value, (has slot inside value).mpr given⟩
    · exact ⟨rfl, value, (has slot inside value).mp given⟩
  · intro slot inside value given
    exact later.given slot inside value ((has slot inside value).mp given)
  · intro slot inside absent
    exact later.kept slot inside fun value given =>
      absent value ((has slot inside value).mpr given)

/-- A field is filled by its member, and by no later one. -/
theorem Absorbed.known (holds : shape.Holds slots) {slot : Slot σ} (inside : slot ∈ slots)
    (called : key.name = slot.name) (unseen : slot.name ∉ before.seen) {value : slot.Value}
    (means : slot.means tree = some value)
    (later : Absorbed slots
      { record := slot.set before.record value, seen := slot.name :: before.seen } after members) :
    Absorbed slots before after ((key, tree) :: members) := by
  have alone : ∀ value, ¬members.Has slot.name value := fun value given =>
    later.fresh slot inside value given List.mem_cons_self
  constructor
  · rw [Members.unrepeated_cons_of_mem (called ▸ List.mem_map_of_mem inside), called]
    exact ⟨alone, later.unrepeated⟩
  · intro other among value given
    rcases Members.has_cons.mp given with ⟨same, -⟩ | behind
    · rwa [← same, called]
    · exact fun seen => later.fresh other among value behind (List.mem_cons_of_mem _ seen)
  · intro name
    rw [later.seen, List.mem_cons]
    constructor
    · rintro ((rfl | seen) | ⟨other, among, same, value, given⟩)
      · exact .inr ⟨slot, inside, rfl, tree, Members.has_cons.mpr (.inl ⟨called, rfl⟩)⟩
      · exact .inl seen
      · exact .inr ⟨other, among, same, value, Members.has_cons.mpr (.inr given)⟩
    · rintro (seen | ⟨other, among, same, value, given⟩)
      · exact .inl (.inr seen)
      · rcases Members.has_cons.mp given with ⟨again, -⟩ | behind
        · exact .inl (.inl (again.symm.trans called))
        · exact .inr ⟨other, among, same, value, behind⟩
  · intro other among written given
    rcases Members.has_cons.mp given with ⟨same, rfl⟩ | behind
    · cases List.inj_on_of_nodup_map holds.distinct among inside (same.symm.trans called)
      rw [later.kept slot inside alone, holds.get_set slot inside tree value means, means]
    · exact later.given other among written behind
  · intro other among absent
    rw [later.kept other among fun value given => absent value (Members.has_cons.mpr (.inr given))]
    refine holds.get_set_of_ne among inside (fun same => ?_) before.record value
    exact absent tree (Members.has_cons.mpr (.inl ⟨called.trans same.symm, rfl⟩))

theorem Absorbed.of_absorb (holds : shape.Holds slots)
    (absorbed : absorb slots before members = some after) :
    Absorbed slots before after members := by
  induction members generalizing before with
  | nil =>
      cases absorbed
      exact
        { unrepeated := List.nodup_nil
          fresh := fun _ _ _ has => absurd has Members.has_nil
          seen := fun name => by simp
          given := fun _ _ _ has => absurd has Members.has_nil
          kept := fun _ _ _ => rfl }
  | cons member members ih =>
      obtain ⟨key, tree⟩ := member
      by_cases known : key.name ∈ slots.map Slot.name
      · obtain ⟨slot, inside, called⟩ := List.mem_map.mp known
        rw [absorb_known holds inside called.symm] at absorbed
        split at absorbed
        · cases absorbed
        · rename_i unseen
          obtain ⟨value, means, later⟩ := Option.bind_eq_some_iff.mp absorbed
          exact .known holds inside called.symm unseen means (ih later)
      · rw [absorb_unknown known] at absorbed
        exact .unknown known (ih absorbed)

/-- Members that can be read and are not there yet are absorbed. -/
theorem exists_absorb (holds : shape.Holds slots) (legible : members.Legible slots)
    (fresh : ∀ slot ∈ slots, ∀ tree, members.Has slot.name tree → slot.name ∉ before.seen) :
    ∃ after, absorb slots before members = some after := by
  induction members generalizing before with
  | nil => exact ⟨before, rfl⟩
  | cons member members ih =>
      obtain ⟨key, tree⟩ := member
      have means : ∀ slot ∈ slots, ∀ tree, Members.Has members slot.name tree →
          (slot.means tree).isSome := fun slot inside tree given =>
        legible.means slot inside tree (Members.has_cons.mpr (.inr given))
      by_cases known : key.name ∈ slots.map Slot.name
      · obtain ⟨slot, inside, called⟩ := List.mem_map.mp known
        have first : Members.Has ((key, tree) :: members) slot.name tree :=
          Members.has_cons.mpr (.inl ⟨called.symm, rfl⟩)
        obtain ⟨alone, unrepeated⟩ :=
          (Members.unrepeated_cons_of_mem known).mp legible.unrepeated
        obtain ⟨value, found⟩ :=
          Option.isSome_iff_exists.mp (legible.means slot inside tree first)
        rw [absorb_known holds inside called.symm, if_neg (fresh slot inside tree first), found]
        refine ih ⟨unrepeated, means⟩ fun other among written given => ?_
        rw [List.mem_cons, not_or]
        refine ⟨fun same => alone written ?_, fresh other among written
          (Members.has_cons.mpr (.inr given))⟩
        rwa [← called, ← same]
      · rw [absorb_unknown known]
        refine ih ⟨(Members.unrepeated_cons_of_not_mem known).mp legible.unrepeated, means⟩ ?_
        exact fun slot inside written given =>
          fresh slot inside written (Members.has_cons.mpr (.inr given))

end Absorbing

/-! ## Records -/

section Records

variable {shape : Shape σ} {slots : List (Slot σ)} {members : Members}

def Shape.Complete (shape : Shape σ) (slots : List (Slot σ)) (members : Members) : Prop :=
  shape.optional = true ∨ ∀ slot ∈ slots, ∃ tree, members.Has slot.name tree

theorem Slot.names_eq {fields : List (RecordField σ)}
    (served : List.Forall₂ Slot.Serves slots fields) :
    slots.map Slot.name = fields.map RecordField.name := by
  induction served with
  | nil => rfl
  | cons first _ ih => rw [List.map_cons, List.map_cons, ih, first.name]

theorem Shape.complete?_eq_some_iff (holds : shape.Holds slots) {progress : Progress σ}
    {record : σ} :
    shape.complete? progress = some record ↔
      (shape.optional = true ∨ ∀ slot ∈ slots, slot.name ∈ progress.seen) ∧
        progress.record = record := by
  have same : (∀ slot ∈ slots, slot.name ∈ progress.seen) ↔
      ∀ field ∈ shape.fields, field.name ∈ progress.seen := by
    simpa using congrArg (fun names => ∀ name ∈ names, name ∈ progress.seen)
      (Slot.names_eq holds.fields)
  rw [same, complete?, complete]
  cases missing : shape.fields.find? fun field => field.name ∉ progress.seen with
  | none =>
      have all : ∀ field ∈ shape.fields, field.name ∈ progress.seen := by simpa using missing
      rw [and_iff_right (.inr all)]
      exact Option.some_inj
  | some field =>
      have absent : field.name ∉ progress.seen := by simpa using List.find?_some missing
      have not_all : ¬∀ field ∈ shape.fields, field.name ∈ progress.seen := fun all =>
        absent (all field (List.mem_of_find?_eq_some missing))
      cases shape.optional <;> simp [Except.toOption, not_all]

/-- Two records with what is written and what is kept are the same. -/
theorem Members.Gives.unique (holds : shape.Holds slots) {empty record other : σ}
    (gives : members.Gives slots empty record) (again : members.Gives slots empty other) :
    record = other := by
  refine holds.ext record other fun slot inside => ?_
  by_cases given : ∃ tree, members.Has slot.name tree
  · obtain ⟨tree, has⟩ := given
    exact Option.some.inj ((gives.given slot inside tree has).symm.trans
      (again.given slot inside tree has))
  · have absent := not_exists.mp given
    rw [gives.kept slot inside absent, again.kept slot inside absent]

/-- What is read has what is written. -/
theorem Absorbed.gives {before after : Shape.Progress σ}
    (absorbed : Absorbed slots before after members) :
    members.Legible slots ∧ members.Gives slots before.record after.record := by
  refine ⟨⟨absorbed.unrepeated, fun slot inside tree given => ?_⟩, absorbed.given, absorbed.kept⟩
  rw [absorbed.given slot inside tree given]
  rfl

theorem Absorbed.complete?_eq_some_iff (holds : shape.Holds slots) {after : Shape.Progress σ}
    (absorbed : Absorbed slots { record := shape.empty, seen := [] } after members) {record : σ} :
    shape.complete? after = some record ↔
      shape.Complete slots members ∧ members.Gives slots shape.empty record := by
  have seen : ∀ slot ∈ slots, (slot.name ∈ after.seen ↔ ∃ tree, members.Has slot.name tree) := by
    intro slot inside
    rw [absorbed.seen, or_iff_right List.not_mem_nil]
    constructor
    · rintro ⟨_, -, -, given⟩
      exact given
    · exact fun given => ⟨slot, inside, rfl, given⟩
  rw [Shape.complete?_eq_some_iff holds, Shape.Complete, forall₂_congr seen]
  refine and_congr_right fun _ => ⟨?_, fun gives => absorbed.gives.2.unique holds gives⟩
  rintro rfl
  exact absorbed.gives.2

theorem Members.Legible.exists_absorbed (holds : shape.Holds slots)
    (legible : members.Legible slots) :
    ∃ after, absorb slots { record := shape.empty, seen := [] } members = some after ∧
      Absorbed slots { record := shape.empty, seen := [] } after members := by
  obtain ⟨after, absorbed⟩ :
      ∃ after, absorb slots { record := shape.empty, seen := [] } members = some after :=
    exists_absorb holds legible fun _ _ _ _ => List.not_mem_nil
  exact ⟨after, absorbed, .of_absorb holds absorbed⟩

/-- A record is read from an object exactly if it has what is written there, where that can be
read and is all that is needed. -/
theorem Shape.get?_read_eq_some_iff (holds : shape.Holds slots) (suits : members.Suits slots)
    {record : σ} {rest behind : List Token} :
    Reader.get? shape.read ((Tree.object members).tokens ++ rest) = some (record, behind) ↔
      (members.Legible slots ∧ shape.Complete slots members ∧
        members.Gives slots shape.empty record) ∧ rest = behind := by
  rw [get?_read_object holds suits, Option.map_eq_some_iff]
  constructor
  · rintro ⟨found, read, ⟨⟩⟩
    obtain ⟨after, absorbed, complete⟩ := Option.bind_eq_some_iff.mp read
    have all := Absorbed.of_absorb holds absorbed
    exact ⟨⟨all.gives.1, (all.complete?_eq_some_iff holds).mp complete⟩, rfl⟩
  · rintro ⟨⟨legible, given⟩, rfl⟩
    obtain ⟨after, absorbed, all⟩ := legible.exists_absorbed holds
    refine ⟨record, ?_, rfl⟩
    rw [absorbed, Option.bind_some]
    exact (all.complete?_eq_some_iff holds).mpr given

/-- The same for a whole text that spells an object. -/
theorem Shape.parse_eq_ok_iff (holds : shape.Holds slots) (suits : members.Suits slots)
    {text : String} (spells : Spells (Tree.object members).symbols text.toList) {record : σ} :
    parse shape.read text = .ok record ↔
      members.Legible slots ∧ shape.Complete slots members ∧
        members.Gives slots shape.empty record := by
  have read : Reader.get? shape.read ((Tree.object members).tokens ++ []) = some (record, []) ↔ _ :=
    get?_read_eq_some_iff holds suits
  rw [List.append_nil, and_iff_left rfl] at read
  rw [Json.parse_eq_ok_iff, Tree.scan_of_spells spells, read]

/-- Members that can be read give a record. -/
theorem Members.Legible.exists_gives (holds : shape.Holds slots) (legible : members.Legible slots) :
    ∃ record, members.Gives slots shape.empty record := by
  obtain ⟨after, -, all⟩ := legible.exists_absorbed holds
  exact ⟨after.record, all.gives.2⟩

end Records

end SampleCapture.Json
