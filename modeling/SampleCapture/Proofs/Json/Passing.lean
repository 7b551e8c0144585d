import SampleCapture.Json.Skip
import SampleCapture.Proofs.Json.Scan

/-!
# Passing over values

A value that is skipped is passed over whatever is in it. One that is set aside is passed over if
its strings and numbers can be read and it is not nested too deeply.
-/

namespace SampleCapture.Json

/-- A string has characters, and a number stays in the range of doubles while it is scaled. -/
def Symbol.Readable : Symbol → Prop
  | number numeral => numeral.parts.value.isSome
  | text literal => literal.value?.isSome
  | _ => True

def passBehind (scrutiny : Scrutiny) (frames : List Frame) (rest : List Token) :
    Except Problem (List Token) :=
  if frames = [] then .ok rest else passOver scrutiny frames .behind rest

section Walking

variable {scrutiny : Scrutiny} {frames inner : List Frame} {place next : Place} {token : Token}
  {rest : List Token}

theorem passOver_next (turn : Turn.take scrutiny frames place token = .next inner next) :
    passOver scrutiny frames place (token :: rest) = passOver scrutiny inner next rest := by
  rw [passOver, turn]

theorem passOver_ended (turn : Turn.take scrutiny frames place token = Turn.ended inner) :
    passOver scrutiny frames place (token :: rest) = passBehind scrutiny inner rest := by
  rw [passOver, turn]
  cases inner <;> rfl

/-- The walk does not mind this symbol. -/
def Scrutiny.Suits (scrutiny : Scrutiny) (symbol : Symbol) : Prop :=
  scrutiny.reads = true → symbol.Readable

theorem ofNumber_eq_none {numeral : Numeral} (suits : scrutiny.Suits (.number numeral)) :
    scrutiny.ofNumber (orMalformed numeral.parts.value) true = none := by
  cases reads : scrutiny.reads with
  | false => simp [Scrutiny.ofNumber, reads]
  | true =>
      obtain ⟨value, found⟩ := Option.isSome_iff_exists.mp (suits reads)
      simp [Scrutiny.ofNumber, reads, found, orMalformed]

theorem ofText_eq_none {literal : Literal} (suits : scrutiny.Suits (.text literal)) :
    scrutiny.ofText (orMalformed (literal.value?.map String.ofList)) none = none := by
  cases reads : scrutiny.reads with
  | false => simp [Scrutiny.ofText, reads]
  | true =>
      obtain ⟨value, found⟩ := Option.isSome_iff_exists.mp (suits reads)
      simp [Scrutiny.ofText, reads, found, orMalformed]

/-- A key and its colon lead to a value. -/
theorem passOver_key {literal : Literal} (suits : scrutiny.Suits (.text literal))
    (at_ : place = .mapStart ∨ place = .key) :
    passOver scrutiny frames place
        ((Symbol.text literal).token :: .colon :: rest) =
      passOver scrutiny frames .value rest := by
  have turn : Turn.take scrutiny frames place (Symbol.text literal).token =
      .next frames .colon := by
    rcases at_ with rfl | rfl <;>
      simp [Symbol.token, Turn.take, Turn.atKey, ofText_eq_none suits]
  rw [passOver_next turn, passOver_next rfl]

/-- Where a list begins, a first item is what it is elsewhere. -/
theorem passOver_listStart (tree : Tree) :
    passOver scrutiny frames .listStart (tree.tokens ++ rest) =
      passOver scrutiny frames .value (tree.tokens ++ rest) := by
  cases tree with
  | list items => cases items <;> rfl
  | map members => cases members <;> rfl
  | _ => rfl

end Walking

namespace Tree

/-- A walk comes to the end of this value, whatever containers are open. -/
def Passes (scrutiny : Scrutiny) (tree : Tree) : Prop :=
  ∀ frames rest, (∀ symbol ∈ tree.symbols, scrutiny.Suits symbol) →
    (∀ limit, scrutiny.depth = some limit → frames.length + tree.depth ≤ limit) →
    passOver scrutiny frames .value (tree.tokens ++ rest) = passBehind scrutiny frames rest

section Containers

variable {scrutiny : Scrutiny} {frames : List Frame} {rest : List Token}

/-- Inside a container, a walk comes to what stands behind the value. -/
theorem Passes.inside {tree : Tree} (passes : tree.Passes scrutiny)
    (suits : ∀ symbol ∈ tree.symbols, scrutiny.Suits symbol)
    (room : ∀ limit, scrutiny.depth = some limit → frames.length + 1 + tree.depth ≤ limit)
    (frame : Frame) (rest : List Token) :
    passOver scrutiny (frame :: frames) .value (tree.tokens ++ rest) =
      passOver scrutiny (frame :: frames) .behind rest :=
  passes _ _ suits room

/-- A comma leads to the next item. -/
theorem passOver_comma_item (item : Tree) (items : List Tree) :
    passOver scrutiny (.list :: frames) .behind
        ((laterItems (item :: items)).map Symbol.token ++ rest) =
      passOver scrutiny (.list :: frames) .value
        (item.tokens ++ ((laterItems items).map Symbol.token ++ rest)) := by
  rw [laterItems, List.map_cons, List.cons_append, tokens_append]
  exact passOver_next rfl

theorem passOver_laterItems {items : List Tree} (each : ∀ item ∈ items, item.Passes scrutiny)
    (suits : ∀ symbol ∈ laterItems items, scrutiny.Suits symbol)
    (room : ∀ limit, scrutiny.depth = some limit →
      frames.length + 1 + depthOfItems items ≤ limit) :
    passOver scrutiny (.list :: frames) .behind ((laterItems items).map Symbol.token ++ rest) =
      passBehind scrutiny frames rest := by
  induction items with
  | nil => exact passOver_ended rfl
  | cons item items ih =>
      obtain ⟨first, later⟩ := List.forall_mem_cons.mp each
      rw [laterItems, List.forall_mem_cons, List.forall_mem_append] at suits
      simp only [depthOfItems] at room
      rw [passOver_comma_item]
      calc passOver scrutiny (.list :: frames) .value
            (item.tokens ++ ((laterItems items).map Symbol.token ++ rest))
          = passOver scrutiny (.list :: frames) .behind
              ((laterItems items).map Symbol.token ++ rest) := by
            refine first.inside suits.2.1 (fun limit bounded => ?_) _ _
            have fits := room limit bounded
            omega
        _ = passBehind scrutiny frames rest := by
            refine ih later suits.2.2 fun limit bounded => ?_
            have fits := room limit bounded
            omega

/-- A comma and a key lead to the next value. -/
theorem passOver_comma_member {key : Literal} (suits : scrutiny.Suits (.text key)) (value : Tree)
    (members : List (Literal × Tree)) :
    passOver scrutiny (.map :: frames) .behind (laterTokens ((key, value) :: members) ++ rest) =
      passOver scrutiny (.map :: frames) .value
        (value.tokens ++ (laterTokens members ++ rest)) := by
  rw [laterTokens_cons, passOver_next rfl, passOver_key suits (.inr rfl)]

theorem passOver_laterMembers {members : List (Literal × Tree)}
    (each : ∀ member ∈ members, member.2.Passes scrutiny)
    (suits : ∀ symbol ∈ laterMembers members, scrutiny.Suits symbol)
    (room : ∀ limit, scrutiny.depth = some limit →
      frames.length + 1 + depthOfMembers members ≤ limit) :
    passOver scrutiny (.map :: frames) .behind (laterTokens members ++ rest) =
      passBehind scrutiny frames rest := by
  induction members with
  | nil => exact passOver_ended rfl
  | cons member members ih =>
      obtain ⟨key, value⟩ := member
      obtain ⟨first, later⟩ := List.forall_mem_cons.mp each
      dsimp only at first
      rw [laterMembers, List.forall_mem_cons, List.forall_mem_cons, List.forall_mem_cons,
        List.forall_mem_append] at suits
      simp only [depthOfMembers] at room
      rw [passOver_comma_member suits.2.1]
      calc passOver scrutiny (.map :: frames) .value
            (value.tokens ++ (laterTokens members ++ rest))
          = passOver scrutiny (.map :: frames) .behind (laterTokens members ++ rest) := by
            refine first.inside suits.2.2.2.1 (fun limit bounded => ?_) _ _
            have fits := room limit bounded
            omega
        _ = passBehind scrutiny frames rest := by
            refine ih later suits.2.2.2.2 fun limit bounded => ?_
            have fits := room limit bounded
            omega

theorem admits_of_room {depth : Nat}
    (room : ∀ limit, scrutiny.depth = some limit → frames.length + (depth + 1) ≤ limit) :
    scrutiny.admits frames = true := by
  cases bounded : scrutiny.depth with
  | none => simp [Scrutiny.admits, bounded]
  | some limit =>
      have fits := room limit bounded
      simp only [Scrutiny.admits, bounded, Option.all_some, decide_eq_true_eq]
      omega

/-- Any value is passed over, if its symbols suit and it is not nested too deeply. In a container,
the first value is passed over as if it stood behind a comma. -/
theorem passes (scrutiny : Scrutiny) (tree : Tree) : tree.Passes scrutiny := by
  induction tree using induct with
  | null => exact fun frames rest suits room => passOver_ended rfl
  | boolean value => exact fun frames rest suits room => passOver_ended rfl
  | number numeral =>
      intro frames rest suits room
      refine passOver_ended ?_
      have none := ofNumber_eq_none (suits _ List.mem_cons_self)
      simp [Symbol.token, Turn.take, Turn.atValue, none]
  | text literal =>
      intro frames rest suits room
      refine passOver_ended ?_
      have none := ofText_eq_none (suits _ List.mem_cons_self)
      simp [Symbol.token, Turn.take, Turn.atValue, none]
  | list items ih =>
      intro frames rest suits room
      rw [depth] at room
      have begins : Turn.take scrutiny frames .value .beginList =
          .next (.list :: frames) .listStart := by
        simp [Turn.take, Turn.atValue, admits_of_room room]
      cases items with
      | nil => exact (passOver_next begins).trans (passOver_ended rfl)
      | cons item items =>
          have others : ∀ symbol ∈ laterItems (item :: items), scrutiny.Suits symbol :=
            List.forall_mem_cons.mpr ⟨fun _ => trivial, (List.forall_mem_cons.mp suits).2⟩
          rw [tokens_list_cons, passOver_next begins, passOver_listStart, ← passOver_comma_item]
          refine passOver_laterItems ih others fun limit bounded => ?_
          have fits := room limit bounded
          omega
  | map members ih =>
      intro frames rest suits room
      rw [depth] at room
      have begins : Turn.take scrutiny frames .value .beginMap =
          .next (.map :: frames) .mapStart := by
        simp [Turn.take, Turn.atValue, admits_of_room room]
      cases members with
      | nil => exact (passOver_next begins).trans (passOver_ended rfl)
      | cons member members =>
          obtain ⟨key, value⟩ := member
          obtain ⟨-, inside⟩ := List.forall_mem_cons.mp suits
          obtain ⟨name, -⟩ := List.forall_mem_cons.mp inside
          have others : ∀ symbol ∈ laterMembers ((key, value) :: members), scrutiny.Suits symbol :=
            List.forall_mem_cons.mpr ⟨fun _ => trivial, inside⟩
          rw [tokens_map_cons, passOver_next begins, passOver_key name (.inl rfl),
            ← passOver_comma_member name]
          refine passOver_laterMembers ih others fun limit bounded => ?_
          have fits := room limit bounded
          omega

end Containers

end Tree

end SampleCapture.Json
