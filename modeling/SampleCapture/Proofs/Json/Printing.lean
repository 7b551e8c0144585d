import Mathlib.Tactic.SplitIfs
import SampleCapture.Json.Printer
import SampleCapture.Proofs.Json.Objects

/-!
# What is printed

Printed text spells the symbols of a value, without blanks: a string with the shortest escapes, a
natural with its digits, and a record as an object with one member for each field.
-/

namespace SampleCapture.Json

/-! ## Strings -/

def HexDigit.lower (value : Fin 16) : HexDigit where
  value := value
  upper := false

/-- A character spelled with its number, which has at most two digits. -/
def Piece.code (n : Nat) (small : n < 256) : Piece :=
  .unit (.lower 0) (.lower 0) (.lower ⟨n / 16, by omega⟩) (.lower ⟨n % 16, by omega⟩)

def Piece.ofChar (c : Char) : Piece :=
  if quote : c = '"' then .escape .quote
  else if backslash : c = '\\' then .escape .backslash
  else if c = '\n' then .escape .lineFeed
  else if c = '\r' then .escape .carriageReturn
  else if c = '\t' then .escape .tab
  else if c.toNat = 8 then .escape .backspace
  else if c.toNat = 12 then .escape .formFeed
  else if control : c.toNat < 32 then .code c.toNat (by omega)
  else .plain c ⟨by omega, quote, backslash⟩

theorem Piece.chars_code : ∀ n (control : n < 32), (code n (by omega)).chars =
    '\\' :: 'u' :: List.replicate (4 - (Nat.toDigits 16 n).length) '0' ++ Nat.toDigits 16 n := by
  decide

theorem Piece.chars_ofChar (c : Char) : (ofChar c).chars = Printer.textChar c := by
  unfold ofChar Printer.textChar
  split_ifs
  any_goals rfl
  exact chars_code c.toNat ‹_›

namespace Literal

theorem value?_cons_code {n : Nat} (small : n < 256) (rest : Literal) :
    value? (.code n small :: rest) = (Char.ofNat n :: ·) <$> value? rest := by
  have same : unitValue (.lower 0) (.lower 0) (.lower ⟨n / 16, by omega⟩)
      (.lower ⟨n % 16, by omega⟩) = n := by
    simp only [unitValue, HexDigit.lower]
    omega
  rw [Piece.code, value?.eq_def]
  dsimp only
  rw [same, if_neg (by omega), if_neg (by omega)]

theorem value?_cons_ofChar (c : Char) (rest : Literal) :
    value? (.ofChar c :: rest) = (c :: ·) <$> value? rest := by
  have code : ∀ n, c.toNat = n → Char.ofNat n = c := by
    rintro _ rfl
    exact Char.ofNat_toNat c
  unfold Piece.ofChar
  split_ifs with quote backslash feed ret tab back form control
  case neg => rfl
  · rw [quote, value?, Escape.char]
  · rw [backslash, value?, Escape.char]
  · rw [feed, value?, Escape.char]
  · rw [ret, value?, Escape.char]
  · rw [tab, value?, Escape.char]
  · rw [value?, Escape.char, code 8 back]
  · rw [value?, Escape.char, code 12 form]
  · rw [value?_cons_code, code _ rfl]

def ofString (value : String) : Literal :=
  value.toList.map .ofChar

theorem value?_ofString (value : String) : (ofString value).value? = some value.toList := by
  rw [ofString]
  induction value.toList with
  | nil => rfl
  | cons c rest ih =>
      rw [List.map_cons, value?_cons_ofChar, ih]
      rfl

theorem chars_ofString (value : String) :
    (ofString value).chars = value.toList.flatMap Printer.textChar := by
  rw [ofString, chars, List.flatMap_map]
  exact congrArg value.toList.flatMap (funext Piece.chars_ofChar)

end Literal

theorem text_eq_chars (value : String) :
    Printer.text value = (Symbol.text (.ofString value)).chars := by
  rw [Printer.text, Symbol.chars, Literal.chars_ofString]
  rfl

def Key.ofString (name : String) : Key where
  literal := .ofString name
  name := name
  reads := Literal.value?_ofString name

/-! ## Values -/

def Tree.compact (tree : Tree) : List Char :=
  tree.symbols.flatMap Symbol.chars

theorem Tree.spells_compact (tree : Tree) : Spells tree.symbols tree.compact :=
  .compact tree.symbols

theorem text_eq_compact (value : String) :
    Printer.text value = (Tree.text (.ofString value)).compact := by
  rw [Printer.text, ← Literal.chars_ofString]
  exact (List.append_nil _).symm

def Tree.ofNat (n : Nat) : Tree :=
  .number (.ofNat n)

theorem Tree.natural?_ofNat {n bound : Nat} (below : n < bound) :
    (Tree.ofNat n).natural? bound = some n :=
  Tree.natural?_eq_some_iff.mpr ⟨below, .ofNat n, rfl, Numeral.integer?_ofNat n⟩

theorem natural_eq_compact (n : Nat) : Printer.natural n = (Tree.ofNat n).compact := by
  rw [Printer.natural, ← Numeral.chars_ofNat]
  exact (List.append_nil _).symm

def Members.ofEntries (entries : List (String × Tree)) : Members :=
  entries.map fun entry => (.ofString entry.1, entry.2)

def memberText (entry : String × Tree) : List Char :=
  Printer.member (entry.1, entry.2.compact)

theorem chars_member (entry : String × Tree) (later : List Symbol) :
    (Symbol.text (.ofString entry.1) :: .colon :: (entry.2.symbols ++ later)).flatMap Symbol.chars =
      memberText entry ++ later.flatMap Symbol.chars := by
  simp [memberText, Printer.member, text_eq_chars, Tree.compact, Symbol.chars]

theorem commaSeparated_eq (entry : String × Tree) (entries : List (String × Tree)) :
    Printer.commaSeparated ((entry :: entries).map memberText) ++ ['\x7d'] =
      memberText entry ++
        (Tree.laterMembers (Members.ofEntries entries).spelled).flatMap Symbol.chars := by
  induction entries generalizing entry with
  | nil => rfl
  | cons second entries ih =>
      have later : Tree.laterMembers (Members.ofEntries (second :: entries)).spelled =
          .comma :: .text (.ofString second.1) :: .colon ::
            (second.2.symbols ++ Tree.laterMembers (Members.ofEntries entries).spelled) := rfl
      rw [later, List.flatMap_cons, chars_member, ← ih second]
      simp [Printer.commaSeparated, Symbol.chars]

/-- A record is printed as an object. -/
theorem record_eq_compact (entries : List (String × Tree)) :
    Printer.record (entries.map fun entry => (entry.1, entry.2.compact)) =
      (Tree.object (.ofEntries entries)).compact := by
  have texts : (entries.map fun entry => (entry.1, entry.2.compact)).map Printer.member =
      entries.map memberText := List.map_map
  rw [Printer.record, texts]
  cases entries with
  | nil => rfl
  | cons entry entries =>
      have symbols : (Tree.object (Members.ofEntries (entry :: entries))).symbols =
          .beginMap :: .text (.ofString entry.1) :: .colon ::
            (entry.2.symbols ++ Tree.laterMembers (Members.ofEntries entries).spelled) := rfl
      rw [Tree.compact, symbols, List.flatMap_cons, chars_member, List.cons_append,
        commaSeparated_eq]
      rfl

/-! ## Reading what is printed -/

variable {σ : Type} {shape : Shape σ} {slots : List (Slot σ)} {record : σ}
  {entries : List (String × Tree)}

/-- The entry is what the record has for the slot. -/
structure Slot.Shows (record : σ) (slot : Slot σ) (entry : String × Tree) : Prop where
  name : entry.1 = slot.name
  suits : slot.suits entry.2
  means : slot.means entry.2 = some (slot.get record)

theorem Members.has_ofEntries {name : String} {tree : Tree} :
    (ofEntries entries).Has name tree ↔ (name, tree) ∈ entries := by
  simp only [Has, ofEntries, List.mem_map]
  constructor
  · rintro ⟨_, ⟨⟨name, tree⟩, inside, ⟨⟩⟩, rfl⟩
    exact inside
  · intro inside
    exact ⟨_, ⟨(name, tree), inside, rfl⟩, rfl⟩

theorem Members.under_ofEntries (names : List String) :
    (ofEntries entries).under names = entries.filter (·.1 ∈ names) := by
  rw [under, ofEntries, List.map_map]
  exact congrArg _ (List.map_id entries)

section Shown

variable (shows : List.Forall₂ (Slot.Shows record) slots entries)

include shows

theorem Slot.names_of_shows : entries.map (·.1) = slots.map Slot.name := by
  rw [← List.forall₂_eq_eq_eq, List.forall₂_map_left_iff, List.forall₂_map_right_iff]
  exact shows.flip.imp fun _ _ => Slot.Shows.name

theorem Slot.shows_of_mem (holds : shape.Holds slots) {slot : Slot σ} (inside : slot ∈ slots)
    {tree : Tree} (written : (slot.name, tree) ∈ entries) :
    slot.Shows record (slot.name, tree) := by
  obtain ⟨other, among, same⟩ := exists_of_forall₂ shows.flip written
  cases List.inj_on_of_nodup_map holds.distinct among inside same.name.symm
  exact same

/-- What is printed for the slots of a record gives that record. -/
theorem Members.ofEntries_gives (holds : shape.Holds slots) (empty : σ) :
    (ofEntries entries).Legible slots ∧ shape.Complete slots (ofEntries entries) ∧
      (ofEntries entries).Gives slots empty record := by
  have has : ∀ slot ∈ slots, ∃ tree, (ofEntries entries).Has slot.name tree := by
    intro slot inside
    obtain ⟨⟨name, tree⟩, written, same⟩ := exists_of_forall₂ shows inside
    cases same.name
    exact ⟨tree, has_ofEntries.mpr written⟩
  have means : ∀ slot ∈ slots, ∀ tree, (ofEntries entries).Has slot.name tree →
      slot.means tree = some (slot.get record) := fun slot inside tree given =>
    (Slot.shows_of_mem shows holds inside (has_ofEntries.mp given)).means
  refine ⟨⟨?_, fun slot inside tree given => ?_⟩, .inr has, means, fun slot inside absent => ?_⟩
  · have known : ∀ entry ∈ entries, decide (entry.1 ∈ slots.map Slot.name) = true := by
      intro entry written
      rw [decide_eq_true_eq, ← Slot.names_of_shows shows]
      exact List.mem_map_of_mem written
    rw [Unrepeated, under_ofEntries, List.filter_eq_self.mpr known, Slot.names_of_shows shows]
    exact holds.distinct
  · rw [means slot inside tree given]
    rfl
  · obtain ⟨tree, given⟩ := has slot inside
    exact absurd given (absent tree)

theorem Members.ofEntries_suits (holds : shape.Holds slots) : (ofEntries entries).Suits slots :=
  fun _ inside _ given => (Slot.shows_of_mem shows holds inside (has_ofEntries.mp given)).suits

/-- A record is read back from what is printed for its slots. -/
theorem Shape.parse_entries (holds : shape.Holds slots) :
    parse shape.read (String.ofList (Tree.object (.ofEntries entries)).compact) = .ok record := by
  have spells : Spells (Tree.object (.ofEntries entries)).symbols
      (String.ofList (Tree.object (.ofEntries entries)).compact).toList := by
    rw [String.toList_ofList]
    exact Tree.spells_compact _
  rw [parse_eq_ok_iff holds (Members.ofEntries_suits shows holds) spells]
  exact Members.ofEntries_gives shows holds shape.empty

end Shown

end SampleCapture.Json
