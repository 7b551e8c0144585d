import SampleCapture.Proofs.Json.Range
import SampleCapture.Proofs.Options.RoundTrip

/-!
# Stop reasons read back

A stop reason is read back from what is written for it, also if its members are in another order
and among other members. These are set aside while the kind is looked for, so that their strings
and numbers have to be such that they can be read, and they may not be nested too deeply.
-/

namespace SampleCapture

open Json

namespace StopReason

/-! ## Members that are set aside -/

def firstToken (tree : Tree) : Token :=
  tree.tokens.head?.getD .null

/-- A value that may be set aside: it is read, inside the container of the stop reason. -/
def MayWait (tree : Tree) : Prop :=
  (∀ symbol ∈ tree.symbols, symbol.Readable) ∧ tree.depth ≤ 126

theorem tokens_ne_nil (tree : Tree) : tree.tokens ≠ [] := by
  cases tree with
  | list items => cases items <;> nofun
  | map members => cases members <;> nofun
  | _ => nofun

theorem get?_setAside {tree : Tree} (waits : MayWait tree) (rest : List Token) :
    Reader.get? setAside (tree.tokens ++ rest) = some (firstToken tree, rest) := by
  have skipped : Reader.get? (Reader.skipped .strict) (tree.tokens ++ rest) = some ((), rest) := by
    refine Reader.get?_skipped (fun symbol inside _ => waits.1 symbol inside) ?_ rest
    rintro _ ⟨⟩
    exact waits.2
  have same (tokens : List Token) : setAside tokens =
      (Reader.skipped .strict tokens).map fun taken =>
        taken.map fun _ => tokens.head?.getD .null := rfl
  have read := Reader.get?_of_map (f := fun _ => (tree.tokens ++ rest).head?.getD .null)
    (same (tree.tokens ++ rest)) fun _ => ⟨rfl, rfl⟩
  rw [read, skipped, List.head?_append_of_ne_nil _ (tokens_ne_nil tree)]
  rfl

/-! ## Members -/

def kindOf? : Tree → Option Kind
  | .text literal =>
      literal.value?.bind fun name => Kind.all.find? fun kind => kind.name == String.ofList name
  | _ => none

theorem get?_kind (tree : Tree) (rest : List Token) :
    Reader.get? Kind.read (tree.tokens ++ rest) = (kindOf? tree).map fun kind => (kind, rest) := by
  cases tree with
  | text literal =>
      have token : (Tree.text literal).tokens ++ rest =
          .text (orMalformed (literal.value?.map String.ofList)) none :: rest := rfl
      rw [token, kindOf?]
      cases literal.value? with
      | none => rfl
      | some name =>
          rw [Reader.get?, Option.bind_some, Option.map_some, orMalformed, Option.elim_some,
            Kind.read]
          cases Kind.all.find? fun kind => kind.name == String.ofList name <;> rfl
  | list items => cases items <;> rfl
  | map members => cases members <;> rfl
  | _ => rfl

def takeOne (parts : Parts) (name : String) (tree : Tree) : Option Parts :=
  if name = kindName then
    if parts.kind.isSome then none
    else (kindOf? tree).map fun kind => { parts with kind := some kind }
  else some { parts with aside := (name, firstToken tree) :: parts.aside }

theorem get?_member_key (parts : Parts) (key : Key) (rest : List Token) :
    Reader.get? (member parts) ((Symbol.text key.literal).token :: rest) =
      Reader.get? (memberValue parts key.name) rest := by
  rw [key.token]
  exact Reader.get?_of_behind rfl

theorem get?_member (parts : Parts) (key : Key) (tree : Tree) (rest : List Token)
    (fits : key.name ≠ kindName → MayWait tree) :
    Reader.get? (member parts)
        ((Symbol.text key.literal).token :: .colon :: (tree.tokens ++ rest)) =
      (takeOne parts key.name tree).map fun after => (after, rest) := by
  rw [get?_member_key, memberValue, takeOne]
  split
  · split
    · rfl
    · rw [Reader.get?_changed, get?_kind]
      cases kindOf? tree <;> rfl
  · rename_i other
    rw [Reader.get?_changed, get?_setAside (fits other)]
    rfl

/-- The members of a stop reason are read in a loop. -/
theorem loop : Reader.Loop member members where
  failed := by
    intro before tokens found
    rw [Reader.get?] at found
    rw [Reader.get?, members]
    generalize member before tokens = result at found ⊢
    cases result with
    | error problem => rfl
    | ok taken => cases found
  last := by
    intro before after tokens rest found
    rw [Reader.get?] at found
    rw [Reader.get?, members]
    generalize member before tokens = result at found ⊢
    rcases result with problem | ⟨value, behind, shorter⟩ <;> cases found
    rfl
  more := by
    intro before after tokens rest found
    rw [Reader.get?] at found
    rw [Reader.get?, members]
    generalize member before tokens = result at found ⊢
    rcases result with problem | ⟨value, behind, shorter⟩ <;> cases found
    rw [Reader.get?]
    dsimp only
    cases members value rest <;> rfl

/-- The members that are set aside, under their names. -/
def waiting (entries : Members) : List (String × Token) :=
  (entries.filter fun entry => entry.1.name ≠ kindName).map fun entry =>
    (entry.1.name, firstToken entry.2)

theorem takeAll_without_kind {entries : Members} (without : entries.under [kindName] = [])
    (parts : Parts) :
    Members.absorbWith takeOne parts entries =
      some { parts with aside := (waiting entries).reverse ++ parts.aside } := by
  induction entries generalizing parts with
  | nil => rfl
  | cons entry entries ih =>
      obtain ⟨key, tree⟩ := entry
      have other : key.name ≠ kindName := by
        intro same
        rw [Members.under_cons_of_mem (List.mem_singleton.mpr same)] at without
        cases without
      rw [Members.under_cons_of_not_mem (mt List.mem_singleton.mp other)] at without
      rw [Members.absorbWith, takeOne, if_neg other, Option.bind_some, ih without]
      simp [waiting, other]

/-- With one member that names a kind, this kind is found, and the others are set aside. -/
theorem takeAll_with_kind {entries : Members} {tree : Tree} {kind : Kind}
    (one : entries.under [kindName] = [(kindName, tree)]) (named : kindOf? tree = some kind)
    (parts : Parts) (unknown : parts.kind = none) :
    Members.absorbWith takeOne parts entries =
      some { kind := some kind, aside := (waiting entries).reverse ++ parts.aside } := by
  induction entries generalizing parts with
  | nil => cases one
  | cons entry entries ih =>
      obtain ⟨key, value⟩ := entry
      by_cases same : key.name = kindName
      · rw [Members.under_cons_of_mem (List.mem_singleton.mpr same), List.cons.injEq] at one
        obtain ⟨first, without⟩ := one
        obtain ⟨-, rfl⟩ := Prod.mk.inj first
        rw [Members.absorbWith, takeOne, if_pos same, unknown, named]
        refine (takeAll_without_kind without _).trans ?_
        simp [waiting, same]
      · rw [Members.under_cons_of_not_mem (mt List.mem_singleton.mp same)] at one
        rw [Members.absorbWith, takeOne, if_neg same, Option.bind_some]
        have later := ih one { parts with aside := (key.name, firstToken value) :: parts.aside }
          unknown
        rw [later]
        simp [waiting, same]

/-! ## The offset -/

theorem offsetAmong_eq_filter (found : Option UInt64) (aside : List (String × Token)) :
    offsetAmong found aside = offsetAmong found (aside.filter (·.1 = offsetName)) := by
  induction aside generalizing found with
  | nil => rfl
  | cons entry aside ih =>
      obtain ⟨name, token⟩ := entry
      by_cases same : name = offsetName
      · rw [List.filter_cons_of_pos (by simpa using same), offsetAmong, offsetAmong]
        simp only [ih]
      · rw [List.filter_cons_of_neg (by simpa using same), offsetAmong, if_neg same, ih]

theorem filter_waiting (entries : Members) :
    (waiting entries).filter (·.1 = offsetName) =
      (entries.under [offsetName]).map fun entry => (entry.1, firstToken entry.2) := by
  have apart : ∀ name, (decide (name = offsetName) && !decide (name = kindName)) =
      decide (name = offsetName) := by
    intro name
    by_cases same : name = offsetName
    · subst same
      decide
    · simp [same]
  simp [waiting, Members.under, List.filter_map, List.filter_filter, Function.comp_def, apart]

theorem value_ofNat (offset : UInt64) :
    (Numeral.ofNat offset.toNat).parts.value = some (.integer offset.toNat) := by
  have word : offset.toNat < UInt64.size := offset.toNat_lt
  exact (Numeral.value_eq_integer_iff _ _).mpr ⟨rfl, by omega, by omega⟩

theorem offsetOf_ofNat (offset : UInt64) :
    offsetOf (firstToken (.ofNat offset.toNat)) = .ok offset := by
  have word : offset.toNat < UInt64.size := offset.toNat_lt
  have token : firstToken (.ofNat offset.toNat) = .number (.ok (.integer offset.toNat)) true := by
    have first : firstToken (.ofNat offset.toNat) =
        .number (orMalformed (Numeral.ofNat offset.toNat).parts.value) true := rfl
    rw [first, value_ofNat]
    rfl
  have fits : 0 ≤ (offset.toNat : Int) ∧ (offset.toNat : Int) < UInt64.size := by omega
  rw [token, offsetOf, Reader.natural, if_pos fits]
  exact congrArg Except.ok (UInt64.ofNat_toNat ..)

/-! ## The stop reason -/

def entries (reason : StopReason) : List (String × Tree) :=
  (kindName, .text (.ofString reason.kind.name)) ::
    match reason with
    | hardwareOverflow offset => [(offsetName, .ofNat offset.toNat)]
    | _ => []

theorem name_of_mem_entries {reason : StopReason} {entry : String × Tree}
    (written : entry ∈ reason.entries) : entry.1 ∈ [kindName, offsetName] := by
  rcases List.mem_cons.mp written with rfl | behind
  · exact List.mem_cons_self
  · cases reason with
    | hardwareOverflow offset =>
        rw [List.mem_singleton.mp behind]
        exact List.mem_cons_of_mem _ List.mem_cons_self
    | _ => cases behind

theorem eq_ofNat_of_mem_entries {reason : StopReason} {tree : Tree}
    (written : (offsetName, tree) ∈ reason.entries) :
    ∃ offset : UInt64, tree = .ofNat offset.toNat := by
  cases reason with
  | hardwareOverflow offset =>
      refine ⟨offset, ?_⟩
      simpa [entries, offsetName, kindName] using written
  | _ => simp [entries, offsetName, kindName] at written

theorem toJson_eq (reason : StopReason) :
    reason.toJson = (Tree.object (.ofEntries reason.entries)).compact := by
  rw [← record_eq_compact]
  cases reason <;> simp only [toJson, text_eq_compact, natural_eq_compact] <;> rfl

theorem Kind.find?_name (kind : Kind) :
    Kind.all.find? (fun other => other.name == kind.name) = some kind := by
  cases kind <;> decide

/-- The kind that is written is the kind of the reason. -/
theorem kindOf?_ofString (reason : StopReason) :
    kindOf? (.text (.ofString reason.kind.name)) = some reason.kind := by
  rw [kindOf?, Literal.value?_ofString, Option.bind_some, String.ofList_toList]
  exact reason.kind.find?_name

/-- The strings of a value have characters, and its numbers are among these. -/
def Sound (numbers : Numeral → Prop) (tree : Tree) : Prop :=
  (∀ literal, .text literal ∈ tree.symbols → literal.value?.isSome) ∧
    ∀ numeral, .number numeral ∈ tree.symbols → numbers numeral

/-- The members of a stop reason in any order, with any other members among them that are sound
and, together with the object around them, nested at most 127 deep. -/
structure Extends (numbers : Numeral → Prop) (reason : StopReason) (members : Members) : Prop where
  own : (members.under [kindName, offsetName]).Perm reason.entries
  others : ∀ key tree, (key, tree) ∈ members → key.name ∉ [kindName, offsetName] →
    Sound numbers tree
  depth : (Tree.object members).depth ≤ 127

/-- Numbers that the reader has a value for: those that stay in the range of doubles while they are
scaled. -/
def HasValue (numeral : Numeral) : Prop :=
  numeral.parts.value.isSome

theorem depth_lt {members : Members} {key : Key} {tree : Tree} (inside : (key, tree) ∈ members) :
    tree.depth < (Tree.object members).depth := by
  induction members with
  | nil => cases inside
  | cons member members ih =>
      have depth : (Tree.object (member :: members)).depth =
          max member.2.depth (Tree.depthOfMembers (Members.spelled members)) + 1 := rfl
      rcases List.mem_cons.mp inside with rfl | behind
      · dsimp only at depth
        omega
      · have later := ih behind
        have rest : (Tree.object members).depth =
            Tree.depthOfMembers (Members.spelled members) + 1 := rfl
        omega

/-- Of the members with some names, those with one of them. -/
theorem filter_under {names : List String} {name : String} (known : name ∈ names)
    (members : Members) :
    (members.under names).filter (·.1 = name) = members.under [name] := by
  rw [Members.under, Members.under, List.filter_filter]
  refine List.filter_congr fun entry _ => ?_
  by_cases same : entry.1 = name
  · simp [same, known]
  · simp [same]

theorem get?_readMap {token : Token} (other : token ≠ .endMap) (tokens : List Token) :
    Reader.get? readMap (token :: tokens) =
      (Reader.get? (members {}) (token :: tokens)).bind fun all =>
        (ofMembers all.1).toOption.map fun reason => (reason, all.2) := by
  have same : readMap (token :: tokens) =
      (members {} (token :: tokens)).bind fun all =>
        (ofMembers all.value).map fun reason => all.map fun _ => reason := by
    cases token <;> first | rfl | exact absurd rfl other
  rw [Reader.get?, Reader.get?, same]
  cases members {} (token :: tokens) with
  | error problem => rfl
  | ok all =>
      simp only [Except.bind, Option.bind_some]
      cases ofMembers all.value <;> rfl

namespace Extends

variable {reason : StopReason} {members : Members}

theorem under_kind {numbers : Numeral → Prop} (extends_ : Extends numbers reason members) :
    members.under [kindName] = [(kindName, .text (.ofString reason.kind.name))] := by
  have kinds : reason.entries.filter (·.1 = kindName) =
      [(kindName, .text (.ofString reason.kind.name))] := by
    cases reason <;> rfl
  have order := extends_.own.filter fun entry => entry.1 = kindName
  rw [filter_under (by decide), kinds] at order
  exact List.perm_singleton.mp order

theorem under_offset {numbers : Numeral → Prop} {offset : UInt64}
    (extends_ : Extends numbers (.hardwareOverflow offset) members) :
    members.under [offsetName] = [(offsetName, .ofNat offset.toNat)] := by
  have order := extends_.own.filter fun entry => entry.1 = offsetName
  rw [filter_under (by decide)] at order
  exact List.perm_singleton.mp order

/-- The members that are not the kind may wait. -/
theorem mayWait (extends_ : Extends HasValue reason members) {key : Key} {tree : Tree}
    (inside : (key, tree) ∈ members) (other : key.name ≠ kindName) : MayWait tree := by
  have shallow := Nat.lt_of_lt_of_le (depth_lt inside) extends_.depth
  refine ⟨?_, by omega⟩
  by_cases offset : key.name = offsetName
  · have own := extends_.own.subset (Members.mem_under.mpr ⟨by decide, key, inside, offset⟩)
    obtain ⟨word, rfl⟩ := eq_ofNat_of_mem_entries own
    intro symbol among
    rw [List.mem_singleton.mp among, Symbol.Readable, value_ofNat]
    rfl
  · obtain ⟨strings, numbers⟩ := extends_.others key tree inside (by simp [other, offset])
    intro symbol among
    cases symbol with
    | text literal => exact strings literal among
    | number numeral => exact numbers numeral among
    | _ => trivial

/-- What has been read behind all members gives the reason. -/
theorem ofMembers_eq {numbers : Numeral → Prop} (extends_ : Extends numbers reason members) :
    ofMembers { kind := some reason.kind, aside := (waiting members).reverse } = .ok reason := by
  cases reason with
  | hardwareOverflow offset =>
      have found : offsetAmong none (waiting members) = .ok offset := by
        rw [offsetAmong_eq_filter, filter_waiting, extends_.under_offset]
        rw [List.map_singleton, offsetAmong, if_pos rfl, offsetOf_ofNat]
        rfl
      rw [ofMembers, kind]
      dsimp only
      rw [List.reverse_reverse, found]
      rfl
  | _ => rfl

theorem get?_members (extends_ : Extends HasValue reason members) {key : Key} {tree : Tree}
    {later : Members} (row : members = (key, tree) :: later) (rest : List Token) :
    Reader.get? (StopReason.members {}) ((Symbol.text key.literal).token :: .colon ::
        (tree.tokens ++ (Tree.laterTokens later.spelled ++ rest))) =
      some ({ kind := some reason.kind, aside := (waiting members).reverse }, rest) := by
  have fits : ∀ entry ∈ (key, tree) :: later, entry.1.name ≠ kindName → MayWait entry.2 := by
    rw [← row]
    exact fun entry inside other => extends_.mayWait inside other
  rw [loop.get?_members get?_member _ fits, ← row,
    takeAll_with_kind extends_.under_kind reason.kindOf?_ofString _ rfl, List.append_nil]
  rfl

/-- A stop reason is read off any object that extends it. -/
theorem get?_read (extends_ : Extends HasValue reason members) (rest : List Token) :
    Reader.get? read ((Tree.object members).tokens ++ rest) = some (reason, rest) := by
  cases row : members with
  | nil =>
      have kinds := extends_.under_kind
      rw [row] at kinds
      cases kinds
  | cons member later =>
      obtain ⟨key, tree⟩ := member
      have walk := extends_.get?_members row rest
      rw [Tree.object, Members.spelled_cons, Tree.tokens_map_cons, Reader.get?_of_behind rfl,
        get?_readMap key.token_ne_endMap, walk, Option.bind_some, extends_.ofMembers_eq]
      rfl

end Extends

theorem parse_of_extends {reason : StopReason} {members : Members}
    (extends_ : Extends HasValue reason members) {text : String}
    (spells : Spells (Tree.object members).symbols text.toList) : parse read text = .ok reason := by
  rw [parse_eq_ok_iff, Tree.scan_of_spells spells, ← List.append_nil (Tree.tokens _)]
  exact extends_.get?_read []

/-- The members of a stop reason as they are written. -/
theorem extends_entries (numbers : Numeral → Prop) (reason : StopReason) :
    Extends numbers reason (.ofEntries reason.entries) where
  own := by
    have known : ∀ entry ∈ reason.entries, decide (entry.1 ∈ [kindName, offsetName]) = true := by
      intro entry written
      exact decide_eq_true (name_of_mem_entries written)
    rw [Members.under_ofEntries, List.filter_eq_self.mpr known]
  others := by
    intro key tree inside other
    have written := Members.has_ofEntries.mp ⟨key, inside, rfl⟩
    exact absurd (name_of_mem_entries written) other
  depth := by
    cases reason <;> exact (by decide : 1 ≤ 127)

/-- A stop reason reads back. -/
theorem parse_toJson (reason : StopReason) :
    parse read (String.ofList reason.toJson) = .ok reason := by
  refine parse_of_extends (extends_entries HasValue reason) ?_
  rw [String.toList_ofList, toJson_eq]
  exact Tree.spells_compact _

/-- A number with a sign, a fraction and an exponent. -/
def signedNumber : Numeral where
  negative := true
  whole := 2
  fraction := some { first := 5, rest := [] }
  exponent := some { capital := false, sign := none, digits := { first := 3, rest := [] } }

theorem moderate_signedNumber : signedNumber.Moderate where
  size_le := by
    have fraction : Digits.value { first := 5, rest := [] } = 5 := by decide
    have power : Digits.value { first := 3, rest := [] } = 3 := by decide
    have size : signedNumber.size = 2500 := by
      simp only [Numeral.size, Numeral.mantissa, signedNumber, Exponent.power, Option.elim_some,
        fraction, power, Digits.chars, reduceCtorEq, ↓reduceIte]
      norm_num
    calc signedNumber.size ≤ 2 ^ 53 - 6 := by norm_num [size]
      _ ≤ safeLimit := le_mul_of_one_le_right (by norm_num) (one_le_pow₀ one_le_two)
  power_lt exponent known := by
    cases known
    decide

/-- An overflow behind a nested value, with its offset before its kind. -/
def behindNested : Members :=
  .ofEntries [("x", .object (.ofEntries [("y", .list [.number signedNumber, .null])])),
    (offsetName, .ofNat 7), (kindName, .text (.ofString "hardwareOverflow"))]

theorem sound_nested (known : HasValue signedNumber) :
    Sound HasValue (.object (.ofEntries [("y", .list [.number signedNumber, .null])])) := by
  have symbols : (Tree.object (.ofEntries [("y", .list [.number signedNumber, .null])])).symbols =
      [.beginMap, .text (.ofString "y"), .colon, .beginList, .number signedNumber, .comma, .null,
        .endList, .endMap] := rfl
  constructor
  · intro literal among
    have same : literal = .ofString "y" := by simpa [symbols] using among
    rw [same, Literal.value?_ofString]
    rfl
  · intro numeral among
    have same : numeral = signedNumber := by simpa [symbols] using among
    rw [same]
    exact known

theorem extends_behindNested (known : HasValue signedNumber) :
    Extends HasValue (.hardwareOverflow 7) behindNested where
  own := by
    rw [behindNested, Members.under_ofEntries]
    exact .swap ..
  others := by
    intro key tree inside other
    have written := Members.has_ofEntries.mp ⟨key, inside, rfl⟩
    rcases List.mem_cons.mp written with first | behind
    · obtain ⟨-, rfl⟩ := Prod.mk.inj first
      exact sound_nested known
    · rcases List.mem_cons.mp behind with second | last
      · exact absurd ((Prod.mk.inj second).1 ▸ List.mem_cons_of_mem _ List.mem_cons_self) other
      · exact absurd ((Prod.mk.inj (List.mem_singleton.mp last)).1 ▸ List.mem_cons_self) other
  depth := (by decide : 3 ≤ 127)

def textBehindNested : String :=
  "\x7b\"x\":\x7b\"y\":[-2.5e3,null]\x7d,\"byteOffset\":7,\"kind\":\"hardwareOverflow\"\x7d"

/-- Whatever is written reads back, and a stop reason also from any order of its members and from
among any others that can be read, as those can whose numbers are moderate. -/
theorem reads_back :
    (∀ reason : StopReason, parse read (String.ofList reason.toJson) = .ok reason) ∧
      (∀ counters : Counters,
        parse Counters.shape.read (String.ofList counters.toJson) = .ok counters) ∧
      (∀ options : CaptureOptions,
        parse CaptureOptions.shape.read (String.ofList options.toJson) = .ok options) ∧
      (∀ options : DeviceOptions,
        parse DeviceOptions.shape.read (String.ofList options.toJson) = .ok options) ∧
      (∀ options : Options,
        parse Options.shape.read (String.ofList options.toJson) = .ok options) ∧
      (∀ reason members, Extends HasValue reason members → ∀ text : String,
        Spells (Tree.object members).symbols text.toList → parse read text = .ok reason) ∧
      ∀ numeral : Numeral, numeral.Moderate → HasValue numeral :=
  ⟨parse_toJson, Counters.parse_toJson, CaptureOptions.parse_toJson, DeviceOptions.parse_toJson,
    Options.parse_toJson, fun _ _ extends_ _ spells => parse_of_extends extends_ spells,
    fun _ moderate => moderate.value_isSome⟩

theorem reads_back_behindNested :
    signedNumber.Moderate ∧ Extends HasValue (.hardwareOverflow 7) behindNested ∧
      Spells (Tree.object behindNested).symbols textBehindNested.toList ∧
      parse read textBehindNested = .ok (.hardwareOverflow 7) := by
  obtain ⟨-, -, -, -, -, extended, moderate⟩ := reads_back
  have extends_ := extends_behindNested (moderate signedNumber moderate_signedNumber)
  have spells : Spells (Tree.object behindNested).symbols textBehindNested.toList :=
    Tree.spells_compact _
  exact ⟨moderate_signedNumber, extends_, spells, extended _ _ extends_ _ spells⟩

/-! ## Numbers near the end of the range -/

def greatestDouble : ℕ := (2 ^ 53 - 1) * 2 ^ 971

def InDoubleRange (numeral : Numeral) : Prop :=
  numeral.size ≤ greatestDouble

def nearLimit : Numeral where
  negative := false
  whole := 1797693134862315708
  fraction := none
  exponent := some { capital := false, sign := none, digits := { first := 2, rest := [9, 0] } }

theorem nearLimit_inDoubleRange : InDoubleRange nearLimit := by
  have digits : Digits.value { first := 2, rest := [9, 0] } = 290 := by decide
  have size : nearLimit.size = (1797693134862315708 * 10 ^ 290 : ℕ) := by
    simp only [Numeral.size, Numeral.mantissa, nearLimit, Exponent.power, Option.elim_none,
      Option.elim_some, digits, reduceCtorEq, ↓reduceIte]
    norm_num
  rw [InDoubleRange, size, Nat.cast_le]
  decide +kernel

/-- Scaled in the arithmetic of doubles, the number is infinite. -/
theorem value_nearLimit : nearLimit.parts.value = none := by
  have whole : Number.gather nearLimit.parts.whole 0 = (1797693134862315708, 0) := by
    decide +kernel
  have value : nearLimit.parts.value =
      (Number.double false 1797693134862315708 0 (some (false, ['2', '9', '0']))).map .floating := by
    rw [Number.Parts.value, whole]
    rfl
  have infinite :
      ((1797693134862315708 : UInt64).toFloat * Number.powerOfTen 290).isInf = true := by
    decide +kernel
  have scaled : Number.scale (1797693134862315708 : UInt64).toFloat 290 = none := by
    rw [Number.scale, if_pos (by decide), if_pos (by decide)]
    exact if_pos infinite
  have double : Number.double false 1797693134862315708 0 (some (false, ['2', '9', '0'])) =
      (Number.scale (1797693134862315708 : UInt64).toFloat 290).map (Number.signed false) := by
    rw [Number.double]
    rfl
  rw [value, double, scaled]
  rfl

def withNearLimit : Members :=
  .ofEntries [(kindName, .text (.ofString "userInterrupt")), ("x", .number nearLimit)]

theorem extends_withNearLimit : Extends InDoubleRange .userInterrupt withNearLimit where
  own := by
    rw [withNearLimit, Members.under_ofEntries]
    exact .refl _
  others := by
    intro key tree inside other
    have written := Members.has_ofEntries.mp ⟨key, inside, rfl⟩
    rcases List.mem_cons.mp written with first | behind
    · exact absurd ((Prod.mk.inj first).1 ▸ List.mem_cons_self) other
    · obtain ⟨-, rfl⟩ := Prod.mk.inj (List.mem_singleton.mp behind)
      refine ⟨fun literal among => ?_, fun numeral among => ?_⟩
      · cases List.mem_singleton.mp among
      · cases List.mem_singleton.mp among
        exact nearLimit_inDoubleRange
  depth := (by decide : 1 ≤ 127)

/-- The tokens of a member whose number has no value, up to the end of the map. -/
def lastTokens : List Token :=
  (Symbol.text (Key.ofString "x").literal).token :: .colon ::
    .number (.error .malformed) true :: [.endMap]

/-- A number without a value cannot be set aside. -/
theorem get?_lastTokens (parts : Parts) : Reader.get? (member parts) lastTokens = none := by
  have other : (Key.ofString "x").name ≠ kindName := by decide
  rw [lastTokens, get?_member_key, memberValue, if_neg other, Reader.get?_changed]
  rfl

theorem get?_read_withNearLimit :
    Reader.get? read (Tree.object withNearLimit).tokens = none := by
  have tokens : (Tree.object withNearLimit).tokens =
      .beginMap :: (Symbol.text (Key.ofString kindName).literal).token :: .colon ::
        ((Tree.text (.ofString "userInterrupt")).tokens ++ (.comma :: lastTokens)) := by
    have malformed : orMalformed nearLimit.parts.value = .error .malformed := by
      rw [value_nearLimit]
      rfl
    rw [lastTokens, ← malformed]
    rfl
  have taken : takeOne {} kindName (.text (.ofString userInterrupt.kind.name)) =
      some { kind := some .userInterrupt } := by
    rw [takeOne, if_pos rfl, kindOf?_ofString]
    rfl
  have first := get?_member {} (.ofString kindName) (.text (.ofString "userInterrupt"))
    (.comma :: lastTokens) (fun other => absurd rfl other)
  have failed := loop.failed { kind := some .userInterrupt } lastTokens (get?_lastTokens _)
  have none := (loop.more _ _ _ _ (first.trans (congrArg _ taken))).trans failed
  rw [tokens, Reader.get?_of_behind rfl, get?_readMap (Key.token_ne_endMap _), none]
  rfl

/-- A stop reason does not read back from among numbers that are in the range of doubles but not
while they are scaled. -/
theorem not_reads_back_near_limit :
    Extends InDoubleRange .userInterrupt withNearLimit ∧
      Spells (Tree.object withNearLimit).symbols
        "\x7b\"kind\":\"userInterrupt\",\"x\":1797693134862315708e290\x7d".toList ∧
      parse read "\x7b\"kind\":\"userInterrupt\",\"x\":1797693134862315708e290\x7d" ≠
        .ok .userInterrupt := by
  have spells : Spells (Tree.object withNearLimit).symbols
      "\x7b\"kind\":\"userInterrupt\",\"x\":1797693134862315708e290\x7d".toList :=
    Tree.spells_compact _
  refine ⟨extends_withNearLimit, spells, ?_⟩
  rw [Ne, parse_eq_ok_iff, Tree.scan_of_spells spells, get?_read_withNearLimit]
  nofun

end StopReason

end SampleCapture
