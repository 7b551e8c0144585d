import SampleCapture.Json.Token

/-!
# The grammar of JSON text

Text is a row of spelled symbols with blanks around them, and a value is a tree whose symbols
stand in that row. A tree keeps how its strings and numbers are spelled; where the blanks are is
left open. Everything that can be built here is well formed.
-/

namespace SampleCapture.Json

/-! ## Strings -/

structure HexDigit where
  value : Fin 16
  upper : Bool
deriving Repr, DecidableEq

def HexDigit.char (digit : HexDigit) : Char :=
  if digit.upper then (Nat.digitChar digit.value).toUpper else Nat.digitChar digit.value

inductive Escape where
  | quote
  | backslash
  | slash
  | backspace
  | formFeed
  | lineFeed
  | carriageReturn
  | tab
deriving Repr, DecidableEq

namespace Escape

def letter : Escape → Char
  | quote => '"'
  | backslash => '\\'
  | slash => '/'
  | backspace => 'b'
  | formFeed => 'f'
  | lineFeed => 'n'
  | carriageReturn => 'r'
  | tab => 't'

def char : Escape → Char
  | quote => '"'
  | backslash => '\\'
  | slash => '/'
  | backspace => Char.ofNat 8
  | formFeed => Char.ofNat 12
  | lineFeed => '\n'
  | carriageReturn => '\r'
  | tab => '\t'

end Escape

/-- A piece of a string: a character that stands for itself, an escape, or a code unit. -/
inductive Piece where
  | plain (c : Char) (fits : 32 ≤ c.toNat ∧ c ≠ '"' ∧ c ≠ '\\')
  | escape (which : Escape)
  | unit (a b c d : HexDigit)
deriving Repr, DecidableEq

def Piece.chars : Piece → List Char
  | plain c _ => [c]
  | escape which => ['\\', which.letter]
  | unit a b c d => ['\\', 'u', a.char, b.char, c.char, d.char]

def unitValue (a b c d : HexDigit) : Nat :=
  ((a.value * 16 + b.value) * 16 + c.value) * 16 + d.value

abbrev Literal := List Piece

namespace Literal

def chars (literal : Literal) : List Char :=
  literal.flatMap Piece.chars

/-- The characters of a string. A code unit from D800 to DBFF makes up one character with a
unit from DC00 to DFFF right behind it; alone, neither of them is a character. -/
def value? : Literal → Option (List Char)
  | [] => some []
  | .plain c _ :: rest => (c :: ·) <$> value? rest
  | .escape which :: rest => (which.char :: ·) <$> value? rest
  | .unit a b c d :: rest =>
      let high := unitValue a b c d
      if 0xDC00 ≤ high ∧ high < 0xE000 then none
      else if 0xD800 ≤ high ∧ high < 0xDC00 then
        match rest with
        | .unit a b c d :: rest =>
            let low := unitValue a b c d
            if 0xDC00 ≤ low ∧ low < 0xE000 then
              (Char.ofNat (0x10000 + (high - 0xD800) * 0x400 + (low - 0xDC00)) :: ·) <$>
                value? rest
            else none
        | _ => none
      else (Char.ofNat high :: ·) <$> value? rest

end Literal

/-! ## Numbers -/

structure Digits where
  first : Fin 10
  rest : List (Fin 10)
deriving Repr, DecidableEq

def Digits.chars (digits : Digits) : List Char :=
  (digits.first :: digits.rest).map fun digit : Fin 10 => Nat.digitChar digit.val

structure Exponent where
  /-- The mark is a capital letter. -/
  capital : Bool
  /-- Whether the sign, if there is one, is a minus. -/
  sign : Option Bool
  digits : Digits
deriving Repr, DecidableEq

namespace Exponent

def mark (exponent : Exponent) : Char :=
  if exponent.capital then 'E' else 'e'

def signChars (exponent : Exponent) : List Char :=
  exponent.sign.elim [] fun minus => [if minus then '-' else '+']

def chars (exponent : Exponent) : List Char :=
  exponent.mark :: (exponent.signChars ++ exponent.digits.chars)

end Exponent

/-- A spelled number. Its whole part has no zeros in front, so that it is given by its value. -/
structure Numeral where
  negative : Bool
  whole : Nat
  fraction : Option Digits
  exponent : Option Exponent
deriving Repr, DecidableEq

namespace Numeral

def tail (numeral : Numeral) : List Char :=
  numeral.fraction.elim [] (fun digits => '.' :: digits.chars) ++
    numeral.exponent.elim [] Exponent.chars

def unsigned (numeral : Numeral) : List Char :=
  Nat.toDigits 10 numeral.whole ++ numeral.tail

def chars (numeral : Numeral) : List Char :=
  if numeral.negative then '-' :: numeral.unsigned else numeral.unsigned

/-- The integer that a number without fraction and exponent is. Minus zero is not an integer. -/
def integer? (numeral : Numeral) : Option Int :=
  if numeral.fraction.isSome || numeral.exponent.isSome then none
  else if numeral.negative then
    if numeral.whole = 0 then none else some (-(numeral.whole : Int))
  else some numeral.whole

def ofNat (n : Nat) : Numeral where
  negative := false
  whole := n
  fraction := none
  exponent := none

@[simp] theorem integer?_ofNat (n : Nat) : (ofNat n).integer? = some (n : Int) := rfl

@[simp] theorem chars_ofNat (n : Nat) : (ofNat n).chars = Nat.toDigits 10 n := by
  simp [chars, ofNat, unsigned, tail]

end Numeral

/-! ## Symbols -/

inductive Symbol where
  | beginMap
  | endMap
  | beginList
  | endList
  | colon
  | comma
  | null
  | boolean (value : Bool)
  | number (numeral : Numeral)
  | text (literal : Literal)
deriving Repr, DecidableEq

namespace Symbol

def chars : Symbol → List Char
  | beginMap => ['\x7b']
  | endMap => ['\x7d']
  | beginList => ['[']
  | endList => [']']
  | colon => [':']
  | comma => [',']
  | null => ['n', 'u', 'l', 'l']
  | boolean true => ['t', 'r', 'u', 'e']
  | boolean false => ['f', 'a', 'l', 's', 'e']
  | number numeral => numeral.chars
  | text literal => '"' :: (literal.chars ++ ['"'])

def isNumber : Symbol → Bool
  | number _ => true
  | _ => false

end Symbol

def Blank (gap : List Char) : Prop :=
  ∀ c ∈ gap, c ∈ [' ', '\n', '\t', '\r']

/-- A text spells these symbols, in their order, with any blanks before, between and behind
them. -/
inductive Spells : List Symbol → List Char → Prop where
  | done {gap : List Char} (blank : Blank gap) : Spells [] gap
  | next {gap text : List Char} {symbols : List Symbol} (symbol : Symbol) (blank : Blank gap)
      (later : Spells symbols text) : Spells (symbol :: symbols) (gap ++ (symbol.chars ++ text))

/-- Symbols may be spelled without any blanks. -/
theorem Spells.compact (symbols : List Symbol) : Spells symbols (symbols.flatMap Symbol.chars) := by
  induction symbols with
  | nil => exact .done (List.forall_mem_nil _)
  | cons symbol symbols ih => exact .next symbol (List.forall_mem_nil _) ih

/-! ## Values -/

/-- A value, with the spelling of its strings and numbers. -/
inductive Tree where
  | null
  | boolean (value : Bool)
  | number (numeral : Numeral)
  | text (literal : Literal)
  | list (items : List Tree)
  | map (members : List (Literal × Tree))

namespace Tree

mutual

def symbols : Tree → List Symbol
  | null => [.null]
  | boolean value => [.boolean value]
  | number numeral => [.number numeral]
  | text literal => [.text literal]
  | list [] => [.beginList, .endList]
  | list (item :: items) => .beginList :: (item.symbols ++ laterItems items)
  | map [] => [.beginMap, .endMap]
  | map ((key, value) :: members) =>
      .beginMap :: .text key :: .colon :: (value.symbols ++ laterMembers members)

/-- The symbols behind an item of a list, where these are the other items. -/
def laterItems : List Tree → List Symbol
  | [] => [.endList]
  | item :: items => .comma :: (item.symbols ++ laterItems items)

def laterMembers : List (Literal × Tree) → List Symbol
  | [] => [.endMap]
  | (key, value) :: members =>
      .comma :: .text key :: .colon :: (value.symbols ++ laterMembers members)

end

mutual

def depth : Tree → Nat
  | list items => depthOfItems items + 1
  | map members => depthOfMembers members + 1
  | _ => 0

def depthOfItems : List Tree → Nat
  | [] => 0
  | item :: items => max item.depth (depthOfItems items)

def depthOfMembers : List (Literal × Tree) → Nat
  | [] => 0
  | (_, value) :: members => max value.depth (depthOfMembers members)

end

/-- Induction over the items of lists and the values of maps. -/
@[elab_as_elim]
theorem induct {motive : Tree → Prop} (null : motive .null)
    (boolean : ∀ value, motive (.boolean value)) (number : ∀ numeral, motive (.number numeral))
    (text : ∀ literal, motive (.text literal))
    (list : ∀ items, (∀ item ∈ items, motive item) → motive (.list items))
    (map : ∀ members, (∀ member ∈ members, motive member.2) → motive (.map members))
    (tree : Tree) : motive tree := by
  refine Tree.rec (motive_1 := motive) (motive_2 := fun items => ∀ item ∈ items, motive item)
    (motive_3 := fun members => ∀ member ∈ members, motive member.2)
    (motive_4 := fun member => motive member.2) null boolean number text list map
    (List.forall_mem_nil _) ?_ (List.forall_mem_nil _) ?_ (fun _ _ ih => ih) tree
  · intro item items first rest
    exact List.forall_mem_cons.mpr ⟨first, rest⟩
  · intro member members first rest
    exact List.forall_mem_cons.mpr ⟨first, rest⟩

end Tree

/-! ## Objects -/

/-- A key whose characters are known. -/
structure Key where
  literal : Literal
  name : String
  reads : literal.value? = some name.toList

abbrev Members := List (Key × Tree)

namespace Members

def Has (members : Members) (name : String) (value : Tree) : Prop :=
  ∃ key, (key, value) ∈ members ∧ key.name = name

def under (names : List String) (members : Members) : List (String × Tree) :=
  (members.map fun member => (member.1.name, member.2)).filter (·.1 ∈ names)

def Unrepeated (names : List String) (members : Members) : Prop :=
  ((members.under names).map (·.1)).Nodup

def spelled (members : Members) : List (Literal × Tree) :=
  members.map fun member => (member.1.literal, member.2)

end Members

def Tree.object (members : Members) : Tree :=
  .map members.spelled

end SampleCapture.Json
