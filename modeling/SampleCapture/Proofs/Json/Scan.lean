import Mathlib.Data.List.Chain
import SampleCapture.Proofs.Json.Grammar

/-!
# Scanning what has been spelled

Text that spells symbols is scanned as their tokens, one by one, wherever the blanks are. Two
numbers without anything between them could not be told apart; in a value they never stand side
by side.
-/

namespace SampleCapture.Json

/-- A result that only malformed text fails to give. -/
def orMalformed {α : Type} (result : Option α) : Except Problem α :=
  result.elim (.error .malformed) .ok

theorem map_orMalformed {α β : Type} (f : α → β) (result : Option α) :
    f <$> orMalformed result = orMalformed (f <$> result) := by
  cases result <;> rfl

/-! ## Strings -/

@[simp] theorem hexDigit_char (digit : HexDigit) :
    Text.hexDigit digit.char = some digit.value.val := by
  obtain ⟨value, upper⟩ := digit
  revert value upper
  decide

@[simp] theorem codeUnit_chars (a b c d : HexDigit) :
    Text.codeUnit a.char b.char c.char d.char = some (unitValue a b c d) := by
  simp [Text.codeUnit, unitValue]

@[simp] theorem shortEscape_letter (which : Escape) :
    Text.shortEscape which.letter = some which.char := by
  cases which <;> rfl

theorem letter_ne_unit (which : Escape) : which.letter ≠ 'u' := by
  cases which <;> decide

theorem not_isControl {c : Char} (fits : 32 ≤ c.toNat) : Text.isControl c = false := by
  simpa [Text.isControl] using fits

namespace Literal

@[simp] theorem chars_nil : chars [] = [] := rfl

@[simp] theorem chars_cons (piece : Piece) (rest : Literal) :
    chars (piece :: rest) = piece.chars ++ chars rest := rfl

/-- A string is passed over up to its closing quote. -/
theorem skip_chars (literal : Literal) (rest : List Char) :
    Text.skip (literal.chars ++ '"' :: rest) = .ok rest := by
  induction literal with
  | nil => rfl
  | cons piece literal ih =>
      cases piece with
      | plain c fits =>
          obtain ⟨printable, -, noBackslash⟩ := fits
          simp [Piece.chars, Text.skip, noBackslash, not_isControl printable, ih]
      | escape which =>
          simp [Piece.chars, Text.skip, letter_ne_unit which, ih]
      | unit a b c d => simp [Piece.chars, Text.skip, ih]

section Reading

variable {a b c d e f g h : HexDigit}

attribute [local simp] Piece.chars Text.read Text.pairProblem

@[local simp] theorem isLowSurrogate_eq (unit : Nat) :
    Text.isLowSurrogate unit = decide (0xDC00 ≤ unit ∧ unit < 0xE000) := by
  simp [Text.isLowSurrogate]

@[local simp] theorem isHighSurrogate_eq (unit : Nat) :
    Text.isHighSurrogate unit = decide (0xD800 ≤ unit ∧ unit < 0xDC00) := by
  simp [Text.isHighSurrogate]

theorem read_plain {c : Char} (fits : 32 ≤ c.toNat ∧ c ≠ '"' ∧ c ≠ '\\') (rest : List Char) :
    Text.read ((Piece.plain c fits).chars ++ rest) = (c :: ·) <$> Text.read rest := by
  simp [fits, not_isControl fits.1]

theorem read_escape (which : Escape) (rest : List Char) :
    Text.read ((Piece.escape which).chars ++ rest) = (which.char :: ·) <$> Text.read rest := by
  simp [letter_ne_unit which]

theorem read_unit (notLow : ¬(0xDC00 ≤ unitValue a b c d ∧ unitValue a b c d < 0xE000))
    (notHigh : ¬(0xD800 ≤ unitValue a b c d ∧ unitValue a b c d < 0xDC00)) (rest : List Char) :
    Text.read ((Piece.unit a b c d).chars ++ rest) =
      (Char.ofNat (unitValue a b c d) :: ·) <$> Text.read rest := by
  simp [notLow, notHigh]

theorem read_low (low : 0xDC00 ≤ unitValue a b c d ∧ unitValue a b c d < 0xE000)
    (rest : List Char) : Text.read ((Piece.unit a b c d).chars ++ rest) = .error .malformed := by
  simp [low]

theorem read_pair (high : 0xD800 ≤ unitValue a b c d ∧ unitValue a b c d < 0xDC00)
    (low : 0xDC00 ≤ unitValue e f g h ∧ unitValue e f g h < 0xE000) (rest : List Char) :
    Text.read ((Piece.unit a b c d).chars ++ ((Piece.unit e f g h).chars ++ rest)) =
      (Char.ofNat (0x10000 + (unitValue a b c d - 0xD800) * 0x400 + (unitValue e f g h - 0xDC00)) ::
        ·) <$> Text.read rest := by
  have notLow : ¬(0xDC00 ≤ unitValue a b c d ∧ unitValue a b c d < 0xE000) := by omega
  have place : Text.pairChar (unitValue a b c d) (unitValue e f g h) = Char.ofNat
      (0x10000 + (unitValue a b c d - 0xD800) * 0x400 + (unitValue e f g h - 0xDC00)) := by
    rw [Text.pairChar, Nat.add_comm, Nat.add_assoc]
  simp [notLow, high, low, place]

/-- A surrogate that begins a pair is malformed without the other one. -/
theorem read_half (high : 0xD800 ≤ unitValue a b c d ∧ unitValue a b c d < 0xDC00)
    {literal : Literal} (rest : List Char)
    (alone : ∀ e f g h later, literal = .unit e f g h :: later →
      ¬(0xDC00 ≤ unitValue e f g h ∧ unitValue e f g h < 0xE000)) :
    Text.read ((Piece.unit a b c d).chars ++ (literal.chars ++ '"' :: rest)) =
      .error .malformed := by
  have notLow : ¬(0xDC00 ≤ unitValue a b c d ∧ unitValue a b c d < 0xE000) := by omega
  cases literal with
  | nil =>
      simp [notLow, high]
  | cons piece later =>
      cases piece with
      | plain c fits =>
          simp [notLow, high, fits]
      | escape which =>
          simp [notLow, high, letter_ne_unit which]
      | unit e f g h =>
          have noPair := alone e f g h later rfl
          simp [notLow, high, noPair]

end Reading

/-- A string is read as its characters, or is malformed. -/
theorem read_chars (literal : Literal) (rest : List Char) :
    Text.read (literal.chars ++ '"' :: rest) = orMalformed literal.value? := by
  fun_induction value? literal with
  | case1 => rfl
  | case2 c fits later ih => rw [chars_cons, List.append_assoc, read_plain, ih, map_orMalformed]
  | case3 which later ih => rw [chars_cons, List.append_assoc, read_escape, ih, map_orMalformed]
  | case4 a b c d later high low =>
      rw [chars_cons, List.append_assoc, read_low low]
      rfl
  | case5 a b c d high notLow isHigh e f g h later low isLow ih =>
      rw [chars_cons, chars_cons, List.append_assoc, List.append_assoc, read_pair isHigh isLow, ih,
        map_orMalformed]
  | case6 a b c d high notLow isHigh e f g h later low notLow' =>
      rw [chars_cons, List.append_assoc, read_half isHigh]
      · rfl
      · rintro _ _ _ _ _ ⟨⟩
        exact notLow'
  | case7 a b c d later high notLow isHigh other =>
      rw [chars_cons, List.append_assoc, read_half isHigh]
      · rfl
      · intro e f g h rest same
        exact (other e f g h rest same).elim
  | case8 a b c d later high notLow notHigh ih =>
      rw [chars_cons, List.append_assoc, read_unit notLow notHigh, ih, map_orMalformed]

end Literal

/-! ## Numbers -/

namespace Number

theorem isDigit_of_char {c : Char} (digit : c.isDigit = true) : isDigit c = true := by
  simp only [Char.isDigit, Bool.and_eq_true, decide_eq_true_eq] at digit
  simp only [isDigit, Bool.and_eq_true, decide_eq_true_eq]
  exact digit

theorem isDigit_of_mem_toDigits {c : Char} {n : Nat} (member : c ∈ Nat.toDigits 10 n) :
    isDigit c = true :=
  isDigit_of_char (Nat.isDigit_of_mem_toDigits (by decide) (by decide) member)

theorem isDigit_digitChar (digit : Fin 10) : isDigit (Nat.digitChar digit) = true := by
  revert digit
  decide

theorem isDigit_of_mem_chars (digits : Digits) : ∀ c ∈ digits.chars, isDigit c = true := by
  intro c inside
  obtain ⟨digit, -, rfl⟩ := List.mem_map.mp inside
  exact isDigit_digitChar digit

/-- What follows a number does not go on with it. -/
def Ends (rest : List Char) : Prop :=
  ∀ c ∈ rest.head?, isDigit c = false ∧ c ≠ '.' ∧ c ≠ 'e' ∧ c ≠ 'E'

theorem takeWhile_digits {digits rest : List Char} (all : ∀ c ∈ digits, isDigit c = true)
    (stops : ∀ c ∈ rest.head?, isDigit c = false) :
    (digits ++ rest).takeWhile isDigit = digits ∧ (digits ++ rest).dropWhile isDigit = rest := by
  have none : rest.takeWhile isDigit = [] ∧ rest.dropWhile isDigit = rest := by
    cases rest with
    | nil => exact ⟨rfl, rfl⟩
    | cons c rest =>
        have stop := stops c rfl
        simp [stop]
  rw [List.takeWhile_append_of_pos all, List.dropWhile_append_of_pos all, none.1, none.2,
    List.append_nil]
  exact ⟨rfl, rfl⟩

theorem digitChar_ne_zero {n : Nat} (small : n < 10) (positive : 0 < n) :
    Nat.digitChar n ≠ '0' := by
  have all : ∀ digit : Fin 10, 0 < digit.val → Nat.digitChar digit ≠ '0' := by decide
  exact all ⟨n, small⟩ positive

theorem head_toDigits {n : Nat} (positive : 0 < n) :
    ∃ c rest, Nat.toDigits 10 n = c :: rest ∧ c ≠ '0' := by
  induction n using Nat.strongRecOn with
  | ind n ih =>
      by_cases small : n < 10
      · refine ⟨_, [], Nat.toDigits_of_lt_base small, ?_⟩
        exact digitChar_ne_zero small positive
      · obtain ⟨c, rest, first, other⟩ := ih (n / 10) (by omega) (by omega)
        exact ⟨c, _, by rw [Nat.toDigits_of_base_le (by decide) (by omega), first]; rfl, other⟩

theorem isWhole_toDigits (n : Nat) : isWhole (Nat.toDigits 10 n) = true := by
  by_cases zero : n = 0
  · rw [zero]
    rfl
  · obtain ⟨c, rest, digits, other⟩ := head_toDigits (Nat.pos_of_ne_zero zero)
    simp [isWhole, digits, other]

theorem Ends.stops {rest : List Char} (ends : Ends rest) : ∀ c ∈ rest.head?, isDigit c = false :=
  fun c first => (ends c first).1

end Number

def Exponent.part (exponent : Exponent) : Bool × List Char :=
  (exponent.sign == some true, exponent.digits.chars)

namespace Numeral

def parts (numeral : Numeral) : Number.Parts where
  negative := numeral.negative
  whole := Nat.toDigits 10 numeral.whole
  fraction := numeral.fraction.map Digits.chars
  exponent := numeral.exponent.map Exponent.part

end Numeral

namespace Number

theorem chars_ne_nil (digits : Digits) : digits.chars ≠ [] := by
  simp [Digits.chars]

section Scanning

variable {rest : List Char} (ends : Ends rest)
include ends

theorem scanExponent_unsigned (parts : Parts) (digits : Digits) :
    scanExponent parts (digits.chars ++ rest) =
      complete { parts with exponent := some (false, digits.chars) } rest := by
  obtain ⟨taken, dropped⟩ := takeWhile_digits (isDigit_of_mem_chars digits) ends.stops
  have noSign (c : Char) (behind : List Char) (same : digits.chars ++ rest = c :: behind) :
      isDigit c = true :=
    (List.cons.inj same).1 ▸ isDigit_digitChar digits.first
  unfold scanExponent
  split
  rename_i downwards text chosen
  split at chosen
  · exact absurd (noSign _ _ (by assumption)) (by decide)
  · exact absurd (noSign _ _ (by assumption)) (by decide)
  · cases chosen
    rw [taken, dropped, if_neg (chars_ne_nil digits)]

theorem scanExponent_signed (parts : Parts) (minus : Bool) (digits : Digits) :
    scanExponent parts ((if minus then '-' else '+') :: (digits.chars ++ rest)) =
      complete { parts with exponent := some (minus, digits.chars) } rest := by
  obtain ⟨taken, dropped⟩ := takeWhile_digits (isDigit_of_mem_chars digits) ends.stops
  cases minus <;> simp [scanExponent, taken, dropped, chars_ne_nil digits]

/-- An exponent begins with its mark, and what follows a number is something else. -/
theorem head_exponent (exponent : Option Exponent) :
    ∀ c ∈ (exponent.elim [] Exponent.chars ++ rest).head?, isDigit c = false ∧ c ≠ '.' := by
  cases exponent with
  | none => exact fun c first => ⟨(ends c first).1, (ends c first).2.1⟩
  | some exponent =>
      obtain ⟨capital, sign, digits⟩ := exponent
      rintro c ⟨⟩
      cases capital <;> simp [Exponent.mark, isDigit]

theorem head_tail (numeral : Numeral) :
    ∀ c ∈ (numeral.tail ++ rest).head?, isDigit c = false := by
  obtain ⟨negative, whole, fraction, exponent⟩ := numeral
  cases fraction with
  | none => exact fun c first => (head_exponent ends exponent c first).1
  | some fraction =>
      rintro c ⟨⟩
      decide

theorem scanTail_chars {parts : Parts} (free : parts.exponent = none)
    (exponent : Option Exponent) :
    scanTail parts (exponent.elim [] Exponent.chars ++ rest) =
      complete { parts with exponent := exponent.map Exponent.part } rest := by
  cases exponent with
  | none =>
      have silent (behind : List Char) : rest ≠ 'e' :: behind ∧ rest ≠ 'E' :: behind := by
        constructor <;> rintro rfl
        · exact (ends 'e' rfl).2.2.1 rfl
        · exact (ends 'E' rfl).2.2.2 rfl
      unfold scanTail
      split
      · exact ((silent _).1 (by assumption)).elim
      · exact ((silent _).2 (by assumption)).elim
      · simp [← free]
  | some exponent =>
      obtain ⟨capital, sign, digits⟩ := exponent
      have behind : scanTail parts
            ((some (Exponent.mk capital sign digits)).elim [] Exponent.chars ++ rest) =
          scanExponent parts ((Exponent.mk capital sign digits).signChars ++
            (digits.chars ++ rest)) := by
        rw [← List.append_assoc]
        cases capital <;> rfl
      rw [behind]
      cases sign with
      | none => exact scanExponent_unsigned ends parts digits
      | some minus =>
          refine (scanExponent_signed ends parts minus digits).trans ?_
          cases minus <;> rfl

theorem scanFraction_tail {parts : Parts} (free : parts.fraction = none ∧ parts.exponent = none)
    (numeral : Numeral) :
    scanFraction parts (numeral.tail ++ rest) =
      complete
        { parts with
          fraction := numeral.fraction.map Digits.chars
          exponent := numeral.exponent.map Exponent.part } rest := by
  obtain ⟨negative, whole, fraction, exponent⟩ := numeral
  have first := head_exponent ends exponent
  cases fraction with
  | none =>
      unfold scanFraction
      split
      · rename_i behind same
        exact ((first '.' (congrArg List.head? same)).2 rfl).elim
      · refine (scanTail_chars ends free.2 exponent).trans ?_
        simp [← free.1]
  | some fraction =>
      obtain ⟨taken, dropped⟩ :=
        takeWhile_digits (isDigit_of_mem_chars fraction) fun c second => (first c second).1
      have behind : (Numeral.mk negative whole (some fraction) exponent).tail ++ rest =
          '.' :: (fraction.chars ++ (exponent.elim [] Exponent.chars ++ rest)) := by
        simp [Numeral.tail]
      rw [behind, scanFraction, taken, dropped, if_neg (chars_ne_nil fraction)]
      have none : ({ parts with fraction := some fraction.chars } : Parts).exponent = none := free.2
      exact scanTail_chars ends none _

theorem scanUnsigned_unsigned (numeral : Numeral) :
    scanUnsigned numeral.negative (numeral.unsigned ++ rest) = complete numeral.parts rest := by
  obtain ⟨taken, dropped⟩ :=
    takeWhile_digits (fun c => isDigit_of_mem_toDigits (n := numeral.whole))
      (head_tail ends numeral)
  rw [Numeral.unsigned, List.append_assoc, scanUnsigned, taken, dropped,
    if_neg Nat.toDigits_ne_nil, if_pos (isWhole_toDigits _), scanFraction_tail ends ⟨rfl, rfl⟩]
  rfl

end Scanning

end Number

/-! ## Symbols -/

def Symbol.token : Symbol → Token
  | beginMap => .beginMap
  | endMap => .endMap
  | beginList => .beginList
  | endList => .endList
  | colon => .colon
  | comma => .comma
  | null => .null
  | boolean value => .boolean value
  | number numeral => .number (orMalformed numeral.parts.value) true
  | text literal => .text (orMalformed (literal.value?.map String.ofList)) none

namespace Token

theorem scan_blank {c : Char} (blank : isBlank c = true) (rest : List Char) :
    scan (c :: rest) = scan rest := by
  rw [scan, if_pos blank]

theorem scan_lexeme {c : Char} {rest behind : List Char} {token : Token}
    (visible : isBlank c = false) (found : lexeme c rest = (token, some behind)) :
    scan (c :: rest) = token :: scan behind := by
  rw [scan, if_neg (by rw [visible]; decide)]
  split
  · rename_i same
    cases found.symm.trans same
  · rename_i same
    cases found.symm.trans same
    rfl

theorem lexeme_digit {c : Char} (digit : Number.isDigit c = true) (rest : List Char) :
    lexeme c rest = numberLexeme false (c :: rest) := by
  have other (d : Char) (no : Number.isDigit d = false) : c ≠ d := by
    rintro rfl
    rw [digit] at no
    cases no
  have noMark : punctuation c = none := by
    unfold punctuation
    split <;> first | rfl | exact absurd rfl (other _ rfl)
  have noWord : wordOf c = none := by
    unfold wordOf
    split <;> first | rfl | exact absurd rfl (other _ rfl)
  simp only [lexeme, noMark, noWord, other '"' rfl, other '-' rfl, digit, if_true, if_false]

theorem numberLexeme_unsigned (numeral : Numeral) {rest : List Char} (ends : Number.Ends rest) :
    numberLexeme numeral.negative (numeral.unsigned ++ rest) =
      (Symbol.token (.number numeral), some rest) := by
  rw [numberLexeme, Number.scanUnsigned_unsigned ends]
  rfl

theorem isBlank_digit {c : Char} (digit : Number.isDigit c = true) : isBlank c = false := by
  by_contra blank
  simp only [isBlank, Bool.not_eq_false, Bool.or_eq_true, beq_iff_eq] at blank
  rcases blank with ((rfl | rfl) | rfl) | rfl <;> cases digit

theorem scan_number (numeral : Numeral) {rest : List Char} (ends : Number.Ends rest) :
    scan (numeral.chars ++ rest) = Symbol.token (.number numeral) :: scan rest := by
  have found := numberLexeme_unsigned numeral ends
  cases sign : numeral.negative with
  | true =>
      rw [sign] at found
      rw [Numeral.chars, sign, if_pos rfl]
      exact scan_lexeme rfl found
  | false =>
      rw [sign] at found
      rw [Numeral.chars, sign, if_neg (by decide)]
      obtain ⟨c, behind, digits⟩ := List.exists_cons_of_ne_nil
        (Nat.toDigits_ne_nil (n := numeral.whole) (b := 10))
      have digit : Number.isDigit c = true :=
        Number.isDigit_of_mem_toDigits (n := numeral.whole) (by rw [digits]; exact List.mem_cons_self)
      rw [Numeral.unsigned, digits, List.cons_append, List.cons_append] at found ⊢
      exact scan_lexeme (isBlank_digit digit) ((lexeme_digit digit _).trans found)

theorem scan_text (literal : Literal) (rest : List Char) :
    scan ((Symbol.text literal).chars ++ rest) = Symbol.token (.text literal) :: scan rest := by
  have found : textLexeme (literal.chars ++ '"' :: rest) =
      (Symbol.token (.text literal), some rest) := by
    rw [textLexeme, Literal.skip_chars, Literal.read_chars, Symbol.token]
    cases literal.value? <;> rfl
  rw [Symbol.chars, List.cons_append, List.append_assoc]
  exact scan_lexeme rfl found

/-- A symbol is scanned as its token. -/
theorem scan_symbol (symbol : Symbol) {rest : List Char}
    (ends : symbol.isNumber = true → Number.Ends rest) :
    scan (symbol.chars ++ rest) = symbol.token :: scan rest := by
  cases symbol with
  | number numeral => exact scan_number numeral (ends rfl)
  | text literal => exact scan_text literal rest
  | boolean value => cases value <;> exact scan_lexeme rfl rfl
  | _ => exact scan_lexeme rfl rfl

end Token

/-! ## Text -/

theorem Token.isBlank_of_mem {c : Char} (blank : c ∈ [' ', '\n', '\t', '\r']) :
    isBlank c = true := by
  simp only [List.mem_cons, List.not_mem_nil, or_false] at blank
  rcases blank with rfl | rfl | rfl | rfl <;> rfl

theorem Number.ends_of_blank {gap : List Char} (blank : Blank gap)
    {rest : List Char} (ends : Ends rest) : Ends (gap ++ rest) := by
  cases gap with
  | nil => exact ends
  | cons c gap =>
      rintro _ ⟨⟩
      have inside := blank c List.mem_cons_self
      simp only [List.mem_cons, List.not_mem_nil, or_false] at inside
      rcases inside with rfl | rfl | rfl | rfl <;> decide

theorem Number.ends_of_symbol {symbol : Symbol} (other : symbol.isNumber = false)
    (rest : List Char) : Ends (symbol.chars ++ rest) := by
  cases symbol with
  | number numeral => cases other
  | boolean value => cases value <;> rintro _ ⟨⟩ <;> decide
  | _ => rintro _ ⟨⟩; decide

namespace Spells

variable {symbols : List Symbol} {text : List Char}

theorem ends (spells : Spells symbols text)
    (other : ∀ symbol ∈ symbols.head?, symbol.isNumber = false) : Number.Ends text := by
  cases spells with
  | done blank =>
      have nothing : Number.Ends [] := by rintro _ ⟨⟩
      have ends := Number.ends_of_blank blank nothing
      rwa [List.append_nil] at ends
  | next symbol blank later =>
      exact Number.ends_of_blank blank (Number.ends_of_symbol (other symbol rfl) _)

theorem scan_gap {gap : List Char} (blank : Blank gap)
    (rest : List Char) : Token.scan (gap ++ rest) = Token.scan rest := by
  induction gap with
  | nil => rfl
  | cons c gap ih =>
      obtain ⟨first, later⟩ := List.forall_mem_cons.mp blank
      rw [List.cons_append, Token.scan_blank (Token.isBlank_of_mem first), ih later]

/-- No two numbers stand side by side. -/
def Apart (symbols : List Symbol) : Prop :=
  symbols.IsChain fun first second => first.isNumber = true → second.isNumber = false

/-- A text is scanned as the tokens of the symbols that it spells. -/
theorem scan (spells : Spells symbols text) (apart : Apart symbols) :
    Token.scan text = symbols.map Symbol.token := by
  induction spells with
  | @done gap blank =>
      rw [← List.append_nil gap, scan_gap blank, Token.scan, List.map_nil]
  | next symbol blank later ih =>
      obtain ⟨next, apart⟩ := List.isChain_cons.mp apart
      have ends (number : symbol.isNumber = true) : Number.Ends _ :=
        later.ends fun other first => next other first number
      rw [scan_gap blank, Token.scan_symbol symbol ends, ih apart, List.map_cons]

end Spells

/-! ## Values -/

namespace Tree

/-- What may follow a value. -/
def Follows (rest : List Symbol) : Prop :=
  Spells.Apart rest ∧ ∀ symbol ∈ rest.head?, symbol.isNumber = false

theorem apart_cons {symbol : Symbol} {rest : List Symbol} (other : symbol.isNumber = false)
    (apart : Spells.Apart rest) : Spells.Apart (symbol :: rest) := by
  refine List.isChain_cons.mpr ⟨fun next _ number => ?_, apart⟩
  rw [other] at number
  cases number

theorem follows_cons {symbol : Symbol} {rest : List Symbol} (other : symbol.isNumber = false)
    (apart : Spells.Apart rest) : Follows (symbol :: rest) := by
  refine ⟨apart_cons other apart, ?_⟩
  rintro _ ⟨⟩
  exact other

theorem follows_laterItems {items : List Tree}
    (each : ∀ item ∈ items, ∀ rest, Follows rest → Spells.Apart (item.symbols ++ rest))
    {rest : List Symbol} (follows : Follows rest) : Follows (laterItems items ++ rest) := by
  induction items with
  | nil => exact follows_cons rfl follows.1
  | cons item items ih =>
      obtain ⟨first, later⟩ := List.forall_mem_cons.mp each
      rw [laterItems, List.cons_append, List.append_assoc]
      exact follows_cons rfl (first _ (ih later))

theorem follows_laterMembers {members : List (Literal × Tree)}
    (each : ∀ member ∈ members, ∀ rest, Follows rest → Spells.Apart (member.2.symbols ++ rest))
    {rest : List Symbol} (follows : Follows rest) : Follows (laterMembers members ++ rest) := by
  induction members with
  | nil => exact follows_cons rfl follows.1
  | cons member members ih =>
      obtain ⟨first, later⟩ := List.forall_mem_cons.mp each
      rw [laterMembers, List.cons_append, List.cons_append, List.cons_append, List.append_assoc]
      exact follows_cons rfl (apart_cons rfl (apart_cons rfl (first _ (ih later))))

/-- In a value no two numbers stand side by side. -/
theorem apart_symbols (tree : Tree) (rest : List Symbol) (follows : Follows rest) :
    Spells.Apart (tree.symbols ++ rest) := by
  induction tree using induct generalizing rest with
  | null | boolean | text => exact apart_cons rfl follows.1
  | number numeral =>
      exact List.isChain_cons.mpr ⟨fun next first _ => follows.2 next first, follows.1⟩
  | list items ih =>
      cases items with
      | nil => exact apart_cons rfl (apart_cons rfl follows.1)
      | cons item items =>
          obtain ⟨first, later⟩ := List.forall_mem_cons.mp ih
          rw [symbols, List.cons_append, List.append_assoc]
          exact apart_cons rfl (first _ (follows_laterItems later follows))
  | map members ih =>
      cases members with
      | nil => exact apart_cons rfl (apart_cons rfl follows.1)
      | cons member members =>
          obtain ⟨first, later⟩ := List.forall_mem_cons.mp ih
          rw [symbols, List.cons_append, List.cons_append, List.cons_append, List.append_assoc]
          exact apart_cons rfl (apart_cons rfl (apart_cons rfl
            (first _ (follows_laterMembers later follows))))

def tokens (tree : Tree) : List Token :=
  tree.symbols.map Symbol.token

def laterTokens (members : List (Literal × Tree)) : List Token :=
  (laterMembers members).map Symbol.token

section Tokens

variable {rest : List Token}

theorem tokens_append (tree : Tree) (later : List Symbol) :
    (tree.symbols ++ later).map Symbol.token ++ rest =
      tree.tokens ++ (later.map Symbol.token ++ rest) := by
  rw [List.map_append, List.append_assoc]
  rfl

theorem laterTokens_cons (key : Literal) (value : Tree) (members : List (Literal × Tree)) :
    laterTokens ((key, value) :: members) ++ rest =
      .comma :: (Symbol.text key).token :: .colon ::
        (value.tokens ++ (laterTokens members ++ rest)) := by
  rw [laterTokens, laterMembers, List.map_cons, List.map_cons, List.map_cons, List.cons_append,
    List.cons_append, List.cons_append, tokens_append]
  rfl

theorem tokens_list_cons (item : Tree) (items : List Tree) :
    (list (item :: items)).tokens ++ rest =
      .beginList :: (item.tokens ++ ((laterItems items).map Symbol.token ++ rest)) := by
  rw [tokens, symbols, List.map_cons, List.cons_append, tokens_append]
  rfl

theorem tokens_map_cons (key : Literal) (value : Tree) (members : List (Literal × Tree)) :
    (map ((key, value) :: members)).tokens ++ rest =
      .beginMap :: (Symbol.text key).token :: .colon ::
        (value.tokens ++ (laterTokens members ++ rest)) := by
  rw [tokens, symbols, List.map_cons, List.map_cons, List.map_cons, List.cons_append,
    List.cons_append, List.cons_append, tokens_append]
  rfl

end Tokens

/-- A text that spells a value is scanned as its tokens. -/
theorem scan_of_spells {tree : Tree} {text : List Char} (spells : Spells tree.symbols text) :
    Token.scan text = tree.tokens := by
  have apart := tree.apart_symbols [] ⟨List.isChain_nil, by rintro _ ⟨⟩⟩
  rw [List.append_nil] at apart
  exact spells.scan apart

end Tree

end SampleCapture.Json
