import SampleCapture.Json.Number
import SampleCapture.Json.Text

/-!
# JSON tokens

Text is a row of tokens with blanks around them. The row ends where the text ends, or
with a token that is broken in a way that no reader passes over. A string or number
token keeps both views of it: its value or what is wrong with it, and whether its form
allows to skip it.
-/

namespace SampleCapture.Json

inductive Token where
  | beginMap
  | endMap
  | beginList
  | endList
  | colon
  | comma
  | null
  | boolean (value : Bool)
  | number (value : Except Problem Number) (wellFormed : Bool)
  /-- The problem is what keeps the string from being skipped. -/
  | text (value : Except Problem String) (problem : Option Problem)
  /-- No token at all; the problem is the one of a reader that expects a value here. -/
  | stray (problem : Problem)
deriving Inhabited

namespace Token

def isBlank (c : Char) : Bool :=
  c == ' ' || c == '\n' || c == '\t' || c == '\r'

def expect : List Char → List Char → Except Problem (List Char)
  | [], rest => .ok rest
  | _ :: _, [] => .error .truncated
  | wanted :: word, c :: rest => if c = wanted then expect word rest else .error .malformed

theorem expect_suffix {word text rest : List Char} (found : expect word text = .ok rest) :
    rest <:+ text := by
  fun_induction expect word text with
  | case1 rest => cases found; exact List.suffix_refl _
  | case2 => cases found
  | case3 word c rest ih => exact (ih found).trans (List.suffix_cons _ _)
  | case4 => cases found

def wordLexeme (token : Token) (word rest : List Char) : Token × Option (List Char) :=
  match expect word rest with
  | .ok behind => (token, some behind)
  | .error problem => (.stray problem, none)

def textLexeme (rest : List Char) : Token × Option (List Char) :=
  let value := (Text.read rest).map String.ofList
  match Text.skip rest with
  | .ok behind => (.text value none, some behind)
  | .error problem => (.text value (some problem), none)

def numberLexeme (negative : Bool) (text : List Char) : Token × Option (List Char) :=
  let number := Number.scanUnsigned negative text
  (.number number.value number.wellFormed,
    if number.wellFormed then some number.rest else none)

def punctuation : Char → Option Token
  | '\x7b' => some .beginMap
  | '\x7d' => some .endMap
  | '[' => some .beginList
  | ']' => some .endList
  | ':' => some .colon
  | ',' => some .comma
  | _ => none

/-- The words, by their first character: the token and the other characters. -/
def wordOf : Char → Option (Token × List Char)
  | 'n' => some (.null, ['u', 'l', 'l'])
  | 't' => some (.boolean true, ['r', 'u', 'e'])
  | 'f' => some (.boolean false, ['a', 'l', 's', 'e'])
  | _ => none

/-- The token that begins with a character, and what follows it; nothing follows a
token that cannot be passed over. -/
def lexeme (c : Char) (rest : List Char) : Token × Option (List Char) :=
  match punctuation c, wordOf c with
  | some token, _ => (token, some rest)
  | none, some (token, word) => wordLexeme token word rest
  | none, none =>
      if c = '"' then textLexeme rest
      else if c = '-' then numberLexeme true rest
      else if Number.isDigit c then numberLexeme false (c :: rest)
      else (.stray .malformed, none)

theorem wordLexeme_suffix {token found : Token} {word rest behind : List Char}
    (scanned : wordLexeme token word rest = (found, some behind)) : behind <:+ rest := by
  unfold wordLexeme at scanned
  split at scanned
  · rename_i matched
    simp only [Prod.mk.injEq, Option.some.injEq] at scanned
    exact scanned.2 ▸ expect_suffix matched
  · simp at scanned

theorem textLexeme_suffix {found : Token} {rest behind : List Char}
    (scanned : textLexeme rest = (found, some behind)) : behind <:+ rest := by
  unfold textLexeme at scanned
  split at scanned
  · rename_i skipped
    simp only [Prod.mk.injEq, Option.some.injEq] at scanned
    exact scanned.2 ▸ Text.skip_suffix skipped
  · simp at scanned

theorem numberLexeme_suffix {negative : Bool} {found : Token} {text behind : List Char}
    (scanned : numberLexeme negative text = (found, some behind)) :
    behind <:+ text.dropWhile Number.isDigit := by
  unfold numberLexeme at scanned
  simp only [Prod.mk.injEq, Option.ite_none_right_eq_some, Option.some.injEq] at scanned
  exact scanned.2.2 ▸ Number.scanUnsigned_suffix negative text

theorem numberLexeme_cons_suffix {negative : Bool} {found : Token} {c : Char}
    {rest behind : List Char} (digit : Number.isDigit c = true)
    (scanned : numberLexeme negative (c :: rest) = (found, some behind)) : behind <:+ rest := by
  have inside := numberLexeme_suffix scanned
  rw [List.dropWhile_cons_of_pos digit] at inside
  exact inside.trans (List.dropWhile_suffix _)

theorem lexeme_suffix {c : Char} {found : Token} {rest behind : List Char}
    (scanned : lexeme c rest = (found, some behind)) : behind <:+ rest := by
  unfold lexeme at scanned
  split at scanned
  · simp only [Prod.mk.injEq, Option.some.injEq] at scanned
    exact scanned.2 ▸ List.suffix_refl _
  · exact wordLexeme_suffix scanned
  · split at scanned
    · exact textLexeme_suffix scanned
    · split at scanned
      · exact (numberLexeme_suffix scanned).trans (List.dropWhile_suffix _)
      · split at scanned
        · exact numberLexeme_cons_suffix (by assumption) scanned
        · simp at scanned

def scan : List Char → List Token
  | [] => []
  | c :: rest =>
      if isBlank c then scan rest
      else
        match h : lexeme c rest with
        | (token, none) => [token]
        | (token, some behind) =>
            have := (lexeme_suffix h).length_le
            token :: scan behind
termination_by text => text.length

def found : Token → Except Problem Found
  | null => .ok .null
  | boolean value => .ok (.boolean value)
  | number value _ => value.map .number
  | text value _ => value.map .text
  | beginList => .ok .sequence
  | beginMap => .ok .map
  | stray problem => .error problem
  | endMap | endList | colon | comma => .error .malformed

/-- The problem of a reader that expects something which does not begin here. -/
def refusal (expected : String) : List Token → Problem
  | [] => .truncated
  | token :: _ =>
      match token.found with
      | .ok found => .content (.kind found expected)
      | .error problem => problem

end Token

end SampleCapture.Json
