import SampleCapture.Json.Problem

/-!
# JSON strings

A string ends at the first quote that is not escaped. When its value is skipped, the
four digits of a code unit escape only have to be hexadecimal; when it is read, code
units have to be characters or pairs of surrogates. All functions here begin behind
the opening quote.
-/

namespace SampleCapture.Json.Text

def hexDigit (c : Char) : Option Nat :=
  if '0' ≤ c ∧ c ≤ '9' then some (c.toNat - '0'.toNat)
  else if 'a' ≤ c ∧ c ≤ 'f' then some (c.toNat - 'a'.toNat + 10)
  else if 'A' ≤ c ∧ c ≤ 'F' then some (c.toNat - 'A'.toNat + 10)
  else none

def codeUnit (a b c d : Char) : Option Nat := do
  let a ← hexDigit a
  let b ← hexDigit b
  let c ← hexDigit c
  let d ← hexDigit d
  return ((a * 16 + b) * 16 + c) * 16 + d

def shortEscape (c : Char) : Option Char :=
  match c with
  | '"' => some '"'
  | '\\' => some '\\'
  | '/' => some '/'
  | 'b' => some (Char.ofNat 8)
  | 'f' => some (Char.ofNat 12)
  | 'n' => some '\n'
  | 'r' => some '\r'
  | 't' => some '\t'
  | _ => none

/-- Why a code unit escape with too few characters behind it fails: text that does not
have four more bytes is truncated. -/
def shortage (text : List Char) : Problem :=
  if (String.ofList text).utf8ByteSize < 4 then .truncated else .malformed

def isControl (c : Char) : Bool :=
  c.toNat < 32

/-- What follows the string, of which only the form is checked. -/
def skip : List Char → Except Problem (List Char)
  | [] => .error .truncated
  | '"' :: rest => .ok rest
  | '\\' :: 'u' :: a :: b :: c :: d :: rest =>
      if (codeUnit a b c d).isSome then skip rest else .error .malformed
  | '\\' :: 'u' :: rest => .error (shortage rest)
  | '\\' :: c :: rest => if (shortEscape c).isSome then skip rest else .error .malformed
  | ['\\'] => .error .truncated
  | c :: rest => if isControl c then .error .malformed else skip rest

def isHighSurrogate (unit : Nat) : Bool :=
  0xD800 ≤ unit && unit < 0xDC00

def isLowSurrogate (unit : Nat) : Bool :=
  0xDC00 ≤ unit && unit < 0xE000

def pairChar (high low : Nat) : Char :=
  Char.ofNat ((high - 0xD800) * 0x400 + (low - 0xDC00) + 0x10000)

def pairProblem : List Char → Problem
  | [] => .truncated
  | ['\\'] => .truncated
  | '\\' :: 'u' :: rest => shortage rest
  | _ => .malformed

def read : List Char → Except Problem (List Char)
  | [] => .error .truncated
  | '"' :: _ => .ok []
  | '\\' :: 'u' :: a :: b :: c :: d :: rest =>
      match codeUnit a b c d with
      | none => .error .malformed
      | some unit =>
          if isLowSurrogate unit then .error .malformed
          else if isHighSurrogate unit then
            match rest with
            | '\\' :: 'u' :: a :: b :: c :: d :: rest =>
                match codeUnit a b c d with
                | none => .error .malformed
                | some low =>
                    if isLowSurrogate low then (pairChar unit low :: ·) <$> read rest
                    else .error .malformed
            | rest => .error (pairProblem rest)
          else (Char.ofNat unit :: ·) <$> read rest
  | '\\' :: 'u' :: rest => .error (shortage rest)
  | '\\' :: c :: rest =>
      match shortEscape c with
      | none => .error .malformed
      | some escaped => (escaped :: ·) <$> read rest
  | ['\\'] => .error .truncated
  | c :: rest => if isControl c then .error .malformed else (c :: ·) <$> read rest

theorem skip_suffix {text rest : List Char} (skipped : skip text = .ok rest) :
    rest <:+ text := by
  fun_induction skip text with
  | case1 => cases skipped
  | case2 rest => cases skipped; exact List.suffix_cons _ _
  | case3 a b c d rest _ ih =>
      exact (ih skipped).trans ⟨['\\', 'u', a, b, c, d], rfl⟩
  | case4 => cases skipped
  | case5 => cases skipped
  | case6 c rest =>
      rename_i ih
      exact (ih skipped).trans ⟨['\\', c], rfl⟩
  | case7 => cases skipped
  | case8 => cases skipped
  | case9 => cases skipped
  | case10 c rest =>
      rename_i ih
      exact (ih skipped).trans (List.suffix_cons _ _)

end SampleCapture.Json.Text
