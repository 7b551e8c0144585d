/-!
# Writing JSON

Values are written without blanks, the members of a record in the order of their
declaration.
-/

namespace SampleCapture.Json.Printer

def natural (n : Nat) : List Char :=
  Nat.toDigits 10 n

/-- A character inside a string: quotes, backslashes and control characters are escaped,
the usual ones shortly. -/
def textChar (c : Char) : List Char :=
  if c = '"' then ['\\', '"']
  else if c = '\\' then ['\\', '\\']
  else if c = '\n' then ['\\', 'n']
  else if c = '\r' then ['\\', 'r']
  else if c = '\t' then ['\\', 't']
  else if c.toNat = 8 then ['\\', 'b']
  else if c.toNat = 12 then ['\\', 'f']
  else if c.toNat < 32 then
    let digits := Nat.toDigits 16 c.toNat
    '\\' :: 'u' :: List.replicate (4 - digits.length) '0' ++ digits
  else [c]

def text (value : String) : List Char :=
  '"' :: value.toList.flatMap textChar ++ ['"']

def member (entry : String × List Char) : List Char :=
  text entry.1 ++ ':' :: entry.2

def commaSeparated : List (List Char) → List Char
  | [] => []
  | [last] => last
  | first :: rest => first ++ ',' :: commaSeparated rest

def record (entries : List (String × List Char)) : List Char :=
  '\x7b' :: commaSeparated (entries.map member) ++ ['\x7d']

def optional {α : Type} (write : α → List Char) : Option α → List Char
  | none => "null".toList
  | some value => write value

end SampleCapture.Json.Printer
