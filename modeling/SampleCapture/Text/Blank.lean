/-!
# Blank text

A character is white space if Unicode gives it the property White_Space.
-/

namespace SampleCapture.Text

def whiteSpace : List (Nat × Nat) :=
  [(0x09, 0x0D), (0x20, 0x20), (0x85, 0x85), (0xA0, 0xA0), (0x1680, 0x1680),
    (0x2000, 0x200A), (0x2028, 0x2029), (0x202F, 0x202F), (0x205F, 0x205F),
    (0x3000, 0x3000)]

def isWhiteSpace (c : Char) : Bool :=
  whiteSpace.any fun range => range.1 ≤ c.toNat && c.toNat ≤ range.2

def isBlank (text : List Char) : Bool :=
  text.all isWhiteSpace

end SampleCapture.Text
