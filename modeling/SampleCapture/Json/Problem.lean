import SampleCapture.Decimal.Shortest
import SampleCapture.Text.Quoted

/-!
# Problems with JSON text

Text is read from left to right and the first problem decides. It is either malformed,
or ends too early, or is well formed so far and has the wrong content.
-/

namespace SampleCapture.Json

/-- A number as it is written: an integer that fits 64 bits with or without sign, or
anything else. -/
inductive Number where
  | integer (n : Int)
  | floating (x : Float)
deriving Repr, Inhabited

inductive Found where
  | null
  | boolean (value : Bool)
  | number (value : Number)
  | text (value : String)
  | sequence
  | map
deriving Repr, Inhabited

inductive Mismatch where
  /-- A value of another kind. -/
  | kind (found : Found) (expected : String)
  /-- An integer outside the range. -/
  | range (found : Int) (expected : String)
  | duplicateField (name : String)
  | missingField (name : String)
  | unknownVariant (name : String) (known : List String)
  /-- A sequence with the wrong number of elements. -/
  | length (count : Nat) (expected : String)
deriving Repr, Inhabited

inductive Problem where
  | malformed
  | truncated
  | content (mismatch : Mismatch)
deriving Repr, Inhabited

def backquoted (text : String) : String :=
  "\x60" ++ text ++ "\x60"

def Number.message : Number → String
  | integer n => "integer " ++ backquoted (toString n)
  | floating x => "floating point " ++ backquoted (String.ofList (Decimal.shortest x))

def Found.message : Found → String
  | null => "null"
  | boolean value => "boolean " ++ backquoted (if value then "true" else "false")
  | number value => value.message
  | text value => "string " ++ String.ofList (Text.quoted value.toList)
  | sequence => "sequence"
  | map => "map"

def Mismatch.message : Mismatch → String
  | kind found expected => "invalid type: " ++ found.message ++ ", expected " ++ expected
  | range found expected =>
      "invalid value: " ++ (Number.integer found).message ++ ", expected " ++ expected
  | duplicateField name => "duplicate field " ++ backquoted name
  | missingField name => "missing field " ++ backquoted name
  | unknownVariant name known =>
      "unknown variant " ++ backquoted name ++ ", expected one of " ++
        ", ".intercalate (known.map backquoted)
  | length count expected =>
      "invalid length " ++ toString count ++ ", expected " ++ expected

end SampleCapture.Json
