import SampleCapture.Options.Json
import SampleCapture.Stop

/-!
# Stop reasons and counters as JSON

A stop reason is a map with a member that names its kind, in any place among the
others, or a list that begins with the kind. What else there is, is set aside until
the container ends; then an overflow looks for its byte offset, and all kinds leave
members that they do not know alone.
-/

namespace SampleCapture

open Json

namespace Counters

def fields : List (RecordField Counters) :=
  [wordField "bytesReceived" "u64" fun counters n => { counters with received := n },
    wordField "bytesSaved" "u64" fun counters n => { counters with saved := n },
    wordField "bytesWritten" "u64" fun counters n => { counters with written := n },
    wordField "dropouts" "u64" fun counters n => { counters with dropouts := n }]

def shape : Shape Counters where
  name := "CaptureStats"
  fields := fields
  empty := {}
  optional := false

def toJson (counters : Counters) : List Char :=
  Printer.record
    [("bytesReceived", Printer.natural counters.received.toNat),
      ("bytesSaved", Printer.natural counters.saved.toNat),
      ("bytesWritten", Printer.natural counters.written.toNat),
      ("dropouts", Printer.natural counters.dropouts.toNat)]

end Counters

namespace StopReason

inductive Kind where
  | userInterrupt
  | hardwareOverflow
  | writeFailed
  | transferEnded
deriving Repr, DecidableEq, Inhabited

namespace Kind

def all : List Kind :=
  [userInterrupt, hardwareOverflow, writeFailed, transferEnded]

def name : Kind → String
  | userInterrupt => "userInterrupt"
  | hardwareOverflow => "hardwareOverflow"
  | writeFailed => "writeFailed"
  | transferEnded => "transferEnded"

def read : Reader Kind
  | .text (.ok name) form :: rest =>
      match all.find? fun kind => kind.name == name with
      | some kind => .ok (.one kind (.text (.ok name) form) rest)
      | none => .error (.content (.unknownVariant name (all.map Kind.name)))
  | tokens => .error (Token.refusal "variant identifier" tokens)

end Kind

def kindName : String := "kind"

def offsetName : String := "byteOffset"

/-- What has been read of a stop reason: its kind, and the first token of each value
that was set aside, under its name, the last one in front. -/
structure Parts where
  kind : Option Kind := none
  aside : List (String × Token) := []

/-- Sets a value aside; its first token shows what it is. -/
def setAside : Reader Token := fun tokens =>
  (Reader.skipped .strict tokens).map fun taken =>
    taken.map fun _ => tokens.head?.getD .null

def memberValue (parts : Parts) (name : String) : Reader Parts :=
  if name = kindName then
    if parts.kind.isSome then fun _ => .error (.content (.duplicateField kindName))
    else (Reader.behindColon Kind.read).map fun kind => { parts with kind := some kind }
  else
    (Reader.behindColon setAside).map fun token =>
      { parts with aside := (name, token) :: parts.aside }

def member (parts : Parts) : Reader Parts
  | .text (.ok name) form :: rest =>
      (memberValue parts name rest).map (·.behind (.text (.ok name) form))
  | .text (.error problem) _ :: _ => .error problem
  | [] => .error .truncated
  | _ => .error .malformed

def members (parts : Parts) : Reader Parts := fun tokens =>
  match member parts tokens with
  | .error problem => .error problem
  | .ok taken =>
      match same : taken.rest with
      | .endMap :: rest =>
          have : rest.length < tokens.length := by
            have := taken.shorter; simp only [same, List.length_cons] at this; omega
          .ok { value := taken.value, rest := rest, shorter := this }
      | .comma :: rest =>
          have : rest.length < tokens.length := by
            have := taken.shorter; simp only [same, List.length_cons] at this; omega
          match members taken.value rest with
          | .error problem => .error problem
          | .ok all =>
              .ok
                { value := all.value
                  rest := all.rest
                  shorter := Nat.lt_trans all.shorter this }
      | [] => .error .truncated
      | _ => .error .malformed
termination_by tokens => tokens.length

def offsetOf (token : Token) : Except Problem UInt64 :=
  (Reader.natural "u64" UInt64.size [token]).map fun taken => taken.value.toUInt64

def offsetAmong (found : Option UInt64) : List (String × Token) → Except Problem UInt64
  | [] => found.elim (.error (.content (.missingField offsetName))) .ok
  | (name, token) :: rest =>
      if name = offsetName then
        if found.isSome then .error (.content (.duplicateField offsetName))
        else do
          let offset ← offsetOf token
          offsetAmong (some offset) rest
      else offsetAmong found rest

def ofMembers (parts : Parts) : Except Problem StopReason :=
  match parts.kind with
  | none => .error (.content (.missingField kindName))
  | some .userInterrupt => .ok .userInterrupt
  | some .writeFailed => .ok .writeFailed
  | some .transferEnded => .ok .transferEnded
  | some .hardwareOverflow => .hardwareOverflow <$> offsetAmong none parts.aside.reverse

def elements (aside : List Token) : Reader (List Token)
  | .endList :: rest => .ok (.one aside .endList rest)
  | .comma :: .endList :: _ => .error .malformed
  | .comma :: rest =>
      match setAside rest with
      | .error problem => .error problem
      | .ok first =>
          have := first.shorter
          match elements (first.value :: aside) first.rest with
          | .error problem => .error problem
          | .ok all => .ok ((first.followedBy all).behind .comma)
  | [] => .error .truncated
  | _ => .error .malformed
termination_by tokens => tokens.length

def tooMany (aside : List Token) (known : String) : Problem :=
  .content (.length aside.length (known ++ " in sequence"))

def ofElements (kind : Kind) (aside : List Token) : Except Problem StopReason :=
  let plain (reason : StopReason) : Except Problem StopReason :=
    if aside = [] then .ok reason else .error (tooMany aside "0 elements")
  match kind with
  | .userInterrupt => plain .userInterrupt
  | .writeFailed => plain .writeFailed
  | .transferEnded => plain .transferEnded
  | .hardwareOverflow =>
      match aside with
      | [] =>
          .error (.content
            (.length 0 "struct variant StopReason::HardwareOverflow with 1 element"))
      | [token] => .hardwareOverflow <$> offsetOf token
      | token :: _ => do
          let _ ← offsetOf token
          .error (tooMany aside "1 element")

def readMap : Reader StopReason
  | .endMap :: _ => .error (.content (.missingField kindName))
  | tokens => do
      let parts ← members {} tokens
      let reason ← ofMembers parts.value
      return parts.map fun _ => reason

def readList : Reader StopReason
  | .endList :: _ => .error (.content (.missingField kindName))
  | tokens => do
      let kind ← Kind.read tokens
      let aside ← elements [] kind.rest
      let reason ← ofElements kind.value aside.value.reverse
      return (kind.followedBy aside).map fun _ => reason

def read : Reader StopReason
  | .beginMap :: rest => (readMap rest).map (·.behind .beginMap)
  | .beginList :: rest => (readList rest).map (·.behind .beginList)
  | tokens => .error (Token.refusal "internally tagged enum StopReason" tokens)

def kind : StopReason → Kind
  | userInterrupt => .userInterrupt
  | hardwareOverflow _ => .hardwareOverflow
  | writeFailed => .writeFailed
  | transferEnded => .transferEnded

def toJson (reason : StopReason) : List Char :=
  let tag := (kindName, Printer.text reason.kind.name)
  match reason with
  | hardwareOverflow offset =>
      Printer.record [tag, (offsetName, Printer.natural offset.toNat)]
  | _ => Printer.record [tag]

end StopReason

end SampleCapture
