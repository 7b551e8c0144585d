import SampleCapture.Json.Skip

/-!
# Reading records

A record is read from a map or from a list. In a map its fields may stand in any order,
once each, and members with other names are skipped. A list has the fields in the order
of their declaration. A record either takes what its empty value has for missing
fields, or has no missing fields.
-/

namespace SampleCapture.Json

structure Taken (α : Type) (tokens : List Token) where
  value : α
  rest : List Token
  shorter : rest.length < tokens.length

abbrev Reader (α : Type) : Type :=
  (tokens : List Token) → Except Problem (Taken α tokens)

def Taken.behind {α : Type} {tokens : List Token} (taken : Taken α tokens) (token : Token) :
    Taken α (token :: tokens) where
  value := taken.value
  rest := taken.rest
  shorter := Nat.lt_succ_of_lt taken.shorter

def Taken.map {α β : Type} {tokens : List Token} (f : α → β) (taken : Taken α tokens) :
    Taken β tokens where
  value := f taken.value
  rest := taken.rest
  shorter := taken.shorter

def Taken.followedBy {α β : Type} {tokens : List Token} (first : Taken α tokens)
    (second : Taken β first.rest) : Taken β tokens where
  value := second.value
  rest := second.rest
  shorter := Nat.lt_trans second.shorter first.shorter

def Taken.one {α : Type} (value : α) (token : Token) (rest : List Token) :
    Taken α (token :: rest) where
  value := value
  rest := rest
  shorter := Nat.lt_succ_self _

namespace Reader

/-- A natural below a bound; the name stands for the range in messages. -/
def natural (name : String) (bound : Nat) : Reader Nat
  | .number (.ok (.integer n)) form :: rest =>
      if 0 ≤ n ∧ n < bound then .ok (.one n.toNat (.number (.ok (.integer n)) form) rest)
      else .error (.content (.range n name))
  | tokens => .error (Token.refusal name tokens)

def double : Reader Float
  | .number (.ok (.floating x)) form :: rest =>
      .ok (.one x (.number (.ok (.floating x)) form) rest)
  | .number (.ok (.integer n)) form :: rest =>
      let size := n.natAbs.toUInt64.toFloat
      .ok (.one (if n < 0 then -size else size) (.number (.ok (.integer n)) form) rest)
  | tokens => .error (Token.refusal "f64" tokens)

def skipped (scrutiny : Scrutiny) : Reader Unit := fun tokens =>
  match passed : passOver scrutiny [] .value tokens with
  | .ok rest => .ok { value := (), rest := rest, shorter := passOver_shorter passed }
  | .error problem => .error problem

def behindColon {α : Type} (reader : Reader α) : Reader α
  | .colon :: rest => (reader rest).map (·.behind .colon)
  | [] => .error .truncated
  | _ => .error .malformed

def map {α β : Type} (f : α → β) (reader : Reader α) : Reader β := fun tokens =>
  (reader tokens).map (·.map f)

end Reader

/-- A field of a record: its name, and how it is read into one. -/
structure RecordField (σ : Type) where
  name : String
  read : σ → Reader σ

structure Shape (σ : Type) where
  name : String
  fields : List (RecordField σ)
  empty : σ
  /-- Fields may be missing. -/
  optional : Bool

namespace Shape

variable {σ : Type}

def expected (shape : Shape σ) : String :=
  "struct " ++ shape.name

def field? (shape : Shape σ) (name : String) : Option (RecordField σ) :=
  shape.fields.find? (·.name == name)

/-- A record being read from a map: what it has so far, and the fields seen. -/
structure Progress (σ : Type) where
  record : σ
  seen : List String

def memberValue (shape : Shape σ) (progress : Progress σ) (name : String) :
    Reader (Progress σ) :=
  match shape.field? name with
  | none => (Reader.behindColon (Reader.skipped .lenient)).map fun _ => progress
  | some field =>
      if name ∈ progress.seen then fun _ => .error (.content (.duplicateField name))
      else
        (Reader.behindColon (field.read progress.record)).map fun record =>
          { record := record, seen := name :: progress.seen }

def member (shape : Shape σ) (progress : Progress σ) : Reader (Progress σ)
  | .text (.ok name) form :: rest =>
      (shape.memberValue progress name rest).map (·.behind (.text (.ok name) form))
  | .text (.error problem) _ :: _ => .error problem
  | [] => .error .truncated
  | _ => .error .malformed

def members (shape : Shape σ) (progress : Progress σ) : Reader (Progress σ) := fun tokens =>
  match shape.member progress tokens with
  | .error problem => .error problem
  | .ok taken =>
      match same : taken.rest with
      | .endMap :: rest =>
          have : rest.length < tokens.length := by
            have := taken.shorter; simp only [same, List.length_cons] at this; omega
          .ok { value := taken.value, rest := rest, shorter := this }
      | .comma :: rest =>
          have : rest.length < tokens.length := by
            have := taken.shorter; simp only [same, List.length_cons] at this; omega
          match members shape taken.value rest with
          | .error problem => .error problem
          | .ok all =>
              .ok
                { value := all.value
                  rest := all.rest
                  shorter := Nat.lt_trans all.shorter this }
      | [] => .error .truncated
      | _ => .error .malformed
termination_by tokens => tokens.length

/-- A record from its members: without the first field that is missing but must not be. -/
def complete (shape : Shape σ) (progress : Progress σ) : Except Problem σ :=
  match shape.fields.find? fun field => field.name ∉ progress.seen with
  | some field =>
      if shape.optional then .ok progress.record
      else .error (.content (.missingField field.name))
  | none => .ok progress.record

def readMap (shape : Shape σ) : Reader σ
  | .endMap :: rest => do
      return .one (← shape.complete { record := shape.empty, seen := [] }) .endMap rest
  | tokens => do
      let all ← shape.members { record := shape.empty, seen := [] } tokens
      return { value := ← shape.complete all.value, rest := all.rest, shorter := all.shorter }

def tooShort (shape : Shape σ) (count : Nat) : Problem :=
  .content (.length count
    (shape.expected ++ " with " ++ toString shape.fields.length ++ " elements"))

def elements (shape : Shape σ) (count : Nat) (record : σ) : List (RecordField σ) → Reader σ
  | [], .endList :: rest => .ok (.one record .endList rest)
  | _ :: _, .endList :: rest =>
      if shape.optional then .ok (.one record .endList rest) else .error (shape.tooShort count)
  | field :: fields, .comma :: rest =>
      if count = 0 then .error .malformed
      else
        match rest with
        | .endList :: _ => .error .malformed
        | rest => do
            let first ← field.read record rest
            let all ← elements shape (count + 1) first.value fields first.rest
            return (first.followedBy all).behind .comma
  | field :: fields, token :: rest =>
      if count = 0 then do
        let first ← field.read record (token :: rest)
        let all ← elements shape (count + 1) first.value fields first.rest
        return first.followedBy all
      else .error .malformed
  | _, [] => .error .truncated
  | [], _ => .error .malformed

def read (shape : Shape σ) : Reader σ
  | .beginMap :: rest => (shape.readMap rest).map (·.behind .beginMap)
  | .beginList :: rest =>
      (shape.elements 0 shape.empty shape.fields rest).map (·.behind .beginList)
  | tokens => .error (Token.refusal shape.expected tokens)

end Shape

def parse {α : Type} (reader : Reader α) (text : String) : Except Problem α := do
  let taken ← reader (Token.scan text.toList)
  match taken.rest with
  | [] => return taken.value
  | _ => throw .malformed

end SampleCapture.Json
