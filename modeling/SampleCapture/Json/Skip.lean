import SampleCapture.Json.Token

/-!
# Passing over values

Passes over one value of any kind. A value that is only skipped has to be well formed.
A value that is set aside for later is read: its strings and numbers have to have
values, and its nesting is limited. Both are one walk over the tokens with a stack of
the containers that are still open.
-/

namespace SampleCapture.Json

inductive Frame where
  | list
  | map
deriving Repr, DecidableEq, Inhabited

/-- What can come next inside the innermost container. -/
inductive Place where
  | value
  /-- A first element or the end of a list. -/
  | listStart
  /-- A first key or the end of a map. -/
  | mapStart
  | key
  | colon
  /-- The comma or the end behind an element. -/
  | behind
deriving Repr, DecidableEq, Inhabited

/-- How thoroughly a walk looks at what it passes. -/
structure Scrutiny where
  /-- Strings and numbers have to have values. -/
  reads : Bool
  /-- The greatest number of open containers. -/
  depth : Option Nat

namespace Scrutiny

/-- For values that are thrown away. -/
def lenient : Scrutiny where
  reads := false
  depth := none

/-- For values that are kept, inside a container of their own: 127 open containers are
allowed altogether. -/
def strict : Scrutiny where
  reads := true
  depth := some 126

def admits (scrutiny : Scrutiny) (frames : List Frame) : Bool :=
  scrutiny.depth.all (frames.length < ·)

def ofText (scrutiny : Scrutiny) (value : Except Problem String) (problem : Option Problem) :
    Option Problem :=
  if scrutiny.reads then
    match value with
    | .ok _ => none
    | .error problem => some problem
  else problem

def ofNumber (scrutiny : Scrutiny) (value : Except Problem Number) (wellFormed : Bool) :
    Option Problem :=
  if scrutiny.reads then
    match value with
    | .ok _ => none
    | .error problem => some problem
  else if wellFormed then none else some .malformed

end Scrutiny

inductive Turn where
  | fail (problem : Problem)
  /-- Goes on with these open containers. -/
  | next (frames : List Frame) (place : Place)
  /-- The value ends with this token. -/
  | done
deriving Inhabited

namespace Turn

def ended : List Frame → Turn
  | [] => .done
  | frames => .next frames .behind

def atValue (scrutiny : Scrutiny) (frames : List Frame) : Token → Turn
  | .beginList =>
      if scrutiny.admits frames then .next (.list :: frames) .listStart
      else .fail .malformed
  | .beginMap =>
      if scrutiny.admits frames then .next (.map :: frames) .mapStart
      else .fail .malformed
  | .null | .boolean _ => ended frames
  | .number value wellFormed => (scrutiny.ofNumber value wellFormed).elim (ended frames) .fail
  | .text value problem => (scrutiny.ofText value problem).elim (ended frames) .fail
  | .stray problem => .fail problem
  | .endMap | .endList | .colon | .comma => .fail .malformed

def atKey (scrutiny : Scrutiny) (frames : List Frame) : Token → Turn
  | .text value problem => (scrutiny.ofText value problem).elim (.next frames .colon) .fail
  | _ => .fail .malformed

def atBehind : List Frame → Token → Turn
  | .list :: frames, .comma => .next (.list :: frames) .value
  | .map :: frames, .comma => .next (.map :: frames) .key
  | .list :: frames, .endList => ended frames
  | .map :: frames, .endMap => ended frames
  | _, _ => .fail .malformed

def take (scrutiny : Scrutiny) (frames : List Frame) (place : Place) (token : Token) : Turn :=
  match place, token with
  | .value, token => atValue scrutiny frames token
  | .listStart, .endList => ended frames.tail
  | .listStart, token => atValue scrutiny frames token
  | .mapStart, .endMap => ended frames.tail
  | .mapStart, token => atKey scrutiny frames token
  | .key, token => atKey scrutiny frames token
  | .colon, .colon => .next frames .value
  | .colon, _ => .fail .malformed
  | .behind, token => atBehind frames token

end Turn

/-- Walks to the end of a value and gives the tokens behind it. -/
def passOver (scrutiny : Scrutiny) (frames : List Frame) (place : Place) :
    List Token → Except Problem (List Token)
  | [] => .error .truncated
  | token :: rest =>
      match Turn.take scrutiny frames place token with
      | .fail problem => .error problem
      | .next frames place => passOver scrutiny frames place rest
      | .done => .ok rest

theorem passOver_shorter {scrutiny : Scrutiny} {frames : List Frame} {place : Place}
    {tokens rest : List Token} (passed : passOver scrutiny frames place tokens = .ok rest) :
    rest.length < tokens.length := by
  induction tokens generalizing frames place with
  | nil => simp [passOver] at passed
  | cons token tokens ih =>
      unfold passOver at passed
      split at passed
      · cases passed
      · exact Nat.lt_succ_of_lt (ih passed)
      · cases passed
        exact Nat.lt_succ_self _

end SampleCapture.Json
