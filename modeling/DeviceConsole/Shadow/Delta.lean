import DeviceConsole.Shadow.Document
import DeviceConsole.Json.Outline

/-!
# The delta of a shadow

A shadow holds what the operator wants and what the thing reported.  The delta is the part of the
first that the second does not yet satisfy.  This file defines:

* `ShadowState`, `ShadowDelta` and `ShadowState.delta`;
* `DocumentValue.sameScalar`, the comparison of values that are no documents.
-/

namespace DeviceConsole

/-- Equality of values that are no documents: numbers are equal if their nearest doubles are. -/
def DocumentValue.sameScalar (a b : Json) : Bool :=
  match a, b with
  | .num x, .num y => x.sameValue y
  | a, b => a.sameValue b

mutual

/-- The part of wanted entries that reported entries do not satisfy. -/
def DocumentValue.diffEntries (reported : List (String × DocumentValue)) :
    List (String × DocumentValue) → List (String × DocumentValue)
  | [] => []
  | (name, wanted) :: rest =>
    match DocumentValue.diffValue wanted (KeyList.get? name reported) with
    | some missing => (name, missing) :: DocumentValue.diffEntries reported rest
    | none => DocumentValue.diffEntries reported rest

/-- What a wanted value asks of the reported one, if it asks anything. -/
def DocumentValue.diffValue (wanted : DocumentValue) (actual : Option DocumentValue) :
    Option DocumentValue :=
  match wanted, actual with
  | .document nested, some (.document existing) =>
    match DocumentValue.diffEntries existing nested with
    | [] => none
    | missing => some (.document missing)
  | .scalar .null, none => none
  | .scalar want, some (.scalar present) =>
    if DocumentValue.sameScalar want present then none else some (.scalar want)
  | wanted, _ => some wanted

end

/-- The two halves of a shadow. -/
structure ShadowState where
  desired : Document
  reported : Document
  deriving Repr

structure ShadowDelta where
  hasDelta : Bool
  delta : Document
  deriving Repr

namespace ShadowState

def delta (s : ShadowState) : ShadowDelta :=
  let missing : Document := ⟨DocumentValue.diffEntries s.reported.entries s.desired.entries⟩
  ⟨!missing.isEmpty, missing⟩

def names : List String := ["desired", "reported"]

def outline : Json.Outline := .ofNames names []

/-- Reads a shadow; either half may be missing. -/
def read? : Reader ShadowState := fun value => do
  let fields ← Fields.read? names value
  return {
    desired := ← fields.orElse "desired" Document.ofJson? .empty
    reported := ← fields.orElse "reported" Document.ofJson? .empty }

def toJson (s : ShadowState) : Json :=
  .obj [("desired", s.desired.toJson), ("reported", s.reported.toJson)]

end ShadowState

namespace ShadowDelta

def names : List String := ["hasDelta", "delta"]

def outline : Json.Outline := .ofNames names []

/-- Reads a delta; both fields have to be there. -/
def read? : Reader ShadowDelta := fun value => do
  let fields ← Fields.read? names value
  return {
    hasDelta := ← fields.required "hasDelta" Json.bool?
    delta := ← fields.required "delta" Document.ofJson? }

def toJson (d : ShadowDelta) : Json :=
  .obj [("hasDelta", .bool d.hasDelta), ("delta", d.delta.toJson)]

end ShadowDelta

end DeviceConsole
