import DeviceConsole.Profile.Options

/-!
# Declared subscriptions

A profile declares filters with their options.  This file defines `Subscription`, how it is read and
written, and `Subscription.upsert`, which gives a declared filter new options or declares a new one.
-/

namespace DeviceConsole

/-- A filter declared on a profile. -/
structure Subscription where
  id : String
  name : Option String
  topic : String
  options : SubscribeOptions
  keep : Bool
  deriving DecidableEq, Repr

namespace Subscription

/-- A kept subscription without a name. -/
def fresh (id topic : String) (options : SubscribeOptions) : Subscription :=
  ⟨id, none, topic, options, true⟩

def names : List String := ["id", "name", "topic", "opts", "keep"]

def outline : Json.Outline := .ofNames names [("opts", SubscribeOptions.outline)]

/-- Reads a subscription; the id and the filter have to be there. -/
def read? : Reader Subscription := fun value => do
  let fields ← Fields.read? names value
  return {
    id := ← fields.required "id" Json.string?
    name := ← fields.optional "name" Json.string?
    topic := ← fields.required "topic" Json.string?
    options := ← fields.orElse "opts" SubscribeOptions.read? .default
    keep := ← fields.orElse "keep" Json.bool? false }

/-- Writes a subscription; the name is left out if there is none. -/
def toJson (s : Subscription) : Json :=
  .obj ([("id", .str s.id)] ++ Json.optionalMember "name" .str s.name ++
    [("topic", .str s.topic), ("opts", s.options.toJson), ("keep", .bool s.keep)])

def find? (declared : List Subscription) (topic : String) : Option Subscription :=
  declared.find? fun s => s.topic = topic

/-- Gives the first subscription for a filter new options; if there is none, a new subscription goes
to the end. -/
def upsert (topic : String) (options : SubscribeOptions) (new : Subscription) :
    List Subscription → List Subscription
  | [] => [new]
  | s :: rest =>
    if s.topic = topic then { s with options := options } :: rest
    else s :: upsert topic options new rest

end Subscription

end DeviceConsole
