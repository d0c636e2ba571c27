import DeviceConsole.Catalog.Builtin

/-!
# The topic catalog

This file defines `Catalog`, the templates a console knows, with the templates of a role, the
suggested subscriptions of a thing, and `Catalog.lookup`.
-/

namespace DeviceConsole

structure Catalog where
  subscribe : List TopicTemplate
  publish : List PublishTemplate
  deriving DecidableEq

namespace Catalog

def builtin : Catalog := ⟨Builtin.subscribeTemplates, Builtin.publishTemplates⟩

instance : Inhabited Catalog := ⟨builtin⟩

def subscribeTopics (c : Catalog) (role : Role) : List TopicTemplate :=
  c.subscribe.filter (·.availableTo role)

def publishTopics (c : Catalog) (role : Role) : List PublishTemplate :=
  c.publish.filter (·.topic.availableTo role)

def suggested (c : Catalog) : List TopicTemplate :=
  c.subscribe.filter fun t => t.forThing && t.suggested

/-- The suggested subscriptions of a thing; the `n`th one gets the id `fresh n`. -/
def suggestedFor (c : Catalog) (fresh : Nat → String) (thing : String) : List Subscription :=
  c.suggested.zipIdx.map fun (t, n) => t.subscription (fresh n) thing

/-- The first template whose topic for the thing is this one. -/
def lookup (c : Catalog) (thing topic : String) : Option TopicTemplate :=
  c.subscribe.find? fun t => t.resolve thing = topic

end Catalog

end DeviceConsole
