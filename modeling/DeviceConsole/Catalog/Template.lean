import DeviceConsole.Payload.RenderMode
import DeviceConsole.Profile.Basic
import DeviceConsole.Text.Substitute

/-!
# Topic templates

A template is a topic with a mark where the id of a thing goes.  This file defines:

* `TopicTemplate`, with `resolve` and the `subscription` it suggests;
* `PublishTemplate`, with an example payload.
-/

namespace DeviceConsole

def thingMark : String := "{thingId}"

def timeMark : String := "{now}"

def tokenMark : String := "{token}"

/-- A topic or filter that the platform knows. -/
structure TopicTemplate where
  name : String
  group : Option String
  pattern : String
  forThing : Bool
  forServer : Bool
  suggested : Bool
  deriving DecidableEq, Repr

namespace TopicTemplate

def resolve (t : TopicTemplate) (thing : String) : String :=
  Text.replaceAll thingMark thing t.pattern

/-- A subscription for the topic, under the template's name. -/
def subscription (t : TopicTemplate) (id thing : String) : Subscription :=
  { Subscription.fresh id (t.resolve thing) .default with name := some t.name }

def availableTo (t : TopicTemplate) : Role → Bool
  | .thing => t.forThing
  | .server => t.forServer

end TopicTemplate

/-- A topic to publish to, with an example payload. -/
structure PublishTemplate where
  topic : TopicTemplate
  renderMode : RenderMode
  skeleton : String
  deriving DecidableEq, Repr

/-- The example payload: the marks for the thing, the time and a token are replaced in this order,
also where an earlier one has put them. -/
def PublishTemplate.payload (t : PublishTemplate) (thing : String) (now : Int) (token : String) :
    String :=
  Text.replaceAll tokenMark token
    (Text.replaceAll timeMark (toString now) (Text.replaceAll thingMark thing t.skeleton))

end DeviceConsole
