import DeviceConsole.Catalog.Template

/-!
# The built-in templates

This file lists the topics of the platform: those one subscribes to, in groups, and those one
publishes to, with example payloads.
-/

namespace DeviceConsole

namespace Builtin

/-- A topic of the platform that belongs to one thing. -/
def thingTopic (rest : String) : String := "$iothub/things/" ++ thingMark ++ "/" ++ rest

/-- A topic of the operators that belongs to one thing. -/
def userTopic (rest : String) : String := "$iothub/user/things/" ++ thingMark ++ "/" ++ rest

def shadowTopic (rest : String) : String := thingTopic ("shadows/name/default/" ++ rest)

/-- A filter in a group, for things, for servers, and suggested. -/
def subscribe (group name pattern : String) (forThing forServer suggested : Bool) : TopicTemplate :=
  ⟨name, some group, pattern, forThing, forServer, suggested⟩

/-- A topic with an example payload, for things and for servers. -/
def publish (name pattern : String) (forThing forServer : Bool) (skeleton : String) :
    PublishTemplate :=
  ⟨⟨name, none, pattern, forThing, forServer, false⟩, .json, skeleton⟩

def subscribeTemplates : List TopicTemplate := [
  subscribe "Common" "Property Reported" (thingTopic "property") false true false,
  subscribe "Common" "Thing's Will" (thingTopic "will/#") false true false,
  subscribe "Common" "Presence" (thingTopic "presence") false true false,
  subscribe "Common" "Custom Topic" (userTopic "#") false true false,
  subscribe "NTP" "Request NTP" (thingTopic "req") false true false,
  subscribe "NTP" "Response NTP" (thingTopic "ntp/resp") true false false,
  subscribe "Direct Method" "Direct Method Request" (thingTopic "methods/+/req") true false true,
  subscribe "Direct Method" "Direct Method Response" (thingTopic "methods/+/resp") false true false,
  subscribe "Get Shadow" "Get Accepted" (shadowTopic "get/accepted") true false true,
  subscribe "Get Shadow" "Get Rejected" (shadowTopic "get/rejected") true false true,
  subscribe "Update Shadow" "Update Accepted" (shadowTopic "update/accepted") true false true,
  subscribe "Update Shadow" "Update Rejected" (shadowTopic "update/rejected") true false true,
  subscribe "Update Shadow" "Update Documents Notify" (shadowTopic "update/documents")
    true true true,
  subscribe "Update Shadow" "Update Delta Notify" (shadowTopic "update/delta") true false true]

def publishTemplates : List PublishTemplate := [
  publish "Get Shadow" (shadowTopic "get") true false
    r#"{}"#,
  publish "Update Shadow" (shadowTopic "update") true false
    r#"{"state":{"reported":{}},"clientToken":"{token}","version":0}"#,
  publish "Report Property" (thingTopic "messages/property") true false
    r#"{}"#,
  publish "Set Will" (thingTopic "messages/will/#") true false
    r#"{}"#,
  publish "Presence" (thingTopic "presence") false true
    (r#"{"thingId":"{thingId}","timestamp":{now},"eventType":"connected","# ++
      r#""disconnectReason":"","remoteAddr":"<ip:port>"}"#),
  publish "Request NTP" (thingTopic "req") true false
    r#"{"clientSendTime":{now}}"#,
  publish "Response NTP" (thingTopic "resp") false true
    r#"{"clientSendTime":{now},"serverRecvTime":{now},"serverSendTime":{now}}"#,
  publish "OTA Task" (thingTopic "ota/task") false true
    (r#"{"clientToken":"{token}","taskId":"","type":"app","# ++
      r#""meta":{"version":"","md5":"","content-type":"application/octet-stream","# ++
      r#""content-length":0},"fileUrl":"http://"}"#),
  publish "OTA Task Result" (thingTopic "ota/task") true false
    r#"{"clientToken":"","taskId":"","status":"ongoing","progress":0,"timestamp":{now}}"#,
  publish "Custom Message" (userTopic "#") true true
    r#"{}"#,
  publish "Request Direct Method" (thingTopic "methods/+/req") false true
    r#"{"clientToken":"{token}","data":{}}"#,
  publish "Response Direct Method" (thingTopic "methods/+/resp") true false
    r#"{"clientToken":"","code":200,"message":"OK","data":{}}"#]

end Builtin

end DeviceConsole
