/-!
# The thing a topic belongs to

Topics name their thing after the word `things`.  This file defines:

* `Topic.isIdChar`, the characters an id consists of;
* `Topic.thingId?`, the longest run of such characters after the first `things/` that one follows.
-/

namespace DeviceConsole

namespace Topic

/-- What stands in front of a thing id. -/
def idMark : List Char := ['t', 'h', 'i', 'n', 'g', 's', '/']

/-- The characters of a thing id: letters and digits of ASCII, `_` and `-`. -/
def isIdChar (c : Char) : Bool := c.isAlphanum || c = '_' || c = '-'

/-- The run of id characters at the front of a text, unless it is empty. -/
def leadingId? (text : List Char) : Option (List Char) :=
  match text.takeWhile isIdChar with
  | [] => none
  | id => some id

/-- The id after the mark at the front of a text. -/
def markedId? (text : List Char) : Option (List Char) :=
  if idMark.isPrefixOf text then leadingId? (text.drop idMark.length) else none

/-- The id after the first mark that one follows. -/
def findId? : List Char → Option (List Char)
  | [] => none
  | c :: rest => (markedId? (c :: rest)).or (findId? rest)

def thingId? (topic : String) : Option String := (findId? topic.toList).map String.ofList

end Topic

end DeviceConsole
