/-!
# Subscription filters

A filter is compared with a topic segment by segment.  `+` stands for one segment and `#` for all
remaining ones, including none.  A shared filter starts with `$share` and a group, which do not take
part.  This file defines:

* `Topic.segments`, the parts of a text between slashes;
* `Topic.covers`, the comparison of segments, and `Topic.accepts`, the comparison of texts;
* `Topic.containsWildcard`, which tells filters from topics one can publish to.
-/

namespace DeviceConsole

namespace Topic

/-- A part of a topic between two slashes. -/
abbrev Segment := List Char

def split : List Char → List Segment
  | [] => [[]]
  | c :: rest =>
    if c = '/' then [] :: split rest
    else
      match split rest with
      | segment :: segments => (c :: segment) :: segments
      | [] => [[c]]

def segments (topic : String) : List Segment := split topic.toList

def single : Segment := ['+']

/-- The segment that stands for all segments that remain. -/
def multi : Segment := ['#']

def sharedMark : List Char := ['$', 's', 'h', 'a', 'r', 'e', '/']

/-- The segments of a filter that are compared: all of them, or those after the group. -/
def filterSegments (filter : String) : List Segment :=
  if sharedMark.isPrefixOf filter.toList then (segments filter).drop 2 else segments filter

def admits (pair : Segment × Segment) : Bool := pair.1 = single || pair.1 = pair.2

/-- Compares the segments of a filter with those of a topic.  The segments in front of the first `#`
are compared one by one.  With a `#` the topic may end one segment early and may go on for as long
as it likes; without one the numbers of segments agree. -/
def covers (filter topic : List Segment) : Bool :=
  let fixed := filter.takeWhile (· ≠ multi)
  (fixed.zip topic).all admits &&
    if fixed.length < filter.length then filter.length ≤ topic.length + 1
    else filter.length = topic.length

def accepts (filter topic : String) : Bool :=
  covers (filterSegments filter) (segments topic)

/-- Whether a text has a wildcard character, so that nothing can be published to it. -/
def containsWildcard (topic : String) : Bool :=
  topic.toList.any fun c => c = '+' || c = '#'

end Topic

end DeviceConsole
