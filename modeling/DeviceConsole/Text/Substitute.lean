/-!
# Replacing a mark in a text

This file defines `Text.replaceAll`: every occurrence of a mark, from left to right and without
overlaps, gives way to another text.
-/

namespace DeviceConsole

namespace Text

/-- Replaces occurrences of a mark; the first `skip` characters belong to one that was replaced. -/
def replaceFrom (mark new : List Char) : Nat → List Char → List Char
  | _, [] => []
  | skip + 1, _ :: rest => replaceFrom mark new skip rest
  | 0, c :: rest =>
    if mark.isPrefixOf (c :: rest) then new ++ replaceFrom mark new (mark.length - 1) rest
    else c :: replaceFrom mark new 0 rest

def replaceAll (mark new text : String) : String :=
  String.ofList (replaceFrom mark.toList new.toList 0 text.toList)

end Text

end DeviceConsole
