import DeviceConsole.Json.Parser

/-!
# Texts and blanks in settings files

Readers take characters from the front of a text and return the rest, or refuse the text.  This file
defines:

* `blanks`, `newline?`, `lineEnd?` and `gaps`, what may stand between tokens;
* `basicBody?` and `literalBody?`, strings on one line;
* `basicBlock?` and `literalBlock?`, strings of several lines;
* `key?` and `path?`, single and dotted keys.
-/

namespace DeviceConsole

namespace Toml

/-- Takes a value from the front of a text. -/
abbrev Step (α : Type) := List Char → Option (α × List Char)

/-! ## Between tokens -/

def isBlank (c : Char) : Bool := c = ' ' || c = '\t'

/-- Whether a character may stand in comments and strings: no control character but the tab. -/
def isPlain (c : Char) : Bool := c = '\t' || (' ' ≤ c && c ≠ '\x7f')

def blanks (text : List Char) : List Char := text.dropWhile isBlank

def newline? : List Char → Option (List Char)
  | '\n' :: rest => some rest
  | '\r' :: '\n' :: rest => some rest
  | _ => none

def comment : List Char → List Char
  | '#' :: rest => rest.dropWhile isPlain
  | text => text

/-- Takes blanks, a comment and the end of the line or of the text. -/
def lineEnd? (text : List Char) : Option (List Char) :=
  match comment (blanks text) with
  | [] => some []
  | rest => newline? rest

/-- Drops blanks, comments and ends of lines; the flag tells that a comment has begun. -/
def gapsFrom (inComment : Bool) : List Char → List Char
  | [] => []
  | '\n' :: rest => gapsFrom false rest
  | '\r' :: '\n' :: rest => gapsFrom false rest
  | c :: rest =>
    if inComment then
      if isPlain c then gapsFrom true rest else c :: rest
    else if isBlank c then gapsFrom false rest
    else if c = '#' then gapsFrom true rest
    else c :: rest

/-- Drops blanks, comments and ends of lines. -/
def gaps (text : List Char) : List Char := gapsFrom false text

/-! ## Strings -/

def scalar? (digits : List Char) : Option Char := do
  let values ← digits.mapM Json.hexDigit?
  let n := values.foldl (fun n d => n * 16 + d) 0
  if n.isValidChar then some (Char.ofNat n) else none

/-- The character that an escape of one letter stands for. -/
def letterEscape? (c : Char) : Option Char :=
  [('b', '\x08'), ('t', '\t'), ('n', '\n'), ('f', '\x0c'), ('r', '\r'), ('"', '"'),
    ('\\', '\\')].lookup c

def prepend (c : Char) (found : Option (List Char × List Char)) :
    Option (List Char × List Char) :=
  found.map fun found => (c :: found.1, found.2)

def basicBody? : Step (List Char)
  | [] => none
  | '"' :: rest => some ([], rest)
  | '\\' :: 'u' :: a :: b :: c :: d :: rest => do
    prepend (← scalar? [a, b, c, d]) (basicBody? rest)
  | '\\' :: 'U' :: a :: b :: c :: d :: e :: f :: g :: h :: rest => do
    prepend (← scalar? [a, b, c, d, e, f, g, h]) (basicBody? rest)
  | '\\' :: c :: rest => do prepend (← letterEscape? c) (basicBody? rest)
  | c :: rest => if isPlain c then prepend c (basicBody? rest) else none

def literalBody? : Step (List Char)
  | [] => none
  | '\'' :: rest => some ([], rest)
  | c :: rest => if isPlain c then prepend c (literalBody? rest) else none

/-- Where a reader stands in a string of several lines. -/
inductive BlockMode where
  | text
  /-- After a backslash at the end of a line. -/
  | lineEnd
  /-- In the blanks and ends of lines that a backslash joins. -/
  | joined
  deriving DecidableEq

/-- Takes a string of several lines with escapes.  Up to two quotes may precede the closing ones; a
backslash at the end of a line drops everything up to the next character that is not blank. -/
def basicBlockFrom? : BlockMode → Step (List Char)
  | _, [] => none
  | .lineEnd, '\n' :: rest => basicBlockFrom? .joined rest
  | .lineEnd, '\r' :: '\n' :: rest => basicBlockFrom? .joined rest
  | .lineEnd, c :: rest => if isBlank c then basicBlockFrom? .lineEnd rest else none
  | .joined, '\n' :: rest => basicBlockFrom? .joined rest
  | .joined, '\r' :: '\n' :: rest => basicBlockFrom? .joined rest
  | .joined, ' ' :: rest => basicBlockFrom? .joined rest
  | .joined, '\t' :: rest => basicBlockFrom? .joined rest
  | _, '"' :: '"' :: '"' :: '"' :: '"' :: rest => some (['"', '"'], rest)
  | _, '"' :: '"' :: '"' :: '"' :: rest => some (['"'], rest)
  | _, '"' :: '"' :: '"' :: rest => some ([], rest)
  | _, '\\' :: 'u' :: a :: b :: c :: d :: rest => do
    prepend (← scalar? [a, b, c, d]) (basicBlockFrom? .text rest)
  | _, '\\' :: 'U' :: a :: b :: c :: d :: e :: f :: g :: h :: rest => do
    prepend (← scalar? [a, b, c, d, e, f, g, h]) (basicBlockFrom? .text rest)
  | _, '\\' :: '\n' :: rest => basicBlockFrom? .joined rest
  | _, '\\' :: '\r' :: '\n' :: rest => basicBlockFrom? .joined rest
  | _, '\\' :: c :: rest =>
    if isBlank c then basicBlockFrom? .lineEnd rest
    else do prepend (← letterEscape? c) (basicBlockFrom? .text rest)
  | _, '\n' :: rest => prepend '\n' (basicBlockFrom? .text rest)
  | _, '\r' :: '\n' :: rest => prepend '\n' (basicBlockFrom? .text rest)
  | _, c :: rest => if isPlain c then prepend c (basicBlockFrom? .text rest) else none

/-- Takes a string of several lines without escapes. -/
def literalBlockFrom? : Step (List Char)
  | [] => none
  | '\'' :: '\'' :: '\'' :: '\'' :: '\'' :: rest => some (['\'', '\''], rest)
  | '\'' :: '\'' :: '\'' :: '\'' :: rest => some (['\''], rest)
  | '\'' :: '\'' :: '\'' :: rest => some ([], rest)
  | '\n' :: rest => prepend '\n' (literalBlockFrom? rest)
  | '\r' :: '\n' :: rest => prepend '\n' (literalBlockFrom? rest)
  | c :: rest => if isPlain c then prepend c (literalBlockFrom? rest) else none

/-- The text without an end of line at its front. -/
def dropNewline (text : List Char) : List Char := (newline? text).getD text

/-- Takes a string of several lines with escapes, after its opening quotes. -/
def basicBlock? : Step (List Char) := fun text => basicBlockFrom? .text (dropNewline text)

/-- Takes a string of several lines without escapes, after its opening quotes. -/
def literalBlock? : Step (List Char) := fun text => literalBlockFrom? (dropNewline text)

/-- Takes a string of any of the four kinds. -/
def string? : Step String := fun text =>
  let found :=
    match text with
    | '"' :: '"' :: '"' :: rest => basicBlock? rest
    | '\'' :: '\'' :: '\'' :: rest => literalBlock? rest
    | '"' :: rest => basicBody? rest
    | '\'' :: rest => literalBody? rest
    | _ => none
  found.map fun found => (String.ofList found.1, found.2)

/-! ## Keys -/

def isKeyChar (c : Char) : Bool := c.isAlphanum || c = '_' || c = '-'

def key? : Step String := fun text =>
  let found :=
    match text with
    | '"' :: rest => basicBody? rest
    | '\'' :: rest => literalBody? rest
    | text =>
      let name := text.takeWhile isKeyChar
      if name = [] then none else some (name, text.dropWhile isKeyChar)
  found.map fun found => (String.ofList found.1, found.2)

/-- The number of keys a path, and of brackets a value, stays below. -/
def depthLimit : Nat := 80

/-- Takes at most `fuel` keys with dots between them, and the blanks around them. -/
def pathFrom? : Nat → Step (List String)
  | 0, _ => none
  | fuel + 1, text => do
    let (first, rest) ← key? (blanks text)
    match blanks rest with
    | '.' :: rest => do
      let (more, rest) ← pathFrom? fuel rest
      return (first :: more, rest)
    | rest => return ([first], rest)

/-- Takes keys with dots between them, and the blanks around them. -/
def path? : Step (List String) := pathFrom? (depthLimit - 1)

end Toml

end DeviceConsole
