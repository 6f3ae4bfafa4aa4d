/-!
# Blanks, line breaks, and comments

What stands between the parts of a document.  A line breaks at a line feed, with
or without a carriage return before it.
-/

namespace FleetBridge
namespace Toml

def isSpace (c : Char) : Bool :=
  c == ' ' || c == '\t'

/-- A character that may stand in texts and comments as it is. -/
def isVisible (c : Char) : Bool :=
  c == '\t' || (' ' ≤ c && c != '\x7f')

def skipSpace (s : List Char) : List Char :=
  s.dropWhile isSpace

def afterBreak? : List Char → Option (List Char)
  | '\n' :: rest => some rest
  | '\r' :: '\n' :: rest => some rest
  | _ => none

def skipComment : List Char → List Char
  | '#' :: rest => rest.dropWhile isVisible
  | s => s

def afterLine? (s : List Char) : Option (List Char) :=
  match skipComment (skipSpace s) with
  | [] => some []
  | rest => afterBreak? rest

/-- The text without blanks, line breaks, and comments at its front.  A comment
has to end in a line break. -/
def skipFiller (inComment : Bool) : List Char → Option (List Char)
  | [] => if inComment then none else some []
  | '\r' :: '\n' :: rest => skipFiller false rest
  | c :: rest =>
      if c == '\n' then skipFiller false rest
      else if inComment then if isVisible c then skipFiller true rest else none
      else if isSpace c then skipFiller false rest
      else if c == '#' then skipFiller true rest
      else some (c :: rest)

end Toml
end FleetBridge
