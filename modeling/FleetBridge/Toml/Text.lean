import FleetBridge.Text.Hex
import FleetBridge.Toml.Lexical

/-!
# Texts in TOML

A text stands in double quotes, where a backslash begins an escape, or in single
quotes, where everything stands for itself.  In three quotes of either kind it may
run over several lines; a line break right behind them does not count.
-/

namespace FleetBridge
namespace Toml

structure Quoting where
  /-- In single quotes. -/
  literal : Bool
  /-- In three quotes. -/
  long : Bool
  deriving DecidableEq

namespace Quoting

def mark (q : Quoting) : Char :=
  if q.literal then '\'' else '"'

def marks (q : Quoting) : List Char :=
  List.replicate (if q.long then 3 else 1) q.mark

inductive Place where
  /-- Behind that many quotes in a row. -/
  | plain (pending : Nat)
  /-- Behind a carriage return. -/
  | carriage
  /-- Behind a backslash. -/
  | escape
  /-- Among the digits of a code point, `left` of which are to come. -/
  | code (left value : Nat)
  /-- Behind a backslash at the end of a line; `broken` tells whether the line break
  was there already. -/
  | gap (broken : Bool)
  /-- Behind a carriage return in such a gap. -/
  | gapCarriage
  deriving DecidableEq

inductive Step where
  | refuse
  | close
  | go (found : List Char) (place : Place)
  deriving DecidableEq

def escapeStep (q : Quoting) (c : Char) : Step :=
  match c with
  | 'b' => .go ['\x08'] (.plain 0)
  | 't' => .go ['\t'] (.plain 0)
  | 'n' => .go ['\n'] (.plain 0)
  | 'f' => .go ['\x0c'] (.plain 0)
  | 'r' => .go ['\r'] (.plain 0)
  | '"' => .go ['"'] (.plain 0)
  | '\\' => .go ['\\'] (.plain 0)
  | 'u' => .go [] (.code 4 0)
  | 'U' => .go [] (.code 8 0)
  | _ =>
      if !q.long then .refuse
      else if isSpace c then .go [] (.gap false)
      else if c == '\n' then .go [] (.gap true)
      else if c == '\r' then .go [] .gapCarriage
      else .refuse

def plainStep (q : Quoting) (pending : Nat) (c : Char) : Step :=
  if c == q.mark then
    if !q.long || pending == 2 then .close else .go [] (.plain (pending + 1))
  else
    let before := List.replicate pending q.mark
    if c == '\\' && !q.literal then .go before .escape
    else if c == '\n' then if q.long then .go (before ++ ['\n']) (.plain 0) else .refuse
    else if c == '\r' then if q.long then .go before .carriage else .refuse
    else if isVisible c then .go (before ++ [c]) (.plain 0)
    else .refuse

def step (q : Quoting) (p : Place) (c : Char) : Step :=
  match p with
  | .plain pending => q.plainStep pending c
  | .carriage => if c == '\n' then .go ['\n'] (.plain 0) else .refuse
  | .escape => q.escapeStep c
  | .code left value =>
      match Text.hexValue? c with
      | none => .refuse
      | some d =>
          let value := value * 16 + d
          if left == 1 then
            if value.isValidChar then .go [Char.ofNat value] (.plain 0) else .refuse
          else .go [] (.code (left - 1) value)
  | .gap broken =>
      if isSpace c then .go [] (.gap broken)
      else if c == '\n' then .go [] (.gap true)
      else if c == '\r' then .go [] .gapCarriage
      else if broken then q.plainStep 0 c
      else .refuse
  | .gapCarriage => if c == '\n' then .go [] (.gap true) else .refuse

/-- The text up to the quotes that end it, and what stands behind them.  Two more
quotes in a row still belong to a long text. -/
def scan (q : Quoting) : Place → List Char → Option (List Char × List Char)
  | _, [] => none
  | p, c :: rest =>
      match q.step p c with
      | .refuse => none
      | .go found p => (scan q p rest).map (fun (cs, rest) => (found ++ cs, rest))
      | .close =>
          let extra :=
            if q.long then min 2 (rest.takeWhile (· == q.mark)).length else 0
          some (List.replicate extra q.mark, rest.drop extra)

def content? (q : Quoting) (s : List Char) : Option (List Char × List Char) :=
  let body :=
    match q.long, s with
    | true, '\n' :: rest => rest
    | true, '\r' :: '\n' :: rest => rest
    | _, s => s
  q.scan (.plain 0) body

end Quoting

def shortText? : List Char → Option (List Char × List Char)
  | '"' :: rest => Quoting.content? ⟨false, false⟩ rest
  | '\'' :: rest => Quoting.content? ⟨true, false⟩ rest
  | _ => none

def text? : List Char → Option (List Char × List Char)
  | '"' :: '"' :: '"' :: rest => Quoting.content? ⟨false, true⟩ rest
  | '\'' :: '\'' :: '\'' :: rest => Quoting.content? ⟨true, true⟩ rest
  | s => shortText? s

/-! ## Writing -/

def holds (word : List Char) : List Char → Bool
  | [] => word.isEmpty
  | c :: rest => word.isPrefixOf (c :: rest) || holds word rest

namespace Quoting

/-- Whether a text can stand in these quotes just as it is: it has no control
characters but tabs and, in a long text, line breaks, does not hold the closing
quotes, and has no backslash where one begins an escape. -/
def admits (q : Quoting) (s : List Char) : Bool :=
  s.all (fun c => isVisible c || (q.long && c == '\n')) && !holds q.marks s &&
    (q.literal || !s.contains '\\')

/-- The quotes in which a text is written: the first that admit it, short before long
and double before single.  Where none do, double quotes with escapes, long ones for a
text of several lines. -/
def of (s : List Char) : Quoting :=
  ([⟨false, false⟩, ⟨true, false⟩, ⟨false, true⟩, ⟨true, true⟩].find? (·.admits s)).getD
    ⟨false, s.contains '\n'⟩

def escape (q : Quoting) (c : Char) : List Char :=
  if c == '\x08' then ['\\', 'b']
  else if c == '\t' then ['\\', 't']
  else if c == '\n' then if q.long then ['\n'] else ['\\', 'n']
  else if c == '\x0c' then ['\\', 'f']
  else if c == '\r' then ['\\', 'r']
  else if c == '"' then ['\\', '"']
  else if c == '\\' then ['\\', '\\']
  else if c < ' ' || c == '\x7f' then
    '\\' :: 'u' :: (Text.hexDigits 4 c.toNat).map Char.toUpper
  else [c]

/-- A text as it stands between double quotes, behind `row` quotes in a row.  A quote is
escaped only where it would complete the closing ones. -/
def escaped (q : Quoting) (row : Nat) : List Char → List Char
  | [] => []
  | c :: rest =>
      if c == '"' && row + 1 < q.marks.length then '"' :: escaped q (row + 1) rest
      else q.escape c ++ escaped q 0 rest

end Quoting

def writtenText (s : List Char) : List Char :=
  let q := Quoting.of s
  q.marks ++ (if q.long && s.contains '\n' then ['\n'] else []) ++
    (if q.literal then s else q.escaped 0 s) ++ q.marks

example : writtenText "a\"b'c".toList = "\"\"\"a\"b'c\"\"\"".toList := by decide +kernel

example : writtenText "\\".toList = "'\\'".toList := by decide +kernel

end Toml
end FleetBridge
