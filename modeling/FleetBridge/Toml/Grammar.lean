import FleetBridge.Toml.Lexical
import FleetBridge.Toml.Moment
import FleetBridge.Toml.Number
import FleetBridge.Toml.Table
import FleetBridge.Toml.Text

/-!
# The grammar of TOML

A document is a sequence of statements: a value under a key, a header that opens
a table, a header in double brackets that opens one more table of a series.  Keys
have at most `maxParts` parts, and values nest at most `maxDepth` deep.
-/

namespace FleetBridge
namespace Toml

def maxParts : Nat := 79

def maxDepth : Nat := 79

/-! ## Keys -/

def isBareKey (c : Char) : Bool :=
  ('a' ≤ c && c ≤ 'z') || ('A' ≤ c && c ≤ 'Z') || ('0' ≤ c && c ≤ '9') ||
    c == '_' || c == '-'

def keyPart? (s : List Char) : Option (List Char × List Char) :=
  match s.takeWhile isBareKey with
  | [] => shortText? s
  | name => some (name, s.dropWhile isBareKey)

/-- The parts of a dotted key; `room` is the number of parts there may be. -/
def keyParts? : Nat → List Char → Option (List String × List Char)
  | 0, _ => none
  | room + 1, s => do
      let (name, s) ← keyPart? (skipSpace s)
      match skipSpace s with
      | '.' :: s =>
          let (names, s) ← keyParts? room s
          return (String.ofList name :: names, s)
      | s => return ([String.ofList name], s)

/-- A dotted key: the tables on the way and the name in the last of them. -/
structure Key where
  path : List String
  name : String
  deriving DecidableEq

def key? (s : List Char) : Option (Key × List Char) := do
  let (names, s) ← keyParts? maxParts s
  return ({ path := names.dropLast, name := names.getLastD "" }, s)

/-! ## Values -/

def isWordChar (c : Char) : Bool :=
  !(isSpace c || c == '\n' || c == '\r' || c == ',' || c == ']' || c == '\x7d' || c == '#')

def ofWord? (w : List Char) : Option Value :=
  if w == "true".toList then some (.bool true)
  else if w == "false".toList then some (.bool false)
  else if isMoment w then some (.moment (String.ofList w))
  else
    match integer? w with
    | some i => some (.integer i)
    | none => (float? w).map .float

def timeBehind? (w : List Char) (rest : List Char) : Option (List Char × List Char) :=
  match rest with
  | ' ' :: rest =>
      let time := rest.takeWhile isWordChar
      if afterDate? w == some [] && isTimeWithOffset time then
        some (w ++ ' ' :: time, rest.dropWhile isWordChar)
      else none
  | _ => none

def word? (s : List Char) : Option (Value × List Char) :=
  let w := s.takeWhile isWordChar
  let rest := s.dropWhile isWordChar
  match timeBehind? w rest with
  | some (both, rest) => some (.moment (String.ofList both), rest)
  | none => (ofWord? w).map (fun v => (v, rest))

mutual

/-- A value; `room` tells how deep it may nest, `fuel` how many steps are left. -/
def value? : Nat → Nat → List Char → Option (Value × List Char)
  | 0, _, _ => none
  | fuel + 1, room, s =>
      match s, room with
      | '"' :: _, _ => (text? s).map (fun (cs, s) => (.text (String.ofList cs), s))
      | '\'' :: _, _ => (text? s).map (fun (cs, s) => (.text (String.ofList cs), s))
      | '[' :: _, 0 => none
      | '\x7b' :: _, 0 => none
      | '[' :: s, room + 1 => (items? fuel room s).map (fun (vs, s) => (.array vs, s))
      | '\x7b' :: s, room + 1 =>
          match skipSpace s with
          | '\x7d' :: s => some (.table .inline [], s)
          | s => (pairs? fuel room [] s).map (fun (ms, s) => (.table .inline ms, s))
      | _, _ => word? s

/-- The items of an array up to its bracket; a comma may stand behind the last. -/
def items? : Nat → Nat → List Char → Option (List Value × List Char)
  | 0, _, _ => none
  | fuel + 1, room, s =>
      match skipFiller false s with
      | none => none
      | some (']' :: s) => some ([], s)
      | some s =>
          match value? fuel room s with
          | none => none
          | some (v, s) =>
              match skipFiller false s with
              | some (']' :: s) => some ([v], s)
              | some (',' :: s) => (items? fuel room s).map (fun (vs, s) => (v :: vs, s))
              | _ => none

def pairs? : Nat → Nat → Members → List Char → Option (Members × List Char)
  | 0, _, _, _ => none
  | fuel + 1, room, before, s =>
      match key? s with
      | some (key, '=' :: s) =>
          match value? fuel room (skipSpace s) with
          | none => none
          | some (v, s) =>
              match Members.assign v key.name true key.path before, skipSpace s with
              | some ms, '\x7d' :: s => some (ms, s)
              | some ms, ',' :: s => pairs? fuel room ms s
              | _, _ => none
      | _ => none

end

/-! ## Statements -/

inductive Statement where
  | assignment (key : Key) (value : Value)
  | header (key : Key)
  | nextHeader (key : Key)

def statement? (s : List Char) : Option (Statement × List Char) :=
  match s with
  | '[' :: '[' :: s => do
      let (key, s) ← key? s
      let s ← [']', ']'].isPrefixOf? s
      return (.nextHeader key, ← afterLine? s)
  | '[' :: s => do
      let (key, s) ← key? s
      let s ← [']'].isPrefixOf? s
      return (.header key, ← afterLine? s)
  | s => do
      let (key, s) ← key? s
      let s ← ['='].isPrefixOf? s
      let (v, s) ← value? (s.length + 1) maxDepth (skipSpace s)
      return (.assignment key v, ← afterLine? s)

def statements? : Nat → List Char → Option (List Statement)
  | 0, _ => none
  | fuel + 1, s =>
      match skipSpace s with
      | [] => some []
      | '#' :: s => (afterLine? ('#' :: s)).bind (statements? fuel)
      | '\n' :: s => statements? fuel s
      | '\r' :: '\n' :: s => statements? fuel s
      | s => do
          let (statement, s) ← statement? s
          let statements ← statements? fuel s
          return statement :: statements

end Toml
end FleetBridge
