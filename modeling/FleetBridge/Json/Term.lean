import FleetBridge.Json.Literal
import FleetBridge.Json.Symbol

/-!
# JSON terms

A term is a JSON text without its blanks: numbers and strings keep their
spelling, members keep their order, and a name may occur twice.  `Term.tokens`
takes a term apart and `Term.chars` writes it without blanks.
-/

namespace FleetBridge
namespace Json

inductive Term where
  | null
  | bool (b : Bool)
  | number (l : Literal)
  | string (s : List Symbol)
  | array (items : List Term)
  | object (members : List (List Symbol × Term))

inductive Token where
  | openArray
  | closeArray
  | openObject
  | closeObject
  | comma
  | colon
  | null
  | bool (b : Bool)
  | number (l : Literal)
  | string (s : List Symbol)
  deriving DecidableEq

namespace Token

def chars : Token → List Char
  | openArray => ['[']
  | closeArray => [']']
  | openObject => ['\x7b']
  | closeObject => ['\x7d']
  | comma => [',']
  | colon => [':']
  | null => "null".toList
  | bool true => "true".toList
  | bool false => "false".toList
  | number l => l.chars
  | string s => '"' :: s.flatMap Symbol.chars ++ ['"']

end Token

namespace Term

def text (s : String) : Term :=
  string (Symbol.ofText s)

def separated : List (List Token) → List Token
  | [] => []
  | [ts] => ts
  | ts :: rest => ts ++ Token.comma :: separated rest

mutual

def tokens : Term → List Token
  | null => [.null]
  | bool b => [.bool b]
  | number l => [.number l]
  | string s => [.string s]
  | array items => .openArray :: separated (itemTokens items) ++ [.closeArray]
  | object members => .openObject :: separated (memberTokens members) ++ [.closeObject]

def itemTokens : List Term → List (List Token)
  | [] => []
  | t :: rest => tokens t :: itemTokens rest

def memberTokens : List (List Symbol × Term) → List (List Token)
  | [] => []
  | (name, t) :: rest => (.string name :: .colon :: tokens t) :: memberTokens rest

end

def chars (t : Term) : List Char :=
  t.tokens.flatMap Token.chars

/-- The term as a text without blanks. -/
def render (t : Term) : String :=
  String.ofList t.chars

end Term
end Json
end FleetBridge
