import FleetBridge.Text.Unprintable

/-!
# Quoted text

A text between double quotes in which everything a reader could not tell apart
is written as an escape: the quote, the backslash, the four controls that have a
letter, and every unprintable character by its code point.
-/

namespace FleetBridge
namespace Text
namespace Quoted

def hexText (n : Nat) : List Char :=
  Nat.toDigits 16 n

def codePoint (c : Char) : List Char :=
  "\\u\x7b".toList ++ hexText c.toNat ++ ['\x7d']

def escape (c : Char) : List Char :=
  if c == '\x00' then ['\\', '0']
  else if c == '\t' then ['\\', 't']
  else if c == '\n' then ['\\', 'n']
  else if c == '\r' then ['\\', 'r']
  else if c == '\\' || c == '"' then ['\\', c]
  else if isUnprintable c then codePoint c
  else [c]

end Quoted

def quoted (s : String) : String :=
  String.ofList ('"' :: s.toList.flatMap Quoted.escape ++ ['"'])

end Text
end FleetBridge
