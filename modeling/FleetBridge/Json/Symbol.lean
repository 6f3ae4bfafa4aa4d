import FleetBridge.Text.Hex

/-!
# What stands between the quotes of a JSON string

A string is spelled as a row of symbols: characters, halves of a surrogate pair
given by their escapes, and bytes that are no character.  Only a row of
characters and matched halves is a text; within parts of a message that nobody
looks at, any row will do.

`Symbol.chars` writes a symbol, and `Symbol.scan?` reads a row of symbols up to
the closing quote.
-/

namespace FleetBridge
namespace Json

inductive Symbol where
  | scalar (c : Char)
  /-- The half `0xD800 + half` of a surrogate pair; halves from 1024 on come
  second. -/
  | surrogate (half : Fin 2048)
  /-- Bytes that are no character. -/
  | broken
  deriving DecidableEq

namespace Symbol

def unitChars (n : Nat) : List Char :=
  '\\' :: 'u' :: Text.hexDigits 4 n

def unit? (a b c d : Char) : Option Nat :=
  Text.ofHexDigits? [a, b, c, d]

def ofUnit (n : Nat) : Symbol :=
  if 0xD800 ≤ n ∧ n ≤ 0xDFFF then surrogate (Fin.ofNat 2048 (n - 0xD800))
  else scalar (Char.ofNat n)

def letter? (c : Char) : Option Char :=
  if c == '\x08' then some 'b'
  else if c == '\t' then some 't'
  else if c == '\n' then some 'n'
  else if c == '\x0c' then some 'f'
  else if c == '\r' then some 'r'
  else none

def scalarChars (c : Char) : List Char :=
  if c == '"' || c == '\\' then ['\\', c]
  else
    match letter? c with
    | some l => ['\\', l]
    | none => if c.toNat < 0x20 then unitChars c.toNat else [c]

def chars : Symbol → List Char
  | scalar c => scalarChars c
  | surrogate half => unitChars (0xD800 + half.val)
  | broken => ['\ufffd']

def escaped? (l : Char) : Option Char :=
  if l == '"' || l == '\\' || l == '/' then some l
  else if l == 'b' then some '\x08'
  else if l == 't' then some '\t'
  else if l == 'n' then some '\n'
  else if l == 'f' then some '\x0c'
  else if l == 'r' then some '\r'
  else none

/-- The symbols up to the closing quote, and what follows it. -/
def scan? : List (Option Char) → Option (List Symbol × List (Option Char))
  | [] => none
  | none :: rest => (scan? rest).map (fun (ss, rest) => (broken :: ss, rest))
  | some '"' :: rest => some ([], rest)
  | some '\\' :: some 'u' :: some a :: some b :: some c :: some d :: rest =>
      match unit? a b c d with
      | some n => (scan? rest).map (fun (ss, rest) => (ofUnit n :: ss, rest))
      | none => none
  | some '\\' :: some l :: rest =>
      match escaped? l with
      | some c => (scan? rest).map (fun (ss, rest) => (scalar c :: ss, rest))
      | none => none
  | some c :: rest =>
      if c == '\\' || c.toNat < 0x20 then none
      else (scan? rest).map (fun (ss, rest) => (scalar c :: ss, rest))

def pair? (high low : Fin 2048) : Option Char :=
  if high.val < 1024 ∧ 1024 ≤ low.val then
    some (Char.ofNat (0x10000 + high.val * 1024 + (low.val - 1024)))
  else none

def decode? : List Symbol → Option (List Char)
  | [] => some []
  | scalar c :: rest => (decode? rest).map (c :: ·)
  | surrogate high :: surrogate low :: rest => do
      let c ← pair? high low
      let cs ← decode? rest
      return c :: cs
  | _ => none

def text? (ss : List Symbol) : Option String :=
  (decode? ss).map String.ofList

def ofText (s : String) : List Symbol :=
  s.toList.map scalar

theorem decode?_map_scalar (cs : List Char) : decode? (cs.map scalar) = some cs := by
  induction cs with
  | nil => rfl
  | cons c cs ih => simp [decode?, ih]

@[simp] theorem text?_ofText (s : String) : text? (ofText s) = some s := by
  simp [text?, ofText, decode?_map_scalar]

theorem length_of_scan? {s : List (Option Char)} {ss : List Symbol}
    {rest : List (Option Char)} (h : scan? s = some (ss, rest)) :
    rest.length < s.length := by
  fun_induction scan? s generalizing ss rest with
  | case1 => simp at h
  | case2 s ih =>
      obtain ⟨p, hp, hq⟩ := Option.map_eq_some_iff.1 h
      have := ih hp
      simp at hq
      simp [← hq.2]
      omega
  | case3 s =>
      simp at h
      simp [← h.2]
  | case4 a b c d s n _ ih =>
      obtain ⟨p, hp, hq⟩ := Option.map_eq_some_iff.1 h
      have := ih hp
      simp at hq
      simp [← hq.2]
      omega
  | case5 => simp at h
  | case6 l s _ c _ ih =>
      obtain ⟨p, hp, hq⟩ := Option.map_eq_some_iff.1 h
      have := ih hp
      simp at hq
      simp [← hq.2]
      omega
  | case7 => simp at h
  | case8 => simp at h
  | case9 c s _ _ _ _ ih =>
      obtain ⟨p, hp, hq⟩ := Option.map_eq_some_iff.1 h
      have := ih hp
      simp at hq
      simp [← hq.2]
      omega

end Symbol
end Json
end FleetBridge
