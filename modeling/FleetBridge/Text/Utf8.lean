/-!
# Reading UTF-8

Bytes are read from left to right into pieces: a character, a sequence that no
character starts with (a stray piece), or a character that the end of the bytes
cuts off.  A stray piece is as long as the bytes that could still have become a
character, so every piece is at least one byte and the widths add up to the
input.

Three views of the pieces are used: the text when there is none but
characters, the text with a replacement character for each other piece, and the
list of glyphs in which those pieces have no character.
-/

namespace FleetBridge
namespace Text

/-- What the bytes at one position are. -/
inductive Piece where
  | scalar (c : Char) (width : Nat)
  /-- Bytes that begin no character. -/
  | stray (width : Nat)
  /-- A character whose last bytes are missing at the end of the input. -/
  | cut (width : Nat)
  deriving DecidableEq

namespace Piece

def width : Piece → Nat
  | scalar _ n => n
  | stray n => n
  | cut n => n

def char? : Piece → Option Char
  | scalar c _ => some c
  | _ => none

end Piece

/-- The number of bytes a character takes that starts with `b`; zero if none does. -/
def leadWidth (b : UInt8) : Nat :=
  if b < 0x80 then 1
  else if b < 0xC2 then 0
  else if b < 0xE0 then 2
  else if b < 0xF0 then 3
  else if b < 0xF5 then 4
  else 0

def secondFits (lead next : UInt8) : Bool :=
  if lead == 0xE0 then 0xA0 ≤ next && next ≤ 0xBF
  else if lead == 0xED then 0x80 ≤ next && next ≤ 0x9F
  else if lead == 0xF0 then 0x90 ≤ next && next ≤ 0xBF
  else if lead == 0xF4 then 0x80 ≤ next && next ≤ 0x8F
  else 0x80 ≤ next && next ≤ 0xBF

def tailFits (b : UInt8) : Bool :=
  0x80 ≤ b && b ≤ 0xBF

/-- The value the low six bits of `b` add to `high`. -/
def withTail (high : Nat) (b : UInt8) : Nat :=
  high * 64 + b.toNat % 64

def firstPiece (lead : UInt8) (rest : List UInt8) : Piece :=
  match leadWidth lead with
  | 1 => .scalar (Char.ofNat lead.toNat) 1
  | 2 =>
      match rest with
      | [] => .cut 1
      | b :: _ =>
          if secondFits lead b then
            .scalar (Char.ofNat (withTail (lead.toNat % 32) b)) 2
          else .stray 1
  | 3 =>
      match rest with
      | [] => .cut 1
      | b :: rest =>
          if secondFits lead b then
            match rest with
            | [] => .cut 2
            | c :: _ =>
                if tailFits c then
                  .scalar (Char.ofNat (withTail (withTail (lead.toNat % 16) b) c)) 3
                else .stray 2
          else .stray 1
  | 4 =>
      match rest with
      | [] => .cut 1
      | b :: rest =>
          if secondFits lead b then
            match rest with
            | [] => .cut 2
            | c :: rest =>
                if tailFits c then
                  match rest with
                  | [] => .cut 3
                  | d :: _ =>
                      if tailFits d then
                        .scalar (Char.ofNat
                          (withTail (withTail (withTail (lead.toNat % 8) b) c) d)) 4
                      else .stray 3
                else .stray 2
          else .stray 1
  | _ => .stray 1

def pieces : List UInt8 → List Piece
  | [] => []
  | lead :: rest =>
      let piece := firstPiece lead rest
      piece :: pieces (rest.drop (piece.width - 1))
termination_by bytes => bytes.length
decreasing_by
  simp only [List.length_drop, List.length_cons]
  omega

/-- The characters of the bytes; a piece that is not a character has none. -/
def glyphs (bytes : List UInt8) : List (Option Char) :=
  (pieces bytes).map Piece.char?

def decode? (bytes : List UInt8) : Option String :=
  ((glyphs bytes).mapM id).map String.ofList

/-- The text with U+FFFD in place of each piece that is not a character. -/
def decodeLossy (bytes : List UInt8) : String :=
  String.ofList ((glyphs bytes).map (fun g => g.getD '\uFFFD'))

/-- Why bytes spell no text: the position of the first bad piece, and its
length unless the input merely ends too early. -/
structure Fault where
  position : Nat
  length? : Option Nat
  deriving DecidableEq

namespace Fault

def message (f : Fault) : String :=
  match f.length? with
  | some n =>
      "invalid utf-8 sequence of " ++ toString n ++ " bytes from index " ++
        toString f.position
  | none => "incomplete utf-8 byte sequence from index " ++ toString f.position

def among : Nat → List Piece → Option Fault
  | _, [] => none
  | position, .scalar _ n :: rest => among (position + n) rest
  | position, .stray n :: _ => some { position, length? := some n }
  | position, .cut _ :: _ => some { position, length? := none }

end Fault

def fault? (bytes : List UInt8) : Option Fault :=
  Fault.among 0 (pieces bytes)

@[simp] theorem pieces_nil : pieces [] = [] := by
  rw [pieces]

theorem pieces_cons (lead : UInt8) (rest : List UInt8) :
    pieces (lead :: rest) =
      firstPiece lead rest :: pieces (rest.drop ((firstPiece lead rest).width - 1)) := by
  rw [pieces]

@[simp] theorem glyphs_nil : glyphs [] = [] := by
  simp [glyphs]

end Text
end FleetBridge
