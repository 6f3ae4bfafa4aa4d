/-!
# Blank characters

The characters with Unicode's White_Space property, and the three things the
bridge does with them: it strips them from the ends of a text, asks whether a
text holds anything else, and splits a line into the words between them.
-/

namespace FleetBridge
namespace Text

/-- The White_Space property of Unicode. -/
def isBlank (c : Char) : Bool :=
  let n := c.toNat
  (9 ≤ n && n ≤ 13) || n == 32 || n == 0x85 || n == 0xA0 || n == 0x1680 ||
    (0x2000 ≤ n && n ≤ 0x200A) || n == 0x2028 || n == 0x2029 || n == 0x202F ||
    n == 0x205F || n == 0x3000

def trimFront (s : List Char) : List Char :=
  s.dropWhile isBlank

def trimBack (s : List Char) : List Char :=
  (s.reverse.dropWhile isBlank).reverse

def trim (s : String) : String :=
  String.ofList (trimBack (trimFront s.toList))

def isAllBlank (s : String) : Bool :=
  s.toList.all isBlank

theorem isAllBlank_append_of_left {s : String} (h : isAllBlank s = false) (t : String) :
    isAllBlank (s ++ t) = false := by
  unfold isAllBlank at h ⊢
  rw [String.toList_append, List.all_append, h, Bool.false_and]

/-- The maximal runs of characters that are not blank, in order. -/
def wordLists : List Char → List (List Char)
  | [] => []
  | c :: rest =>
      if isBlank c then
        wordLists rest
      else
        match rest.head?.filter (fun d => !isBlank d), wordLists rest with
        | some _, w :: ws => (c :: w) :: ws
        | _, ws => [c] :: ws

def words (line : String) : List String :=
  (wordLists line.toList).map String.ofList

@[simp] theorem wordLists_nil : wordLists [] = [] := rfl

theorem wordLists_cons_blank {c : Char} {rest : List Char}
    (h : isBlank c = true) : wordLists (c :: rest) = wordLists rest := by
  rw [wordLists]
  simp [h]

end Text
end FleetBridge
