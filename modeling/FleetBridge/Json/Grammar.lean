import FleetBridge.Json.Term

/-!
# Reading terms

Characters are grouped into tokens, and a machine with one state per place in
the grammar takes the tokens one at a time.  What is open around that place is a
list of frames, innermost first.
-/

namespace FleetBridge
namespace Json

namespace Token

def isSpace (c : Char) : Bool :=
  c == ' ' || c == '\t' || c == '\n' || c == '\r'

def numberChar? (g : Option Char) : Option Char :=
  g.filter Literal.isNumberChar

def spanNumber : List (Option Char) → List Char × List (Option Char)
  | [] => ([], [])
  | g :: rest =>
      match numberChar? g with
      | some c => (c :: (spanNumber rest).1, (spanNumber rest).2)
      | none => ([], g :: rest)

theorem length_spanNumber (s : List (Option Char)) :
    (spanNumber s).2.length ≤ s.length := by
  induction s with
  | nil => simp [spanNumber]
  | cons g rest ih =>
      rw [spanNumber]
      split
      · simp
        omega
      · simp

def mark? (c : Char) : Option Token :=
  if c == '[' then some openArray
  else if c == ']' then some closeArray
  else if c == '\x7b' then some openObject
  else if c == '\x7d' then some closeObject
  else if c == ',' then some comma
  else if c == ':' then some colon
  else none

def behind? : List Char → List (Option Char) → Option (List (Option Char))
  | [], rest => some rest
  | c :: word, some d :: rest => if c == d then behind? word rest else none
  | _ :: _, _ => none

theorem length_of_behind? {word : List Char} {s rest : List (Option Char)}
    (h : behind? word s = some rest) : rest.length ≤ s.length := by
  fun_induction behind? word s with
  | case1 => simp_all
  | case2 _ _ _ _ _ ih =>
      have := ih h
      simp
      omega
  | case3 => simp at h
  | case4 => simp at h

def first? (c : Char) (s : List (Option Char)) : Option (Token × List (Option Char)) :=
  match mark? c with
  | some t => some (t, s)
  | none =>
      if c == '"' then (Symbol.scan? s).map (fun (ss, rest) => (string ss, rest))
      else if c == 'n' then (behind? "ull".toList s).map (null, ·)
      else if c == 't' then (behind? "rue".toList s).map (bool true, ·)
      else if c == 'f' then (behind? "alse".toList s).map (bool false, ·)
      else if c == '-' || Decimal.isDigit c then
        (Literal.ofChars? (c :: (spanNumber s).1)).map (fun l => (number l, (spanNumber s).2))
      else none

theorem length_of_first? {c : Char} {s : List (Option Char)} {t : Token}
    {rest : List (Option Char)} (h : first? c s = some (t, rest)) :
    rest.length ≤ s.length := by
  have ofWord {word : List Char} {token : Token}
      (h : (behind? word s).map (token, ·) = some (t, rest)) :
      rest.length ≤ s.length := by
    obtain ⟨p, hp, hq⟩ := Option.map_eq_some_iff.1 h
    simp only [Prod.mk.injEq] at hq
    exact hq.2 ▸ length_of_behind? hp
  unfold first? at h
  split at h
  · simp only [Option.some.injEq, Prod.mk.injEq] at h
    exact Nat.le_of_eq (congrArg List.length h.2.symm)
  · by_cases h1 : (c == '"') = true
    · rw [if_pos h1] at h
      obtain ⟨p, hp, hq⟩ := Option.map_eq_some_iff.1 h
      simp only [Prod.mk.injEq] at hq
      exact Nat.le_of_lt (hq.2 ▸ Symbol.length_of_scan? hp)
    rw [if_neg h1] at h
    by_cases h2 : (c == 'n') = true
    · rw [if_pos h2] at h
      exact ofWord h
    rw [if_neg h2] at h
    by_cases h3 : (c == 't') = true
    · rw [if_pos h3] at h
      exact ofWord h
    rw [if_neg h3] at h
    by_cases h4 : (c == 'f') = true
    · rw [if_pos h4] at h
      exact ofWord h
    rw [if_neg h4] at h
    by_cases h5 : (c == '-' || Decimal.isDigit c) = true
    · rw [if_pos h5] at h
      obtain ⟨p, hp, hq⟩ := Option.map_eq_some_iff.1 h
      simp only [Prod.mk.injEq] at hq
      exact hq.2 ▸ length_spanNumber s
    · rw [if_neg h5] at h
      cases h

def ofGlyphs? : List (Option Char) → Option (List Token)
  | [] => some []
  | none :: _ => none
  | some c :: rest =>
      if isSpace c then ofGlyphs? rest
      else
        match _h : first? c rest with
        | none => none
        | some (t, rest') => (ofGlyphs? rest').map (t :: ·)
termination_by s => s.length
decreasing_by
  · simp
  · have := length_of_first? ‹first? _ _ = _›
    simp
    omega

end Token

/-- An array or object that is still open, with what it holds so far, last
first. -/
inductive Frame where
  | array (items : List Term)
  | object (members : List (List Symbol × Term)) (name : List Symbol)

inductive Place where
  | value (frames : List Frame)
  /-- A value or the end of an array comes next. -/
  | itemOrEnd (frames : List Frame)
  /-- A name or the end of an object comes next. -/
  | nameOrEnd (frames : List Frame)
  | name (members : List (List Symbol × Term)) (frames : List Frame)
  | colon (members : List (List Symbol × Term)) (name : List Symbol) (frames : List Frame)
  | done (t : Term) (frames : List Frame)

namespace Place

def enter? (frames : List Frame) : Token → Option Place
  | .openArray => some (itemOrEnd frames)
  | .openObject => some (nameOrEnd frames)
  | .null => some (done .null frames)
  | .bool b => some (done (.bool b) frames)
  | .number l => some (done (.number l) frames)
  | .string s => some (done (.string s) frames)
  | _ => none

def resume? (t : Term) : List Frame → Token → Option Place
  | .array items :: frames, .comma => some (value (.array (t :: items) :: frames))
  | .array items :: frames, .closeArray =>
      some (done (.array (t :: items).reverse) frames)
  | .object members n :: frames, .comma => some (name ((n, t) :: members) frames)
  | .object members n :: frames, .closeObject =>
      some (done (.object ((n, t) :: members).reverse) frames)
  | _, _ => none

def next? : Place → Token → Option Place
  | value frames, token => enter? frames token
  | itemOrEnd frames, .closeArray => some (done (.array []) frames)
  | itemOrEnd frames, token => enter? (.array [] :: frames) token
  | nameOrEnd frames, .closeObject => some (done (.object []) frames)
  | nameOrEnd frames, .string n => some (colon [] n frames)
  | nameOrEnd _, _ => none
  | name members frames, .string n => some (colon members n frames)
  | name _ _, _ => none
  | colon members n frames, .colon => some (value (.object members n :: frames))
  | colon _ _ _, _ => none
  | done t frames, token => resume? t frames token

end Place

namespace Term

def ofTokens? (tokens : List Token) : Option Term :=
  match tokens.foldlM Place.next? (.value []) with
  | some (.done t []) => some t
  | _ => none

def ofGlyphs? (s : List (Option Char)) : Option Term :=
  (Token.ofGlyphs? s).bind ofTokens?

def ofText? (s : String) : Option Term :=
  ofGlyphs? (s.toList.map some)

end Term
end Json
end FleetBridge
