import FleetBridge.Json.Grammar
import FleetBridge.Proofs.Json.Literal
import FleetBridge.Proofs.Json.Symbol
import Mathlib.Data.List.Chain

/-!
# Reading tokens back

Tokens that are written one behind the other are read back one by one.  Where a
token ends is seen from the token itself, but for a number: it ends where a
character follows that cannot stand within a number.  So a row of tokens is read
back if no two numbers are neighbours in it.
-/

namespace FleetBridge
namespace Json
namespace Token

/-! # What a token begins with -/

def isNumber : Token → Bool
  | number _ => true
  | _ => false

def IsUnbroken : Token → Prop
  | string s => ∀ x ∈ s, x ≠ Symbol.broken
  | _ => True

/-- Whether a text begins with no character that can stand within a number. -/
def EndsNumber (rest : List (Option Char)) : Prop :=
  ∀ g, rest.head? = some g → numberChar? g = none

theorem endsNumber_cons {c : Char} {rest : List (Option Char)}
    (h : Literal.isNumberChar c = false) : EndsNumber (some c :: rest) := by
  intro g hg
  cases hg
  simp [numberChar?, h]

theorem spanNumber_append {cs : List Char} {rest : List (Option Char)}
    (hcs : ∀ c ∈ cs, Literal.isNumberChar c = true) (hrest : EndsNumber rest) :
    spanNumber (cs.map some ++ rest) = (cs, rest) := by
  induction cs with
  | nil =>
      cases rest with
      | nil => rfl
      | cons g rest => simp [spanNumber, hrest g rfl]
  | cons c cs ih =>
      have hc : numberChar? (some c) = some c := by
        simp [numberChar?, hcs c List.mem_cons_self]
      have htail := ih (fun d hd => hcs d (List.mem_cons_of_mem c hd))
      simp [spanNumber, hc, htail]

/-! # One token -/

/-- A token is read, and nothing of what follows it. -/
def Reads (k : Token) (rest : List (Option Char)) : Prop :=
  ∃ c cs, k.chars = c :: cs ∧ isSpace c = false ∧
    first? c (cs.map some ++ rest) = some (k, rest)

theorem startsNumber_digitChar (d : Fin 10) :
    isSpace (Decimal.digitChar d) = false ∧ mark? (Decimal.digitChar d) = none ∧
      Decimal.digitChar d ≠ '"' ∧ Decimal.digitChar d ≠ 'n' ∧ Decimal.digitChar d ≠ 't' ∧
        Decimal.digitChar d ≠ 'f' ∧
          (Decimal.digitChar d == '-' || Decimal.isDigit (Decimal.digitChar d)) = true := by
  revert d
  decide

theorem reads_number {l : Literal} {rest : List (Option Char)} (h : EndsNumber rest) :
    Reads (number l) rest := by
  obtain ⟨c, cs, hchars, hc⟩ := Literal.exists_cons_of_chars l
  have hspan : spanNumber (cs.map some ++ rest) = (cs, rest) := by
    apply spanNumber_append _ h
    intro d hd
    apply Literal.isNumberChar_of_mem_chars (l := l)
    rw [hchars]
    exact List.mem_cons_of_mem c hd
  have hread := Literal.ofChars?_chars l
  rw [hchars] at hread
  have hfirst : isSpace c = false ∧ mark? c = none ∧ c ≠ '"' ∧ c ≠ 'n' ∧ c ≠ 't' ∧ c ≠ 'f' ∧
      (c == '-' || Decimal.isDigit c) = true := by
    rcases hc with rfl | ⟨d, rfl⟩
    · decide
    · exact startsNumber_digitChar d
  obtain ⟨hspace, hmark, hquote, hn, ht, hf, hnumber⟩ := hfirst
  refine ⟨c, cs, hchars, hspace, ?_⟩
  simp only [first?, hmark, beq_iff_eq, hquote, hn, ht, hf, if_false, hnumber, if_true, hspan,
    hread, Option.map_some]

theorem reads_string {s : List Symbol} {rest : List (Option Char)}
    (h : ∀ x ∈ s, x ≠ Symbol.broken) : Reads (string s) rest := by
  refine ⟨'"', s.flatMap Symbol.chars ++ ['"'], rfl, by decide, ?_⟩
  simp [first?, mark?, Symbol.scan?_flatMap_chars h]

theorem reads_of_isUnbroken {k : Token} {rest : List (Option Char)} (hk : k.IsUnbroken)
    (hrest : k.isNumber = true → EndsNumber rest) : Reads k rest := by
  cases k with
  | number l => exact reads_number (hrest rfl)
  | string s => exact reads_string hk
  | null => exact ⟨'n', "ull".toList, rfl, by decide, by simp [first?, mark?, behind?]⟩
  | bool b =>
      cases b with
      | true => exact ⟨'t', "rue".toList, rfl, by decide, by simp [first?, mark?, behind?]⟩
      | false => exact ⟨'f', "alse".toList, rfl, by decide, by simp [first?, mark?, behind?]⟩
  | openArray => exact ⟨_, [], rfl, by decide, rfl⟩
  | closeArray => exact ⟨_, [], rfl, by decide, rfl⟩
  | openObject => exact ⟨_, [], rfl, by decide, rfl⟩
  | closeObject => exact ⟨_, [], rfl, by decide, rfl⟩
  | comma => exact ⟨_, [], rfl, by decide, rfl⟩
  | colon => exact ⟨_, [], rfl, by decide, rfl⟩

theorem ofGlyphs?_of_reads {k : Token} {rest : List (Option Char)} (h : Reads k rest) :
    ofGlyphs? (k.chars.map some ++ rest) = (ofGlyphs? rest).map (k :: ·) := by
  obtain ⟨c, cs, hchars, hspace, hfirst⟩ := h
  rw [hchars, List.map_cons, List.cons_append, ofGlyphs?.eq_def]
  simp only [hspace, Bool.false_eq_true, if_false]
  split
  · rename_i hnone
    rw [hfirst] at hnone
    cases hnone
  · rename_i hsome
    rw [hfirst] at hsome
    cases hsome
    rfl

/-! # Rows of tokens -/

/-- No two numbers are neighbours. -/
def Apart (ts : List Token) : Prop :=
  ts.IsChain (fun a b => a.isNumber = true → b.isNumber = false)

theorem apart_cons {k : Token} {ts : List Token} (hk : k.isNumber = false) (h : Apart ts) :
    Apart (k :: ts) := by
  refine List.isChain_cons.mpr ⟨?_, h⟩
  intro j _ hnumber
  rw [hk] at hnumber
  cases hnumber

theorem apart_append_cons {k : Token} {ts rest : List Token} (hk : k.isNumber = false)
    (hts : Apart ts) (hrest : Apart rest) : Apart (ts ++ k :: rest) := by
  refine List.isChain_append.mpr ⟨hts, apart_cons hk hrest, ?_⟩
  intro j _ k' hk' _
  cases hk'
  exact hk

theorem exists_chars_eq_cons {k : Token} (h : k.isNumber = false) :
    ∃ c cs, k.chars = c :: cs ∧ Literal.isNumberChar c = false := by
  cases k with
  | number l => cases h
  | string s => exact ⟨'"', _, rfl, by decide⟩
  | null => exact ⟨'n', _, rfl, by decide⟩
  | bool b =>
      cases b with
      | true => exact ⟨'t', _, rfl, by decide⟩
      | false => exact ⟨'f', _, rfl, by decide⟩
  | openArray => exact ⟨_, [], rfl, by decide⟩
  | closeArray => exact ⟨_, [], rfl, by decide⟩
  | openObject => exact ⟨_, [], rfl, by decide⟩
  | closeObject => exact ⟨_, [], rfl, by decide⟩
  | comma => exact ⟨_, [], rfl, by decide⟩
  | colon => exact ⟨_, [], rfl, by decide⟩

theorem endsNumber_of_apart {k : Token} {ts : List Token} (h : Apart (k :: ts))
    (hk : k.isNumber = true) : EndsNumber ((ts.flatMap chars).map some) := by
  cases ts with
  | nil =>
      intro g hg
      cases hg
  | cons j ts =>
      have hj : j.isNumber = false := (List.isChain_cons.mp h).1 j rfl hk
      obtain ⟨c, cs, hchars, hc⟩ := exists_chars_eq_cons hj
      rw [List.flatMap_cons, hchars]
      exact endsNumber_cons hc

theorem ofGlyphs?_flatMap_chars {ts : List Token} (hapart : Apart ts)
    (hunbroken : ∀ k ∈ ts, k.IsUnbroken) :
    ofGlyphs? ((ts.flatMap chars).map some) = some ts := by
  induction ts with
  | nil =>
      rw [ofGlyphs?.eq_def]
      rfl
  | cons k ts ih =>
      have htail := ih (List.isChain_cons.mp hapart).2
        (fun j hj => hunbroken j (List.mem_cons_of_mem k hj))
      have hreads : Reads k ((ts.flatMap chars).map some) :=
        reads_of_isUnbroken (hunbroken k List.mem_cons_self) (endsNumber_of_apart hapart)
      rw [List.flatMap_cons, List.map_append, ofGlyphs?_of_reads hreads, htail]
      rfl

end Token
end Json
end FleetBridge
