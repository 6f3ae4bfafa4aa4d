import FleetBridge.Text.Blank

/-!
# Words on a line

A line is words with blanks between them and around them.  How many blanks there are, and
which, does not matter: every line is read as the words that are spaced out on it, and no
line has two readings.
-/

namespace FleetBridge
namespace Text

def IsGap (s : List Char) : Prop :=
  ∀ c ∈ s, isBlank c = true

def IsWord (s : List Char) : Prop :=
  s ≠ [] ∧ ∀ c ∈ s, isBlank c = false

/-- Nothing follows a word that would belong to it. -/
def EndsWord (s : List Char) : Prop :=
  ∀ c ∈ s.head?, isBlank c = true

theorem isGap_nil : IsGap [] :=
  fun _ hc => absurd hc List.not_mem_nil

/-- Words spaced out on a line. -/
inductive Spaced : List (List Char) → List Char → Prop where
  | gap {gap : List Char} (hgap : IsGap gap) : Spaced [] gap
  | word {gap w rest : List Char} {ws : List (List Char)} (hgap : IsGap gap) (hword : IsWord w)
      (hend : EndsWord rest) (hrest : Spaced ws rest) : Spaced (w :: ws) (gap ++ (w ++ rest))

/-!
# Reading the words
-/

theorem wordLists_gap_append {gap : List Char} (h : IsGap gap) (s : List Char) :
    wordLists (gap ++ s) = wordLists s := by
  induction gap with
  | nil => rfl
  | cons c gap ih =>
      rw [IsGap, List.forall_mem_cons] at h
      rw [List.cons_append, wordLists_cons_blank h.1, ih h.2]

theorem wordLists_cons_of_ends {c : Char} {rest : List Char} (hc : isBlank c = false)
    (hend : EndsWord rest) : wordLists (c :: rest) = [c] :: wordLists rest := by
  have hnone : rest.head?.filter (fun d => !isBlank d) = none := by
    rw [Option.filter_eq_none_iff]
    intro d hd
    rw [hend d hd]
    decide
  rw [wordLists, hnone, hc]
  rfl

theorem wordLists_cons_of_word {c d : Char} {rest w : List Char} {ws : List (List Char)}
    (hc : isBlank c = false) (hd : isBlank d = false)
    (hrest : wordLists (d :: rest) = w :: ws) :
    wordLists (c :: d :: rest) = (c :: w) :: ws := by
  have hsome : (d :: rest).head?.filter (fun d => !isBlank d) = some d := by
    rw [List.head?_cons, Option.filter_some, hd]
    rfl
  rw [wordLists, hsome, hc, hrest]
  rfl

theorem wordLists_word_append {w rest : List Char} (hword : IsWord w) (hend : EndsWord rest) :
    wordLists (w ++ rest) = w :: wordLists rest := by
  rcases hword with ⟨hne, hword⟩
  induction w with
  | nil => exact absurd rfl hne
  | cons c w ih =>
      rw [List.forall_mem_cons] at hword
      cases w with
      | nil => exact wordLists_cons_of_ends hword.1 hend
      | cons d w =>
          have hd : isBlank d = false := hword.2 d List.mem_cons_self
          exact wordLists_cons_of_word hword.1 hd (ih (List.cons_ne_nil d w) hword.2)

theorem wordLists_of_spaced {ws : List (List Char)} {s : List Char} (h : Spaced ws s) :
    wordLists s = ws := by
  induction h with
  | gap hgap =>
      have hnone := wordLists_gap_append hgap []
      rw [List.append_nil, wordLists_nil] at hnone
      exact hnone
  | word hgap hword hend hrest ih =>
      rw [wordLists_gap_append hgap, wordLists_word_append hword hend, ih]

/-!
# Every line has words
-/

theorem Spaced.cons_blank {c : Char} {ws : List (List Char)} {s : List Char}
    (hc : isBlank c = true) (h : Spaced ws s) : Spaced ws (c :: s) := by
  cases h with
  | gap hgap => exact .gap (List.forall_mem_cons.mpr ⟨hc, hgap⟩)
  | word hgap hword hend hrest =>
      exact .word (List.forall_mem_cons.mpr ⟨hc, hgap⟩) hword hend hrest

theorem Spaced.cons_of_ends {c : Char} {ws : List (List Char)} {s : List Char}
    (hc : isBlank c = false) (hend : EndsWord s) (h : Spaced ws s) : Spaced ([c] :: ws) (c :: s) :=
  .word isGap_nil ⟨List.cons_ne_nil c [], List.forall_mem_singleton.mpr hc⟩ hend h

theorem Spaced.cons_of_word {c d : Char} {ws : List (List Char)} {s : List Char}
    (hc : isBlank c = false) (hd : isBlank d = false) (h : Spaced ws (d :: s)) :
    ∃ w rest, Spaced ((c :: w) :: rest) (c :: d :: s) := by
  generalize hline : d :: s = line at h
  cases h with
  | gap hgap =>
      subst hline
      rw [hgap d List.mem_cons_self] at hd
      cases hd
  | @word gap w rest ws hgap hword hend hrest =>
      cases gap with
      | nil =>
          have hlonger : IsWord (c :: w) :=
            ⟨List.cons_ne_nil c w, List.forall_mem_cons.mpr ⟨hc, hword.2⟩⟩
          exact ⟨w, ws, .word isGap_nil hlonger hend hrest⟩
      | cons e gap =>
          rw [List.cons_append, List.cons.injEq] at hline
          rw [hline.1, hgap e List.mem_cons_self] at hd
          cases hd

theorem exists_spaced (s : List Char) : ∃ ws, Spaced ws s := by
  induction s with
  | nil => exact ⟨[], .gap (fun _ hc => absurd hc List.not_mem_nil)⟩
  | cons c s ih =>
      rcases ih with ⟨ws, hws⟩
      cases hc : isBlank c with
      | true => exact ⟨ws, hws.cons_blank hc⟩
      | false =>
          cases s with
          | nil => exact ⟨[c] :: ws, hws.cons_of_ends hc nofun⟩
          | cons d s =>
              cases hd : isBlank d with
              | true =>
                  have hend : EndsWord (d :: s) := fun e he => Option.some.inj he ▸ hd
                  exact ⟨[c] :: ws, hws.cons_of_ends hc hend⟩
              | false =>
                  rcases hws.cons_of_word hc hd with ⟨w, rest, hword⟩
                  exact ⟨(c :: w) :: rest, hword⟩

theorem wordLists_eq_iff {ws : List (List Char)} {s : List Char} :
    wordLists s = ws ↔ Spaced ws s := by
  constructor
  · rintro rfl
    rcases exists_spaced s with ⟨ws, hws⟩
    rw [wordLists_of_spaced hws]
    exact hws
  · exact wordLists_of_spaced

/-- A line that holds these words and nothing else but blanks. -/
def Spells (words : List String) (line : String) : Prop :=
  Spaced (words.map String.toList) line.toList

theorem words_eq_iff {ws : List String} {line : String} : words line = ws ↔ Spells ws line := by
  rw [Spells, ← wordLists_eq_iff, words]
  constructor
  · rintro rfl
    simp
  · intro h
    rw [h]
    simp

theorem existsUnique_spells (line : String) : ∃ ws, Spells ws line ∧ ∀ other, Spells other line →
    other = ws := by
  refine ⟨words line, words_eq_iff.mp rfl, ?_⟩
  intro other hother
  exact (words_eq_iff.mpr hother).symm

end Text
end FleetBridge
