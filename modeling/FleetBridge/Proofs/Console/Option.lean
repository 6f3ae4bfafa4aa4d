import FleetBridge.Console.Command
import FleetBridge.Proofs.Text.Blank

/-!
# The option among the words

The option and the kind behind it are cut out before the other words are read, so it does
not matter where they stand: in front of the command word, between its arguments, or within
a reason.  A line that is refused is refused for the same reason with the option, a command
that sends something goes over the named transport, and no other command admits it.
-/

namespace FleetBridge
namespace Console

open Text (Spells words_eq_iff)

/-!
# Cutting it out
-/

theorem cutVia_cons_of_ne {word : String} (h : word ≠ viaOption) (rest : List String) :
    cutVia (word :: rest) = (cutVia rest).map (fun cut => (cut.1, word :: cut.2)) := by
  have hbeq : ¬ (word == viaOption) = true := mt beq_iff_eq.mp h
  rw [cutVia.eq_def]
  dsimp only
  rw [if_neg hbeq]
  cases cutVia rest <;> rfl

theorem cutVia_of_not_mem {words : List String} (h : viaOption ∉ words) :
    cutVia words = .ok (none, words) := by
  induction words with
  | nil => rfl
  | cons word words ih =>
      rw [List.mem_cons, not_or] at h
      rw [cutVia_cons_of_ne (Ne.symm h.1), ih h.2]
      rfl

theorem cutVia_append {before : List String} (h : viaOption ∉ before) (kind : String)
    (after : List String) :
    cutVia (before ++ viaOption :: kind :: after) =
      match Transport.Kind.ofText kind with
      | .ok k => .ok (some k, before ++ after)
      | .error e => .error (.viaUnknown e) := by
  induction before with
  | nil =>
      rewrite [List.nil_append, List.nil_append, cutVia, beq_self_eq_true, if_pos rfl]
      cases Transport.Kind.ofText kind <;> rfl
  | cons word before ih =>
      rw [List.mem_cons, not_or] at h
      rw [List.cons_append, cutVia_cons_of_ne (Ne.symm h.1), ih h.2]
      cases Transport.Kind.ofText kind <;> rfl

namespace Command

def ofCut (via : Option Transport.Kind) : List String → Except Refusal Command
  | [] => .error .empty
  | word :: args => (ofArgs word args).bind (sentOver word via)

theorem ofWords_of_cut {words rest : List String} {via : Option Transport.Kind}
    (h : cutVia words = .ok (via, rest)) : ofWords words = ofCut via rest := by
  rw [ofWords, h]
  cases rest <;> rfl

theorem ofWords_of_refused {words : List String} {e : Refusal} (h : cutVia words = .error e) :
    ofWords words = .error e := by
  rw [ofWords, h]
  rfl

/-!
# What it does to a command
-/

/-- What a line without the option and the same line with it are read as. -/
structure Carries (kind : String) (plain extended : Except Refusal Command) : Prop where
  of_unknown : ∀ e, Transport.Kind.ofText kind = .error e → extended = .error (.viaUnknown e)
  of_refused : ∀ k e, Transport.Kind.ofText kind = .ok k →
    plain = .error e → extended = .error e
  of_send : ∀ k device errand via, Transport.Kind.ofText kind = .ok k →
    plain = .ok (send device errand via) → extended = .ok (send device errand (some k))
  of_other : ∀ k c, Transport.Kind.ofText kind = .ok k → plain = .ok c →
    (∀ device errand via, c ≠ send device errand via) →
      ∃ word, extended = .error (.viaWithoutSend word)

theorem ofCut_some_of_error {words : List String} {e : Refusal} (h : ofCut none words = .error e)
    (k : Transport.Kind) : ofCut (some k) words = .error e := by
  cases words with
  | nil => exact h
  | cons word args =>
      rw [ofCut] at h ⊢
      cases hargs : ofArgs word args with
      | error e' =>
          rw [hargs] at h
          exact h
      | ok c =>
          rw [hargs] at h
          cases c <;> cases h

theorem ofCut_some_of_ok {words : List String} {c : Command} (h : ofCut none words = .ok c)
    (k : Transport.Kind) :
    (∃ device errand, c = send device errand none ∧
        ofCut (some k) words = .ok (send device errand (some k))) ∨
      (∀ device errand via, c ≠ send device errand via) ∧
        ∃ word, ofCut (some k) words = .error (.viaWithoutSend word) := by
  cases words with
  | nil => cases h
  | cons word args =>
      rw [ofCut] at h ⊢
      cases hargs : ofArgs word args with
      | error e =>
          rw [hargs] at h
          cases h
      | ok made =>
          rw [hargs] at h
          cases made with
          | send device errand via =>
              cases h
              exact Or.inl ⟨device, errand, rfl, rfl⟩
          | _ =>
              cases h
              exact Or.inr ⟨nofun, word, rfl⟩

theorem carries_append {before after : List String} (h : viaOption ∉ before ++ after)
    (kind : String) :
    Carries kind (ofWords (before ++ after))
      (ofWords (before ++ viaOption :: kind :: after)) := by
  have hplain := ofWords_of_cut (cutVia_of_not_mem h)
  have hcut := cutVia_append (fun hmem => h (List.mem_append_left after hmem)) kind after
  have hextended : ∀ k, Transport.Kind.ofText kind = .ok k →
      ofWords (before ++ viaOption :: kind :: after) = ofCut (some k) (before ++ after) := by
    intro k hk
    rw [hk] at hcut
    exact ofWords_of_cut hcut
  rw [hplain]
  refine ⟨?_, ?_, ?_, ?_⟩
  · intro e he
    rw [he] at hcut
    exact ofWords_of_refused hcut
  · intro k e hk he
    rw [hextended k hk]
    exact ofCut_some_of_error he k
  · intro k device errand via hk hsend
    rw [hextended k hk]
    rcases ofCut_some_of_ok hsend k with ⟨_, _, hmade, hsent⟩ | ⟨hother, _⟩
    · cases hmade
      exact hsent
    · exact absurd rfl (hother device errand via)
  · intro k c hk hc hother
    rw [hextended k hk]
    rcases ofCut_some_of_ok hc k with ⟨device, errand, hmade, _⟩ | ⟨_, hrefused⟩
    · exact absurd hmade (hother device errand none)
    · exact hrefused

/-- The option may stand anywhere on a line, and blanks only matter where they part words. -/
theorem carries_spelled {before after : List String} {kind plain extended : String}
    (hplain : Spells (before ++ after) plain) (hvia : viaOption ∉ before ++ after)
    (hextended : Spells (before ++ viaOption :: kind :: after) extended) :
    Carries kind (ofLine plain) (ofLine extended) ∧
      (∀ words line other, Spells words line → Spells words other → ofLine line = ofLine other) ∧
      ∀ line, ∃ words, Spells words line ∧ ∀ others, Spells others line → others = words := by
  refine ⟨?_, ?_, Text.existsUnique_spells⟩
  · rw [ofLine, ofLine, words_eq_iff.mpr hplain, words_eq_iff.mpr hextended]
    exact carries_append hvia kind
  · intro words line other hline hother
    rw [ofLine, ofLine, words_eq_iff.mpr hline, words_eq_iff.mpr hother]

theorem carries_spelled_reason :
    let plain := "/failed order-1 bumper\thit "
    let extended := " /failed order-1 bumper --via  WS hit"
    Spells (["/failed", "order-1", "bumper"] ++ ["hit"]) plain ∧
      Spells (["/failed", "order-1", "bumper"] ++ viaOption :: "WS" :: ["hit"]) extended ∧
      Carries "WS" (ofLine plain) (ofLine extended) := by
  intro plain extended
  have hplain : Spells (["/failed", "order-1", "bumper"] ++ ["hit"]) plain :=
    words_eq_iff.mp (by decide +kernel)
  have hextended :
      Spells (["/failed", "order-1", "bumper"] ++ viaOption :: "WS" :: ["hit"]) extended :=
    words_eq_iff.mp (by decide +kernel)
  exact ⟨hplain, hextended, (carries_spelled hplain (by decide) hextended).1⟩

end Command
end Console
end FleetBridge
