import FleetBridge.Json.Symbol
import FleetBridge.Proofs.Text.Hex

/-!
# Reading strings back

A row of symbols that stands between quotes is read up to the closing quote, each
symbol for itself.  Only bytes that are no character are not written as they were.
-/

namespace FleetBridge
namespace Json
namespace Symbol

/-! # The ways to begin a row -/

variable {c l : Char} {rest : List (Option Char)}

theorem scan?_quote : scan? (some '"' :: rest) = some ([], rest) := by
  simp [scan?]

theorem scan?_unit {n : Nat} (hn : n < 16 ^ 4) :
    scan? ((unitChars n).map some ++ rest) =
      (scan? rest).map (fun (ss, rest) => (ofUnit n :: ss, rest)) := by
  obtain ⟨a, b, c, d, hdigits⟩ : ∃ a b c d, Text.hexDigits 4 n = [a, b, c, d] := by
    simp [Text.hexDigits]
  have hunit : unit? a b c d = some n := by
    rw [unit?, ← hdigits, Text.ofHexDigits?_hexDigits, Nat.mod_eq_of_lt hn]
  simp [unitChars, hdigits, scan?, hunit]

theorem ne_u_of_escaped? (h : escaped? l = some c) : l ≠ 'u' := by
  rintro rfl
  cases h

theorem scan?_escape (h : escaped? l = some c) :
    scan? (some '\\' :: some l :: rest) =
      (scan? rest).map (fun (ss, rest) => (scalar c :: ss, rest)) := by
  have hl := ne_u_of_escaped? h
  rw [scan?.eq_def]
  simp [hl, h]

theorem scan?_plain (hquote : c ≠ '"') (hslash : c ≠ '\\') (hprint : ¬ (c.toNat < 0x20)) :
    scan? (some c :: rest) =
      (scan? rest).map (fun (ss, rest) => (scalar c :: ss, rest)) := by
  rw [scan?.eq_def]
  simp [hslash, hprint]

/-! # Whole rows -/

theorem escaped?_of_letter? (h : letter? c = some l) : escaped? l = some c := by
  unfold letter? at h
  repeat' split at h
  all_goals cases h
  all_goals
    rw [eq_of_beq ‹(c == _) = true›]
    rfl

theorem scan?_scalarChars :
    scan? ((scalarChars c).map some ++ rest) =
      (scan? rest).map (fun (ss, rest) => (scalar c :: ss, rest)) := by
  unfold scalarChars
  split
  case isTrue hself =>
    have hescaped : escaped? c = some c := by
      simp only [escaped?, Bool.or_eq_true] at hself ⊢
      rw [if_pos (Or.inl hself)]
    exact scan?_escape hescaped
  case isFalse hself =>
    simp only [Bool.or_eq_true, beq_iff_eq, not_or] at hself
    cases hletter : letter? c with
    | some l => exact scan?_escape (escaped?_of_letter? hletter)
    | none =>
        by_cases hcontrol : c.toNat < 0x20
        · have hunit : ofUnit c.toNat = scalar c := by
            have hscalar : ¬ (0xD800 ≤ c.toNat ∧ c.toNat ≤ 0xDFFF) := by omega
            rw [ofUnit, if_neg hscalar, Char.ofNat_toNat]
          simp only [hcontrol, if_true]
          rw [scan?_unit (by omega), hunit]
        · simp only [hcontrol, if_false]
          exact scan?_plain hself.1 hself.2 hcontrol

theorem scan?_chars {s : Symbol} (h : s ≠ broken) :
    scan? (s.chars.map some ++ rest) =
      (scan? rest).map (fun (ss, rest) => (s :: ss, rest)) := by
  cases s with
  | scalar c => exact scan?_scalarChars
  | surrogate half =>
      have hhalf := half.isLt
      have hunit : ofUnit (0xD800 + half.val) = surrogate half := by
        have hrange : 0xD800 ≤ 0xD800 + half.val ∧ 0xD800 + half.val ≤ 0xDFFF := by omega
        rw [ofUnit, if_pos hrange, Nat.add_sub_cancel_left, Fin.ofNat_val_eq_self]
      rw [chars, scan?_unit (by omega), hunit]
  | broken => exact absurd rfl h

/-- A string is read up to its closing quote, whatever follows. -/
theorem scan?_flatMap_chars {ss : List Symbol} (h : ∀ s ∈ ss, s ≠ broken) :
    scan? ((ss.flatMap chars).map some ++ some '"' :: rest) = some (ss, rest) := by
  induction ss with
  | nil => exact scan?_quote
  | cons s ss ih =>
      have hs : s ≠ broken := h s List.mem_cons_self
      have hss := ih (fun s hmem => h s (List.mem_cons_of_mem _ hmem))
      rw [List.flatMap_cons, List.map_append, List.append_assoc, scan?_chars hs, hss]
      rfl

theorem ne_broken_of_mem_ofText {text : String} {s : Symbol} (h : s ∈ ofText text) :
    s ≠ broken := by
  obtain ⟨c, _, rfl⟩ := List.mem_map.mp h
  exact Symbol.noConfusion

end Symbol
end Json
end FleetBridge
