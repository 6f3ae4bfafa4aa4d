import FleetBridge.Toml.Text

/-!
# Texts read back

A text is written in the first quotes that admit it, or with escapes where none do, and is
read back as it was.  What a reader carries along is the number of quotes that it has seen in
a row: in a long text they may belong to the text or to the quotes that close it, and which
of the two it is shows only behind them.
-/

namespace FleetBridge
namespace Toml
namespace Quoting

variable {q : Quoting} {p next : Place} {c : Char} {s found cs rest : List Char}

/-!
# Single steps of a reader
-/

theorem scan_cons (hstep : q.step p c = .go found next) (h : q.scan next s = some (cs, rest)) :
    q.scan p (c :: s) = some (found ++ cs, rest) := by
  rw [scan, hstep]
  dsimp only
  rw [h]
  rfl

theorem step_mark_short (hlong : q.long = false) (row : Nat) :
    q.step (.plain row) q.mark = .close := by
  simp [step, plainStep, hlong]

theorem step_mark_long {row : Nat} (hlong : q.long = true) (hrow : row ≠ 2) :
    q.step (.plain row) q.mark = .go [] (.plain (row + 1)) := by
  simp [step, plainStep, hlong, hrow]

theorem step_mark_last (hlong : q.long = true) : q.step (.plain 2) q.mark = .close := by
  simp [step, plainStep, hlong]

theorem step_visible (hmark : c ≠ q.mark) (hslash : c ≠ '\\' ∨ q.literal = true)
    (hvisible : isVisible c = true) (row : Nat) :
    q.step (.plain row) c = .go (List.replicate row q.mark ++ [c]) (.plain 0) := by
  have hplain : (c == '\\' && !q.literal) = false := by
    rcases hslash with hslash | hliteral
    · simp [hslash]
    · simp [hliteral]
  have hfeed : c ≠ '\n' := by
    rintro rfl
    cases hvisible
  have hreturn : c ≠ '\r' := by
    rintro rfl
    cases hvisible
  simp only [step, plainStep, beq_iff_eq, hmark, hplain, hfeed, hreturn, hvisible, if_false,
    if_true, Bool.false_eq_true]

theorem step_feed (hlong : q.long = true) (row : Nat) :
    q.step (.plain row) '\n' = .go (List.replicate row q.mark ++ ['\n']) (.plain 0) := by
  have hmark : '\n' ≠ q.mark := by
    unfold mark
    cases q.literal <;> decide
  simp [step, plainStep, hmark, hlong]

theorem step_slash (hliteral : q.literal = false) (row : Nat) :
    q.step (.plain row) '\\' = .go (List.replicate row q.mark) .escape := by
  have hmark : '\\' ≠ q.mark := by
    rw [mark, hliteral]
    decide
  simp [step, plainStep, hmark, hliteral]

/-!
# The closing quotes
-/

theorem marks_short (hlong : q.long = false) : q.marks = [q.mark] := by
  rw [marks, hlong]
  rfl

theorem marks_long (hlong : q.long = true) : q.marks = [q.mark, q.mark, q.mark] := by
  rw [marks, hlong]
  rfl

theorem step_mark {row : Nat} (hrow : row + 1 < q.marks.length) :
    q.step (.plain row) q.mark = .go [] (.plain (row + 1)) := by
  cases hlong : q.long with
  | false =>
      rw [marks_short hlong, List.length_singleton] at hrow
      omega
  | true =>
      rw [marks_long hlong] at hrow
      have hlast : row ≠ 2 := by
        rintro rfl
        exact Nat.lt_irrefl 3 hrow
      exact step_mark_long hlong hlast

theorem takeWhile_replicate_mark (row : Nat) (hrest : rest.head? ≠ some q.mark) :
    (List.replicate row q.mark ++ rest).takeWhile (· == q.mark) = List.replicate row q.mark := by
  have hall : ∀ c ∈ List.replicate row q.mark, (c == q.mark) = true := by
    intro c hc
    rw [List.eq_of_mem_replicate hc]
    exact beq_self_eq_true _
  have hstop : rest.takeWhile (· == q.mark) = [] := by
    cases rest with
    | nil => rfl
    | cons c rest =>
        have hc : ¬ (c == q.mark) = true := by
          rintro h
          exact hrest (congrArg some (beq_iff_eq.mp h))
        rw [List.takeWhile_cons, if_neg hc]
  rw [List.takeWhile_append_of_pos hall, hstop, List.append_nil]

/-- Of the quotes behind those that close a long text up to two still belong to it. -/
theorem scan_close_long (hlong : q.long = true) {row : Nat} (hrow : row ≤ 2)
    (hrest : rest.head? ≠ some q.mark) :
    q.scan (.plain 2) (q.mark :: (List.replicate row q.mark ++ rest)) =
      some (List.replicate row q.mark, rest) := by
  rw [scan, step_mark_last hlong]
  simp [hlong, takeWhile_replicate_mark row hrest, hrow]

theorem scan_marks {row : Nat} (hrow : row < q.marks.length)
    (hrest : rest.head? ≠ some q.mark) :
    q.scan (.plain row) (q.marks ++ rest) = some (List.replicate row q.mark, rest) := by
  cases hlong : q.long with
  | false =>
      rw [marks_short hlong] at hrow ⊢
      have hrow : row = 0 := Nat.lt_one_iff.mp hrow
      subst hrow
      rw [List.singleton_append, scan, step_mark_short hlong]
      simp [hlong]
  | true =>
      rw [marks_long hlong] at hrow ⊢
      -- Those that were seen already count for the quotes that close the text.
      match row, hrow with
      | 0, _ =>
          have hlast := scan_close_long hlong (show 0 ≤ 2 by decide) hrest
          have hsecond := scan_cons (step_mark_long hlong (show 1 ≠ 2 by decide)) hlast
          exact scan_cons (step_mark_long hlong (show 0 ≠ 2 by decide)) hsecond
      | 1, _ =>
          have hlast := scan_close_long hlong (show 1 ≤ 2 by decide) hrest
          exact scan_cons (step_mark_long hlong (show 1 ≠ 2 by decide)) hlast
      | 2, _ => exact scan_close_long hlong (show 2 ≤ 2 by decide) hrest

/-!
# Escapes
-/

theorem scan_slash (hliteral : q.literal = false) (row : Nat)
    (h : q.scan .escape s = some (c :: cs, rest)) :
    q.scan (.plain row) ('\\' :: s) = some (List.replicate row q.mark ++ c :: cs, rest) :=
  scan_cons (step_slash hliteral row) h

theorem scan_letter {l : Char} (hletter : q.escapeStep l = .go [c] (.plain 0))
    (h : q.scan (.plain 0) s = some (cs, rest)) :
    q.scan .escape (l :: s) = some (c :: cs, rest) :=
  scan_cons (p := .escape) hletter h

theorem hexValue?_toUpper_hexDigit :
    ∀ d, d < 16 → Text.hexValue? (Text.hexDigit d).toUpper = some d := by
  decide

theorem scan_digit {left value d : Nat} (hd : d < 16) (hleft : left ≠ 1)
    (h : q.scan (.code (left - 1) (value * 16 + d)) s = some (cs, rest)) :
    q.scan (.code left value) ((Text.hexDigit d).toUpper :: s) = some (cs, rest) := by
  have hstep : q.step (.code left value) (Text.hexDigit d).toUpper =
      .go [] (.code (left - 1) (value * 16 + d)) := by
    simp [step, hexValue?_toUpper_hexDigit d hd, hleft]
  exact scan_cons hstep h

theorem scan_lastDigit (value : Nat) {d : Nat} (hd : d < 16) (hvalid : (value * 16 + d).isValidChar)
    (h : q.scan (.plain 0) s = some (cs, rest)) :
    q.scan (.code 1 value) ((Text.hexDigit d).toUpper :: s) =
      some (Char.ofNat (value * 16 + d) :: cs, rest) := by
  have hstep : q.step (.code 1 value) (Text.hexDigit d).toUpper =
      .go [Char.ofNat (value * 16 + d)] (.plain 0) := by
    simp [step, hexValue?_toUpper_hexDigit d hd, hvalid]
  exact scan_cons hstep h

theorem scan_unit {n : Nat} (hn : n < 0x80) (h : q.scan (.plain 0) s = some (cs, rest)) :
    q.scan .escape ('u' :: ((Text.hexDigits 4 n).map Char.toUpper ++ s)) =
      some (Char.ofNat n :: cs, rest) := by
  have hvalid : n.isValidChar := Or.inl (Nat.lt_trans hn (by decide))
  have hvalue : (((0 * 16 + n / 4096 % 16) * 16 + n / 256 % 16) * 16 + n / 16 % 16) * 16 +
      n % 16 = n := by
    omega
  have hdigits : Text.hexDigits 4 n =
      [Text.hexDigit (n / 4096 % 16), Text.hexDigit (n / 256 % 16), Text.hexDigit (n / 16 % 16),
        Text.hexDigit (n % 16)] := by
    simp [Text.hexDigits, Nat.div_div_eq_div_mul]
  have hlast := scan_lastDigit (((0 * 16 + n / 4096 % 16) * 16 + n / 256 % 16) * 16 +
    n / 16 % 16) (Nat.mod_lt n (by decide)) (hvalue.symm ▸ hvalid) h
  rw [hvalue] at hlast
  have hthird := scan_digit (Nat.mod_lt (n / 16) (by decide)) (show 2 ≠ 1 by decide) hlast
  have hsecond := scan_digit (Nat.mod_lt (n / 256) (by decide)) (show 3 ≠ 1 by decide) hthird
  have hfirst := scan_digit (Nat.mod_lt (n / 4096) (by decide)) (show 4 ≠ 1 by decide) hsecond
  have hletter : q.step .escape 'u' = .go [] (.code 4 0) := rfl
  rw [hdigits]
  exact scan_cons hletter hfirst

/-- The forms in which a character stands between double quotes. -/
inductive Form (q : Quoting) (c : Char) : List Char → Prop where
  | letter {l : Char} (hletter : q.escapeStep l = .go [c] (.plain 0)) : Form q c ['\\', l]
  | feed (hc : c = '\n') (hlong : q.long = true) : Form q c ['\n']
  | unit (hc : c.toNat < 0x80) :
      Form q c ('\\' :: 'u' :: (Text.hexDigits 4 c.toNat).map Char.toUpper)
  | plain (hquote : c ≠ '"') (hslash : c ≠ '\\') (hvisible : isVisible c = true) : Form q c [c]

theorem toNat_lt_of_control (h : c < ' ' ∨ c = '\x7f') : c.toNat < 0x80 := by
  rcases h with hlow | rfl
  · exact Nat.lt_trans hlow (by decide)
  · decide

theorem isVisible_of_not_control (h : ¬ (c < ' ' ∨ c = '\x7f')) : isVisible c = true := by
  rw [not_or] at h
  simp [isVisible, h.2, Char.not_lt.mp h.1]

theorem form_escape (q : Quoting) (c : Char) : Form q c (q.escape c) := by
  rw [escape]
  simp only [beq_iff_eq, Bool.or_eq_true, decide_eq_true_eq]
  by_cases hback : c = '\x08'
  · subst hback
    exact .letter rfl
  rw [if_neg hback]
  by_cases htab : c = '\t'
  · subst htab
    exact .letter rfl
  rw [if_neg htab]
  by_cases hfeed : c = '\n'
  · rw [if_pos hfeed]
    subst hfeed
    cases hlong : q.long with
    | true => exact .feed rfl hlong
    | false => exact .letter rfl
  rw [if_neg hfeed]
  by_cases hform : c = '\x0c'
  · subst hform
    exact .letter rfl
  rw [if_neg hform]
  by_cases hreturn : c = '\r'
  · subst hreturn
    exact .letter rfl
  rw [if_neg hreturn]
  by_cases hquote : c = '"'
  · subst hquote
    exact .letter rfl
  rw [if_neg hquote]
  by_cases hslash : c = '\\'
  · subst hslash
    exact .letter rfl
  rw [if_neg hslash]
  by_cases hcontrol : c < ' ' ∨ c = '\x7f'
  · rw [if_pos hcontrol]
    exact .unit (toNat_lt_of_control hcontrol)
  rw [if_neg hcontrol]
  exact .plain hquote hslash (isVisible_of_not_control hcontrol)

theorem mark_of_not_literal (hliteral : q.literal = false) : q.mark = '"' := by
  rw [mark, hliteral]
  rfl

theorem scan_escape (hliteral : q.literal = false) (row : Nat)
    (h : q.scan (.plain 0) s = some (cs, rest)) :
    q.scan (.plain row) (q.escape c ++ s) = some (List.replicate row q.mark ++ c :: cs, rest) := by
  have hmark := mark_of_not_literal hliteral
  have hform := form_escape q c
  generalize q.escape c = form at hform ⊢
  cases hform with
  | letter hletter => exact scan_slash hliteral row (scan_letter hletter h)
  | feed hc hlong =>
      rw [hc, List.append_cons]
      exact scan_cons (step_feed hlong row) h
  | unit hc =>
      have hunit := scan_unit hc h
      rw [Char.ofNat_toNat] at hunit
      exact scan_slash hliteral row hunit
  | plain hquote hslash hvisible =>
      rw [List.append_cons]
      exact scan_cons (step_visible (hmark ▸ hquote) (Or.inl hslash) hvisible row) h

/-!
# Whole texts
-/

theorem scan_escaped (hliteral : q.literal = false) (hrest : rest.head? ≠ some q.mark)
    (s : List Char) {row : Nat} (hrow : row < q.marks.length) :
    q.scan (.plain row) (q.escaped row s ++ (q.marks ++ rest)) =
      some (List.replicate row q.mark ++ s, rest) := by
  have hmark := mark_of_not_literal hliteral
  induction s generalizing row with
  | nil =>
      rw [List.append_nil]
      exact scan_marks hrow hrest
  | cons c s ih =>
      rw [escaped]
      by_cases hquote : (c == '"' && decide (row + 1 < q.marks.length)) = true
      · rw [if_pos hquote]
        rw [Bool.and_eq_true, beq_iff_eq, decide_eq_true_eq] at hquote
        rcases hquote with ⟨rfl, hnext⟩
        have hstep := step_mark hnext
        rw [hmark] at hstep
        have hcons := scan_cons hstep (ih hnext)
        rw [hmark, List.replicate_succ', List.append_assoc] at hcons
        rw [hmark]
        exact hcons
      · rw [if_neg hquote, List.append_assoc]
        exact scan_escape hliteral row (ih (Nat.lt_of_le_of_lt (Nat.zero_le row) hrow))

theorem holds_append_left {word : List Char} (h : holds word s = true) (front : List Char) :
    holds word (front ++ s) = true := by
  induction front with
  | nil => exact h
  | cons c front ih =>
      rw [List.cons_append, holds, ih, Bool.or_true]

theorem holds_append_right (word s : List Char) : holds word (word ++ s) = true := by
  cases word with
  | nil =>
      cases s with
      | nil => rfl
      | cons c s => rfl
  | cons c word =>
      rw [List.cons_append, holds, Bool.or_eq_true, List.isPrefixOf_iff_prefix]
      exact Or.inl (List.prefix_append (c :: word) s)

theorem lt_length_marks {row : Nat}
    (h : holds q.marks (List.replicate row q.mark ++ s) = false) : row < q.marks.length := by
  rw [marks] at h ⊢
  rw [List.length_replicate, ← Nat.not_le]
  intro hge
  rw [← Nat.add_sub_of_le hge, ← List.replicate_append_replicate, List.append_assoc,
    holds_append_right] at h
  cases h

def Plain (q : Quoting) (c : Char) : Prop :=
  (isVisible c = true ∨ q.long = true ∧ c = '\n') ∧ (q.literal = true ∨ c ≠ '\\')

theorem step_plain (hmark : c ≠ q.mark) (hplain : Plain q c) (row : Nat) :
    q.step (.plain row) c = .go (List.replicate row q.mark ++ [c]) (.plain 0) := by
  rcases hplain with ⟨hvisible | ⟨hlong, rfl⟩, hslash⟩
  · exact step_visible hmark hslash.symm hvisible row
  · exact step_feed hlong row

theorem scan_raw (hrest : rest.head? ≠ some q.mark) (s : List Char) (hplain : ∀ c ∈ s, Plain q c)
    {row : Nat} (hholds : holds q.marks (List.replicate row q.mark ++ s) = false) :
    q.scan (.plain row) (s ++ (q.marks ++ rest)) = some (List.replicate row q.mark ++ s, rest) := by
  induction s generalizing row with
  | nil =>
      rw [List.append_nil]
      exact scan_marks (lt_length_marks hholds) hrest
  | cons c s ih =>
      rw [List.forall_mem_cons] at hplain
      by_cases hmark : c = q.mark
      · subst hmark
        have hmove : List.replicate row q.mark ++ q.mark :: s =
            List.replicate (row + 1) q.mark ++ s := by
          rw [List.replicate_succ', List.append_assoc, List.singleton_append]
        rw [hmove] at hholds ⊢
        have hstep : q.step (.plain row) q.mark = .go [] (.plain (row + 1)) :=
          step_mark (lt_length_marks hholds)
        have hcons := scan_cons hstep (ih hplain.2 hholds)
        rw [List.nil_append] at hcons
        exact hcons
      · have hlater : holds q.marks (List.replicate 0 q.mark ++ s) = false := by
          rw [← Bool.not_eq_true] at hholds ⊢
          intro h
          rw [List.append_cons] at hholds
          exact hholds (holds_append_left h _)
        rw [List.append_cons]
        exact scan_cons (step_plain hmark hplain.1 row) (ih hplain.2 hlater)

theorem holds_of_admits (h : q.admits s = true) : holds q.marks s = false := by
  rw [admits, Bool.and_eq_true, Bool.and_eq_true, Bool.not_eq_true'] at h
  exact h.1.2

theorem plain_of_admits (h : q.admits s = true) : ∀ c ∈ s, Plain q c := by
  intro c hc
  rw [admits, Bool.and_eq_true, Bool.and_eq_true, List.all_eq_true] at h
  have hvisible := h.1.1 c hc
  have hslash := h.2
  rw [Bool.or_eq_true, Bool.and_eq_true, beq_iff_eq] at hvisible
  refine ⟨hvisible, ?_⟩
  rw [Bool.or_eq_true, Bool.not_eq_true', ← Bool.not_eq_true, List.contains_iff_mem] at hslash
  exact hslash.imp id (fun h hc' => h (hc' ▸ hc))

def content (q : Quoting) (s : List Char) : List Char :=
  if q.literal then s else q.escaped 0 s

theorem scan_content (hliteral : q.literal = true → q.admits s = true)
    (hrest : rest.head? ≠ some q.mark) :
    q.scan (.plain 0) (q.content s ++ (q.marks ++ rest)) = some (s, rest) := by
  rw [content]
  cases hcase : q.literal with
  | false =>
      rw [if_neg Bool.false_ne_true]
      have hlength : 0 < q.marks.length := by
        cases hlong : q.long with
        | false => exact marks_short hlong ▸ Nat.zero_lt_one
        | true => exact marks_long hlong ▸ Nat.zero_lt_succ 2
      exact scan_escaped hcase hrest s hlength
  | true =>
      rw [if_pos rfl]
      have hadmits := hliteral hcase
      have hholds : holds q.marks (List.replicate 0 q.mark ++ s) = false :=
        holds_of_admits hadmits
      exact scan_raw hrest s (plain_of_admits hadmits) hholds

/-!
# What a written text begins with

The first character decides whether a reader takes a line break for one that does not count,
and whether it takes the quotes before it for long ones.
-/

theorem exists_escape_eq_cons (q : Quoting) (c : Char) :
    ∃ d t, q.escape c = d :: t ∧ d ≠ '"' ∧ (c ≠ '\n' → isVisible d = true) := by
  have hform := form_escape q c
  generalize q.escape c = form at hform ⊢
  cases hform with
  | letter hletter => exact ⟨'\\', _, rfl, by decide, fun _ => rfl⟩
  | feed hc hlong => exact ⟨'\n', _, rfl, by decide, fun h => absurd hc h⟩
  | unit hc => exact ⟨'\\', _, rfl, by decide, fun _ => rfl⟩
  | plain hquote hslash hvisible => exact ⟨c, _, rfl, hquote, fun _ => hvisible⟩

theorem exists_content_eq_cons (hliteral : q.literal = true → q.admits (c :: s) = true) :
    ∃ d t, q.content (c :: s) = d :: t ∧ (q.long = false → d ≠ q.mark) ∧
      (c ≠ '\n' → isVisible d = true) := by
  rw [content]
  cases hcase : q.literal with
  | true =>
      rw [if_pos rfl]
      have hadmits := hliteral hcase
      refine ⟨c, s, rfl, ?_, ?_⟩
      · rintro hshort rfl
        have hlt : 1 < q.marks.length := lt_length_marks (holds_of_admits hadmits)
        rw [marks_short hshort] at hlt
        exact Nat.lt_irrefl 1 hlt
      · intro hc
        rcases (plain_of_admits hadmits c List.mem_cons_self).1 with hvisible | hfeed
        · exact hvisible
        · exact absurd hfeed.2 hc
  | false =>
      rw [if_neg Bool.false_ne_true, escaped]
      by_cases hquote : (c == '"' && decide (0 + 1 < q.marks.length)) = true
      · rw [if_pos hquote]
        rw [Bool.and_eq_true, decide_eq_true_eq] at hquote
        refine ⟨'"', _, rfl, ?_, fun _ => rfl⟩
        intro hshort
        rw [marks_short hshort] at hquote
        exact absurd hquote.2 (Nat.lt_irrefl 1)
      · rw [if_neg hquote]
        rcases exists_escape_eq_cons q c with ⟨d, t, heq, hd, hvisible⟩
        refine ⟨d, t ++ q.escaped 0 s, by rw [heq, List.cons_append], ?_, hvisible⟩
        intro _
        rw [mark_of_not_literal hcase]
        exact hd

theorem visible_mark (q : Quoting) : isVisible q.mark = true := by
  rw [mark]
  cases q.literal with
  | false => rfl
  | true => rfl

theorem content?_eq_scan (h : q.long = true → ∃ d t, s = d :: t ∧ isVisible d = true) :
    q.content? s = q.scan (.plain 0) s := by
  rw [content?]
  · rintro t hlong rfl
    rcases h hlong with ⟨d, t, heq, hvisible⟩
    cases heq
    cases hvisible
  · rintro t hlong rfl
    rcases h hlong with ⟨d, t, heq, hvisible⟩
    cases heq
    cases hvisible

theorem content?_content (hliteral : q.literal = true → q.admits s = true)
    (hrest : rest.head? ≠ some q.mark) :
    q.content? ((if q.long && s.contains '\n' then ['\n'] else []) ++
      (q.content s ++ (q.marks ++ rest))) = some (s, rest) := by
  have hscan := scan_content hliteral hrest
  by_cases hfeed : (q.long && s.contains '\n') = true
  · rw [if_pos hfeed]
    rw [Bool.and_eq_true] at hfeed
    rw [List.singleton_append, content?]
    · exact hscan
    · exact hfeed.1
  · rw [if_neg hfeed, List.nil_append, content?_eq_scan]
    · exact hscan
    · intro hlong
      rw [hlong, Bool.true_and, List.contains_iff_mem] at hfeed
      cases s with
      | nil =>
          rw [content, escaped, ite_self, marks_long hlong]
          exact ⟨q.mark, _, rfl, visible_mark q⟩
      | cons c s =>
          rcases exists_content_eq_cons hliteral with ⟨d, t, heq, _, hvisible⟩
          have hc : c ≠ '\n' := fun h => hfeed (h ▸ List.mem_cons_self)
          exact ⟨d, _, by rw [heq, List.cons_append], hvisible hc⟩

theorem admits_of (h : (of s).literal = true) : (of s).admits s = true := by
  rw [of] at h ⊢
  generalize hfind : [⟨false, false⟩, ⟨true, false⟩, ⟨false, true⟩, ⟨true, true⟩].find?
    (fun q : Quoting => q.admits s) = found at h ⊢
  cases found with
  | none => cases h
  | some q => exact List.find?_some (p := fun q : Quoting => q.admits s) hfind

theorem text?_marks (h : q.long = false → ∀ t, s ≠ q.mark :: q.mark :: t) :
    text? (q.marks ++ s) = q.content? s := by
  rcases q with ⟨literal, long⟩
  cases long with
  | true =>
      cases literal with
      | false => rfl
      | true => rfl
  | false =>
      have h := h rfl
      cases literal with
      | false =>
          rw [marks_short rfl, List.singleton_append, text?]
          · rfl
          · rintro t heq
            exact h t (List.cons.inj heq).2
          · nofun
      | true =>
          rw [marks_short rfl, List.singleton_append, text?]
          · rfl
          · nofun
          · rintro t heq
            exact h t (List.cons.inj heq).2

end Quoting

/-- A text is read as it was written, unless more quotes follow. -/
theorem text?_writtenText (s : List Char) {rest : List Char} (hdouble : rest.head? ≠ some '"')
    (hsingle : rest.head? ≠ some '\'') : text? (writtenText s ++ rest) = some (s, rest) := by
  have hrest : rest.head? ≠ some (Quoting.of s).mark := by
    rw [Quoting.mark]
    split
    · exact hsingle
    · exact hdouble
  have hcontent := Quoting.content?_content Quoting.admits_of hrest
  rw [writtenText, List.append_assoc, List.append_assoc, List.append_assoc, Quoting.text?_marks]
  · exact hcontent
  · rintro hshort t heq
    rw [hshort, Bool.false_and, if_neg Bool.false_ne_true, List.nil_append] at heq
    cases s with
    | nil =>
        rw [Quoting.escaped, ite_self, Quoting.marks_short hshort] at heq
        exact hrest (congrArg List.head? (List.cons.inj heq).2)
    | cons c s =>
        rcases Quoting.exists_content_eq_cons (Quoting.admits_of (s := c :: s)) with
          ⟨d, t', hcontent, hd, _⟩
        rw [← Quoting.content, hcontent] at heq
        injection heq with heq _
        exact hd hshort heq

end Toml
end FleetBridge
