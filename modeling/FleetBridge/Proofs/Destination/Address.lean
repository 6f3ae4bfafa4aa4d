import FleetBridge.Proofs.Destination.Place
import Mathlib.Tactic.LinearCombination
import Mathlib.Tactic.Zify

/-!
# Addresses made from patterns

The robot is filled into a pattern first, and then its maker.  The result is the pattern with
both filled in at once as long as no place for the maker comes about on the way: within the
robot's name, or where the name meets the text around it.  Such a place is filled too, which
shows unless the maker is called what the place is.
-/

namespace FleetBridge
namespace Destination

/-!
# One place after the other
-/

section Sequence

variable {a b x y s t : List Char}

/-- A text with two kinds of places is filled place by place. -/
@[elab_as_elim]
theorem Filled.both_rec {motive : ∀ s t, Filled [(a, x), (b, y)] s t → Prop}
    (nil : motive [] [] .nil)
    (first : ∀ {s t} (hrest : Filled [(a, x), (b, y)] s t), motive s t hrest →
      motive (a ++ s) (x ++ t) (.place List.mem_cons_self hrest))
    (second : ∀ {s t} (hrest : Filled [(a, x), (b, y)] s t), motive s t hrest →
      motive (b ++ s) (y ++ t) (.place (List.mem_cons_of_mem _ List.mem_cons_self) hrest))
    (char : ∀ {c s t} (hfirst : ¬ a <+: c :: s) (hsecond : ¬ b <+: c :: s)
      (hrest : Filled [(a, x), (b, y)] s t), motive s t hrest →
      motive (c :: s) (c :: t)
        (.char (List.forall_mem_cons.mpr ⟨hfirst, List.forall_mem_singleton.mpr hsecond⟩) hrest))
    (h : Filled [(a, x), (b, y)] s t) : motive s t h := by
  induction h with
  | nil => exact nil
  | place hmem hrest ih =>
      rcases List.mem_cons.mp hmem with heq | hmem
      · cases heq
        exact first hrest ih
      · cases List.mem_singleton.mp hmem
        exact second hrest ih
  | char hnone hrest ih =>
      rw [List.forall_mem_cons, List.forall_mem_singleton] at hnone
      exact char hnone.1 hnone.2 hrest ih

theorem Filled.length_eq (hb : IsPlace b) (h : Filled [(b, y)] s t) :
    t.length + b.length * occurrences b s = s.length + y.length * occurrences b s := by
  induction h with
  | nil => rw [occurrences_nil hb, Nat.mul_zero, Nat.mul_zero]
  | place hmem _ ih =>
      cases List.mem_singleton.mp hmem
      rw [occurrences_append_self hb, List.length_append, List.length_append, Nat.mul_add,
        Nat.mul_add]
      omega
  | @char c s t hnone _ ih =>
      have hc : ¬ b <+: c :: s := hnone _ (List.mem_singleton.mpr rfl)
      rw [occurrences_cons_of_not hc, List.length_cons, List.length_cons]
      omega

/-- A value shows where it is filled in, unless it is the place itself. -/
theorem Filled.eq_self_iff (hb : IsPlace b) (h : Filled [(b, y)] s t) :
    t = s ↔ y = b ∨ occurrences b s = 0 := by
  induction h with
  | nil => exact iff_of_true rfl (Or.inr (occurrences_nil hb))
  | @place _ _ s t hmem hrest ih =>
      cases List.mem_singleton.mp hmem
      rw [occurrences_append_self hb]
      constructor
      · intro heq
        have hgrown := hrest.length_eq hb
        have hsame := congrArg List.length heq
        rw [List.length_append, List.length_append] at hsame
        have hmul : y.length * (occurrences b s + 1) = b.length * (occurrences b s + 1) := by
          rw [Nat.mul_succ, Nat.mul_succ]
          omega
        have hlength := Nat.eq_of_mul_eq_mul_right (Nat.succ_pos _) hmul
        exact Or.inl (List.append_inj_left heq hlength)
      · rintro (rfl | hnone)
        · rw [ih.mpr (Or.inl rfl)]
        · exact absurd hnone (Nat.succ_ne_zero _)
  | @char c s t hnone _ ih =>
      have hc : ¬ b <+: c :: s := hnone _ (List.mem_singleton.mpr rfl)
      rw [occurrences_cons_of_not hc, List.cons.injEq, ← ih]
      exact and_iff_right rfl

theorem Filled.length_eq_replace (h : Apart a b) (hs : Filled [(a, x), (b, y)] s t) :
    t.length + b.length * occurrences b s =
      (replace a x s).length + y.length * occurrences b s := by
  induction hs using Filled.both_rec with
  | nil => rw [occurrences_nil h.right]; rfl
  | first _ ih =>
      rw [replace_append_self h.left, occurrences_append_other h.symm, List.length_append,
        List.length_append]
      omega
  | second _ ih =>
      rw [replace_append_other h, occurrences_append_self h.right, List.length_append,
        List.length_append, Nat.mul_add, Nat.mul_add]
      omega
  | char hfirst hsecond _ ih =>
      rw [replace_cons_of_not hfirst, occurrences_cons_of_not hsecond, List.length_cons,
        List.length_cons]
      omega

theorem occurrences_le_replace (h : Apart a b) (x s : List Char) :
    occurrences b s ≤ occurrences b (replace a x s) := by
  rcases Filled.exists_filled (h.isTable x []).isPlace s with ⟨t, hs⟩
  induction hs using Filled.both_rec with
  | nil => exact Nat.le_refl _
  | first _ ih =>
      rw [replace_append_self h.left, occurrences_append_other h.symm]
      exact ih.trans (occurrences_le_append x _)
  | second _ ih =>
      rw [replace_append_other h, occurrences_append_self h.right,
        occurrences_append_self h.right]
      exact Nat.succ_le_succ ih
  | @char c _ _ hfirst hsecond _ ih =>
      rw [replace_cons_of_not hfirst, occurrences_cons_of_not hsecond]
      exact ih.trans (occurrences_le_append [c] _)

theorem occurrences_replace_of_not_mem (h : Apart a b) (hx : '\x7b' ∉ x)
    (hs : ∀ r ∈ s.tails, r.head? = some '\x7b' → a <+: r ∨ b <+: r) :
    occurrences b (replace a x s) = occurrences b s := by
  rcases Filled.exists_filled (h.isTable x []).isPlace s with ⟨t, hfilled⟩
  simp only [List.mem_tails] at hs
  induction hfilled using Filled.both_rec with
  | nil => rfl
  | first _ ih =>
      rw [replace_append_self h.left, occurrences_append_other h.symm,
        occurrences_append_of_not_mem h.right hx]
      exact ih (fun r hr => hs r (hr.trans (List.suffix_append _ _)))
  | second _ ih =>
      have hrest := ih (fun r hr => hs r (hr.trans (List.suffix_append _ _)))
      rw [replace_append_other h, occurrences_append_self h.right,
        occurrences_append_self h.right, hrest]
  | @char c s t hfirst hsecond _ ih =>
      have hrest := ih (fun r hr => hs r (hr.trans (List.suffix_cons c s)))
      have hc : '\x7b' ∉ [c] := by
        rw [List.mem_singleton]
        rintro rfl
        exact (hs _ (List.suffix_refl _) rfl).elim hfirst hsecond
      rw [replace_cons_of_not hfirst, occurrences_cons_of_not hsecond, ← hrest]
      exact occurrences_append_of_not_mem h.right hc _

theorem eq_or_eq_of_mul_add_mul {p q i j : Nat} (h : p * i + q * j = p * j + q * i) :
    p = q ∨ i = j := by
  zify at h ⊢
  have hmul : ((p : ℤ) - q) * (i - j) = 0 := by linear_combination h
  rcases mul_eq_zero.mp hmul with hzero | hzero
  · exact Or.inl (sub_eq_zero.mp hzero)
  · exact Or.inr (sub_eq_zero.mp hzero)

/-- Texts that grew by filling places are equal part by part, or as many places were filled
on both sides. -/
theorem append_inj_or_eq {u u' t t' : List Char} {size i j k : Nat}
    (hu : u'.length + b.length * i = u.length + y.length * i)
    (ht' : t'.length + b.length * j = size + y.length * j)
    (ht : t.length + b.length * k = size + y.length * k)
    (heq : u' ++ (y ++ t') = u ++ (y ++ t)) : (u' = u ∧ t' = t) ∨ i + j = k := by
  have hlength := congrArg List.length heq
  simp only [List.length_append] at hlength
  have hmul : y.length * (i + j) + b.length * k = y.length * k + b.length * (i + j) := by
    rw [Nat.mul_add, Nat.mul_add]
    omega
  rcases eq_or_eq_of_mul_add_mul hmul with hsame | hcount
  · rw [hsame] at hu
    rcases List.append_inj heq (Nat.add_right_cancel hu) with ⟨hleft, hright⟩
    exact Or.inl ⟨hleft, List.append_cancel_left hright⟩
  · exact Or.inr hcount

/-- Filling the second kind of places behind any text, once the first kind is filled, makes
the text with both kinds filled at once if and only if there are no more places to fill than
there were to begin with, or filling them changes nothing. -/
theorem Filled.replace_eq_iff (h : Apart a b) (hs : Filled [(a, x), (b, y)] s t)
    (u : List Char) :
    replace b y (u ++ replace a x s) = u ++ t ↔
      y = b ∨ occurrences b (u ++ replace a x s) = occurrences b s := by
  -- The text in front takes up what has been passed since the last place of the second kind.
  induction hs using Filled.both_rec generalizing u with
  | nil =>
      have hself := (filled_replace h.right.ne_nil y u).eq_self_iff h.right
      rw [← occurrences_nil h.right] at hself
      simpa only [replace_nil, List.append_nil] using hself
  | first _ ih =>
      rw [replace_append_self h.left, occurrences_append_other h.symm, ← List.append_assoc,
        ← List.append_assoc]
      exact ih (u ++ x)
  | @second s t hrest ih =>
      have hu := filled_replace h.right.ne_nil y u
      have hfilled := filled_replace h.right.ne_nil y (replace a x s)
      have hbefore := hu.eq_self_iff h.right
      have hbehind := ih []
      have hle := occurrences_le_replace h x s
      rw [List.nil_append, List.nil_append] at hbehind
      rw [replace_append_other h, replace_append_place h.right,
        occurrences_append_place h.right h.right, occurrences_append_self h.right,
        occurrences_append_self h.right]
      constructor
      · intro heq
        rcases append_inj_or_eq (hu.length_eq h.right) (hfilled.length_eq h.right)
          (hrest.length_eq_replace h) heq with ⟨hleft, hright⟩ | hcount
        · rcases hbefore.mp hleft with hy | hnone
          · exact Or.inl hy
          · refine (hbehind.mp hright).imp_right ?_
            omega
        · exact Or.inr (by omega)
      · rintro (rfl | hcount)
        · rw [hbefore.mpr (Or.inl rfl), hbehind.mpr (Or.inl rfl)]
        · rw [hbefore.mpr (Or.inr (by omega)), hbehind.mpr (Or.inr (by omega))]
  | @char c s t hfirst hsecond _ ih =>
      rw [replace_cons_of_not hfirst, occurrences_cons_of_not hsecond,
        List.append_cons u c t, List.append_cons u c (replace a x s)]
      exact ih (u ++ [c])

end Sequence

/-!
# The robot and its maker
-/

theorem apart_places : Apart devicePlace manufacturerPlace where
  left := ⟨_, rfl, by decide⟩
  right := ⟨_, rfl, by decide⟩
  left_not_begins := by decide
  right_not_begins := by decide

def fillings (device manufacturer : String) : List (List Char × List Char) :=
  [(devicePlace, device.toList), (manufacturerPlace, manufacturer.toList)]

/-- The address is the pattern with every place in it filled, and nothing else changed. -/
def IsFilled (pattern device manufacturer address : String) : Prop :=
  Filled (fillings device manufacturer) pattern.toList address.toList

/-- With the robot filled in, there are places for the maker that the pattern does not have. -/
def BringsPlace (pattern device : String) : Prop :=
  ∃ s, Filled [(devicePlace, device.toList)] pattern.toList s ∧
    occurrences manufacturerPlace pattern.toList < occurrences manufacturerPlace s

theorem existsUnique_isFilled (pattern device manufacturer : String) :
    ∃! address, IsFilled pattern device manufacturer address := by
  have htable : IsTable (fillings device manufacturer) := apart_places.isTable _ _
  rcases Filled.exists_filled htable.isPlace pattern.toList with ⟨address, haddress⟩
  refine ⟨String.ofList address, ?_, ?_⟩
  · simpa only [IsFilled, String.toList_ofList] using haddress
  · intro other hother
    rw [← haddress.unique htable hother, String.ofList_toList]

theorem not_bringsPlace_iff (pattern device : String) :
    ¬ BringsPlace pattern device ↔
      occurrences manufacturerPlace (replace devicePlace device.toList pattern.toList) =
        occurrences manufacturerPlace pattern.toList := by
  have hreplace := filled_replace apart_places.left.ne_nil device.toList pattern.toList
  have hle := occurrences_le_replace apart_places device.toList pattern.toList
  constructor
  · intro hnone
    exact Nat.le_antisymm (Nat.le_of_not_lt (fun hlt => hnone ⟨_, hreplace, hlt⟩)) hle
  · rintro heq ⟨s, hs, hlt⟩
    rw [← hs.unique (isTable_single apart_places.left _) hreplace, heq] at hlt
    exact Nat.lt_irrefl _ hlt

theorem isFilled_fill_iff_occurrences (pattern device manufacturer : String) :
    IsFilled pattern device manufacturer (fill pattern device manufacturer) ↔
      manufacturer.toList = manufacturerPlace ∨
        occurrences manufacturerPlace (replace devicePlace device.toList pattern.toList) =
          occurrences manufacturerPlace pattern.toList := by
  have htable : IsTable (fillings device manufacturer) := apart_places.isTable _ _
  rcases Filled.exists_filled htable.isPlace pattern.toList with ⟨s, hs⟩
  have hiff := hs.replace_eq_iff apart_places []
  rw [List.nil_append, List.nil_append] at hiff
  rw [IsFilled, fill, String.toList_ofList, ← hiff]
  constructor
  · intro hfill
    exact hs.unique htable hfill
  · intro heq
    rw [heq]
    exact hs

/-- Names without a brace that opens are safe in a pattern whose braces all belong to places. -/
theorem isFilled_fill_of_not_mem {pattern device : String} (hdevice : '\x7b' ∉ device.toList)
    (hpattern : ∀ r ∈ pattern.toList.tails, r.head? = some '\x7b' →
      devicePlace <+: r ∨ manufacturerPlace <+: r) (manufacturer : String) :
    IsFilled pattern device manufacturer (fill pattern device manufacturer) :=
  (isFilled_fill_iff_occurrences pattern device manufacturer).mpr
    (Or.inr (occurrences_replace_of_not_mem apart_places hdevice hpattern))

example (manufacturer : String) :
    IsFilled Resolver.defaultHttpPattern "agv-01" manufacturer
      (fill Resolver.defaultHttpPattern "agv-01" manufacturer) :=
  isFilled_fill_of_not_mem (by decide) (by decide) manufacturer

/-- The address that is made from a pattern, for a request as for a socket, is the pattern with
the robot and its maker filled in at once, of which there is one, unless the robot brings a
place for its maker into the pattern.  That does not show only if the maker is called what the
place is. -/
theorem isFilled_fill_iff (pattern device manufacturer : String) :
    (∃! address, IsFilled pattern device manufacturer address) ∧
      (IsFilled pattern device manufacturer (fill pattern device manufacturer) ↔
        manufacturer.toList = manufacturerPlace ∨ ¬ BringsPlace pattern device) ∧
      ∀ (root other : String) (kind : Message.Kind),
        (Resolver.of root pattern other).resolve device manufacturer kind .http =
            trimSlashes (fill pattern device manufacturer) ++ "/" ++ kind.name ∧
          (Resolver.of root other pattern).resolve device manufacturer kind .stream =
            fill pattern device manufacturer := by
  refine ⟨existsUnique_isFilled pattern device manufacturer, ?_, ?_⟩
  · rw [isFilled_fill_iff_occurrences, not_bringsPlace_iff]
  · intro root other kind
    exact ⟨rfl, rfl⟩

/-- A place may also come about where the robot's name meets the pattern. -/
example : fill "http://\x7bmanu\x7bdeviceId\x7d\x7d/" "facturer" "acme" = "http://acme/" := by
  decide

/-- A robot whose name is the place for its maker. -/
theorem not_isFilled_namedAsPlace :
    IsFilled Resolver.defaultHttpPattern "\x7bmanufacturer\x7d" "acme"
        "http://\x7bmanufacturer\x7d:8080/vda5050" ∧
      Resolver.standard.resolve "\x7bmanufacturer\x7d" "acme" .order .http =
        "http://acme:8080/vda5050/order" ∧
      ¬ IsFilled Resolver.defaultHttpPattern "\x7bmanufacturer\x7d" "acme"
        (fill Resolver.defaultHttpPattern "\x7bmanufacturer\x7d" "acme") := by
  have htable : IsTable (fillings "\x7bmanufacturer\x7d" "acme") := apart_places.isTable _ _
  have hfilled : IsFilled Resolver.defaultHttpPattern "\x7bmanufacturer\x7d" "acme"
      "http://\x7bmanufacturer\x7d:8080/vda5050" := by
    have hbefore : '\x7b' ∉ "http://".toList := by decide
    have hbehind : '\x7b' ∉ ":8080/vda5050".toList := by decide
    have hcut : Resolver.defaultHttpPattern.toList =
        "http://".toList ++ (devicePlace ++ (":8080/vda5050".toList ++ [])) := by decide
    have haddress : "http://\x7bmanufacturer\x7d:8080/vda5050".toList =
        "http://".toList ++ ("\x7bmanufacturer\x7d".toList ++ (":8080/vda5050".toList ++ [])) := by
      decide
    rw [IsFilled, hcut, haddress]
    exact .append_of_not_mem htable.isPlace hbefore
      (.place List.mem_cons_self (.append_of_not_mem htable.isPlace hbehind .nil))
  refine ⟨hfilled, by decide, ?_⟩
  intro hfill
  exact absurd (hfill.unique htable hfilled) (by decide)

end Destination
end FleetBridge
