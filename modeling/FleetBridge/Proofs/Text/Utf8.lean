import FleetBridge.Text.Utf8

/-!
# Reading UTF-8 back

The bytes of a text are read as one piece for each of its characters, so its glyphs
are its characters.
-/

namespace FleetBridge
namespace Text

/-! # The bytes of one character -/

theorem leadWidth_eq (b : UInt8) :
    leadWidth b =
      if b.toNat < 0x80 then 1
      else if b.toNat < 0xC2 then 0
      else if b.toNat < 0xE0 then 2
      else if b.toNat < 0xF0 then 3
      else if b.toNat < 0xF5 then 4
      else 0 := by
  simp only [leadWidth, UInt8.lt_iff_toNat_lt, UInt8.reduceToNat]

theorem tailFits_iff (b : UInt8) : tailFits b = true ↔ 0x80 ≤ b.toNat ∧ b.toNat ≤ 0xBF := by
  simp only [tailFits, Bool.and_eq_true, decide_eq_true_eq, UInt8.le_iff_toNat_le,
    UInt8.reduceToNat]

theorem secondFits_of {lead next : UInt8} (hlow : 0x80 ≤ next.toNat) (hhigh : next.toNat ≤ 0xBF)
    (hE0 : lead.toNat = 0xE0 → 0xA0 ≤ next.toNat) (hED : lead.toNat = 0xED → next.toNat ≤ 0x9F)
    (hF0 : lead.toNat = 0xF0 → 0x90 ≤ next.toNat) (hF4 : lead.toNat = 0xF4 → next.toNat ≤ 0x8F) :
    secondFits lead next = true := by
  simp only [secondFits, beq_iff_eq, ← UInt8.toNat_inj, UInt8.reduceToNat]
  repeat' split
  all_goals
    simp only [Bool.and_eq_true, decide_eq_true_eq, UInt8.le_iff_toNat_le, UInt8.reduceToNat]
    omega

theorem toNat_ofNat {k : Nat} (h : k < 256) : (UInt8.ofNat k).toNat = k := by
  rw [UInt8.toNat_ofNat', Nat.mod_eq_of_lt h]

theorem tailFits_ofNat (k : Nat) : tailFits (UInt8.ofNat (k % 0x40 + 0x80)) = true := by
  rw [tailFits_iff, toNat_ofNat (by omega)]
  omega

theorem withTail_ofNat (high k : Nat) :
    withTail high (UInt8.ofNat (k % 0x40 + 0x80)) = high * 64 + k % 0x40 := by
  rw [withTail, toNat_ofNat (by omega)]
  omega

section Widths

variable {n : Nat} (rest : List UInt8)

theorem firstPiece_one (h : n ≤ 0x7f) :
    firstPiece (UInt8.ofNat n) rest = .scalar (Char.ofNat n) 1 := by
  have hlead : (UInt8.ofNat n).toNat = n := toNat_ofNat (by omega)
  have hwidth : leadWidth (UInt8.ofNat n) = 1 := by
    rw [leadWidth_eq, hlead, if_pos (by omega)]
  simp only [firstPiece, hwidth, hlead]

theorem firstPiece_two (hlow : 0x7f < n) (hhigh : n ≤ 0x7ff) :
    firstPiece (UInt8.ofNat (n / 64 % 0x20 + 0xc0)) (UInt8.ofNat (n % 0x40 + 0x80) :: rest) =
      .scalar (Char.ofNat n) 2 := by
  have hlead : (UInt8.ofNat (n / 64 % 0x20 + 0xc0)).toNat = n / 64 + 0xc0 := by
    rw [toNat_ofNat (by omega)]
    omega
  have hsecond : (UInt8.ofNat (n % 0x40 + 0x80)).toNat = n % 0x40 + 0x80 :=
    toNat_ofNat (by omega)
  have hwidth : leadWidth (UInt8.ofNat (n / 64 % 0x20 + 0xc0)) = 2 := by
    rw [leadWidth_eq, hlead, if_neg (by omega), if_neg (by omega), if_pos (by omega)]
  have hfits : secondFits (UInt8.ofNat (n / 64 % 0x20 + 0xc0))
      (UInt8.ofNat (n % 0x40 + 0x80)) = true := by
    apply secondFits_of <;> simp only [hlead, hsecond] <;> omega
  have hvalue : (n / 64 + 0xc0) % 32 * 64 + n % 0x40 = n := by omega
  simp only [firstPiece, hwidth, hfits, if_true, hlead, withTail_ofNat, hvalue]

theorem firstPiece_three (hlow : 0x7ff < n) (hhigh : n ≤ 0xffff)
    (hvalid : n < 0xD800 ∨ 0xDFFF < n) :
    firstPiece (UInt8.ofNat (n / 4096 % 0x10 + 0xe0))
        (UInt8.ofNat (n / 64 % 0x40 + 0x80) :: UInt8.ofNat (n % 0x40 + 0x80) :: rest) =
      .scalar (Char.ofNat n) 3 := by
  have hlead : (UInt8.ofNat (n / 4096 % 0x10 + 0xe0)).toNat = n / 4096 + 0xe0 := by
    rw [toNat_ofNat (by omega)]
    omega
  have hsecond : (UInt8.ofNat (n / 64 % 0x40 + 0x80)).toNat = n / 64 % 0x40 + 0x80 :=
    toNat_ofNat (by omega)
  have hwidth : leadWidth (UInt8.ofNat (n / 4096 % 0x10 + 0xe0)) = 3 := by
    rw [leadWidth_eq, hlead, if_neg (by omega), if_neg (by omega), if_neg (by omega),
      if_pos (by omega)]
  have hfits : secondFits (UInt8.ofNat (n / 4096 % 0x10 + 0xe0))
      (UInt8.ofNat (n / 64 % 0x40 + 0x80)) = true := by
    apply secondFits_of <;> simp only [hlead, hsecond] <;> omega
  have hvalue : ((n / 4096 + 0xe0) % 16 * 64 + n / 64 % 0x40) * 64 + n % 0x40 = n := by omega
  simp only [firstPiece, hwidth, hfits, tailFits_ofNat, if_true, hlead, withTail_ofNat, hvalue]

theorem firstPiece_four (hlow : 0xffff < n) (hhigh : n < 0x110000) :
    firstPiece (UInt8.ofNat (n / 262144 % 0x08 + 0xf0))
        (UInt8.ofNat (n / 4096 % 0x40 + 0x80) :: UInt8.ofNat (n / 64 % 0x40 + 0x80) ::
          UInt8.ofNat (n % 0x40 + 0x80) :: rest) =
      .scalar (Char.ofNat n) 4 := by
  have hlead : (UInt8.ofNat (n / 262144 % 0x08 + 0xf0)).toNat = n / 262144 + 0xf0 := by
    rw [toNat_ofNat (by omega)]
    omega
  have hsecond : (UInt8.ofNat (n / 4096 % 0x40 + 0x80)).toNat = n / 4096 % 0x40 + 0x80 :=
    toNat_ofNat (by omega)
  have hwidth : leadWidth (UInt8.ofNat (n / 262144 % 0x08 + 0xf0)) = 4 := by
    rw [leadWidth_eq, hlead, if_neg (by omega), if_neg (by omega), if_neg (by omega),
      if_neg (by omega), if_pos (by omega)]
  have hfits : secondFits (UInt8.ofNat (n / 262144 % 0x08 + 0xf0))
      (UInt8.ofNat (n / 4096 % 0x40 + 0x80)) = true := by
    apply secondFits_of <;> simp only [hlead, hsecond] <;> omega
  have hvalue : (((n / 262144 + 0xf0) % 8 * 64 + n / 4096 % 0x40) * 64 + n / 64 % 0x40) * 64 +
      n % 0x40 = n := by omega
  simp only [firstPiece, hwidth, hfits, tailFits_ofNat, if_true, hlead, withTail_ofNat, hvalue]

end Widths

/-- A character is one piece, whatever follows it. -/
theorem firstPiece_utf8EncodeChar (c : Char) :
    ∃ lead tail, String.utf8EncodeChar c = lead :: tail ∧
      ∀ rest, firstPiece lead (tail ++ rest) = .scalar c (tail.length + 1) := by
  have hvalid : c.toNat < 0xD800 ∨ 0xDFFF < c.toNat ∧ c.toNat < 0x110000 := c.valid
  have hback : Char.ofNat c.toNat = c := Char.ofNat_toNat c
  have hval : c.val.toNat = c.toNat := rfl
  simp only [String.utf8EncodeChar, hval]
  generalize c.toNat = n at hvalid hback
  rw [← hback]
  split
  case isTrue hone => exact ⟨_, [], rfl, fun rest => firstPiece_one rest hone⟩
  case isFalse hone =>
    split
    case isTrue htwo => exact ⟨_, [_], rfl, fun rest => firstPiece_two rest (by omega) htwo⟩
    case isFalse htwo =>
      split
      case isTrue hthree =>
        exact ⟨_, [_, _], rfl, fun rest => firstPiece_three rest (by omega) hthree (by omega)⟩
      case isFalse hthree =>
        exact ⟨_, [_, _, _], rfl, fun rest => firstPiece_four rest (by omega) (by omega)⟩

/-! # The bytes of a text -/

theorem glyphs_utf8EncodeChar_append (c : Char) (rest : List UInt8) :
    glyphs (String.utf8EncodeChar c ++ rest) = some c :: glyphs rest := by
  obtain ⟨lead, tail, hbytes, hpiece⟩ := firstPiece_utf8EncodeChar c
  have hwidth : (Piece.scalar c (tail.length + 1)).width - 1 = tail.length := rfl
  rw [hbytes, List.cons_append, glyphs, pieces_cons, hpiece, hwidth, List.drop_left,
    List.map_cons, glyphs]
  rfl

theorem glyphs_flatMap_utf8EncodeChar (cs : List Char) :
    glyphs (cs.flatMap String.utf8EncodeChar) = cs.map some := by
  induction cs with
  | nil => exact glyphs_nil
  | cons c cs ih => rw [List.flatMap_cons, glyphs_utf8EncodeChar_append, ih, List.map_cons]

theorem toList_loop (bytes : ByteArray) (i : Nat) (before : List UInt8) :
    ByteArray.toList.loop bytes i before = before.reverse ++ bytes.data.toList.drop i := by
  fun_induction ByteArray.toList.loop bytes i before with
  | case1 i before h ih =>
      have hi : i < bytes.data.toList.length := h
      rw [ih, List.drop_eq_getElem_cons hi, List.reverse_cons, List.append_assoc,
        List.singleton_append]
      simp [ByteArray.get!, h]
  | case2 i before h =>
      have hi : bytes.data.toList.length ≤ i := Nat.not_lt.mp h
      rw [List.drop_eq_nil_of_le hi, List.append_nil]

theorem toList_toUTF8 (s : String) :
    s.toUTF8.toList = s.toList.flatMap String.utf8EncodeChar := by
  have hbytes : s.toUTF8 = (s.toList.flatMap String.utf8EncodeChar).toByteArray :=
    String.utf8Encode_toList.symm
  rw [hbytes, ByteArray.toList, toList_loop, List.toList_data_toByteArray, List.reverse_nil,
    List.nil_append, List.drop_zero]

theorem glyphs_toUTF8 (s : String) : glyphs s.toUTF8.toList = s.toList.map some := by
  rw [toList_toUTF8, glyphs_flatMap_utf8EncodeChar]

end Text
end FleetBridge
