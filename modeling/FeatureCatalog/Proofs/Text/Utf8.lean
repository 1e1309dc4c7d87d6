import FeatureCatalog.Text.Utf8

/-! Bytes that are UTF-8 are read as the characters that they were made of. -/

namespace FeatureCatalog.Text

theorem toNat_ofNat {n : Nat} (h : n < 256) : (UInt8.ofNat n).toNat = n := by
  rw [UInt8.toNat_ofNat']
  omega

theorem continuation?_ofNat {y : Nat} (h : y < 64) :
    continuation? (UInt8.ofNat (y + 0x80)) = some y := by
  unfold continuation?
  rw [toNat_ofNat (by omega), if_pos (by omega)]
  simp

theorem eq_ofNat_iff {n m : Nat} (hn : n < 256) (hm : m < 256) :
    UInt8.ofNat n = UInt8.ofNat m ↔ n = m := by
  rw [← UInt8.toNat_inj, toNat_ofNat hn, toNat_ofNat hm]

theorem secondBounds_ofNat {n : Nat} (h : n < 256) :
    secondBounds (UInt8.ofNat n) =
      if n = 0xE0 then (0xA0, 0xBF)
      else if n = 0xED then (0x80, 0x9F)
      else if n = 0xF0 then (0x90, 0xBF)
      else if n = 0xF4 then (0x80, 0x8F)
      else (0x80, 0xBF) := by
  have heq : ∀ m, m < 256 → (UInt8.ofNat n = UInt8.ofNat m) = (n = m) :=
    fun m hm => propext (eq_ofNat_iff h hm)
  have h0 : (UInt8.ofNat n = 0xE0) = (n = 0xE0) := heq 0xE0 (by omega)
  have h1 : (UInt8.ofNat n = 0xED) = (n = 0xED) := heq 0xED (by omega)
  have h2 : (UInt8.ofNat n = 0xF0) = (n = 0xF0) := heq 0xF0 (by omega)
  have h3 : (UInt8.ofNat n = 0xF4) = (n = 0xF4) := heq 0xF4 (by omega)
  unfold secondBounds
  simp only [h0, h1, h2, h3]

/-- A second byte that makes the character neither too small nor a surrogate may follow the first of
three. -/
theorem isSecond_three {x y : Nat} (hx : x < 16) (hy : y < 64) (hleast : x = 0 → 32 ≤ y)
    (hsurrogate : x = 13 → y < 32) :
    isSecond (UInt8.ofNat (x + 0xE0)) (UInt8.ofNat (y + 0x80)) = true := by
  simp only [isSecond, secondBounds_ofNat (show x + 0xE0 < 256 by omega),
    toNat_ofNat (show y + 0x80 < 256 by omega), Bool.and_eq_true, decide_eq_true_eq]
  repeat' split
  all_goals constructor <;> dsimp only <;> omega

/-- A second byte that makes the character neither too small nor too large may follow the first of
four. -/
theorem isSecond_four {x y : Nat} (hx : x < 5) (hy : y < 64) (hleast : x = 0 → 16 ≤ y)
    (hmost : x = 4 → y < 16) :
    isSecond (UInt8.ofNat (x + 0xF0)) (UInt8.ofNat (y + 0x80)) = true := by
  simp only [isSecond, secondBounds_ofNat (show x + 0xF0 < 256 by omega),
    toNat_ofNat (show y + 0x80 < 256 by omega), Bool.and_eq_true, decide_eq_true_eq]
  repeat' split
  all_goals constructor <;> dsimp only <;> omega

theorem ofUtf8_one {x : Nat} (hx : x < 0x80) (rest : List UInt8) :
    ofUtf8 (UInt8.ofNat x :: rest) = Char.ofNat x :: ofUtf8 rest := by
  rw [ofUtf8.eq_def]
  simp only [toNat_ofNat (show x < 256 by omega), if_pos hx]

theorem ofUtf8_two {x y : Nat} (hx : x < 32) (hleast : 2 ≤ x) (hy : y < 64)
    (rest : List UInt8) :
    ofUtf8 (UInt8.ofNat (x + 0xC0) :: UInt8.ofNat (y + 0x80) :: rest) =
      Char.ofNat (x * 64 + y) :: ofUtf8 rest := by
  rw [ofUtf8.eq_def]
  simp only [toNat_ofNat (show x + 0xC0 < 256 by omega), continuation?_ofNat hy]
  rw [if_neg (by omega), if_pos (by omega), Nat.add_sub_cancel]

theorem ofUtf8_three {x y z : Nat} (hx : x < 16) (hy : y < 64) (hz : z < 64)
    (hleast : x = 0 → 32 ≤ y) (hsurrogate : x = 13 → y < 32) (rest : List UInt8) :
    ofUtf8 (UInt8.ofNat (x + 0xE0) :: UInt8.ofNat (y + 0x80) :: UInt8.ofNat (z + 0x80) :: rest) =
      Char.ofNat (x * 4096 + y * 64 + z) :: ofUtf8 rest := by
  rw [ofUtf8.eq_def]
  simp only [toNat_ofNat (show x + 0xE0 < 256 by omega), toNat_ofNat (show y + 0x80 < 256 by omega),
    continuation?_ofNat hz, isSecond_three hx hy hleast hsurrogate, if_true]
  rw [if_neg (by omega), if_neg (by omega), if_pos (by omega), Nat.add_sub_cancel,
    Nat.add_sub_cancel]

theorem ofUtf8_four {w x y z : Nat} (hw : w < 5) (hx : x < 64) (hy : y < 64) (hz : z < 64)
    (hleast : w = 0 → 16 ≤ x) (hmost : w = 4 → x < 16) (rest : List UInt8) :
    ofUtf8 (UInt8.ofNat (w + 0xF0) :: UInt8.ofNat (x + 0x80) :: UInt8.ofNat (y + 0x80) ::
        UInt8.ofNat (z + 0x80) :: rest) =
      Char.ofNat (w * 262144 + x * 4096 + y * 64 + z) :: ofUtf8 rest := by
  rw [ofUtf8.eq_def]
  simp only [toNat_ofNat (show w + 0xF0 < 256 by omega), toNat_ofNat (show x + 0x80 < 256 by omega),
    continuation?_ofNat hy, continuation?_ofNat hz, isSecond_four hw hx hleast hmost, if_true]
  rw [if_neg (by omega), if_neg (by omega), if_neg (by omega), if_pos (by omega),
    Nat.add_sub_cancel, Nat.add_sub_cancel]

theorem ofUtf8_utf8EncodeChar (c : Char) (rest : List UInt8) :
    ofUtf8 (String.utf8EncodeChar c ++ rest) = c :: ofUtf8 rest := by
  have hvalid : c.val.toNat < 0xD800 ∨ 0xDFFF < c.val.toNat ∧ c.val.toNat < 0x110000 := c.valid
  have hchar : Char.ofNat c.val.toNat = c := Char.ofNat_toNat c
  simp only [String.utf8EncodeChar]
  generalize c.val.toNat = v at hvalid hchar ⊢
  split
  · rw [List.singleton_append, ofUtf8_one (by omega), hchar]
  · split
    · rw [List.cons_append, List.singleton_append, ofUtf8_two (by omega) (by omega) (by omega),
        show v / 64 % 32 * 64 + v % 64 = v by omega, hchar]
    · split
      · rw [List.cons_append, List.cons_append, List.singleton_append,
          ofUtf8_three (by omega) (by omega) (by omega) (by omega) (by omega),
          show v / 4096 % 16 * 4096 + v / 64 % 64 * 64 + v % 64 = v by omega, hchar]
      · rw [List.cons_append, List.cons_append, List.cons_append, List.singleton_append,
          ofUtf8_four (by omega) (by omega) (by omega) (by omega) (by omega) (by omega),
          show v / 262144 % 8 * 262144 + v / 4096 % 64 * 4096 + v / 64 % 64 * 64 + v % 64 = v by
            omega, hchar]

/-- The bytes of a text are read as that text. -/
theorem ofUtf8_utf8 (cs : List Char) : ofUtf8 (utf8 cs) = cs := by
  induction cs with
  | nil => rfl
  | cons c rest ih =>
    rw [utf8, List.flatMap_cons, ofUtf8_utf8EncodeChar]
    exact congrArg (c :: ·) ih

end FeatureCatalog.Text
