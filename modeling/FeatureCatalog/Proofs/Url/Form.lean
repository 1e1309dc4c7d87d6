import FeatureCatalog.Proofs.Text.Utf8
import FeatureCatalog.Url.FormEncoded
import Mathlib.Data.Fintype.Basic

/-! Pairs that have been written as a query are read back. Reading comes in two parts: the query is
cut where `&` and `=` stand, which occur in no text that has been written, and the bytes of each
text are restored. -/

namespace FeatureCatalog

namespace Text

theorem cut_append {stop : Char} {before : List Char} (h : stop ∉ before) (after : List Char) :
    cut stop (before ++ stop :: after) = (before, after) := by
  induction before with
  | nil => simp [cut]
  | cons c rest ih =>
    obtain ⟨hc, hrest⟩ := not_or.1 (mt List.mem_cons.2 h)
    rw [List.cons_append, cut, if_neg (Ne.symm hc), ih hrest]

theorem pieces_append {stop : Char} {piece : List Char} (h : stop ∉ piece) (rest : List Char) :
    pieces stop (piece ++ stop :: rest) = piece :: pieces stop rest := by
  induction piece with
  | nil => simp [pieces]
  | cons c more ih =>
    obtain ⟨hc, hmore⟩ := not_or.1 (mt List.mem_cons.2 h)
    rw [List.cons_append, pieces, if_neg (Ne.symm hc), ih hmore]

theorem pieces_of_not_mem {stop : Char} {piece : List Char} (h : stop ∉ piece) :
    pieces stop piece = [piece] := by
  induction piece with
  | nil => rfl
  | cons c more ih =>
    obtain ⟨hc, hmore⟩ := not_or.1 (mt List.mem_cons.2 h)
    rw [pieces, if_neg (Ne.symm hc), ih hmore]

/-- Pieces without `stop`, with `stop` between them, are found again. -/
theorem pieces_intercalate {stop : Char} {all : List (List Char)} (hne : all ≠ [])
    (h : ∀ piece ∈ all, stop ∉ piece) : pieces stop ([stop].intercalate all) = all := by
  induction all with
  | nil => exact absurd rfl hne
  | cons piece rest ih =>
    obtain ⟨hpiece, hrest⟩ := List.forall_mem_cons.1 h
    cases rest with
    | nil => simpa [List.intercalate] using pieces_of_not_mem hpiece
    | cons next more =>
      have hcons : [stop].intercalate (piece :: next :: more) =
          piece ++ stop :: [stop].intercalate (next :: more) := by
        simp [List.intercalate]
      rw [hcons, pieces_append hpiece, ih (by simp) hrest]

end Text

namespace Url

open Text

/-- The bytes of a query, with spaces for `+`. -/
def formBytes (cs : List Char) : List UInt8 :=
  (utf8 cs).map fun b => if b = 0x2B then 0x20 else b

theorem formBytes_append (a b : List Char) : formBytes (a ++ b) = formBytes a ++ formBytes b := by
  simp [formBytes, utf8]

/-- A byte other than `%` is no start of an escape. -/
theorem unescapeBytes_cons {a : UInt8} (h : a ≠ 0x25) (rest : List UInt8) :
    unescapeBytes (a :: rest) = a :: unescapeBytes rest := by
  match rest with
  | [] => rfl
  | [_] => rfl
  | b :: c :: rest => rw [unescapeBytes, if_neg h]

theorem formBytes_escapeByte : ∀ n : Fin 256, ∃ high low,
    formBytes (escapeByte (.ofNat n)) = [0x25, high, low] ∧
      byteOfHex? high low = some (.ofNat n) := by
  have h : ∀ n : Fin 256,
      formBytes (escapeByte (.ofNat n)) = [0x25, .ofNat (hexDigit (n / 16)).toNat,
        .ofNat (hexDigit (n % 16)).toNat] ∧
      byteOfHex? (.ofNat (hexDigit (n / 16)).toNat) (.ofNat (hexDigit (n % 16)).toNat) =
        some (.ofNat n) := by
    decide +kernel
  exact fun n => ⟨_, _, (h n).1, (h n).2⟩

theorem unescapeBytes_escapeByte (b : UInt8) (rest : List UInt8) :
    unescapeBytes (formBytes (escapeByte b) ++ rest) = b :: unescapeBytes rest := by
  obtain ⟨high, low, hbytes, hbyte⟩ := formBytes_escapeByte ⟨b.toNat, b.toNat_lt⟩
  rw [UInt8.ofNat_toNat] at hbytes hbyte
  rw [hbytes, List.cons_append, List.cons_append, List.singleton_append, unescapeBytes,
    if_pos rfl, hbyte]

theorem unescapeBytes_escapeBytes (bytes rest : List UInt8) :
    unescapeBytes (formBytes (bytes.flatMap escapeByte) ++ rest) =
      bytes ++ unescapeBytes rest := by
  induction bytes with
  | nil => rfl
  | cons b more ih =>
    rw [List.flatMap_cons, formBytes_append, List.append_assoc, unescapeBytes_escapeByte, ih]
    rfl

/-- A plain character is none of those with a meaning in a query. -/
theorem not_special_of_isPlain {c : Char} (h : isPlain c = true) :
    c.toNat < 0x80 ∧ c ≠ '+' ∧ c ≠ '%' ∧ c ≠ '&' ∧ c ≠ '=' := by
  have hlt : c.toNat < 0x80 := by
    change ((((((decide (65 ≤ c.val ∧ c.val ≤ 90) || (97 ≤ c.val && c.val ≤ 122)) ||
      (48 ≤ c.val && c.val ≤ 57)) || c == '*') || c == '-') || c == '.') || c == '_') = true at h
    simp only [Bool.or_eq_true, Bool.and_eq_true, decide_eq_true_eq, beq_iff_eq,
      UInt32.le_iff_toNat_le] at h
    change ((((((65 ≤ c.toNat ∧ c.toNat ≤ 90) ∨ (97 ≤ c.toNat ∧ c.toNat ≤ 122)) ∨
      (48 ≤ c.toNat ∧ c.toNat ≤ 57)) ∨ c = '*') ∨ c = '-') ∨ c = '.') ∨ c = '_' at h
    rcases h with (((h | rfl) | rfl) | rfl) | rfl
    · omega
    all_goals decide
  refine ⟨hlt, ?_, ?_, ?_, ?_⟩ <;> rintro rfl <;> revert h <;> decide

theorem utf8EncodeChar_of_lt {c : Char} (h : c.toNat < 0x80) :
    String.utf8EncodeChar c = [UInt8.ofNat c.toNat] := by
  have hle : c.val.toNat ≤ 0x7F := Nat.lt_succ_iff.1 h
  simp only [String.utf8EncodeChar, if_pos hle]
  rfl

/-- A character that has been written gives its own bytes back. -/
theorem unescapeBytes_formChar (c : Char) (rest : List UInt8) :
    unescapeBytes (formBytes (formChar c) ++ rest) =
      String.utf8EncodeChar c ++ unescapeBytes rest := by
  unfold formChar
  split
  · rename_i hspace
    subst hspace
    exact unescapeBytes_cons (by decide) rest
  · split
    · rename_i hplain
      obtain ⟨hlt, hplus, hpercent, -, -⟩ := not_special_of_isPlain hplain
      have hne : ∀ {d : Char}, d.toNat < 0x80 → c ≠ d →
          UInt8.ofNat c.toNat ≠ UInt8.ofNat d.toNat := by
        intro d hd hcd heq
        rw [eq_ofNat_iff (by omega) (by omega)] at heq
        exact hcd (by rw [← Char.ofNat_toNat c, heq, Char.ofNat_toNat])
      have hbytes : formBytes [c] = [UInt8.ofNat c.toNat] := by
        have hplus' : UInt8.ofNat c.toNat ≠ 0x2B := hne (d := '+') (by decide) hplus
        simp [formBytes, utf8, utf8EncodeChar_of_lt hlt, hplus']
      rw [hbytes, utf8EncodeChar_of_lt hlt, List.singleton_append,
        unescapeBytes_cons (hne (d := '%') (by decide) hpercent)]
      rfl
    · exact unescapeBytes_escapeBytes _ rest

theorem ofFormText_formText (cs : List Char) : ofFormText (formText cs) = cs := by
  have h : ∀ rest, unescapeBytes (formBytes (formText cs) ++ rest) =
      utf8 cs ++ unescapeBytes rest := by
    intro rest
    induction cs with
    | nil => rfl
    | cons c more ih =>
      rw [formText, List.flatMap_cons, formBytes_append, List.append_assoc,
        unescapeBytes_formChar, ← formText, ih, utf8, utf8, List.flatMap_cons,
        List.append_assoc]
  have hbytes := h []
  rw [List.append_nil] at hbytes
  change ofUtf8 (unescapeBytes (formBytes (formText cs))) = cs
  rw [hbytes, unescapeBytes, List.append_nil, ofUtf8_utf8]

/-- What has been written has none of the characters that queries are cut at. -/
theorem not_stop_of_mem_formText {cs : List Char} {d : Char} (h : d ∈ formText cs) :
    d ≠ '&' ∧ d ≠ '=' := by
  obtain ⟨c, -, hd⟩ := List.mem_flatMap.1 h
  unfold formChar at hd
  split at hd
  · rw [List.mem_singleton.1 hd]
    decide
  · split at hd
    · rename_i hplain
      obtain ⟨-, -, -, hamp, heq⟩ := not_special_of_isPlain hplain
      rw [List.mem_singleton.1 hd]
      exact ⟨hamp, heq⟩
    · obtain ⟨b, -, hb⟩ := List.mem_flatMap.1 hd
      have hdigit : ∀ n : Fin 16, hexDigit n ≠ '&' ∧ hexDigit n ≠ '=' := by decide
      have hlt := b.toNat_lt
      simp only [escapeByte, List.mem_cons, List.not_mem_nil, or_false] at hb
      rcases hb with rfl | rfl | rfl
      · decide
      · exact hdigit ⟨b.toNat / 16, by omega⟩
      · exact hdigit ⟨b.toNat % 16, by omega⟩

/-- Pairs that have been written as a query are read back. -/
theorem parseForm_printForm (pairs : List (String × String)) :
    parseForm (printForm pairs) = pairs := by
  cases pairs with
  | nil => rfl
  | cons first rest =>
    have hstop : ∀ piece ∈ (first :: rest).map fun p =>
        formText p.1.toList ++ '=' :: formText p.2.toList, piece ≠ [] ∧ '&' ∉ piece := by
      intro piece hpiece
      obtain ⟨p, -, rfl⟩ := List.mem_map.1 hpiece
      simp only [List.mem_append, List.mem_cons, not_or]
      exact ⟨by simp, fun h => (not_stop_of_mem_formText h).1 rfl, by decide,
        fun h => (not_stop_of_mem_formText h).1 rfl⟩
    unfold parseForm printForm
    rw [pieces_intercalate (by simp) fun piece h => (hstop piece h).2,
      List.filter_eq_self.2 fun piece h => by simpa using (hstop piece h).1, List.map_map]
    refine List.map_id'' (fun p => ?_) _
    have hcut : cut '=' (formText p.1.toList ++ '=' :: formText p.2.toList) =
        (formText p.1.toList, formText p.2.toList) :=
      cut_append (fun h => (not_stop_of_mem_formText h).2 rfl) _
    simp only [Function.comp_apply, hcut, ofFormText_formText, String.ofList_toList]

end Url

end FeatureCatalog
