/-
  Texts in UTF-8.

  A byte below 128 is a character by itself and no part of any other
  (`toNat_eq_of_mem_utf8EncodeChar`), so where such a byte stands, such a character stands.  Bytes are
  read as the text that they encode, if they encode one (`fromUTF8?_eq_some_iff`).
-/
namespace DebugDesk.Text

/-- The bytes of a text in UTF-8. -/
def utf8 (text : List Char) : List UInt8 := text.flatMap String.utf8EncodeChar

theorem utf8_append (text more : List Char) : utf8 (text ++ more) = utf8 text ++ utf8 more :=
  List.flatMap_append

theorem utf8_eq_nil_iff {text : List Char} : utf8 text = [] ↔ text = [] := by
  cases text with
  | nil => exact iff_of_true rfl rfl
  | cons c text =>
    refine iff_of_false (fun h => ?_) (List.cons_ne_nil c text)
    exact String.utf8EncodeChar_ne_nil (List.append_eq_nil_iff.mp h).1

/-- **A byte below 128 stands for the character of its code** and for no part of another. -/
theorem toNat_eq_of_mem_utf8EncodeChar {c : Char} {byte : UInt8}
    (h : byte ∈ String.utf8EncodeChar c) (ascii : byte.toNat < 128) : c.toNat = byte.toNat := by
  -- the bytes of a longer code are all made in this way
  have hlonger {n : Nat} (hlow : 128 ≤ n) (hhigh : n < 256) : byte ≠ UInt8.ofNat n := by
    rintro rfl
    change n % 256 < 128 at ascii
    omega
  unfold String.utf8EncodeChar at h
  dsimp only at h
  split at h
  · obtain rfl := List.mem_singleton.mp h
    show c.val.toNat = c.val.toNat % 256
    omega
  · exfalso
    split at h
    · simp only [List.mem_cons, List.not_mem_nil, or_false] at h
      rcases h with h | h <;> exact hlonger (by omega) (by omega) h
    · split at h
      · simp only [List.mem_cons, List.not_mem_nil, or_false] at h
        rcases h with h | h | h <;> exact hlonger (by omega) (by omega) h
      · simp only [List.mem_cons, List.not_mem_nil, or_false] at h
        rcases h with h | h | h | h <;> exact hlonger (by omega) (by omega) h

/-- The text of one line is not cut. -/
theorem feed_notMem_utf8 {text : List Char} (h : '\n' ∉ text) : 0x0A ∉ utf8 text := by
  intro hmem
  obtain ⟨c, hc, hbyte⟩ := List.mem_flatMap.mp hmem
  have hcode : c.toNat = '\n'.toNat := toNat_eq_of_mem_utf8EncodeChar hbyte (by decide)
  exact h (Char.toNat_inj.mp hcode ▸ hc)

/-- A text whose bytes end with a carriage return ends with a carriage return. -/
theorem eq_append_of_utf8_eq_append {text : List Char} {line : List UInt8}
    (h : utf8 text = line ++ [0x0D]) : ∃ front, text = front ++ ['\r'] ∧ utf8 front = line := by
  rcases List.eq_nil_or_concat text with rfl | ⟨front, c, rfl⟩
  · exact absurd h.symm (by simp [utf8])
  rw [List.concat_eq_append] at h ⊢
  have hcode : utf8 [c] ≠ [] := fun hnil => List.cons_ne_nil c [] (utf8_eq_nil_iff.mp hnil)
  have hlast := List.dropLast_concat_getLast hcode
  rw [utf8_append, ← hlast, ← List.append_assoc] at h
  obtain ⟨hfront, hbyte⟩ := List.append_inj' h rfl
  -- the last byte is below 128
  have hmem : 0x0D ∈ String.utf8EncodeChar c := by
    have hmem : (utf8 [c]).getLast hcode ∈ utf8 [c] := List.getLast_mem hcode
    rw [List.singleton_inj.mp hbyte] at hmem
    rwa [utf8, List.flatMap_singleton] at hmem
  have hreturn : c.toNat = '\r'.toNat := toNat_eq_of_mem_utf8EncodeChar hmem (by decide)
  obtain rfl := Char.toNat_inj.mp hreturn
  refine ⟨front, rfl, ?_⟩
  rw [← hfront]
  exact (List.append_nil _).symm

/-! ## Reading bytes -/

theorem toUTF8_eq (text : String) : text.toUTF8 = ⟨(utf8 text.toList).toArray⟩ := by
  have hbytes : text.toByteArray.data.toList = utf8 text.toList := by
    rw [← String.utf8Encode_toList]
    exact List.toList_data_toByteArray
  rw [← hbytes]
  rfl

/-- **Bytes are read as the text that they encode.** -/
theorem fromUTF8?_eq_some_iff {bytes : ByteArray} {text : String} :
    String.fromUTF8? bytes = some text ↔ bytes = text.toUTF8 := by
  rw [String.fromUTF8?]
  constructor
  · intro h
    split at h
    · obtain rfl := Option.some.inj h
      rfl
    · nomatch h
  · rintro rfl
    exact dif_pos text.isValidUTF8

end DebugDesk.Text
