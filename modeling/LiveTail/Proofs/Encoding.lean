import LiveTail.Bytes.Utf8
import LiveTail.Bytes.Base64
/-!
# Octets and the texts they encode

`Utf8.valid` accepts exactly the octets that encode some text, and reading the encoding of a
character gives that character back. Base64 loses nothing: the padded encoding of any octets
decodes to them.
-/
namespace LiveTail
namespace Utf8

theorem getElem?_mk (l : List UInt8) (i : Nat) : (⟨l.toArray⟩ : ByteArray)[i]? = l[i]? := by
  by_cases h : i < l.length
  · rw [getElem?_pos (⟨l.toArray⟩ : ByteArray) i (by simpa [ByteArray.size] using h),
      List.getElem?_eq_getElem h]
    rfl
  · rw [getElem?_neg (⟨l.toArray⟩ : ByteArray) i (by simpa [ByteArray.size] using h),
      List.getElem?_eq_none (by omega)]

theorem tailIn_some (lo hi b : UInt8) :
    tailIn lo hi (some b) =
      if lo.toNat ≤ b.toNat ∧ b.toNat ≤ hi.toNat then some (b.toNat % 64) else none := by
  simp [tailIn, UInt8.le_iff_toNat_le]

theorem toNat_ofNat_of_valid {n : Nat} (h : n.isValidChar) : (Char.ofNat n).toNat = n := by
  rw [Char.ofNat, dif_pos h]
  rfl

/-- A character is the character of any number equal to its value. -/
theorem ofNat_eq_of_eq_toNat {c : Char} {n : Nat} (h : n = c.toNat) : Char.ofNat n = c := by
  rw [h, Char.ofNat_toNat]

theorem toNat_char_valid (c : Char) : c.toNat < 0xD800 ∨ (0xDFFF < c.toNat ∧ c.toNat < 0x110000) := by
  have hv := c.valid
  simp only [UInt32.isValidChar, Nat.isValidChar] at hv
  exact hv

/-! The encoding of a character, by the range of its value. -/

theorem encode_one {c : Char} (h : c.toNat < 0x80) :
    String.utf8EncodeChar c = [UInt8.ofNat c.toNat] := by
  unfold String.utf8EncodeChar
  simp only [Char.toNat_val]
  rw [if_pos (by omega)]

theorem encode_two {c : Char} (h1 : 0x80 ≤ c.toNat) (h2 : c.toNat < 0x800) :
    String.utf8EncodeChar c =
      [UInt8.ofNat (c.toNat / 64 % 32 + 192), UInt8.ofNat (c.toNat % 64 + 128)] := by
  unfold String.utf8EncodeChar
  simp only [Char.toNat_val]
  rw [if_neg (by omega), if_pos (by omega)]

theorem encode_three {c : Char} (h1 : 0x800 ≤ c.toNat) (h2 : c.toNat < 0x10000) :
    String.utf8EncodeChar c =
      [UInt8.ofNat (c.toNat / 4096 % 16 + 224), UInt8.ofNat (c.toNat / 64 % 64 + 128),
        UInt8.ofNat (c.toNat % 64 + 128)] := by
  unfold String.utf8EncodeChar
  simp only [Char.toNat_val]
  rw [if_neg (by omega), if_neg (by omega), if_pos (by omega)]

theorem encode_four {c : Char} (h : 0x10000 ≤ c.toNat) :
    String.utf8EncodeChar c =
      [UInt8.ofNat (c.toNat / 262144 % 8 + 240), UInt8.ofNat (c.toNat / 4096 % 64 + 128),
        UInt8.ofNat (c.toNat / 64 % 64 + 128), UInt8.ofNat (c.toNat % 64 + 128)] := by
  unfold String.utf8EncodeChar
  simp only [Char.toNat_val]
  rw [if_neg (by omega), if_neg (by omega), if_neg (by omega)]

theorem toNat_ofNat_byte {n : Nat} (h : n < 256) : (UInt8.ofNat n).toNat = n := by
  simp only [UInt8.toNat_ofNat']
  omega

/-- The encoding of a character reads back as that character. -/
theorem charAt?_encode (c : Char) (rest : List UInt8) :
    charAt? ⟨(String.utf8EncodeChar c ++ rest).toArray⟩ 0 =
      some (c, (String.utf8EncodeChar c).length - 1) := by
  have hc := Char.ofNat_toNat c
  have hv := toNat_char_valid c
  unfold charAt?
  by_cases h1 : c.toNat < 0x80
  · rw [encode_one h1]
    simp [getElem?_mk, toNat_ofNat_byte (show c.toNat < 256 by omega), h1, hc]
  by_cases h2 : c.toNat < 0x800
  · rw [encode_two (by omega) h2]
    simp only [List.cons_append, List.nil_append, getElem?_mk, List.getElem?_cons_zero,
      List.getElem?_cons_succ, tailIn_some, toNat_ofNat_byte (show c.toNat / 64 % 32 + 192 < 256 by omega),
      toNat_ofNat_byte (show c.toNat % 64 + 128 < 256 by omega)]
    rw [if_neg (by omega), if_pos (by omega), if_pos (by simp; omega)]
    simp only [Option.map_some, Option.some.injEq, Prod.mk.injEq, List.length_cons, List.length_nil]
    exact ⟨ofNat_eq_of_eq_toNat (by omega), trivial⟩
  by_cases h3 : c.toNat < 0x10000
  · rw [encode_three (by omega) h3]
    simp only [List.cons_append, List.nil_append, getElem?_mk, List.getElem?_cons_zero,
      List.getElem?_cons_succ, tailIn_some,
      toNat_ofNat_byte (show c.toNat / 4096 % 16 + 224 < 256 by omega),
      toNat_ofNat_byte (show c.toNat / 64 % 64 + 128 < 256 by omega),
      toNat_ofNat_byte (show c.toNat % 64 + 128 < 256 by omega)]
    rw [if_neg (by omega), if_neg (by omega), if_pos (by omega)]
    have hlo : (if c.toNat / 4096 % 16 + 224 = 224 then (160 : UInt8) else 128).toNat ≤
        c.toNat / 64 % 64 + 128 := by
      split
      · simp only [UInt8.reduceToNat]
        omega
      · simp
    have hhi : c.toNat / 64 % 64 + 128 ≤
        (if c.toNat / 4096 % 16 + 224 = 237 then (159 : UInt8) else 191).toNat := by
      split <;> simp <;> omega
    rw [if_pos ⟨hlo, hhi⟩, if_pos (by simp; omega)]
    simp only [Option.some.injEq, Prod.mk.injEq, List.length_cons, List.length_nil]
    exact ⟨ofNat_eq_of_eq_toNat (by omega), trivial⟩
  · rw [encode_four (by omega)]
    simp only [List.cons_append, List.nil_append, getElem?_mk, List.getElem?_cons_zero,
      List.getElem?_cons_succ, tailIn_some,
      toNat_ofNat_byte (show c.toNat / 262144 % 8 + 240 < 256 by omega),
      toNat_ofNat_byte (show c.toNat / 4096 % 64 + 128 < 256 by omega),
      toNat_ofNat_byte (show c.toNat / 64 % 64 + 128 < 256 by omega),
      toNat_ofNat_byte (show c.toNat % 64 + 128 < 256 by omega)]
    rw [if_neg (by omega), if_neg (by omega), if_neg (by omega), if_pos (by omega)]
    have hlo : (if c.toNat / 262144 % 8 + 240 = 240 then (144 : UInt8) else 128).toNat ≤
        c.toNat / 4096 % 64 + 128 := by
      split
      · simp only [UInt8.reduceToNat]
        omega
      · simp
    have hhi : c.toNat / 4096 % 64 + 128 ≤
        (if c.toNat / 262144 % 8 + 240 = 244 then (143 : UInt8) else 191).toNat := by
      split <;> simp <;> omega
    rw [if_pos ⟨hlo, hhi⟩, if_pos (by simp; omega), if_pos (by simp; omega)]
    simp only [Option.some.injEq, Prod.mk.injEq, List.length_cons, List.length_nil]
    exact ⟨ofNat_eq_of_eq_toNat (by omega), trivial⟩

/-! Each well-formed sequence is the encoding of the character it reads as. -/

theorem encode_of_bytes_one {b0 : UInt8} (h : b0.toNat < 128) :
    String.utf8EncodeChar (Char.ofNat b0.toNat) = [b0] := by
  have hv : (Char.ofNat b0.toNat).toNat = b0.toNat :=
    toNat_ofNat_of_valid (by simp only [Nat.isValidChar]; omega)
  rw [encode_one (by omega), hv, UInt8.ofNat_toNat]

theorem encode_of_bytes_two {b0 b1 : UInt8} (h0 : 194 ≤ b0.toNat ∧ b0.toNat ≤ 223)
    (h1 : 128 ≤ b1.toNat ∧ b1.toNat ≤ 191) :
    String.utf8EncodeChar (Char.ofNat (b0.toNat % 32 * 64 + b1.toNat % 64)) = [b0, b1] := by
  have hv : (Char.ofNat (b0.toNat % 32 * 64 + b1.toNat % 64)).toNat =
      b0.toNat % 32 * 64 + b1.toNat % 64 :=
    toNat_ofNat_of_valid (by simp only [Nat.isValidChar]; omega)
  rw [encode_two (by omega) (by omega), hv]
  simp only [List.cons.injEq, and_true, ← UInt8.toNat_inj, UInt8.toNat_ofNat']
  omega

theorem encode_of_bytes_three {b0 b1 b2 : UInt8} (h0 : 224 ≤ b0.toNat ∧ b0.toNat ≤ 239)
    (h1 : (if b0.toNat = 224 then (160 : UInt8) else 128).toNat ≤ b1.toNat ∧
      b1.toNat ≤ (if b0.toNat = 237 then (159 : UInt8) else 191).toNat)
    (h2 : 128 ≤ b2.toNat ∧ b2.toNat ≤ 191) :
    String.utf8EncodeChar (Char.ofNat (b0.toNat % 16 * 4096 + b1.toNat % 64 * 64 + b2.toNat % 64)) =
      [b0, b1, b2] := by
  have hb1 : 128 ≤ b1.toNat ∧ b1.toNat ≤ 191 ∧ (b0.toNat = 224 → 160 ≤ b1.toNat) ∧
      (b0.toNat = 237 → b1.toNat ≤ 159) := by
    by_cases h224 : b0.toNat = 224 <;> by_cases h237 : b0.toNat = 237 <;>
      simp [h224, h237] at h1 <;> omega
  have hv : (Char.ofNat (b0.toNat % 16 * 4096 + b1.toNat % 64 * 64 + b2.toNat % 64)).toNat =
      b0.toNat % 16 * 4096 + b1.toNat % 64 * 64 + b2.toNat % 64 :=
    toNat_ofNat_of_valid (by simp only [Nat.isValidChar]; omega)
  rw [encode_three (by omega) (by omega), hv]
  simp only [List.cons.injEq, and_true, ← UInt8.toNat_inj, UInt8.toNat_ofNat']
  omega

theorem encode_of_bytes_four {b0 b1 b2 b3 : UInt8} (h0 : 240 ≤ b0.toNat ∧ b0.toNat ≤ 244)
    (h1 : (if b0.toNat = 240 then (144 : UInt8) else 128).toNat ≤ b1.toNat ∧
      b1.toNat ≤ (if b0.toNat = 244 then (143 : UInt8) else 191).toNat)
    (h2 : 128 ≤ b2.toNat ∧ b2.toNat ≤ 191) (h3 : 128 ≤ b3.toNat ∧ b3.toNat ≤ 191) :
    String.utf8EncodeChar (Char.ofNat (b0.toNat % 8 * 262144 + b1.toNat % 64 * 4096 +
      b2.toNat % 64 * 64 + b3.toNat % 64)) = [b0, b1, b2, b3] := by
  have hb1 : 128 ≤ b1.toNat ∧ b1.toNat ≤ 191 ∧ (b0.toNat = 240 → 144 ≤ b1.toNat) ∧
      (b0.toNat = 244 → b1.toNat ≤ 143) := by
    by_cases h240 : b0.toNat = 240 <;> by_cases h244 : b0.toNat = 244 <;>
      simp [h240, h244] at h1 <;> omega
  have hv : (Char.ofNat (b0.toNat % 8 * 262144 + b1.toNat % 64 * 4096 + b2.toNat % 64 * 64 +
      b3.toNat % 64)).toNat = b0.toNat % 8 * 262144 + b1.toNat % 64 * 4096 +
        b2.toNat % 64 * 64 + b3.toNat % 64 :=
    toNat_ofNat_of_valid (by simp only [Nat.isValidChar]; omega)
  rw [encode_four (by omega), hv]
  simp only [List.cons.injEq, and_true, ← UInt8.toNat_inj, UInt8.toNat_ofNat']
  omega

/-- Every sequence `charAt?` reads is the encoding of the character it reads as. -/
theorem encode_of_charAt? {l : List UInt8} {c : Char} {k : Nat}
    (h : charAt? ⟨l.toArray⟩ 0 = some (c, k)) :
    ∃ rest, l = String.utf8EncodeChar c ++ rest ∧ k + 1 = (String.utf8EncodeChar c).length := by
  match l with
  | [] => simp [charAt?, getElem?_mk] at h
  | b0 :: l =>
    unfold charAt? at h
    simp only [getElem?_mk, List.getElem?_cons_zero, List.getElem?_cons_succ] at h
    by_cases h1 : b0.toNat < 128
    · rw [if_pos h1] at h
      obtain ⟨rfl, rfl⟩ := Prod.mk.inj (Option.some.inj h).symm
      exact ⟨l, by rw [encode_of_bytes_one h1]; rfl, by rw [encode_of_bytes_one h1]; rfl⟩
    rw [if_neg h1] at h
    by_cases h2 : 194 ≤ b0.toNat ∧ b0.toNat ≤ 223
    · rw [if_pos h2] at h
      match l with
      | [] => simp [tailIn] at h
      | b1 :: l =>
        simp only [List.getElem?_cons_zero, tailIn_some] at h
        by_cases hb1 : 128 ≤ b1.toNat ∧ b1.toNat ≤ 191
        · simp only [UInt8.reduceToNat, hb1, and_self, if_true, Option.map_some,
            Option.some.injEq, Prod.mk.injEq] at h
          obtain ⟨rfl, rfl⟩ := h
          rw [encode_of_bytes_two h2 hb1]
          exact ⟨l, rfl, rfl⟩
        · simp [hb1] at h
    rw [if_neg h2] at h
    by_cases h3 : 224 ≤ b0.toNat ∧ b0.toNat ≤ 239
    · rw [if_pos h3] at h
      match l with
      | b1 :: b2 :: l =>
        simp only [List.getElem?_cons_zero, List.getElem?_cons_succ, tailIn_some,
          UInt8.reduceToNat] at h
        by_cases hb1 : (if b0.toNat = 224 then (160 : UInt8) else 128).toNat ≤ b1.toNat ∧
            b1.toNat ≤ (if b0.toNat = 237 then (159 : UInt8) else 191).toNat
        · by_cases hb2 : 128 ≤ b2.toNat ∧ b2.toNat ≤ 191
          · rw [if_pos hb1, if_pos hb2] at h
            simp only [Option.some.injEq, Prod.mk.injEq] at h
            obtain ⟨rfl, rfl⟩ := h
            rw [encode_of_bytes_three h3 hb1 hb2]
            exact ⟨l, rfl, rfl⟩
          · rw [if_neg hb2] at h
            split at h <;> simp_all
        · rw [if_neg hb1] at h
          split at h <;> simp_all
      | [] => simp [tailIn] at h
      | [_] => simp [tailIn] at h
    rw [if_neg h3] at h
    by_cases h4 : 240 ≤ b0.toNat ∧ b0.toNat ≤ 244
    · rw [if_pos h4] at h
      match l with
      | b1 :: b2 :: b3 :: l =>
        simp only [List.getElem?_cons_zero, List.getElem?_cons_succ, tailIn_some,
          UInt8.reduceToNat] at h
        by_cases hb1 : (if b0.toNat = 240 then (144 : UInt8) else 128).toNat ≤ b1.toNat ∧
            b1.toNat ≤ (if b0.toNat = 244 then (143 : UInt8) else 191).toNat
        · by_cases hb2 : 128 ≤ b2.toNat ∧ b2.toNat ≤ 191
          · by_cases hb3 : 128 ≤ b3.toNat ∧ b3.toNat ≤ 191
            · rw [if_pos hb1, if_pos hb2, if_pos hb3] at h
              simp only [Option.some.injEq, Prod.mk.injEq] at h
              obtain ⟨rfl, rfl⟩ := h
              rw [encode_of_bytes_four h4 hb1 hb2 hb3]
              exact ⟨l, rfl, rfl⟩
            · rw [if_neg hb3] at h
              split at h <;> simp_all
          · rw [if_neg hb2] at h
            split at h <;> simp_all
        · rw [if_neg hb1] at h
          split at h <;> simp_all
      | [] => simp [tailIn] at h
      | [_] => simp [tailIn] at h
      | [_, _] => simp [tailIn] at h
    · rw [if_neg h4] at h
      cases h

theorem drop_data_eq_cons {b : ByteArray} {i : Nat} (h : i < b.size) :
    b.data.toList.drop i = b[i] :: b.data.toList.drop (i + 1) := by
  rw [List.drop_eq_getElem_cons (by simpa using h)]
  simp [ByteArray.getElem_eq_getElem_data]

theorem toList_loop (b : ByteArray) (i : Nat) (r : List UInt8) :
    ByteArray.toList.loop b i r = r.reverse ++ b.data.toList.drop i := by
  fun_induction ByteArray.toList.loop b i r with
  | case1 i r hi ih =>
    have hget : b.get! i = b[i] := by
      obtain ⟨a⟩ := b
      exact getElem!_pos a i hi
    rw [ih, drop_data_eq_cons hi, List.reverse_cons, List.append_assoc, List.singleton_append,
      hget]
  | case2 i r hi =>
    rw [List.drop_eq_nil_of_le (by simpa using hi), List.append_nil]

/-- The octets of a byte string, as characters, in order. -/
theorem octetChars_eq (b : ByteArray) :
    octetChars b = b.data.toList.map fun o => Char.ofNat o.toNat := by
  rw [octetChars, ByteArray.toList, toList_loop, List.reverse_nil, List.nil_append, List.drop_zero]

theorem getElem?_data (b : ByteArray) (i : Nat) : b[i]? = b.data.toList[i]? := by
  obtain ⟨a⟩ := b
  rw [← getElem?_mk, Array.toArray_toList]

/-- What `charAt?` reads at `i` depends only on the octets from `i` on. -/
theorem charAt?_drop (b : ByteArray) (i : Nat) :
    charAt? b i = charAt? ⟨(b.data.toList.drop i).toArray⟩ 0 := by
  simp only [charAt?, getElem?_data, List.getElem?_drop, Nat.add_zero]

/-- Octets that are from `i` on the encoding of characters read there as the first of
them. -/
theorem charAt?_of_drop {b : ByteArray} {i : Nat} {d : Char} {ds : List Char}
    (h : b.data.toList.drop i = (d :: ds).flatMap String.utf8EncodeChar) :
    charAt? b i = some (d, (String.utf8EncodeChar d).length - 1) := by
  rw [charAt?_drop, h, List.flatMap_cons, charAt?_encode]

/-- Below the end, octets that are the encoding of characters are the encoding of at least
one. -/
theorem exists_cons_of_drop {b : ByteArray} {i : Nat} {cs : List Char} (hi : i < b.size)
    (h : b.data.toList.drop i = cs.flatMap String.utf8EncodeChar) :
    ∃ d ds, cs = d :: ds := by
  cases cs with
  | nil =>
    have : b.data.toList.length ≤ i := List.drop_eq_nil_iff.mp (by simpa using h)
    rw [Array.length_toList, ByteArray.size_data] at this
    omega
  | cons d ds => exact ⟨d, ds, rfl⟩

/-- Octets are well-formed from `i` on exactly when they are there the encoding of some
characters. -/
theorem validFrom_iff (b : ByteArray) (i : Nat) :
    validFrom b i = true ↔ ∃ cs : List Char, b.data.toList.drop i = cs.flatMap String.utf8EncodeChar := by
  fun_induction validFrom b i with
  | case1 i hi c k hc ih =>
    -- a well-formed sequence, then the rest
    rw [ih]
    have hc' := hc
    rw [charAt?_drop] at hc'
    obtain ⟨rest, hrest, hk⟩ := encode_of_charAt? hc'
    have hdrop : b.data.toList.drop (i + k + 1) = rest := by
      rw [show i + k + 1 = i + (String.utf8EncodeChar c).length by omega, ← List.drop_drop,
        hrest, List.drop_left]
    rw [hdrop]
    constructor
    · rintro ⟨cs, hcs⟩
      exact ⟨c :: cs, by rw [hrest, hcs, List.flatMap_cons]⟩
    · rintro ⟨cs, hcs⟩
      obtain ⟨d, ds, rfl⟩ := exists_cons_of_drop hi hcs
      have hd := charAt?_of_drop hcs
      rw [hc] at hd
      obtain ⟨rfl, -⟩ := Prod.mk.inj (Option.some.inj hd)
      rw [hrest, List.flatMap_cons] at hcs
      exact ⟨ds, List.append_cancel_left hcs⟩
  | case2 i hi hc =>
    -- octets that start no well-formed sequence
    simp only [Bool.false_eq_true, false_iff, not_exists]
    intro cs hcs
    obtain ⟨d, ds, rfl⟩ := exists_cons_of_drop hi hcs
    rw [charAt?_of_drop hcs] at hc
    cases hc
  | case3 i hi =>
    simp only [true_iff]
    refine ⟨[], ?_⟩
    rw [List.flatMap_nil, List.drop_eq_nil_iff, Array.length_toList, ByteArray.size_data]
    omega

/-- The octets `valid` accepts are exactly the encodings of texts. -/
theorem valid_iff (b : ByteArray) : valid b = true ↔ b.IsValidUTF8 := by
  rw [valid, validFrom_iff, List.drop_zero]
  constructor
  · rintro ⟨cs, hcs⟩
    refine ⟨cs, ?_⟩
    rw [List.utf8Encode]
    apply ByteArray.ext
    rw [List.data_toByteArray, ← hcs, Array.toArray_toList]
  · rintro ⟨cs, rfl⟩
    exact ⟨cs, by simp [List.utf8Encode]⟩

/-! The octets of texts as the JSON reader sees them: each octet a character. -/

/-- The octets of a character's encoding, each as a character. -/
def charOctets (c : Char) : List Char :=
  (String.utf8EncodeChar c).map fun o => Char.ofNat o.toNat

/-- The octets of a text are the encodings of its characters. -/
theorem data_toUTF8 (s : String) :
    s.toUTF8.data.toList = s.toList.flatMap String.utf8EncodeChar := by
  rw [String.toUTF8_eq_toByteArray, ← String.ofList_toList (s := s), String.toByteArray_ofList,
    String.toList_ofList, List.utf8Encode, List.toList_data_toByteArray]

theorem octetChars_toUTF8 (s : String) :
    octetChars s.toUTF8 = s.toList.flatMap charOctets := by
  rw [octetChars_eq, data_toUTF8, List.map_flatMap]
  rfl

theorem octetChars_append (s t : String) :
    octetChars (s ++ t).toUTF8 = octetChars s.toUTF8 ++ octetChars t.toUTF8 := by
  rw [octetChars_toUTF8, octetChars_toUTF8, octetChars_toUTF8, String.toList_append,
    List.flatMap_append]

theorem charOctets_ascii {c : Char} (h : c.toNat < 128) : charOctets c = [c] := by
  rw [charOctets, encode_one h, List.map_singleton, toNat_ofNat_byte (by omega),
    Char.ofNat_toNat]

theorem flatMap_charOctets_ascii : ∀ (l : List Char), (∀ c ∈ l, c.toNat < 128) →
    l.flatMap charOctets = l
  | [], _ => rfl
  | c :: cs, h => by
    rw [List.flatMap_cons, charOctets_ascii (h c List.mem_cons_self),
      flatMap_charOctets_ascii cs (fun d hd => h d (List.mem_cons_of_mem c hd))]
    rfl

/-- An ASCII text is its own octets. -/
theorem octetChars_ascii {s : String} (h : ∀ c ∈ s.toList, c.toNat < 128) :
    octetChars s.toUTF8 = s.toList := by
  rw [octetChars_toUTF8, flatMap_charOctets_ascii _ h]

theorem length_charOctets (c : Char) : (charOctets c).length = (String.utf8EncodeChar c).length :=
  List.length_map _

theorem ofOctetChars_charOctets (c : Char) (rest : List Char) :
    ofOctetChars (charOctets c ++ rest) =
      ⟨(String.utf8EncodeChar c ++ rest.map fun d => d.toNat.toUInt8).toArray⟩ := by
  have hback : ∀ o : UInt8, (Char.ofNat o.toNat).toNat.toUInt8 = o := fun o => by
    rw [toNat_ofNat_of_valid (by simp only [Nat.isValidChar]; have := o.toNat_lt; omega)]
    exact UInt8.ofNat_toNat
  simp only [ofOctetChars, charOctets, List.map_append, List.map_map, Function.comp_def, hback,
    List.map_id']

/-- The octets of a character's encoding read back as it, whatever follows them. -/
theorem frontChar?_charOctets (c : Char) (rest : List Char) :
    frontChar? (charOctets c ++ rest) = some (c, (String.utf8EncodeChar c).length - 1) := by
  have hlen : (charOctets c).length ≤ 4 := by
    rw [length_charOctets, String.length_utf8EncodeChar]
    exact Char.utf8Size_le_four c
  rw [frontChar?, List.take_append, List.take_of_length_le hlen, ofOctetChars_charOctets,
    charAt?_encode]

theorem octetChars_ne_nil {t : String} (h : t ≠ "") : Utf8.octetChars t.toUTF8 ≠ [] := by
  rw [octetChars_toUTF8, Ne, List.flatMap_eq_nil_iff]
  intro hall
  obtain ⟨c, cs, hcs⟩ := List.exists_cons_of_ne_nil (mt String.toList_eq_nil_iff.mp h)
  have := hall c (by rw [hcs]; exact List.mem_cons_self)
  rw [charOctets, List.map_eq_nil_iff] at this
  exact String.utf8EncodeChar_ne_nil this

theorem charOctets_cons (c : Char) :
    ∃ c0 tl, charOctets c = c0 :: tl ∧ (c0 = c ∨ 192 ≤ c0.toNat) := by
  by_cases h1 : c.toNat < 128
  · exact ⟨c, [], charOctets_ascii h1, .inl rfl⟩
  obtain ⟨b0, bs, hb, h0⟩ : ∃ b0 bs, String.utf8EncodeChar c = b0 :: bs ∧ 192 ≤ b0.toNat := by
    by_cases h2 : c.toNat < 0x800
    · exact ⟨_, _, encode_two (by omega) h2, by rw [toNat_ofNat_byte (by omega)]; omega⟩
    by_cases h3 : c.toNat < 0x10000
    · exact ⟨_, _, encode_three (by omega) h3,
        by rw [toNat_ofNat_byte (by omega)]; omega⟩
    · exact ⟨_, _, encode_four (by omega), by rw [toNat_ofNat_byte (by omega)]; omega⟩
  refine ⟨Char.ofNat b0.toNat, _, by rw [charOctets, hb, List.map_cons], .inr ?_⟩
  rw [toNat_ofNat_of_valid (by simp only [Nat.isValidChar]; have := b0.toNat_lt; omega)]
  exact h0

theorem valid_toUTF8 (s : String) : valid s.toUTF8 = true :=
  (valid_iff _).mpr s.isValidUTF8

end Utf8

namespace Base64

set_option maxRecDepth 8000 in
theorem value?_digit (v : Nat) : value? (digit v) = some (v % 64) := by
  have h : ∀ n < 64, value? (alphabet.getD n 'A') = some n := by decide
  exact h (v % 64) (Nat.mod_lt _ (by omega))

set_option maxRecDepth 8000 in
theorem digit_ne_pad (v : Nat) : digit v ≠ '=' := by
  have h : ∀ n < 64, alphabet.getD n 'A' ≠ '=' := by decide
  exact h (v % 64) (Nat.mod_lt _ (by omega))

theorem encodeFrom_append (b : ByteArray) (i : Nat) (s t : String) :
    encodeFrom b i (s ++ t) = s ++ encodeFrom b i t := by
  fun_induction encodeFrom b i t generalizing s with
  | case1 i t hi x y z w t₁ t₂ t₃ ih =>
    rw [encodeFrom, if_pos hi, ← ih s]
    dsimp only
    congr 1
    simp only [t₃, t₂, t₁, w, x, y, z, String.push_eq_append, String.append_assoc, dite_eq_ite]
  | case2 i t hi =>
    rw [encodeFrom, if_neg hi]

theorem toList_data_push (a : ByteArray) (x : UInt8) :
    (a.push x).data.toList = a.data.toList ++ [x] := by
  rw [ByteArray.data_push, Array.toList_push]

theorem toUInt8_byte (x : UInt8) : (x.toNat).toUInt8 = x := UInt8.ofNat_toNat

/-- Four six-bit digits put back together. -/
theorem regroup (w : Nat) (h : w < 16777216) :
    ((w / 262144 % 64 * 64 + w / 4096 % 64) * 64 + w / 64 % 64) * 64 + w % 64 = w := by
  omega

/-- The four digits of a whole group of three octets read back as the three. -/
theorem decodeDigits_three {x y z : UInt8} {w : Nat}
    (hw : w = x.toNat * 65536 + y.toNat * 256 + z.toNat) (rest : List Char) (acc : ByteArray) :
    decodeDigits (digit (w / 262144) :: digit (w / 4096) :: digit (w / 64) :: digit w :: rest) acc =
      decodeDigits rest (((acc.push x).push y).push z) := by
  rw [decodeDigits.eq_4 _ _ _ _ _ _ (fun h => absurd h (digit_ne_pad _))
    (fun h => absurd h (digit_ne_pad _))]
  simp only [value?_digit, Option.bind_eq_bind, Option.bind_some]
  have := x.toNat_lt
  have := y.toNat_lt
  have := z.toNat_lt
  rw [regroup _ (by omega), show w / 65536 = x.toNat by omega,
    show w / 256 % 256 = y.toNat by omega, show w % 256 = z.toNat by omega,
    toUInt8_byte, toUInt8_byte, toUInt8_byte]

/-- Two octets left: three digits and one pad read back as the two. -/
theorem decodeDigits_two {x y : UInt8} {w : Nat} (hw : w = x.toNat * 65536 + y.toNat * 256)
    (acc : ByteArray) :
    decodeDigits [digit (w / 262144), digit (w / 4096), digit (w / 64), '='] acc =
      some ((acc.push x).push y) := by
  rw [decodeDigits.eq_3 _ _ _ _ (fun h => absurd h (digit_ne_pad _))]
  simp only [value?_digit, Option.bind_eq_bind, Option.bind_some]
  have := x.toNat_lt
  have := y.toNat_lt
  have hgroup : (w / 262144 % 64 * 64 + w / 4096 % 64) * 64 + w / 64 % 64 =
      x.toNat * 1024 + y.toNat * 4 := by omega
  rw [hgroup, if_pos (by omega), show (x.toNat * 1024 + y.toNat * 4) / 1024 = x.toNat by omega,
    show (x.toNat * 1024 + y.toNat * 4) / 4 % 256 = y.toNat by omega, toUInt8_byte, toUInt8_byte]

/-- One octet left: two digits and two pads read back as the one. -/
theorem decodeDigits_one {x : UInt8} {w : Nat} (hw : w = x.toNat * 65536) (acc : ByteArray) :
    decodeDigits [digit (w / 262144), digit (w / 4096), '=', '='] acc = some (acc.push x) := by
  rw [decodeDigits.eq_2]
  simp only [value?_digit, Option.bind_eq_bind, Option.bind_some]
  have := x.toNat_lt
  rw [if_pos (by omega), show (w / 262144 % 64 * 64 + w / 4096 % 64) / 16 = x.toNat by omega,
    toUInt8_byte]

/-- Decoding what `encodeFrom` writes from `i` on appends the octets from `i` on. -/
theorem decodeDigits_encodeFrom (b : ByteArray) (i : Nat) (acc : ByteArray) :
    ∃ r, decodeDigits (encodeFrom b i "").toList acc = some r ∧
      r.data.toList = acc.data.toList ++ b.data.toList.drop i := by
  by_cases hi : i < b.size
  · rw [encodeFrom, if_pos hi]
    dsimp only
    rw [← String.append_empty (s := String.push _ _), encodeFrom_append]
    simp only [String.toList_append, String.toList_push, String.toList_empty, List.nil_append,
      List.cons_append]
    have hx : b[i]? = some b[i] := getElem?_pos b i hi
    have hdrop := Utf8.drop_data_eq_cons hi
    by_cases h1 : i + 1 < b.size
    · have hy : b[i + 1]? = some b[i + 1] := getElem?_pos b (i + 1) h1
      by_cases h2 : i + 2 < b.size
      · -- a whole group of three octets
        have hz : b[i + 2]? = some b[i + 2] := getElem?_pos b (i + 2) h2
        rw [if_pos h1, if_pos h2, hx, hy, hz]
        simp only [Option.getD_some]
        rw [decodeDigits_three rfl]
        obtain ⟨r, hr, hdata⟩ := decodeDigits_encodeFrom b (i + 3)
          (((acc.push b[i]).push b[i + 1]).push b[i + 2])
        refine ⟨r, hr, ?_⟩
        rw [hdata, toList_data_push, toList_data_push, toList_data_push, hdrop,
          Utf8.drop_data_eq_cons h1, Utf8.drop_data_eq_cons h2]
        simp
      · -- two octets left: one pad
        have hz : b[i + 2]? = none := getElem?_neg b (i + 2) h2
        have hend : encodeFrom b (i + 3) "" = "" := by rw [encodeFrom, if_neg (by omega)]
        rw [if_pos h1, if_neg h2, hx, hy, hz, hend]
        simp only [Option.getD_some, Option.getD_none, UInt8.reduceToNat, Nat.add_zero,
          String.toList_empty]
        refine ⟨_, decodeDigits_two rfl acc, ?_⟩
        rw [toList_data_push, toList_data_push, hdrop, Utf8.drop_data_eq_cons h1,
          List.drop_eq_nil_of_le (by simp; omega)]
        simp
    · -- one octet left: two pads
      have hy : b[i + 1]? = none := getElem?_neg b (i + 1) h1
      have hz : b[i + 2]? = none := getElem?_neg b (i + 2) (by omega)
      have hend : encodeFrom b (i + 3) "" = "" := by rw [encodeFrom, if_neg (by omega)]
      rw [if_neg h1, if_neg (by omega), hx, hy, hz, hend]
      simp only [Option.getD_some, Option.getD_none, UInt8.reduceToNat, Nat.add_zero,
        String.toList_empty, Nat.zero_mul]
      refine ⟨_, decodeDigits_one rfl acc, ?_⟩
      rw [toList_data_push, hdrop, List.drop_eq_nil_of_le (by simp; omega)]
  · rw [encodeFrom, if_neg hi]
    refine ⟨acc, rfl, ?_⟩
    rw [List.drop_eq_nil_of_le (by simp; omega), List.append_nil]
termination_by b.size - i

/-- Base64 loses nothing: the padded encoding of any octets decodes to them. -/
theorem decode?_encode (b : ByteArray) : decode? (encode b) = some b := by
  obtain ⟨r, hr, hdata⟩ := decodeDigits_encodeFrom b 0 ByteArray.empty
  rw [decode?, encode, hr]
  congr 1
  apply ByteArray.ext
  apply Array.toList_inj.mp
  rw [hdata]
  simp

end Base64

end LiveTail
