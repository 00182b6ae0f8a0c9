import Mathlib.Tactic.SplitIfs
import RouteAtlas.Text.Utf8

/-!
# Decoding what was encoded

Decoding the UTF-8 bytes of a text gives the text back (`decodeUtf8_toUTF8`). The bytes of one
character are one to four; `decodeFrom_utf8EncodeChar` says that the decoder takes exactly these and
goes on, and the rest is an induction on the characters. The two ranges of second bytes that are
narrower than the others, after `E0`, `ED`, `F0` and `F4`, are where the encoding of a character is
the shortest one, no surrogate and below the last code point.

Nothing else is decoded: bytes that give a text are its encoding (`decodeUtf8_eq_ok_iff`). A first
byte and the ranges of those behind it leave only the bytes of the code point that they make up
(`eq_utf8EncodeChar_append`).
-/

namespace RouteAtlas.Text

/-! ### Code points -/

/-- The code points of characters: no surrogates, and nothing beyond the last plane. -/
theorem toNat_cases (c : Char) :
    c.val.toNat < 0xD800 ∨ 0xDFFF < c.val.toNat ∧ c.val.toNat < 0x110000 := c.valid

theorem toNat_ofNat_of_lt {n : Nat} (h : n < 256) : (UInt8.ofNat n).toNat = n :=
  Nat.mod_eq_of_lt h

/-! ### Single bytes -/

/-- A continuation byte in the range that is asked for is the last one. -/
theorem continuation_last {low high payload taken n : Nat} {b : UInt8} (hb : b.toNat = n + 128)
    (hlow : low ≤ n + 128) (hhigh : n + 128 ≤ high) (rest : List UInt8) :
    continuation low high 0 payload taken (b :: rest) = .ok (payload * 64 + n, rest) := by
  simp [continuation, hb, hlow, hhigh]

/-- A continuation byte in the range that is asked for, with others to follow. -/
theorem continuation_more {low high more payload taken n : Nat} {b : UInt8}
    (hb : b.toNat = n + 128) (hlow : low ≤ n + 128) (hhigh : n + 128 ≤ high) (rest : List UInt8) :
    continuation low high (more + 1) payload taken (b :: rest) =
      continuation 0x80 0xBF more (payload * 64 + n) (taken + 1) rest := by
  rw [continuation.eq_def]
  simp [hb, hlow, hhigh]

theorem leadShape?_two {n : Nat} (hlow : 2 ≤ n) (hhigh : n < 32) :
    leadShape? (n + 192) = some (n, 0x80, 0xBF, 0) := by
  simp only [leadShape?, Bool.and_eq_true, decide_eq_true_eq]
  rw [if_pos (by omega), Nat.add_sub_cancel]

theorem leadShape?_three :
    ∀ n < 16, leadShape? (n + 224) =
      some (n, if n = 0 then 0xA0 else 0x80, if n = 13 then 0x9F else 0xBF, 1) := by
  decide

theorem leadShape?_four :
    ∀ n < 5, leadShape? (n + 240) =
      some (n, if n = 0 then 0x90 else 0x80, if n = 4 then 0x8F else 0xBF, 2) := by
  decide

/-! ### Characters -/

/-- A character whose first byte has a shape is taken together with the bytes that follow. -/
theorem decodeFrom_of_continuation {fuel position payload low high more : Nat} {b : UInt8}
    {bytes rest : List UInt8} {done : List Char} {c : Char} (hb : 0x80 ≤ b.toNat)
    (hshape : leadShape? b.toNat = some (payload, low, high, more))
    (hcontinue : continuation low high more payload 1 bytes = .ok (c.val.toNat, rest)) :
    decodeFrom (fuel + 1) position (b :: bytes) done =
      decodeFrom fuel (position + more + 2) rest (c :: done) := by
  have hchar : Char.ofNat c.val.toNat = c := Char.ofNat_toNat c
  rw [decodeFrom, if_neg (by omega), hshape]
  simp only [hcontinue, hchar]

/-- **One character**: the decoder takes its bytes and goes on. -/
theorem decodeFrom_utf8EncodeChar (fuel position : Nat) (c : Char) (rest : List UInt8)
    (done : List Char) :
    ∃ position', decodeFrom (fuel + 1) position (String.utf8EncodeChar c ++ rest) done =
      decodeFrom fuel position' rest (c :: done) := by
  have hvalid := toNat_cases c
  have hchar : Char.ofNat c.val.toNat = c := Char.ofNat_toNat c
  rw [String.utf8EncodeChar]
  generalize hv : c.val.toNat = v at *
  -- The first byte tells how many follow, and each of them holds six bits of the number.
  split_ifs with hone htwo hthree
  · have hb : (UInt8.ofNat v).toNat = v := toNat_ofNat_of_lt (by omega)
    refine ⟨position + 1, ?_⟩
    rw [List.singleton_append, decodeFrom, if_pos (by omega), hb, hchar]
  · have hb₀ : (UInt8.ofNat (v / 64 % 32 + 192)).toNat = v / 64 % 32 + 192 :=
      toNat_ofNat_of_lt (by omega)
    have hb₁ : (UInt8.ofNat (v % 64 + 128)).toNat = v % 64 + 128 := toNat_ofNat_of_lt (by omega)
    have hcode : v / 64 % 32 * 64 + v % 64 = v := by omega
    simp only [List.cons_append, List.nil_append]
    refine ⟨_, decodeFrom_of_continuation (by omega) (hb₀ ▸ leadShape?_two (by omega) (by omega))
      ?_⟩
    rw [continuation_last hb₁ (by omega) (by omega), hcode, hv]
  · have hb₀ : (UInt8.ofNat (v / 4096 % 16 + 224)).toNat = v / 4096 % 16 + 224 :=
      toNat_ofNat_of_lt (by omega)
    have hb₁ : (UInt8.ofNat (v / 64 % 64 + 128)).toNat = v / 64 % 64 + 128 :=
      toNat_ofNat_of_lt (by omega)
    have hb₂ : (UInt8.ofNat (v % 64 + 128)).toNat = v % 64 + 128 := toNat_ofNat_of_lt (by omega)
    have hcode : (v / 4096 % 16 * 64 + v / 64 % 64) * 64 + v % 64 = v := by omega
    simp only [List.cons_append, List.nil_append]
    refine ⟨_, decodeFrom_of_continuation (by omega) (hb₀ ▸ leadShape?_three _ (by omega)) ?_⟩
    rw [continuation_more hb₁ (by split_ifs <;> omega) (by split_ifs <;> omega),
      continuation_last hb₂ (by omega) (by omega), hcode, hv]
  · have hb₀ : (UInt8.ofNat (v / 262144 % 8 + 240)).toNat = v / 262144 % 8 + 240 :=
      toNat_ofNat_of_lt (by omega)
    have hb₁ : (UInt8.ofNat (v / 4096 % 64 + 128)).toNat = v / 4096 % 64 + 128 :=
      toNat_ofNat_of_lt (by omega)
    have hb₂ : (UInt8.ofNat (v / 64 % 64 + 128)).toNat = v / 64 % 64 + 128 :=
      toNat_ofNat_of_lt (by omega)
    have hb₃ : (UInt8.ofNat (v % 64 + 128)).toNat = v % 64 + 128 := toNat_ofNat_of_lt (by omega)
    have hcode : ((v / 262144 % 8 * 64 + v / 4096 % 64) * 64 + v / 64 % 64) * 64 + v % 64 = v := by
      omega
    simp only [List.cons_append, List.nil_append]
    refine ⟨_, decodeFrom_of_continuation (by omega) (hb₀ ▸ leadShape?_four _ (by omega)) ?_⟩
    rw [continuation_more hb₁ (by split_ifs <;> omega) (by split_ifs <;> omega),
      continuation_more hb₂ (by omega) (by omega), continuation_last hb₃ (by omega) (by omega),
      hcode, hv]

/-! ### Texts -/

theorem decodeFrom_flatMap (cs : List Char) {fuel : Nat} (hfuel : cs.length ≤ fuel)
    (position : Nat) (done : List Char) :
    decodeFrom fuel position (cs.flatMap String.utf8EncodeChar) done =
      .ok (done.reverse ++ cs) := by
  induction cs generalizing fuel position done with
  | nil =>
    rw [List.flatMap_nil, List.append_nil]
    cases fuel <;> rfl
  | cons c cs ih =>
    cases fuel with
    | zero => exact absurd hfuel (Nat.not_succ_le_zero _)
    | succ fuel =>
      obtain ⟨position', hchar⟩ := decodeFrom_utf8EncodeChar fuel position c
        (cs.flatMap String.utf8EncodeChar) done
      rw [List.flatMap_cons, hchar, ih (Nat.le_of_succ_le_succ hfuel), List.reverse_cons,
        List.append_assoc, List.singleton_append]

/-- No character has an empty encoding. -/
theorem length_le_length_flatMap (cs : List Char) :
    cs.length ≤ (cs.flatMap String.utf8EncodeChar).length := by
  induction cs with
  | nil => exact Nat.le_refl 0
  | cons c cs ih =>
    have hpos : 0 < (String.utf8EncodeChar c).length :=
      List.length_pos_iff.mpr String.utf8EncodeChar_ne_nil
    rw [List.flatMap_cons, List.length_append, List.length_cons]
    omega

/-- The bytes of a text are those of its characters. -/
theorem toList_toUTF8 (s : String) :
    s.toUTF8.data.toList = s.toList.flatMap String.utf8EncodeChar := by
  have hencode : s.toByteArray = s.toList.utf8Encode := by simp
  rw [String.toUTF8_eq_toByteArray, hencode, List.utf8Encode, List.toList_data_toByteArray]

/-- **Decoding the bytes of a text gives the text.** -/
theorem decodeUtf8_toUTF8 (s : String) : decodeUtf8 s.toUTF8.data.toList = .ok s := by
  rw [decodeUtf8, toList_toUTF8, decodeFrom_flatMap _ (length_le_length_flatMap _)]
  simp [Except.map]

/-! ### What was decoded is the encoding -/

theorem toNat_val_ofNat {n : Nat} (h : n.isValidChar) : (Char.ofNat n).val.toNat = n := by
  rw [Char.ofNat, dif_pos h]
  rfl

/-- A byte of which the number is known. -/
theorem ofNat_eq_of_toNat {b : UInt8} {n : Nat} (h : b.toNat = n) : UInt8.ofNat n = b := by
  rw [← h, UInt8.ofNat_toNat]

/-- The last byte of a character. -/
theorem eq_cons_of_continuation_zero {low high payload taken code : Nat} {bytes rest : List UInt8}
    (h : continuation low high 0 payload taken bytes = .ok (code, rest)) :
    ∃ b, bytes = b :: rest ∧ low ≤ b.toNat ∧ b.toNat ≤ high ∧
      code = payload * 64 + (b.toNat - 128) := by
  rw [continuation.eq_def] at h
  cases bytes with
  | nil => cases h
  | cons b tail =>
    dsimp only at h
    split_ifs at h with hrange
    obtain ⟨hlow, hhigh⟩ : low ≤ b.toNat ∧ b.toNat ≤ high := by simpa using hrange
    obtain ⟨rfl, rfl⟩ := Prod.mk.inj (Except.ok.inj h)
    exact ⟨b, rfl, hlow, hhigh, rfl⟩

/-- A byte inside a character. -/
theorem eq_cons_of_continuation_succ {low high more payload taken code : Nat}
    {bytes rest : List UInt8}
    (h : continuation low high (more + 1) payload taken bytes = .ok (code, rest)) :
    ∃ b tail, bytes = b :: tail ∧ low ≤ b.toNat ∧ b.toNat ≤ high ∧
      continuation 0x80 0xBF more (payload * 64 + (b.toNat - 128)) (taken + 1) tail =
        .ok (code, rest) := by
  rw [continuation.eq_def] at h
  cases bytes with
  | nil => cases h
  | cons b tail =>
    dsimp only at h
    split_ifs at h with hrange
    obtain ⟨hlow, hhigh⟩ : low ≤ b.toNat ∧ b.toNat ≤ high := by simpa using hrange
    exact ⟨b, tail, rfl, hlow, hhigh, h⟩

/-- The shapes of first bytes, by the number of bytes that follow the second one. -/
theorem leadShape?_cases {b payload low high more : Nat}
    (h : leadShape? b = some (payload, low, high, more)) :
    (more = 0 ∧ b = payload + 192 ∧ 2 ≤ payload ∧ payload < 32 ∧ low = 128 ∧ high = 191) ∨
    (more = 1 ∧ b = payload + 224 ∧ payload < 16 ∧ 128 ≤ low ∧ high ≤ 191 ∧
      (payload = 0 → low = 160) ∧ (payload = 13 → high = 159)) ∨
    (more = 2 ∧ b = payload + 240 ∧ payload < 5 ∧ 128 ≤ low ∧ high ≤ 191 ∧
      (payload = 0 → low = 144) ∧ (payload = 4 → high = 143)) := by
  simp only [leadShape?, Bool.and_eq_true, decide_eq_true_eq, beq_iff_eq] at h
  split_ifs at h <;> simp only [Option.some.injEq, Prod.mk.injEq] at h <;> omega

/-- **One character** that was decoded: its bytes are those that were taken. -/
theorem eq_utf8EncodeChar_append {b : UInt8} {payload low high more code : Nat}
    {bytes rest : List UInt8} (hshape : leadShape? b.toNat = some (payload, low, high, more))
    (hcontinue : continuation low high more payload 1 bytes = .ok (code, rest)) :
    b :: bytes = String.utf8EncodeChar (Char.ofNat code) ++ rest ∧ rest.length < bytes.length := by
  -- The bounds of the second byte leave out the numbers that are written with fewer bytes, and
  -- those that are no characters.
  rcases leadShape?_cases hshape with ⟨rfl, hb, h⟩ | ⟨rfl, hb, h⟩ | ⟨rfl, hb, h⟩
  · obtain ⟨b₁, rfl, hlow₁, hhigh₁, hcode⟩ := eq_cons_of_continuation_zero hcontinue
    have hvalid : code.isValidChar := .inl (by omega)
    rw [String.utf8EncodeChar, toNat_val_ofNat hvalid, if_neg (by omega), if_pos (by omega),
      ofNat_eq_of_toNat (b := b) (by omega), ofNat_eq_of_toNat (b := b₁) (by omega)]
    exact ⟨rfl, Nat.lt_succ_self _⟩
  · obtain ⟨b₁, tail, rfl, hlow₁, hhigh₁, hlast⟩ := eq_cons_of_continuation_succ hcontinue
    obtain ⟨b₂, rfl, hlow₂, hhigh₂, hcode⟩ := eq_cons_of_continuation_zero hlast
    have hvalid : code.isValidChar := by
      unfold Nat.isValidChar
      omega
    rw [String.utf8EncodeChar, toNat_val_ofNat hvalid, if_neg (by omega), if_neg (by omega),
      if_pos (by omega), ofNat_eq_of_toNat (b := b) (by omega),
      ofNat_eq_of_toNat (b := b₁) (by omega), ofNat_eq_of_toNat (b := b₂) (by omega)]
    exact ⟨rfl, Nat.lt_succ_of_lt (Nat.lt_succ_self _)⟩
  · obtain ⟨b₁, tail₁, rfl, hlow₁, hhigh₁, hmore⟩ := eq_cons_of_continuation_succ hcontinue
    obtain ⟨b₂, tail₂, rfl, hlow₂, hhigh₂, hlast⟩ := eq_cons_of_continuation_succ hmore
    obtain ⟨b₃, rfl, hlow₃, hhigh₃, hcode⟩ := eq_cons_of_continuation_zero hlast
    have hvalid : code.isValidChar := by
      unfold Nat.isValidChar
      omega
    rw [String.utf8EncodeChar, toNat_val_ofNat hvalid, if_neg (by omega), if_neg (by omega),
      if_neg (by omega), ofNat_eq_of_toNat (b := b) (by omega),
      ofNat_eq_of_toNat (b := b₁) (by omega), ofNat_eq_of_toNat (b := b₂) (by omega),
      ofNat_eq_of_toNat (b := b₃) (by omega)]
    exact ⟨rfl, Nat.lt_succ_of_lt (Nat.lt_succ_of_lt (Nat.lt_succ_self _))⟩

theorem eq_flatMap_of_decodeFrom {fuel position : Nat} {bytes : List UInt8} {done cs : List Char}
    (hfuel : bytes.length ≤ fuel) (h : decodeFrom fuel position bytes done = .ok cs) :
    ∃ more, cs = done.reverse ++ more ∧ bytes = more.flatMap String.utf8EncodeChar := by
  induction fuel generalizing position bytes done with
  | zero =>
    obtain rfl := List.length_eq_zero_iff.mp (Nat.le_zero.mp hfuel)
    exact ⟨[], by rw [List.append_nil]; exact (Except.ok.inj h).symm, rfl⟩
  | succ fuel ih =>
    cases bytes with
    | nil => exact ⟨[], by rw [List.append_nil]; exact (Except.ok.inj h).symm, rfl⟩
    | cons b bytes =>
      -- What one character takes is its encoding, and the rest is decoded in the same way.
      have hstep {c : Char} {position' : Nat} {rest : List UInt8}
          (hbytes : b :: bytes = String.utf8EncodeChar c ++ rest) (hrest : rest.length ≤ fuel)
          (h : decodeFrom fuel position' rest (c :: done) = .ok cs) :
          ∃ more, cs = done.reverse ++ more ∧
            b :: bytes = more.flatMap String.utf8EncodeChar := by
        obtain ⟨more, rfl, rfl⟩ := ih hrest h
        exact ⟨c :: more, by simp, by rw [hbytes, List.flatMap_cons]⟩
      have hbytes : bytes.length ≤ fuel := Nat.le_of_succ_le_succ hfuel
      rw [decodeFrom] at h
      split_ifs at h with hascii
      · refine hstep ?_ hbytes h
        have hvalid : b.toNat.isValidChar := .inl (by omega)
        rw [String.utf8EncodeChar, toNat_val_ofNat hvalid, if_pos (by omega), UInt8.ofNat_toNat]
        rfl
      · split at h
        · cases h
        · rename_i payload low high more hshape
          split at h
          · rename_i code rest hcontinue
            obtain ⟨hencode, hlt⟩ := eq_utf8EncodeChar_append hshape hcontinue
            exact hstep hencode (by omega) h
          · cases h
          · cases h

/-- **Only the bytes of a text are decoded**, and they give that text. -/
theorem decodeUtf8_eq_ok_iff {bytes : List UInt8} {s : String} :
    decodeUtf8 bytes = .ok s ↔ bytes = s.toUTF8.data.toList := by
  constructor
  · intro h
    rw [decodeUtf8] at h
    cases hdecode : decodeFrom bytes.length 0 bytes [] with
    | error e => rw [hdecode] at h; cases h
    | ok cs =>
      rw [hdecode] at h
      obtain rfl := Except.ok.inj h
      obtain ⟨more, rfl, hbytes⟩ := eq_flatMap_of_decodeFrom (Nat.le_refl _) hdecode
      rw [toList_toUTF8, String.toList_ofList]
      exact hbytes
  · rintro rfl
    exact decodeUtf8_toUTF8 s

end RouteAtlas.Text
