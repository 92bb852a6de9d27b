import Gamebook.Text.Utf8
import Mathlib.Tactic.SplitIfs

/-!
# Texts in files

A text that is written to a file is read back as it was. The bytes of a character are those that
`decodeFrom` expects in its branch for as many bytes: numbers that a shorter form could say, halves
of characters and numbers past the last character are never written. Nor are they read: whatever
bytes are read as a text are those that the text is written with.

## Key results

- `decode_encode`: what was written is read back
- `decode_eq_ok_iff`: which bytes are read, and as what
-/

namespace Gamebook.Text

namespace Utf8

private theorem toNat_toUInt8 {n : Nat} (h : n < 0x100) : n.toUInt8.toNat = n :=
  Nat.mod_eq_of_lt h

/-- The numbers that a character can have. -/
private theorem toNat_range (c : Char) :
    c.toNat < 0xd800 ∨ 0xdfff < c.toNat ∧ c.toNat < 0x110000 := c.valid

/-- A byte that is made of the last six bits of a number goes on with a character. -/
private theorem isTail_toUInt8 (n : Nat) : isTail (0x80 + n % 0x40).toUInt8 = true := by
  have hn : (0x80 + n % 0x40).toUInt8.toNat = 0x80 + n % 0x40 := toNat_toUInt8 (by omega)
  simp only [isTail, UInt8.le_iff_toNat_le, hn, Bool.and_eq_true, decide_eq_true_eq]
  exact ⟨Nat.le_add_right _ _, show 0x80 + n % 0x40 ≤ 0xbf by omega⟩

/-- From such a byte the six bits can be read back. -/
private theorem tailBits_toUInt8 (n : Nat) : tailBits (0x80 + n % 0x40).toUInt8 = n % 0x40 := by
  have hn : (0x80 + n % 0x40).toUInt8.toNat = 0x80 + n % 0x40 := toNat_toUInt8 (by omega)
  rw [tailBits, hn]
  omega

/-! ## The branches of the reader -/

section

variable {pos : Nat} {a b c d : UInt8} {rest : List UInt8}

private theorem not_lt_of_toNat (h : b.toNat ≤ a.toNat) : ¬ a < b :=
  UInt8.not_lt.2 (UInt8.le_iff_toNat_le.2 h)

/-- A character of one byte. -/
private theorem decodeFrom_one (h : a.toNat < 0x80) :
    decodeFrom pos (a :: rest) = (decodeFrom (pos + 1) rest).map (Char.ofNat a.toNat :: ·) := by
  have h₁ : a < 0x80 := UInt8.lt_iff_toNat_lt.2 h
  rw [decodeFrom.eq_def]
  simp only [h₁, if_true]

/-- A character of two bytes, of which the first leaves out what one byte could say. -/
private theorem decodeFrom_two (h : 0xc2 ≤ a.toNat) (hlt : a.toNat < 0xe0) (hb : isTail b = true) :
    decodeFrom pos (a :: b :: rest) =
      (decodeFrom (pos + 2) rest).map
        (Char.ofNat (a.toNat % 0x20 * 0x40 + tailBits b) :: ·) := by
  have h₁ : ¬ a < 0x80 := not_lt_of_toNat (Nat.le_trans (by decide) h)
  have h₂ : ¬ a < 0xc2 := not_lt_of_toNat h
  have h₃ : a < 0xe0 := UInt8.lt_iff_toNat_lt.2 hlt
  rw [decodeFrom.eq_def]
  simp only [h₁, h₂, h₃, hb, if_true, if_false]

/-- A character of three bytes. -/
private theorem decodeFrom_three (h : 0xe0 ≤ a.toNat) (hlt : a.toNat < 0xf0)
    (hb : mayFollow a b = true) (hc : isTail c = true) :
    decodeFrom pos (a :: b :: c :: rest) =
      (decodeFrom (pos + 3) rest).map
        (Char.ofNat (a.toNat % 0x10 * 0x1000 + tailBits b * 0x40 + tailBits c) :: ·) := by
  have h₁ : ¬ a < 0x80 := not_lt_of_toNat (Nat.le_trans (by decide) h)
  have h₂ : ¬ a < 0xc2 := not_lt_of_toNat (Nat.le_trans (by decide) h)
  have h₃ : ¬ a < 0xe0 := not_lt_of_toNat h
  have h₄ : a < 0xf0 := UInt8.lt_iff_toNat_lt.2 hlt
  rw [decodeFrom.eq_def]
  simp only [h₁, h₂, h₃, h₄, hb, hc, if_true, if_false]

/-- A character of four bytes. -/
private theorem decodeFrom_four (h : 0xf0 ≤ a.toNat) (hlt : a.toNat < 0xf5)
    (hb : mayFollow a b = true) (hc : isTail c = true) (hd : isTail d = true) :
    decodeFrom pos (a :: b :: c :: d :: rest) =
      (decodeFrom (pos + 4) rest).map
        (Char.ofNat (a.toNat % 8 * 0x40000 + tailBits b * 0x1000 + tailBits c * 0x40 +
          tailBits d) :: ·) := by
  -- the first byte is past the ranges of the shorter forms
  have h₁ : ¬ a < 0x80 := not_lt_of_toNat (Nat.le_trans (by decide) h)
  have h₂ : ¬ a < 0xc2 := not_lt_of_toNat (Nat.le_trans (by decide) h)
  have h₃ : ¬ a < 0xe0 := not_lt_of_toNat (Nat.le_trans (by decide) h)
  have h₄ : ¬ a < 0xf0 := not_lt_of_toNat h
  have h₅ : a < 0xf5 := UInt8.lt_iff_toNat_lt.2 hlt
  rw [decodeFrom.eq_def]
  simp only [h₁, h₂, h₃, h₄, h₅, hb, hc, hd, if_true, if_false]

/-- What `mayFollow` a first byte, in numbers. -/
private theorem mayFollow_iff_toNat :
    mayFollow a b = true ↔
      (if a.toNat = 0xe0 then 0xa0 else if a.toNat = 0xf0 then 0x90 else 0x80) ≤ b.toNat ∧
      b.toNat ≤ if a.toNat = 0xed then 0x9f else if a.toNat = 0xf4 then 0x8f else 0xbf := by
  have heq (k : UInt8) : (a == k) = decide (a.toNat = k.toNat) := by
    rw [Bool.eq_iff_iff, beq_iff_eq, decide_eq_true_eq, UInt8.toNat_inj]
  simp only [mayFollow, heq, Bool.and_eq_true, decide_eq_true_eq, UInt8.le_iff_toNat_le,
    apply_ite UInt8.toNat]
  rfl

end

/-- `decodeFrom` reads the bytes of `encodeChar` as the character. -/
private theorem decodeFrom_encodeChar (pos : Nat) (c : Char) (rest : List UInt8) :
    decodeFrom pos (encodeChar c ++ rest) =
      (decodeFrom (pos + (encodeChar c).length) rest).map (c :: ·) := by
  have hvalid := toNat_range c
  have hchar : Char.ofNat c.toNat = c := Char.ofNat_toNat c
  simp only [encodeChar]
  generalize c.toNat = n at hvalid hchar
  -- one case for each number of bytes
  split
  · have ha : n.toUInt8.toNat = n := toNat_toUInt8 (by omega)
    rw [List.cons_append, List.nil_append, decodeFrom_one (by omega), ha, hchar]
    rfl
  · split
    · have ha : (0xc0 + n / 0x40).toUInt8.toNat = 0xc0 + n / 0x40 := toNat_toUInt8 (by omega)
      have hn : (0xc0 + n / 0x40) % 0x20 * 0x40 + n % 0x40 = n := by omega
      simp only [List.cons_append, List.nil_append]
      rw [decodeFrom_two (by omega) (by omega) (isTail_toUInt8 n), ha, tailBits_toUInt8, hn, hchar]
      rfl
    · split
      · have ha : (0xe0 + n / 0x1000).toUInt8.toNat = 0xe0 + n / 0x1000 := toNat_toUInt8 (by omega)
        have hb : (0x80 + n / 0x40 % 0x40).toUInt8.toNat = 0x80 + n / 0x40 % 0x40 :=
          toNat_toUInt8 (by omega)
        -- the surrogates and the texts that are too long are not among the characters
        have hfollow :
            mayFollow (0xe0 + n / 0x1000).toUInt8 (0x80 + n / 0x40 % 0x40).toUInt8 = true :=
          mayFollow_iff_toNat.2 ⟨by rw [ha, hb]; split_ifs <;> omega,
            by rw [ha, hb]; split_ifs <;> omega⟩
        have hn : (0xe0 + n / 0x1000) % 0x10 * 0x1000 + n / 0x40 % 0x40 * 0x40 + n % 0x40 = n := by
          omega
        simp only [List.cons_append, List.nil_append]
        rw [decodeFrom_three (by omega) (by omega) hfollow (isTail_toUInt8 n), ha, tailBits_toUInt8,
          tailBits_toUInt8, hn, hchar]
        rfl
      · have ha : (0xf0 + n / 0x40000).toUInt8.toNat = 0xf0 + n / 0x40000 :=
          toNat_toUInt8 (by omega)
        have hb : (0x80 + n / 0x1000 % 0x40).toUInt8.toNat = 0x80 + n / 0x1000 % 0x40 :=
          toNat_toUInt8 (by omega)
        -- and so are the numbers past the last character
        have hfollow :
            mayFollow (0xf0 + n / 0x40000).toUInt8 (0x80 + n / 0x1000 % 0x40).toUInt8 = true :=
          mayFollow_iff_toNat.2 ⟨by rw [ha, hb]; split_ifs <;> omega,
            by rw [ha, hb]; split_ifs <;> omega⟩
        have hn : (0xf0 + n / 0x40000) % 8 * 0x40000 + n / 0x1000 % 0x40 * 0x1000 +
            n / 0x40 % 0x40 * 0x40 + n % 0x40 = n := by omega
        simp only [List.cons_append, List.nil_append]
        rw [decodeFrom_four (by omega) (by omega) hfollow (isTail_toUInt8 _) (isTail_toUInt8 n), ha,
          tailBits_toUInt8, tailBits_toUInt8, tailBits_toUInt8, hn, hchar]
        rfl

/-- `decode` takes back what `encode` does. -/
theorem decode_encode (cs : List Char) : decode (encode cs) = .ok cs := by
  have hfrom (pos : Nat) : decodeFrom pos (encode cs) = .ok cs := by
    induction cs generalizing pos with
    | nil => rfl
    | cons c cs ih =>
      rw [encode, List.flatMap_cons, decodeFrom_encodeChar]
      rw [encode] at ih
      rw [ih]
      rfl
  exact hfrom 0

/-! ## What bytes are read -/

/-- A character that is made from a number has this number, if it is that of a character. -/
private theorem toNat_ofNat {n : Nat} (h : n < 0xd800 ∨ 0xdfff < n ∧ n < 0x110000) :
    (Char.ofNat n).toNat = n := by
  have hvalid : n.isValidChar := h
  rw [Char.ofNat, dif_pos hvalid]
  rfl

/-- A byte that goes on with a character, in numbers. -/
private theorem toNat_of_isTail {b : UInt8} (h : isTail b = true) :
    0x80 ≤ b.toNat ∧ b.toNat ≤ 0xbf := by
  simpa [isTail, UInt8.le_iff_toNat_le] using h

/-- A byte is the one of its number. -/
private theorem toUInt8_eq {n : Nat} {b : UInt8} (h : n = b.toNat) : n.toUInt8 = b := by
  rw [h]
  exact UInt8.ofNat_toNat

/-! ### One character from its bytes -/

section

variable {a b c d : UInt8}

private theorem encodeChar_one (ha : a.toNat < 0x80) : encodeChar (Char.ofNat a.toNat) = [a] := by
  rw [encodeChar, toNat_ofNat (by omega), if_pos ha, toUInt8_eq rfl]

private theorem encodeChar_two (hlow : 0xc2 ≤ a.toNat) (hhigh : a.toNat < 0xe0)
    (hb : isTail b = true) :
    encodeChar (Char.ofNat (a.toNat % 0x20 * 0x40 + tailBits b)) = [a, b] := by
  have hb := toNat_of_isTail hb
  rw [tailBits, encodeChar, toNat_ofNat (by omega)]
  rw [if_neg (by omega), if_pos (by omega), toUInt8_eq (b := a) (by omega),
    toUInt8_eq (b := b) (by omega)]

private theorem encodeChar_three (hlow : 0xe0 ≤ a.toNat) (hhigh : a.toNat < 0xf0)
    (hb : mayFollow a b = true) (hc : isTail c = true) :
    encodeChar (Char.ofNat (a.toNat % 0x10 * 0x1000 + tailBits b * 0x40 + tailBits c)) =
      [a, b, c] := by
  have hb := mayFollow_iff_toNat.1 hb
  have hc := toNat_of_isTail hc
  have htail : 0x80 ≤ b.toNat ∧ b.toNat ≤ 0xbf := by split_ifs at hb <;> omega
  -- E0 leaves out what two bytes could say, and ED leaves out the halves
  have hfirst : a.toNat = 0xe0 → 0xa0 ≤ b.toNat := by
    intro ha
    simpa [ha] using hb.1
  have hhalf : a.toNat = 0xed → b.toNat ≤ 0x9f := by
    intro ha
    simpa [ha] using hb.2
  clear hb
  rw [tailBits, tailBits, encodeChar, toNat_ofNat (by omega)]
  rw [if_neg (by omega), if_neg (by omega), if_pos (by omega), toUInt8_eq (b := a) (by omega),
    toUInt8_eq (b := b) (by omega), toUInt8_eq (b := c) (by omega)]

private theorem encodeChar_four (hlow : 0xf0 ≤ a.toNat) (hhigh : a.toNat < 0xf5)
    (hb : mayFollow a b = true) (hc : isTail c = true) (hd : isTail d = true) :
    encodeChar (Char.ofNat (a.toNat % 8 * 0x40000 + tailBits b * 0x1000 + tailBits c * 0x40 +
      tailBits d)) = [a, b, c, d] := by
  have hb := mayFollow_iff_toNat.1 hb
  have hc := toNat_of_isTail hc
  have hd := toNat_of_isTail hd
  have htail : 0x80 ≤ b.toNat ∧ b.toNat ≤ 0xbf := by split_ifs at hb <;> omega
  -- F0 leaves out what three bytes could say, and F4 leaves out what is past the last character
  have hfirst : a.toNat = 0xf0 → 0x90 ≤ b.toNat := by
    intro ha
    simpa [ha] using hb.1
  have hlast : a.toNat = 0xf4 → b.toNat ≤ 0x8f := by
    intro ha
    simpa [ha] using hb.2
  clear hb
  rw [tailBits, tailBits, tailBits, encodeChar, toNat_ofNat (by omega)]
  rw [if_neg (by omega), if_neg (by omega), if_neg (by omega), toUInt8_eq (b := a) (by omega),
    toUInt8_eq (b := b) (by omega), toUInt8_eq (b := c) (by omega), toUInt8_eq (b := d) (by omega)]

end

/-- Bytes in front of others that are read: those of a character, and the others. -/
private theorem encode_of_map {bytes rest : List UInt8} {c : Char} {r : Except Fault (List Char)}
    {cs : List Char} (hchar : encodeChar c = bytes) (hrest : ∀ cs, r = .ok cs → encode cs = rest)
    (h : r.map (c :: ·) = .ok cs) : encode cs = bytes ++ rest := by
  cases r with
  | error f => cases h
  | ok cs' =>
    cases h
    rw [encode, List.flatMap_cons, hchar, ← hrest cs' rfl]
    rfl

/-- What `decodeFrom` reads as a text is what `encode` makes of the text. -/
private theorem encode_of_decodeFrom {pos : Nat} {bs : List UInt8} {cs : List Char}
    (h : decodeFrom pos bs = .ok cs) : encode cs = bs := by
  have hlt {a k : UInt8} (h : a < k) : a.toNat < k.toNat := UInt8.lt_iff_toNat_lt.1 h
  have hle {a k : UInt8} (h : ¬ a < k) : k.toNat ≤ a.toNat :=
    Nat.le_of_not_lt fun hlt => h (UInt8.lt_iff_toNat_lt.2 hlt)
  -- the induction follows the reader; only four of its branches come to a text
  fun_induction decodeFrom pos bs generalizing cs with
  | case1 =>
    cases h
    rfl
  | case2 pos a rest h₁ ih => exact encode_of_map (encodeChar_one (hlt h₁)) (fun _ => ih) h
  | case5 pos a h₁ h₂ h₃ b rest hb ih =>
    exact encode_of_map (encodeChar_two (hle h₂) (hlt h₃) hb) (fun _ => ih) h
  | case9 pos a h₁ h₂ h₃ h₄ b hb c rest hc ih =>
    exact encode_of_map (encodeChar_three (hle h₃) (hlt h₄) hb hc) (fun _ => ih) h
  | case15 pos a h₁ h₂ h₃ h₄ h₅ b hb c hc d rest hd ih =>
    exact encode_of_map (encodeChar_four (hle h₄) (hlt h₅) hb hc hd) (fun _ => ih) h
  | _ => cases h

/-- `decode` reads the bytes that `encode` makes of a text as this text, and no others. -/
theorem decode_eq_ok_iff {bs : List UInt8} {cs : List Char} :
    decode bs = .ok cs ↔ bs = encode cs := by
  constructor
  · exact fun h => (encode_of_decodeFrom h).symm
  · rintro rfl
    exact decode_encode cs

end Utf8

end Gamebook.Text
