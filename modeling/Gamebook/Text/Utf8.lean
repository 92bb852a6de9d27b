/-!
# UTF-8

Files hold bytes and stories hold characters. `encode` writes characters as UTF-8 and `decode`
reads them back. Bytes that are no UTF-8 give a `Utf8.Fault` with the place of the first bad piece:
the longest start of a character that the bytes there could still have been, or a single byte when
no character starts with it.
-/

namespace Gamebook.Text.Utf8

/-- What is wrong with a bad piece. -/
inductive Reason where
  /-- No character starts with this byte. -/
  | start
  /-- A character has started, and the next byte does not go on with it. -/
  | continuation
  /-- The bytes end inside a character. -/
  | truncated
  deriving DecidableEq, Repr

/-- The first bad piece: the positions of its first byte and of the byte after it. -/
structure Fault where
  first : Nat
  stop : Nat
  reason : Reason
  deriving DecidableEq, Repr

/-- The bytes of one character. -/
def encodeChar (c : Char) : List UInt8 :=
  let n := c.toNat
  if n < 0x80 then [n.toUInt8]
  else if n < 0x800 then [(0xc0 + n / 0x40).toUInt8, (0x80 + n % 0x40).toUInt8]
  else if n < 0x10000 then
    [(0xe0 + n / 0x1000).toUInt8, (0x80 + n / 0x40 % 0x40).toUInt8, (0x80 + n % 0x40).toUInt8]
  else
    [(0xf0 + n / 0x40000).toUInt8, (0x80 + n / 0x1000 % 0x40).toUInt8,
      (0x80 + n / 0x40 % 0x40).toUInt8, (0x80 + n % 0x40).toUInt8]

/-- The bytes of a text. -/
def encode (cs : List Char) : List UInt8 := cs.flatMap encodeChar

/-- Whether a byte goes on with a character. -/
def isTail (b : UInt8) : Bool := 0x80 ≤ b && b ≤ 0xbf

/-- Whether `b` may follow the first byte `a` of a character of three or four bytes. The first
    bytes E0 and F0 refuse what a shorter form could say, ED refuses the surrogates, and F4 refuses
    numbers past the last code point. -/
def mayFollow (a b : UInt8) : Bool :=
  (if a == 0xe0 then 0xa0 else if a == 0xf0 then 0x90 else 0x80) ≤ b &&
    b ≤ (if a == 0xed then 0x9f else if a == 0xf4 then 0x8f else 0xbf)

/-- The six bits a tail byte carries. -/
def tailBits (b : UInt8) : Nat := b.toNat % 0x40

/-- Reads the bytes that start at position `pos`. -/
def decodeFrom (pos : Nat) : List UInt8 → Except Fault (List Char)
  | [] => .ok []
  | a :: rest =>
    if a < 0x80 then
      (decodeFrom (pos + 1) rest).map (Char.ofNat a.toNat :: ·)
    else if a < 0xc2 then .error ⟨pos, pos + 1, .start⟩
    else if a < 0xe0 then
      match rest with
      | [] => .error ⟨pos, pos + 1, .truncated⟩
      | b :: rest =>
        if isTail b then
          (decodeFrom (pos + 2) rest).map (Char.ofNat (a.toNat % 0x20 * 0x40 + tailBits b) :: ·)
        else .error ⟨pos, pos + 1, .continuation⟩
    else if a < 0xf0 then
      match rest with
      | [] => .error ⟨pos, pos + 1, .truncated⟩
      | b :: rest =>
        if mayFollow a b then
          match rest with
          | [] => .error ⟨pos, pos + 2, .truncated⟩
          | c :: rest =>
            if isTail c then
              (decodeFrom (pos + 3) rest).map
                (Char.ofNat (a.toNat % 0x10 * 0x1000 + tailBits b * 0x40 + tailBits c) :: ·)
            else .error ⟨pos, pos + 2, .continuation⟩
        else .error ⟨pos, pos + 1, .continuation⟩
    else if a < 0xf5 then
      match rest with
      | [] => .error ⟨pos, pos + 1, .truncated⟩
      | b :: rest =>
        if mayFollow a b then
          match rest with
          | [] => .error ⟨pos, pos + 2, .truncated⟩
          | c :: rest =>
            if isTail c then
              match rest with
              | [] => .error ⟨pos, pos + 3, .truncated⟩
              | d :: rest =>
                if isTail d then
                  (decodeFrom (pos + 4) rest).map
                    (Char.ofNat (a.toNat % 8 * 0x40000 + tailBits b * 0x1000 + tailBits c * 0x40 +
                      tailBits d) :: ·)
                else .error ⟨pos, pos + 3, .continuation⟩
            else .error ⟨pos, pos + 2, .continuation⟩
        else .error ⟨pos, pos + 1, .continuation⟩
    else .error ⟨pos, pos + 1, .start⟩

/-- The text that a row of bytes holds, or the first piece of it that is no text. -/
def decode (bs : List UInt8) : Except Fault (List Char) := decodeFrom 0 bs

end Gamebook.Text.Utf8
