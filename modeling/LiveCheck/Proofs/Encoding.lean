import LiveCheck.Encoding.Builtin

/-!
# Texts read back

An encoding is faithful if it reads what it writes for a text as the same text again.  This is all
that is ever asked of the encodings that there are (`Codecs.Faithful`), and those which come with
the program are of this kind (`Codecs.builtin_faithful`).  For the encodings that take a character
at a time it is enough that the bytes of one character, with anything behind them, are read as that
character and no byte more.
-/

namespace LiveCheck.Encoding

/-- What the encoding writes for a text it reads as the same text. -/
def Codec.Faithful (codec : Codec) : Prop :=
  ∀ s bytes, codec.encode s = .ok bytes → codec.decode bytes = .ok s

/-- All encodings that there are read back what they write. -/
def Codecs.Faithful (codecs : Codecs) : Prop :=
  ∀ name codec, codecs.ofName? name = some codec → codec.Faithful

namespace Codecs

variable {codecs : Codecs} {name : String} {codec : Codec}

/-- A name without a null character is looked up. -/
theorem find_of_named (named : '\x00' ∉ name.toList) :
    codecs.find name = (codecs.ofName? name).elim (.error (codecs.unknown name)) .ok := by
  unfold find checkName
  rw [if_neg named]
  cases codecs.ofName? name <;> rfl

/-- An encoding that is found is one of those that there are. -/
theorem ofName?_of_find (found : codecs.find name = .ok codec) :
    codecs.ofName? name = some codec := by
  have named : '\x00' ∉ name.toList := by
    intro null
    unfold find checkName at found
    rw [if_pos null] at found
    cases found
  rw [find_of_named named] at found
  cases there : codecs.ofName? name with
  | none =>
    rw [there] at found
    cases found
  | some codec' =>
    rw [there] at found
    cases found
    rfl

/-- A text is read back as it was written, in the encoding that is found by a name. -/
theorem Faithful.decode_of_encode (faithful : codecs.Faithful)
    (found : codecs.find name = .ok codec) {s : List Char} {bytes : List UInt8}
    (encoded : codec.encode s = .ok bytes) : codec.decode bytes = .ok s :=
  faithful name codec (ofName?_of_find found) s bytes encoded

end Codecs

/-- The code points: there are none between `D800` and `DFFF`, and none from `110000` on. -/
theorem char_range (c : Char) : c.toNat < 0xD800 ∨ (0xDFFF < c.toNat ∧ c.toNat < 0x110000) :=
  c.valid

/-- The number of a byte. -/
theorem toNat_byte {n : Nat} (small : n < 0x100) : (UInt8.ofNat n).toNat = n :=
  UInt8.toNat_ofNat_of_lt' small

namespace Utf8

/-! ### UTF-8 -/

/-- One more byte that is expected is taken. -/
theorem continueWith_cons {code taken low high missing n : Nat} (rest : List UInt8)
    (within : low ≤ 0x80 + n % 0x40 ∧ 0x80 + n % 0x40 ≤ high) :
    continueWith code taken low high (missing + 1) (UInt8.ofNat (0x80 + n % 0x40) :: rest) =
      continueWith (code * 0x40 + n % 0x40) (taken + 1) 0x80 0xBF missing rest := by
  have byte := toNat_byte (n := 0x80 + n % 0x40) (by omega)
  have bits : (0x80 + n % 0x40) % 0x40 = n % 0x40 := by omega
  simp only [continueWith, byte]
  rw [if_pos within, bits]

/-- A byte that carries six bits lies where the bytes after a lead byte do. -/
theorem within_tail (n : Nat) : 0x80 ≤ 0x80 + n % 0x40 ∧ 0x80 + n % 0x40 ≤ 0xBF := by omega

/-- A lead byte with the range of what follows it. -/
theorem stretch_lead {lead missing low high : Nat} (rest : List UInt8) (small : lead < 0x100)
    (high_bit : 0x80 ≤ lead) (lead_byte : following? lead = some (missing, low, high)) :
    stretch (UInt8.ofNat lead) rest =
      continueWith (lead % (if missing = 1 then 0x20 else if missing = 2 then 0x10 else 0x08))
        1 low high missing rest := by
  simp only [stretch, toNat_byte small, lead_byte]
  rw [if_neg (by omega)]

/-- A character of two bytes. -/
theorem stretch_two {n : Nat} (rest : List UInt8) (low : 0x80 ≤ n) (high : n < 0x800) :
    stretch (UInt8.ofNat (0xC0 + n / 0x40)) (UInt8.ofNat (0x80 + n % 0x40) :: rest) =
      .char (Char.ofNat n) 2 := by
  have lead : following? (0xC0 + n / 0x40) = some (1, 0x80, 0xBF) := by
    simp only [following?]
    rw [if_pos (by omega)]
  have code : (0xC0 + n / 0x40) % 0x20 * 0x40 + n % 0x40 = n := by omega
  rw [stretch_lead _ (by omega) (by omega) lead, continueWith_cons _ (within_tail n)]
  simp [continueWith, code]

/-- The lead byte of a character of three bytes, and the byte after it. The range is narrower after
`E0`, where a shorter spelling begins, and after `ED`, where surrogates begin. -/
theorem following?_three {n : Nat} (low : 0x800 ≤ n) (high : n < 0x10000)
    (character : n < 0xD800 ∨ 0xDFFF < n) :
    ∃ first last, following? (0xE0 + n / 0x1000) = some (2, first, last) ∧
      first ≤ 0x80 + n / 0x40 % 0x40 ∧ 0x80 + n / 0x40 % 0x40 ≤ last := by
  simp only [following?]
  rw [if_neg (by omega)]
  split
  · exact ⟨0xA0, 0xBF, rfl, by omega, by omega⟩
  split
  · exact ⟨0x80, 0x9F, rfl, by omega, by omega⟩
  rw [if_pos (by omega)]
  exact ⟨0x80, 0xBF, rfl, by omega, by omega⟩

/-- A character of three bytes. -/
theorem stretch_three {n : Nat} (rest : List UInt8) (low : 0x800 ≤ n) (high : n < 0x10000)
    (character : n < 0xD800 ∨ 0xDFFF < n) :
    stretch (UInt8.ofNat (0xE0 + n / 0x1000))
        (UInt8.ofNat (0x80 + n / 0x40 % 0x40) :: UInt8.ofNat (0x80 + n % 0x40) :: rest) =
      .char (Char.ofNat n) 3 := by
  obtain ⟨first, last, lead, within⟩ := following?_three low high character
  have code :
      ((0xE0 + n / 0x1000) % 0x10 * 0x40 + n / 0x40 % 0x40) * 0x40 + n % 0x40 = n := by omega
  rw [stretch_lead _ (by omega) (by omega) lead, continueWith_cons _ within,
    continueWith_cons _ (within_tail n)]
  simp [continueWith, code]

/-- The lead byte of a character of four bytes, and the byte after it. The range is narrower after
`F0`, where a shorter spelling begins, and after `F4`, where the code points end. -/
theorem following?_four {n : Nat} (low : 0x10000 ≤ n) (high : n < 0x110000) :
    ∃ first last, following? (0xF0 + n / 0x40000) = some (3, first, last) ∧
      first ≤ 0x80 + n / 0x1000 % 0x40 ∧ 0x80 + n / 0x1000 % 0x40 ≤ last := by
  simp only [following?]
  rw [if_neg (by omega), if_neg (by omega), if_neg (by omega), if_neg (by omega)]
  split
  · exact ⟨0x90, 0xBF, rfl, by omega, by omega⟩
  split
  · exact ⟨0x80, 0xBF, rfl, by omega, by omega⟩
  rw [if_pos (by omega)]
  exact ⟨0x80, 0x8F, rfl, by omega, by omega⟩

/-- A character of four bytes. -/
theorem stretch_four {n : Nat} (rest : List UInt8) (low : 0x10000 ≤ n) (high : n < 0x110000) :
    stretch (UInt8.ofNat (0xF0 + n / 0x40000))
        (UInt8.ofNat (0x80 + n / 0x1000 % 0x40) :: UInt8.ofNat (0x80 + n / 0x40 % 0x40) ::
          UInt8.ofNat (0x80 + n % 0x40) :: rest) =
      .char (Char.ofNat n) 4 := by
  obtain ⟨first, last, lead, within⟩ := following?_four low high
  have code :
      (((0xF0 + n / 0x40000) % 0x08 * 0x40 + n / 0x1000 % 0x40) * 0x40 + n / 0x40 % 0x40) * 0x40 +
        n % 0x40 = n := by omega
  rw [stretch_lead _ (by omega) (by omega) lead, continueWith_cons _ within,
    continueWith_cons _ (within_tail (n / 0x40)), continueWith_cons _ (within_tail n)]
  simp [continueWith, code]

/-- The bytes of a character are read as this character, whatever follows them. -/
theorem stretch_charBytes (c : Char) (rest : List UInt8) :
    ∃ b more, charBytes c = b :: more ∧
      stretch b (more ++ rest) = .char c (more.length + 1) := by
  have range := char_range c
  have same := Char.ofNat_toNat c
  simp only [charBytes, Nat.div_one]
  split
  next one =>
    refine ⟨_, [], rfl, ?_⟩
    simp [stretch, toNat_byte (show c.toNat < 0x100 by omega), one, same]
  split
  next two => exact ⟨_, _, rfl, (stretch_two rest (by omega) two).trans (by rw [same]; rfl)⟩
  split
  next three =>
    exact ⟨_, _, rfl,
      (stretch_three rest (by omega) three (by omega)).trans (by rw [same]; rfl)⟩
  next four =>
    exact ⟨_, _, rfl, (stretch_four rest (by omega) (by omega)).trans (by rw [same]; rfl)⟩

/-- Bytes that are already read are passed over. -/
theorem decodeFrom_skip (position : Nat) (taken rest : List UInt8) :
    decodeFrom position taken.length (taken ++ rest) =
      decodeFrom (position + taken.length) 0 rest := by
  induction taken generalizing position with
  | nil => rfl
  | cons b taken ih =>
    simp only [List.length_cons, List.cons_append, decodeFrom]
    rw [ih, Nat.add_assoc, Nat.add_comm 1]

/-- A text is read back. -/
theorem decodeFrom_encode (position : Nat) (s : List Char) :
    decodeFrom position 0 (encode s) = .ok s := by
  induction s generalizing position with
  | nil => rfl
  | cons c s ih =>
    obtain ⟨b, more, bytes, read⟩ := stretch_charBytes c (encode s)
    have behind : encode (c :: s) = b :: (more ++ encode s) := by simp [encode, bytes]
    rw [behind, decodeFrom, read]
    simp only [Nat.add_sub_cancel, decodeFrom_skip, ih]
    rfl

theorem decode_encode (s : List Char) : decode (encode s) = .ok s :=
  decodeFrom_encode 0 s

end Utf8

namespace Utf16

/-! ### UTF-16 -/

/-- The two bytes of a unit, in either order, tell the unit. -/
theorem bytes_eq (order : Order) {n : Nat} (small : n < 0x10000) :
    ∃ b b', order.bytes n = [b, b'] ∧ order.unit b b' = n := by
  have low := toNat_byte (n := n % 0x100) (by omega)
  have high := toNat_byte (n := n / 0x100) (by omega)
  cases order with
  | little => exact ⟨_, _, rfl, by simp only [Order.unit, low, high]; omega⟩
  | big => exact ⟨_, _, rfl, by simp only [Order.unit, low, high]; omega⟩

/-- A unit that is no surrogate is a character. -/
theorem decodeFrom_unit {order : Order} {position : Nat} {b b' : UInt8} (rest : List UInt8)
    (plain : order.unit b b' < 0xD800 ∨ 0xDFFF < order.unit b b') :
    decodeFrom order position (b :: b' :: rest) =
      (decodeFrom order (position + 2) rest).map (Char.ofNat (order.unit b b') :: ·) := by
  -- what follows is looked at only after a surrogate
  rcases rest with _ | ⟨d, _ | ⟨d', rest⟩⟩ <;> (conv => lhs; unfold decodeFrom) <;>
    exact if_pos plain

/-- The bytes of a character are read as this character, whatever follows them. -/
theorem decodeFrom_charBytes (order : Order) (position : Nat) (c : Char) (rest : List UInt8) :
    ∃ further, decodeFrom order position (charBytes order c ++ rest) =
      (decodeFrom order further rest).map (c :: ·) := by
  have range := char_range c
  have same := Char.ofNat_toNat c
  simp only [charBytes]
  split
  next one =>
    obtain ⟨b, b', bytes, unit⟩ := bytes_eq order one
    refine ⟨position + 2, ?_⟩
    rw [bytes, List.cons_append, List.singleton_append, decodeFrom_unit _ (by omega), unit, same]
  next pair =>
    -- a pair of surrogates, the high one with the upper ten bits
    obtain ⟨b, b', bytes, unit⟩ :=
      bytes_eq order (n := 0xD800 + (c.toNat - 0x10000) / 0x400) (by omega)
    obtain ⟨d, d', bytes', unit'⟩ :=
      bytes_eq order (n := 0xDC00 + (c.toNat - 0x10000) % 0x400) (by omega)
    have code : 0x10000 + 0x400 * (0xD800 + (c.toNat - 0x10000) / 0x400 - 0xD800) +
        (0xDC00 + (c.toNat - 0x10000) % 0x400 - 0xDC00) = c.toNat := by omega
    refine ⟨position + 4, ?_⟩
    simp only [bytes, bytes', List.cons_append, List.nil_append]
    rw [decodeFrom, unit, if_neg (by omega), if_neg (by omega)]
    simp only [unit']
    rw [if_pos (by omega), code, same]

/-- A text is read back. -/
theorem decodeFrom_encode (order : Order) (position : Nat) (s : List Char) :
    decodeFrom order position (encode order s) = .ok s := by
  induction s generalizing position with
  | nil => rfl
  | cons c s ih =>
    obtain ⟨further, read⟩ := decodeFrom_charBytes order position c (encode order s)
    have behind : encode order (c :: s) = charBytes order c ++ encode order s := rfl
    rw [behind, read, ih]
    rfl

end Utf16

namespace Builtin

/-! ### One byte for a character -/

/-- A code that reads back the byte of every character that has one. -/
def ByteCode.Faithful (code : ByteCode) : Prop :=
  ∀ c b, code.byte? c = some b → code.char? b = some c

/-- A text that has bytes is read back. -/
theorem ByteCode.Faithful.decodeFrom_encodeFrom {code : ByteCode} (faithful : code.Faithful)
    {written read : Nat} {s : List Char} {bytes : List UInt8}
    (encoded : code.encodeFrom written s = .ok bytes) : code.decodeFrom read bytes = .ok s := by
  induction s generalizing written read bytes with
  | nil =>
    obtain rfl : [] = bytes := by simpa [encodeFrom] using encoded
    rfl
  | cons c s ih =>
    rw [encodeFrom] at encoded
    split at encoded
    case h_2 => simp at encoded
    case h_1 b byte =>
      cases more : code.encodeFrom (written + 1) s with
      | error mistake => simp [more, Except.map] at encoded
      | ok behind =>
        obtain rfl : b :: behind = bytes := by simpa [more, Except.map] using encoded
        simp only [ByteCode.decodeFrom, faithful c b byte, ih more]
        rfl

/-- What is reported of a failure does not matter where nothing fails. -/
theorem mapError_eq_ok {ε ε' α : Type} {e : Except ε α} {report : ε → ε'} {a : α} :
    e.mapError report = .ok a ↔ e = .ok a := by
  cases e with
  | error fault => exact ⟨nofun, nofun⟩
  | ok value =>
    constructor
    · rintro ⟨⟩
      rfl
    · rintro ⟨⟩
      rfl

/-- The same, with what is reported. -/
theorem ByteCode.Faithful.chars_of_bytes {code : ByteCode} (faithful : code.Faithful)
    {s : List Char} {bytes : List UInt8}
    (encoded : (code.encodeFrom 0 s).mapError Unencodable.mistake = .ok bytes) :
    (code.decodeFrom 0 bytes).mapError Undecodable.mistake = .ok s :=
  mapError_eq_ok.2 (faithful.decodeFrom_encodeFrom (mapError_eq_ok.1 encoded))

theorem ByteCode.first_faithful (codec : String) {size : Nat} (small : size ≤ 0x100) :
    (ByteCode.first codec size).Faithful := by
  intro c b byte
  simp only [ByteCode.first] at byte ⊢
  split at byte
  case isFalse => simp at byte
  next within =>
    obtain rfl : UInt8.ofNat c.toNat = b := by simpa using byte
    rw [toNat_byte (by omega), if_pos within, Char.ofNat_toNat]

/-- A code point of the table is at one place only. -/
theorem windowsPoints_findIdx {n i : Nat}
    (found : windowsPoints.findIdx? (fun p => p ≠ 0 ∧ p = n) = some i) :
    i < 0x20 ∧ n ≠ 0 ∧ windowsPoints.getD i 0 = n := by
  obtain ⟨within, here, -⟩ := List.findIdx?_eq_some_iff_getElem.mp found
  obtain ⟨nonzero, point⟩ := of_decide_eq_true here
  refine ⟨within, point ▸ nonzero, ?_⟩
  rw [List.getD_eq_getElem?_getD, List.getElem?_eq_getElem within, Option.getD_some, point]

theorem ByteCode.windows_faithful : ByteCode.windows.Faithful := by
  intro c b byte
  simp only [ByteCode.windows, windowsByte?] at byte ⊢
  split at byte
  next plain =>
    obtain rfl : UInt8.ofNat c.toNat = b := by simpa using byte
    simp only [windowsChar?, toNat_byte (show c.toNat < 0x100 by omega)]
    rw [if_neg (by omega), Char.ofNat_toNat]
  next =>
    obtain ⟨i, found, rfl⟩ := Option.map_eq_some_iff.mp byte
    obtain ⟨small, nonzero, point⟩ := windowsPoints_findIdx found
    simp only [windowsChar?, toNat_byte (show 0x80 + i < 0x100 by omega)]
    rw [if_pos (by omega), Nat.add_sub_cancel_left, point]
    split
    next zero => exact absurd zero nonzero
    next => rw [Char.ofNat_toNat]

/-! ### All encodings -/

theorem decodeMarked8_encode (s : List Char) :
    decodeMarked8 (mark8 ++ Utf8.encode s) = .ok s := by
  cases s with
  | nil => rfl
  | cons c s =>
    obtain ⟨b, more, bytes, -⟩ := Utf8.stretch_charBytes c []
    have longer : Utf8.encode (c :: s) = b :: (more ++ Utf8.encode s) := by
      simp [Utf8.encode, bytes]
    have read := Utf8.decode_encode (c :: s)
    rw [longer] at read ⊢
    simpa [decodeMarked8, mark8, List.isPrefixOf] using read

/-- What an encoding that comes with the program writes for a text it reads as the same text. -/
theorem chars_of_bytes {builtin : Builtin} {s : List Char} {bytes : List UInt8}
    (written : builtin.bytes s = .ok bytes) : builtin.chars bytes = .ok s := by
  cases builtin with
  | utf8 =>
    obtain rfl : Utf8.encode s = bytes := Except.ok.inj written
    exact mapError_eq_ok.2 (Utf8.decode_encode s)
  | utf8Marked =>
    obtain rfl : mark8 ++ Utf8.encode s = bytes := Except.ok.inj written
    exact mapError_eq_ok.2 (decodeMarked8_encode s)
  | utf16Marked =>
    obtain rfl : Utf16.mark .little ++ Utf16.encode .little s = bytes := Except.ok.inj written
    exact mapError_eq_ok.2 (Utf16.decodeFrom_encode .little 2 s)
  | utf16 order =>
    obtain rfl : Utf16.encode order s = bytes := Except.ok.inj written
    exact mapError_eq_ok.2 (Utf16.decodeFrom_encode order 0 s)
  | ascii =>
    exact (ByteCode.first_faithful "ascii" (by decide)).chars_of_bytes written
  | latin1 =>
    exact (ByteCode.first_faithful "latin-1" (by decide)).chars_of_bytes written
  | windows1252 => exact ByteCode.windows_faithful.chars_of_bytes written

/-- It is faithful. -/
theorem codec_faithful (builtin : Builtin) : builtin.codec.Faithful := fun _ _ encoded =>
  mapError_eq_ok.2 (chars_of_bytes (mapError_eq_ok.1 encoded))

end Builtin

/-- The encodings that come with the program read back what they write. -/
theorem Codecs.builtin_faithful : Codecs.builtin.Faithful := by
  intro name codec named
  obtain ⟨builtin, -, rfl⟩ := Option.map_eq_some_iff.1 named
  exact builtin.codec_faithful

end LiveCheck.Encoding
