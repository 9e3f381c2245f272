import MetricsScript.Text.Utf8

/-!
# Reading back what was encoded

The bytes of a character take the decoder from the place between two characters to the next such
place, and leave the character behind.  So the bytes of a text are read as that text, and each of
them belongs to a character.  No other bytes are read without a fault.  A newline breaks off
whatever is under way, so lines are read one by one even where the bytes of some make up no
characters.
-/

namespace MetricsScript
namespace Text
namespace Utf8

variable {d : Decoder} {b : Nat}

namespace Decoder

@[simp]
theorem push_begun (d : Decoder) (c : Char) : (d.push c).begun = none := rfl

/-! ## One byte -/

theorem feed_ascii (hd : d.begun = none) (hb : b < 0x80) :
    d.feed (UInt8.ofNat b) = d.push (Char.ofNat b) := by
  have hbyte := UInt8.toNat_ofNat_of_lt' (Nat.lt_trans hb (by decide))
  simp only [feed, hd, start, hbyte, if_pos hb]

theorem feed_first
    {begun : Begun} (hd : d.begun = none) (hb : 0x80 ≤ b) (hlt : b < 0x100)
    (h : begin? b = some begun) :
    d.feed (UInt8.ofNat b) = { d with begun := some begun } := by
  have hbyte := UInt8.toNat_ofNat_of_lt' hlt
  have hascii : ¬b < 0x80 := by omega
  simp only [feed, hd, start, hbyte, if_neg hascii, h]

theorem feed_middle
    {value more low high : Nat} (hd : d.begun = some ⟨value, more + 1, low, high⟩)
    (hlow : low ≤ b) (hhigh : b ≤ high) (hlt : b < 0x100) :
    d.feed (UInt8.ofNat b) =
      { d with begun := some ⟨value * 64 + (b - 0x80), more, 0x80, 0xBF⟩ } := by
  have hbyte := UInt8.toNat_ofNat_of_lt' hlt
  have hb : low ≤ b ∧ b ≤ high := ⟨hlow, hhigh⟩
  simp only [feed, hd, hbyte, if_pos hb]

theorem feed_last
    {value low high : Nat} (hd : d.begun = some ⟨value, 0, low, high⟩)
    (hlow : low ≤ b) (hhigh : b ≤ high) (hlt : b < 0x100) :
    d.feed (UInt8.ofNat b) = d.push (Char.ofNat (value * 64 + (b - 0x80))) := by
  have hbyte := UInt8.toNat_ofNat_of_lt' hlt
  have hb : low ≤ b ∧ b ≤ high := ⟨hlow, hhigh⟩
  simp only [feed, hd, hbyte, if_pos hb]

end Decoder

/-! ## What a first byte begins -/

theorem begin?_two (hlow : 0xC2 ≤ b) (hhigh : b < 0xE0) :
    begin? b = some ⟨b - 0xC0, 0, 0x80, 0xBF⟩ := by
  have h : ¬b < 0xC2 := by omega
  rw [begin?, if_neg h, if_pos hhigh]

theorem begin?_three (hlow : 0xE0 ≤ b) (hhigh : b < 0xF0) :
    begin? b = some ⟨b - 0xE0, 1, if b = 0xE0 then 0xA0 else 0x80,
      if b = 0xED then 0x9F else 0xBF⟩ := by
  have h : ¬b < 0xC2 := by omega
  have h' : ¬b < 0xE0 := by omega
  rw [begin?, if_neg h, if_neg h', if_pos hhigh]

theorem begin?_four (hlow : 0xF0 ≤ b) (hhigh : b < 0xF5) :
    begin? b = some ⟨b - 0xF0, 2, if b = 0xF0 then 0x90 else 0x80,
      if b = 0xF4 then 0x8F else 0xBF⟩ := by
  have h : ¬b < 0xC2 := by omega
  have h' : ¬b < 0xE0 := by omega
  have h'' : ¬b < 0xF0 := by omega
  rw [begin?, if_neg h, if_neg h', if_neg h'', if_pos hhigh]

/-! ## One character -/

/-- The scalar values: the code points without the surrogates. -/
theorem toNat_scalar (c : Char) :
    c.toNat < 0xD800 ∨ 0xDFFF < c.toNat ∧ c.toNat < 0x110000 :=
  c.valid

namespace Decoder

theorem feed_two
    (hd : d.begun = none) (c : Char) (hlow : 0x80 ≤ c.toNat) (hhigh : c.toNat ≤ 0x7FF) :
    (d.feed (UInt8.ofNat (c.toNat / 64 % 0x20 + 0xC0))).feed
        (UInt8.ofNat (c.toNat % 0x40 + 0x80)) =
      d.push c := by
  have hbegin := begin?_two (b := c.toNat / 64 % 0x20 + 0xC0) (by omega) (by omega)
  rw [feed_first hd (by omega) (by omega) hbegin, feed_last rfl (by omega) (by omega) (by omega)]
  have hvalue : (c.toNat / 64 % 0x20 + 0xC0 - 0xC0) * 64 + (c.toNat % 0x40 + 0x80 - 0x80) =
      c.toNat := by omega
  simp only [hvalue, Char.ofNat_toNat]
  rfl

theorem feed_three
    (hd : d.begun = none) (c : Char) (hlow : 0x800 ≤ c.toNat) (hhigh : c.toNat ≤ 0xFFFF) :
    ((d.feed (UInt8.ofNat (c.toNat / 4096 % 0x10 + 0xE0))).feed
        (UInt8.ofNat (c.toNat / 64 % 0x40 + 0x80))).feed
        (UInt8.ofNat (c.toNat % 0x40 + 0x80)) =
      d.push c := by
  have hscalar := toNat_scalar c
  have hbegin := begin?_three (b := c.toNat / 4096 % 0x10 + 0xE0) (by omega) (by omega)
  rw [feed_first hd (by omega) (by omega) hbegin]
  -- The bounds on the second byte keep out long forms and surrogates, which no character has.
  rw [feed_middle (b := c.toNat / 64 % 0x40 + 0x80) rfl (by split <;> omega)
    (by split <;> omega) (by omega)]
  rw [feed_last rfl (by omega) (by omega) (by omega)]
  have hvalue : ((c.toNat / 4096 % 0x10 + 0xE0 - 0xE0) * 64 +
      (c.toNat / 64 % 0x40 + 0x80 - 0x80)) * 64 + (c.toNat % 0x40 + 0x80 - 0x80) =
      c.toNat := by omega
  simp only [hvalue, Char.ofNat_toNat]
  rfl

theorem feed_four
    (hd : d.begun = none) (c : Char) (hlow : 0x10000 ≤ c.toNat) :
    (((d.feed (UInt8.ofNat (c.toNat / 262144 % 0x08 + 0xF0))).feed
        (UInt8.ofNat (c.toNat / 4096 % 0x40 + 0x80))).feed
        (UInt8.ofNat (c.toNat / 64 % 0x40 + 0x80))).feed
        (UInt8.ofNat (c.toNat % 0x40 + 0x80)) =
      d.push c := by
  have hscalar := toNat_scalar c
  have hbegin := begin?_four (b := c.toNat / 262144 % 0x08 + 0xF0) (by omega) (by omega)
  rw [feed_first hd (by omega) (by omega) hbegin]
  rw [feed_middle (b := c.toNat / 4096 % 0x40 + 0x80) rfl (by split <;> omega)
    (by split <;> omega) (by omega)]
  rw [feed_middle (b := c.toNat / 64 % 0x40 + 0x80) rfl (by omega) (by omega) (by omega)]
  rw [feed_last rfl (by omega) (by omega) (by omega)]
  have hvalue : (((c.toNat / 262144 % 0x08 + 0xF0 - 0xF0) * 64 +
      (c.toNat / 4096 % 0x40 + 0x80 - 0x80)) * 64 +
      (c.toNat / 64 % 0x40 + 0x80 - 0x80)) * 64 + (c.toNat % 0x40 + 0x80 - 0x80) =
      c.toNat := by omega
  simp only [hvalue, Char.ofNat_toNat]
  rfl

/-- Between two characters the bytes of a character are read as that character. -/
theorem foldl_feed_encodeChar (hd : d.begun = none) (c : Char) :
    (String.utf8EncodeChar c).foldl feed d = d.push c := by
  have hval : c.val.toNat = c.toNat := rfl
  simp only [String.utf8EncodeChar, hval]
  split
  · next hone =>
      have hascii := feed_ascii hd (Nat.lt_succ_of_le hone)
      rw [Char.ofNat_toNat] at hascii
      exact hascii
  · next hone =>
      split
      · next htwo => exact feed_two hd c (by omega) htwo
      · next htwo =>
          split
          · next hthree => exact feed_three hd c (by omega) hthree
          · next hthree => exact feed_four hd c (by omega)

theorem foldl_feed_encode (hd : d.begun = none) (cs : List Char) :
    (cs.flatMap String.utf8EncodeChar).foldl feed d =
      ⟨cs.reverse ++ d.read, none, d.sound⟩ := by
  induction cs generalizing d with
  | nil =>
      obtain ⟨read, begun, sound⟩ := d
      obtain rfl : begun = none := hd
      rfl
  | cons c cs ih =>
      rw [List.flatMap_cons, List.foldl_append, foldl_feed_encodeChar hd, ih (push_begun d c)]
      simp [push]

end Decoder

/-! ## Texts -/

theorem decoder_encode (s : String) :
    decoder (encode s) = ⟨s.toList.reverse, none, true⟩ := by
  rw [decoder, encode, Decoder.foldl_feed_encode rfl]
  simp [Decoder.finish, Decoder.fresh]

/-- The bytes of a text are read as that text. -/
@[simp]
theorem decode_encode (s : String) : decode (encode s) = s := by
  rw [decode, decoder_encode, List.reverse_reverse, String.ofList_toList]

@[simp]
theorem encode_empty : encode "" = [] := rfl

@[simp]
theorem encode_append (s t : String) : encode (s ++ t) = encode s ++ encode t := by
  rw [encode, encode, encode, String.toList_append, List.flatMap_append]

/-! ## Behind a newline -/

namespace Decoder

/-- No ASCII character can go on with the character under way. -/
def BreaksAtAscii (d : Decoder) : Prop :=
  ∀ begun ∈ d.begun, 0x80 ≤ begun.low

theorem low_of_begin? {begun : Begun} (h : begin? b = some begun) : 0x80 ≤ begun.low := by
  unfold begin? at h
  split at h
  · cases h
  split at h
  · obtain rfl := Option.some.inj h
    simp only [Nat.le_refl]
  split at h
  · obtain rfl := Option.some.inj h
    dsimp only
    split
    · omega
    · omega
  split at h
  · obtain rfl := Option.some.inj h
    dsimp only
    split
    · omega
    · omega
  · cases h

theorem breaksAtAscii_of_begun_eq_none (d : Decoder) (h : d.begun = none) :
    d.BreaksAtAscii := by
  intro begun hbegun
  rw [h] at hbegun
  cases hbegun

theorem breaksAtAscii_start (d : Decoder) (b : Nat) : (d.start b).BreaksAtAscii := by
  unfold start
  split
  · exact breaksAtAscii_of_begun_eq_none _ rfl
  split
  · next next hnext =>
      intro begun hbegun
      obtain rfl := Option.some.inj hbegun
      exact low_of_begin? hnext
  · exact breaksAtAscii_of_begun_eq_none _ rfl

theorem breaksAtAscii_feed (d : Decoder) (byte : UInt8) : (d.feed byte).BreaksAtAscii := by
  unfold feed
  dsimp only
  split
  · exact breaksAtAscii_start d _
  split
  · split
    · exact breaksAtAscii_of_begun_eq_none _ rfl
    · intro begun hbegun
      obtain rfl := Option.some.inj hbegun
      simp only [Nat.le_refl]
  · exact breaksAtAscii_start d.fault _

theorem BreaksAtAscii.foldl {d : Decoder} (h : d.BreaksAtAscii) (bytes : List UInt8) :
    (bytes.foldl feed d).BreaksAtAscii := by
  induction bytes generalizing d with
  | nil => exact h
  | cons byte bytes ih => exact ih (breaksAtAscii_feed d byte)

/-- A newline ends the character under way, just as the end of the text does. -/
theorem BreaksAtAscii.feed_newline {d : Decoder} (h : d.BreaksAtAscii) :
    d.feed 10 = d.finish.push '\n' := by
  have hbyte : (10 : UInt8).toNat = 10 := rfl
  cases hbegun : d.begun with
  | none =>
      have hfeed : d.feed (UInt8.ofNat 10) = d.push (Char.ofNat 10) :=
        feed_ascii hbegun (by decide)
      have hfinish : d.finish = d := by simp only [finish, hbegun]
      rw [hfinish]
      exact hfeed
  | some begun =>
      have hlow : 0x80 ≤ begun.low := h begun hbegun
      have hout : ¬(begun.low ≤ 10 ∧ 10 ≤ begun.high) := by
        intro hin
        omega
      simp only [Decoder.feed, finish, hbegun, hbyte, if_neg hout]
      rfl

end Decoder

/-- Whatever the bytes before a newline make up, what stands behind it is read on its own. -/
theorem decode_append_newline (front : List UInt8) (s : String) :
    decode (front ++ 10 :: encode s) = decode front ++ "\n" ++ s := by
  have hfresh := Decoder.breaksAtAscii_of_begun_eq_none .fresh rfl
  have hnewline := (hfresh.foldl front).feed_newline
  have hbytes : (front ++ 10 :: encode s).foldl Decoder.feed .fresh =
      ⟨s.toList.reverse ++ ('\n' :: (decoder front).read), none,
        ((decoder front).push '\n').sound⟩ := by
    rw [List.foldl_append, List.foldl_cons, hnewline, encode,
      Decoder.foldl_feed_encode (Decoder.push_begun _ _)]
    rfl
  rw [decode, decoder, hbytes, decode]
  apply String.toList_injective
  simp [Decoder.finish]

/-! ## Bytes that make up a text -/

/-- Bytes with which a character begins, and what the decoder knows of the character. -/
inductive Begins : List UInt8 → Begun → Prop
  | first {byte : UInt8} {begun : Begun} :
      begin? byte.toNat = some begun → Begins [byte] begun
  | middle {bytes : List UInt8} {byte : UInt8} {begun : Begun} {more : Nat} :
      Begins bytes begun → begun.more = more + 1 →
      begun.low ≤ byte.toNat → byte.toNat ≤ begun.high →
        Begins (bytes ++ [byte]) ⟨begun.value * 64 + (byte.toNat - 0x80), more, 0x80, 0xBF⟩

section
variable {byte b₀ b₁ b₂ b₃ : UInt8} {bytes : List UInt8} {begun : Begun} {n : Nat}

theorem begin?_eq_some (h : begin? b = some begun) :
    begun = ⟨b - 0xC0, 0, 0x80, 0xBF⟩ ∧ 0xC2 ≤ b ∧ b < 0xE0 ∨
    begun = ⟨b - 0xE0, 1, if b = 0xE0 then 0xA0 else 0x80, if b = 0xED then 0x9F else 0xBF⟩ ∧
      0xE0 ≤ b ∧ b < 0xF0 ∨
    begun = ⟨b - 0xF0, 2, if b = 0xF0 then 0x90 else 0x80, if b = 0xF4 then 0x8F else 0xBF⟩ ∧
      0xF0 ≤ b ∧ b < 0xF5 := by
  unfold begin? at h
  split at h
  · cases h
  split at h
  · exact Or.inl ⟨(Option.some.inj h).symm, by omega, by omega⟩
  split at h
  · exact Or.inr (Or.inl ⟨(Option.some.inj h).symm, by omega, by omega⟩)
  split at h
  · exact Or.inr (Or.inr ⟨(Option.some.inj h).symm, by omega, by omega⟩)
  · cases h

/-- No character has more than four bytes. -/
theorem Begins.more_le (h : Begins bytes begun) : begun.more ≤ 2 := by
  induction h with
  | first h =>
      rcases begin?_eq_some h with ⟨rfl, -⟩ | ⟨rfl, -⟩ | ⟨rfl, -⟩
      · exact Nat.zero_le 2
      · exact Nat.le_succ 1
      · exact Nat.le_refl 2
  | middle _ hmore _ _ ih =>
      rw [hmore] at ih
      exact Nat.le_of_succ_le ih

theorem toNat_val_ofNat (h : n < 0xD800 ∨ 0xDFFF < n ∧ n < 0x110000) :
    (Char.ofNat n).val.toNat = n := by
  have hvalid : n.isValidChar := h
  rw [Char.ofNat, dif_pos hvalid]
  rfl

theorem eq_ofNat_of_toNat_eq (h : byte.toNat = n) : byte = UInt8.ofNat n := by
  rw [← h, UInt8.ofNat_toNat]

theorem encodeChar_one (hbyte : byte.toNat = n) (hhigh : n ≤ 0x7F) :
    String.utf8EncodeChar (Char.ofNat n) = [byte] := by
  have hval := toNat_val_ofNat (n := n) (by omega)
  simp only [String.utf8EncodeChar, hval]
  rw [if_pos hhigh, ← eq_ofNat_of_toNat_eq hbyte]

theorem encodeChar_two
    (h₀ : b₀.toNat = n / 64 + 0xC0) (h₁ : b₁.toNat = n % 0x40 + 0x80)
    (hlow : 0x80 ≤ n) (hhigh : n ≤ 0x7FF) :
    String.utf8EncodeChar (Char.ofNat n) = [b₀, b₁] := by
  have hval := toNat_val_ofNat (n := n) (by omega)
  have h₀ : b₀.toNat = n / 64 % 0x20 + 0xC0 := by omega
  simp only [String.utf8EncodeChar, hval]
  rw [if_neg (by omega), if_pos hhigh, ← eq_ofNat_of_toNat_eq h₀, ← eq_ofNat_of_toNat_eq h₁]

theorem encodeChar_three
    (h₀ : b₀.toNat = n / 4096 + 0xE0) (h₁ : b₁.toNat = n / 64 % 0x40 + 0x80)
    (h₂ : b₂.toNat = n % 0x40 + 0x80) (hlow : 0x800 ≤ n) (hhigh : n ≤ 0xFFFF)
    (hscalar : n < 0xD800 ∨ 0xDFFF < n) :
    String.utf8EncodeChar (Char.ofNat n) = [b₀, b₁, b₂] := by
  have hval := toNat_val_ofNat (n := n) (by omega)
  have h₀ : b₀.toNat = n / 4096 % 0x10 + 0xE0 := by omega
  simp only [String.utf8EncodeChar, hval]
  rw [if_neg (by omega), if_neg (by omega), if_pos hhigh, ← eq_ofNat_of_toNat_eq h₀,
    ← eq_ofNat_of_toNat_eq h₁, ← eq_ofNat_of_toNat_eq h₂]

theorem encodeChar_four
    (h₀ : b₀.toNat = n / 262144 + 0xF0) (h₁ : b₁.toNat = n / 4096 % 0x40 + 0x80)
    (h₂ : b₂.toNat = n / 64 % 0x40 + 0x80) (h₃ : b₃.toNat = n % 0x40 + 0x80)
    (hlow : 0x10000 ≤ n) (hhigh : n < 0x110000) :
    String.utf8EncodeChar (Char.ofNat n) = [b₀, b₁, b₂, b₃] := by
  have hval := toNat_val_ofNat (n := n) (by omega)
  have h₀ : b₀.toNat = n / 262144 % 0x08 + 0xF0 := by omega
  simp only [String.utf8EncodeChar, hval]
  rw [if_neg (by omega), if_neg (by omega), if_neg (by omega), ← eq_ofNat_of_toNat_eq h₀,
    ← eq_ofNat_of_toNat_eq h₁, ← eq_ofNat_of_toNat_eq h₂, ← eq_ofNat_of_toNat_eq h₃]

/-- The bytes from a first one to a last one are those of one character. -/
theorem Begins.last
    (h : Begins bytes begun) (hmore : begun.more = 0) (hlow : begun.low ≤ byte.toNat)
    (hhigh : byte.toNat ≤ begun.high) :
    bytes ++ [byte] =
      String.utf8EncodeChar (Char.ofNat (begun.value * 64 + (byte.toNat - 0x80))) := by
  generalize hn : begun.value * 64 + (byte.toNat - 0x80) = n
  symm
  cases h with
  | first h =>
      rcases begin?_eq_some h with ⟨rfl, hmin, hmax⟩ | ⟨rfl, -⟩ | ⟨rfl, -⟩
      · dsimp only at hn hlow hhigh
        exact encodeChar_two (by omega) (by omega) (by omega) (by omega)
      · cases hmore
      · cases hmore
  | @middle bytes b₁ begun more h hmore₁ hlow₁ hhigh₁ =>
      obtain rfl : more = 0 := hmore
      cases h with
      | @first b₀ _ h =>
          rcases begin?_eq_some h with ⟨rfl, -⟩ | ⟨rfl, hmin, hmax⟩ | ⟨rfl, -⟩
          · cases hmore₁
          · dsimp only at hn hlow hhigh hlow₁ hhigh₁
            -- The bounds on the second byte keep out long forms and surrogates.
            have hrange : b₀.toNat = n / 4096 + 0xE0 ∧ b₁.toNat = n / 64 % 0x40 + 0x80 ∧
                0x800 ≤ n ∧ n ≤ 0xFFFF ∧ (n < 0xD800 ∨ 0xDFFF < n) := by
              split at hlow₁ <;> split at hhigh₁ <;> omega
            obtain ⟨h₀, h₁, hleast, hgreatest, hscalar⟩ := hrange
            exact encodeChar_three h₀ h₁ (by omega) hleast hgreatest hscalar
          · cases hmore₁
      | @middle bytes b₁' begun more h hmore₂ hlow₂ hhigh₂ =>
          obtain rfl : more = 1 := hmore₁
          cases h with
          | @first b₀ _ h =>
              rcases begin?_eq_some h with ⟨rfl, -⟩ | ⟨rfl, -⟩ | ⟨rfl, hmin, hmax⟩
              · cases hmore₂
              · cases hmore₂
              · dsimp only at hn hlow hhigh hlow₁ hhigh₁ hlow₂ hhigh₂
                have hrange : b₀.toNat = n / 262144 + 0xF0 ∧
                    b₁'.toNat = n / 4096 % 0x40 + 0x80 ∧ 0x10000 ≤ n ∧ n < 0x110000 := by
                  split at hlow₂ <;> split at hhigh₂ <;> omega
                obtain ⟨h₀, h₁, hleast, hgreatest⟩ := hrange
                exact encodeChar_four h₀ h₁ (by omega) (by omega) hleast hgreatest
          | middle h hmore₃ _ _ =>
              have hmany := h.more_le
              dsimp only at hmore₂
              omega

end

namespace Decoder

/-- The bytes of the character under way, if there is one. -/
def Underway : Option Begun → List UInt8 → Prop
  | none, bytes => bytes = []
  | some begun, bytes => Begins bytes begun

/-- The bytes are those of the characters read so far, and then those of the one under way. -/
def Covers (d : Decoder) (bytes : List UInt8) : Prop :=
  ∃ back, Underway d.begun back ∧ bytes = d.read.reverse.flatMap String.utf8EncodeChar ++ back

section
variable {byte : UInt8} {bytes front : List UInt8}

theorem sound_of_start (h : (d.start b).sound = true) : d.sound = true := by
  unfold start at h
  split at h
  · exact h
  split at h
  · exact h
  · cases h

/-- A fault is not made good. -/
theorem sound_of_feed (h : (d.feed byte).sound = true) : d.sound = true := by
  unfold feed at h
  dsimp only at h
  split at h
  · exact sound_of_start h
  split at h
  · split at h
    · exact h
    · exact h
  · cases sound_of_start h

theorem sound_of_foldl (h : (bytes.foldl feed d).sound = true) : d.sound = true := by
  induction bytes generalizing d with
  | nil => exact h
  | cons byte bytes ih => exact sound_of_feed (ih h)

theorem Covers.push
    {back : List UInt8} {c : Char} (hback : back ++ [byte] = String.utf8EncodeChar c)
    (hbytes : bytes = d.read.reverse.flatMap String.utf8EncodeChar ++ back) :
    (d.push c).Covers (bytes ++ [byte]) := by
  refine ⟨[], rfl, ?_⟩
  rw [hbytes, List.append_assoc, hback]
  simp [Decoder.push]

/-- Each byte goes on with the character under way, or begins the next one behind it. -/
theorem Covers.feed (h : d.Covers bytes) (hsound : (d.feed byte).sound = true) :
    (d.feed byte).Covers (bytes ++ [byte]) := by
  obtain ⟨back, hback, hbytes⟩ := h
  obtain ⟨read, begun, sound⟩ := d
  cases begun with
  | none =>
      obtain rfl : back = [] := hback
      simp only [Decoder.feed, start] at hsound ⊢
      split
      · next hascii =>
          exact Covers.push (encodeChar_one rfl (Nat.le_of_lt_succ hascii)).symm hbytes
      · next hascii =>
          rw [if_neg hascii] at hsound
          split
          · next begun hbegin =>
              refine ⟨[byte], .first hbegin, ?_⟩
              rw [hbytes, List.append_nil]
          · next hnone =>
              rw [hnone] at hsound
              cases hsound
  | some begun =>
      have hbegins : Begins back begun := hback
      simp only [Decoder.feed] at hsound ⊢
      split
      · next hbounds =>
          split
          · next hmore => exact Covers.push (hbegins.last hmore hbounds.1 hbounds.2) hbytes
          · next more hmore =>
              refine ⟨back ++ [byte], .middle hbegins hmore hbounds.1 hbounds.2, ?_⟩
              rw [hbytes, List.append_assoc]
      · next hbounds =>
          rw [if_neg hbounds] at hsound
          cases sound_of_start hsound

theorem Covers.foldl
    (h : d.Covers front) (hsound : (bytes.foldl Decoder.feed d).sound = true) :
    (bytes.foldl Decoder.feed d).Covers (front ++ bytes) := by
  induction bytes generalizing d front with
  | nil =>
      rw [List.append_nil]
      exact h
  | cons byte bytes ih =>
      rw [List.append_cons]
      exact ih (h.feed (sound_of_foldl hsound)) hsound

end
end Decoder

/-- A text is read from its own bytes only. -/
theorem decode?_eq_some_iff {bytes : List UInt8} {text : String} :
    decode? bytes = some text ↔ bytes = encode text := by
  constructor
  · intro h
    unfold decode? at h
    split at h
    · next hsound =>
        have hfresh : Decoder.fresh.Covers [] := ⟨[], rfl, rfl⟩
        obtain rfl := Option.some.inj h
        rw [decoder, Decoder.finish] at hsound
        split at hsound
        · next hbegun =>
            obtain ⟨back, hback, hbytes⟩ := hfresh.foldl hsound
            rw [hbegun] at hback
            obtain rfl : back = [] := hback
            rw [List.nil_append, List.append_nil] at hbytes
            rw [decode, decoder, Decoder.finish, hbegun, encode, String.toList_ofList]
            exact hbytes
        · cases hsound
    · cases h
  · rintro rfl
    rw [decode?, decoder_encode, if_pos rfl, decode_encode]

end Utf8
end Text
end MetricsScript
