import ShaderVariants.Text.Utf8

/-!
Decoding what was encoded.

The bytes of one character take the decoder from between two characters to between the next two
(`foldl_feed_char`), so encoded text is read back without a malformed part.
-/
namespace ShaderVariants.Utf8

variable {read : List (Option Char)} {pending : Pending} {lead rest : Nat}

theorem ofLead?_two : ∀ lead < 0x20, 2 ≤ lead →
    Pending.ofLead? (UInt8.ofNat (lead + 0xC0)) = some ⟨lead, 1, 0x80, 0xBF⟩ := by
  decide

/-- The second byte of three may not be of a shorter encoding, nor of a surrogate. -/
theorem ofLead?_three : ∀ lead < 0x10,
    Pending.ofLead? (UInt8.ofNat (lead + 0xE0)) =
      some ⟨lead, 2, if lead = 0 then 0xA0 else 0x80, if lead = 0xD then 0x9F else 0xBF⟩ := by
  decide

/-- The second byte of four may not be of a shorter encoding, nor of more than there are
characters. -/
theorem ofLead?_four : ∀ lead < 5,
    Pending.ofLead? (UInt8.ofNat (lead + 0xF0)) =
      some ⟨lead, 3, if lead = 0 then 0x90 else 0x80, if lead = 4 then 0x8F else 0xBF⟩ := by
  decide

theorem toNat_ofNat_add (small : rest < 0x40) :
    (UInt8.ofNat (rest + 0x80)).toNat = rest + 0x80 := by
  rw [UInt8.toNat_ofNat', Nat.mod_eq_of_lt (by omega)]

/-- No byte below 0x80 opens a sequence. -/
theorem ofLead?_ascii : ∀ code < 0x80, Pending.ofLead? (UInt8.ofNat code) = none := by
  decide

theorem feed_lead {byte : UInt8} (opens : Pending.ofLead? byte = some pending) :
    Decoder.feed ⟨read, none⟩ byte = ⟨read, some pending⟩ := by
  have outside : ¬ byte < 0x80 := by
    intro below
    have none_opened := ofLead?_ascii byte.toNat (UInt8.lt_iff_toNat_lt.mp below)
    rw [UInt8.ofNat_toNat, opens] at none_opened
    cases none_opened
  simp [Decoder.feed, Decoder.start, outside, opens]

/-- A byte within the bounds continues a sequence that is owed more than one. -/
theorem feed_more {value owed : Nat} {least greatest : UInt8} (small : rest < 0x40)
    (from_least : least.toNat ≤ rest + 0x80) (to_greatest : rest + 0x80 ≤ greatest.toNat) :
    Decoder.feed ⟨read, some ⟨value, owed + 2, least, greatest⟩⟩ (UInt8.ofNat (rest + 0x80)) =
      ⟨read, some ⟨value * 64 + rest, owed + 1, 0x80, 0xBF⟩⟩ := by
  have number := toNat_ofNat_add small
  have within : least ≤ UInt8.ofNat (rest + 0x80) ∧ UInt8.ofNat (rest + 0x80) ≤ greatest := by
    rw [UInt8.le_iff_toNat_le, UInt8.le_iff_toNat_le, number]
    exact ⟨from_least, to_greatest⟩
  have owed_more : owed + 2 ≠ 1 := by omega
  simp only [Decoder.feed, if_pos within, number, Nat.add_sub_cancel, if_neg owed_more]
  rfl

/-- The last byte that is owed ends the sequence. -/
theorem feed_last {value : Nat} (small : rest < 0x40) :
    Decoder.feed ⟨read, some ⟨value, 1, 0x80, 0xBF⟩⟩ (UInt8.ofNat (rest + 0x80)) =
      ⟨some (Char.ofNat (value * 64 + rest)) :: read, none⟩ := by
  have number := toNat_ofNat_add small
  have within : (0x80 : UInt8) ≤ UInt8.ofNat (rest + 0x80) ∧
      UInt8.ofNat (rest + 0x80) ≤ (0xBF : UInt8) := by
    rw [UInt8.le_iff_toNat_le, UInt8.le_iff_toNat_le, number]
    exact ⟨Nat.le_add_left 0x80 rest, Nat.add_le_add_right (Nat.le_of_lt_succ small) 0x80⟩
  simp only [Decoder.feed, if_pos within, number, Nat.add_sub_cancel, if_true]

theorem foldl_feed_char (read : List (Option Char)) (c : Char) :
    (String.utf8EncodeChar c).foldl Decoder.feed ⟨read, none⟩ = ⟨some c :: read, none⟩ := by
  have valid : c.toNat < 0xD800 ∨ (0xDFFF < c.toNat ∧ c.toNat < 0x110000) := c.valid
  have whole : Char.ofNat c.toNat = c := Char.ofNat_toNat c
  have small (n : Nat) : n % 64 < 0x40 := Nat.mod_lt n (by decide)
  unfold String.utf8EncodeChar
  simp only [Char.toNat_val]
  generalize c.toNat = value at valid whole
  split
  · next one =>
      have below : UInt8.ofNat value < 0x80 := by
        rw [UInt8.lt_iff_toNat_lt, UInt8.toNat_ofNat', Nat.mod_eq_of_lt (by omega)]
        exact Nat.lt_succ_of_le one
      have byte : (UInt8.ofNat value).toNat = value := by
        rw [UInt8.toNat_ofNat', Nat.mod_eq_of_lt (by omega)]
      simp [Decoder.feed, Decoder.start, below, byte, whole]
  · split
    · next more two =>
        have lead := ofLead?_two (value / 64 % 32) (Nat.mod_lt _ (by decide)) (by omega)
        have together : value / 64 % 32 * 64 + value % 64 = value := by omega
        simp only [List.foldl_cons, List.foldl_nil]
        rw [feed_lead lead, feed_last (small _), together, whole]
    · split
      · next more three =>
          have lead := ofLead?_three (value / 4096 % 16) (Nat.mod_lt _ (by decide))
          have together :
              (value / 4096 % 16 * 64 + value / 64 % 64) * 64 + value % 64 = value := by omega
          simp only [List.foldl_cons, List.foldl_nil]
          rw [feed_lead lead, feed_more (small _), feed_last (small _), together, whole]
          · split <;> simp only [UInt8.reduceToNat] <;> omega
          · split <;> simp only [UInt8.reduceToNat] <;> omega
      · next more =>
          have lead := ofLead?_four (value / 262144 % 8) (by omega)
          have together : ((value / 262144 % 8 * 64 + value / 4096 % 64) * 64 +
              value / 64 % 64) * 64 + value % 64 = value := by omega
          simp only [List.foldl_cons, List.foldl_nil]
          rw [feed_lead lead, feed_more (small _), feed_more (small _), feed_last (small _),
            together, whole]
          · exact Nat.le_add_left 0x80 _
          · exact Nat.add_le_add_right (Nat.le_of_lt_succ (small _)) 0x80
          · split <;> simp only [UInt8.reduceToNat] <;> omega
          · split <;> simp only [UInt8.reduceToNat] <;> omega

theorem parts_encode (text : Text) : parts (encode text) = text.map some := by
  have decoded (read : List (Option Char)) :
      (encode text).foldl Decoder.feed ⟨read, none⟩ = ⟨(text.map some).reverse ++ read, none⟩ := by
    induction text generalizing read with
    | nil => rfl
    | cons c rest ih =>
        rw [encode, List.flatMap_cons, List.foldl_append, foldl_feed_char, ← encode, ih]
        simp
  rw [parts, decoded]
  simp [Decoder.finish]

theorem decodeLossy_encode (text : Text) : decodeLossy (encode text) = text := by
  rw [decodeLossy, parts_encode, List.map_map]
  exact List.map_id text

theorem decode?_encode (text : Text) : decode? (encode text) = some text := by
  rw [decode?, parts_encode]
  induction text with
  | nil => rfl
  | cons c rest ih => simp [List.mapM_cons, ih]

end ShaderVariants.Utf8
