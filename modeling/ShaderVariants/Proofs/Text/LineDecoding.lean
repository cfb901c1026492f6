import ShaderVariants.Compiler.Output
import ShaderVariants.Proofs.Text.Utf8

/-!
Decoding line by line.

A line feed is no byte of a longer sequence: it ends every sequence that is under way, which is then
malformed, and it is read by itself (`feed_lineFeed`).  What has been read is never looked at again
(`foldl_feed_append`), so the bytes behind a line feed are read as if nothing stood ahead of them
(`decodeLossy_line`).  Nor does a longer sequence encode a line break: `Unbroken` is what keeps the
bytes of one line from being read as two.
-/
namespace ShaderVariants.Utf8

open CompilerOutput (lineFeed)

variable {line rest : Bytes} {byte : UInt8} {pending : Pending} {decoder : Decoder}
  {read : List (Option Char)}

theorem start_append (parts read : List (Option Char)) (byte : UInt8) :
    Decoder.start (parts ++ read) byte =
      ⟨(Decoder.start parts byte).parts ++ read, (Decoder.start parts byte).pending⟩ := by
  unfold Decoder.start
  split
  · rfl
  · cases Pending.ofLead? byte <;> rfl

theorem feed_append (parts read : List (Option Char)) (state : Option Pending) (byte : UInt8) :
    Decoder.feed ⟨parts ++ read, state⟩ byte =
      ⟨(Decoder.feed ⟨parts, state⟩ byte).parts ++ read,
        (Decoder.feed ⟨parts, state⟩ byte).pending⟩ := by
  cases state with
  | none => exact start_append parts read byte
  | some pending =>
      simp only [Decoder.feed]
      split
      · split <;> rfl
      · exact start_append (none :: parts) read byte

theorem foldl_feed_append (bytes : Bytes) (parts read : List (Option Char))
    (state : Option Pending) :
    bytes.foldl Decoder.feed ⟨parts ++ read, state⟩ =
      ⟨(bytes.foldl Decoder.feed ⟨parts, state⟩).parts ++ read,
        (bytes.foldl Decoder.feed ⟨parts, state⟩).pending⟩ := by
  induction bytes generalizing parts state with
  | nil => rfl
  | cons byte bytes ih =>
      rw [List.foldl_cons, List.foldl_cons, feed_append]
      exact ih _ _

theorem finish_append (parts read : List (Option Char)) (state : Option Pending) :
    Decoder.finish ⟨parts ++ read, state⟩ = read.reverse ++ Decoder.finish ⟨parts, state⟩ := by
  cases state <;> simp [Decoder.finish]

/-- A sequence that is never continued with a byte below 0x80, and whose value comes to more than
that of a line break. -/
structure Pending.Unbroken (pending : Pending) : Prop where
  least : 0x80 ≤ pending.least
  value : 0x10 ≤ pending.value * 64 + (pending.least.toNat - 0x80)

/-- No line break has been read, and none is under way. -/
structure Decoder.Unbroken (decoder : Decoder) : Prop where
  parts : some '\n' ∉ decoder.parts
  pending : ∀ pending ∈ decoder.pending, pending.Unbroken

theorem unbroken_of_ofLead? (opens : Pending.ofLead? byte = some pending) : pending.Unbroken := by
  have sound : ∀ code < 0x100, ∀ pending ∈ Pending.ofLead? (UInt8.ofNat code),
      0x80 ≤ pending.least ∧ 0x10 ≤ pending.value * 64 + (pending.least.toNat - 0x80) := by
    decide +kernel
  have opened : pending ∈ Pending.ofLead? (UInt8.ofNat byte.toNat) := by
    rw [UInt8.ofNat_toNat]
    exact opens
  obtain ⟨least, value⟩ := sound byte.toNat byte.toNat_lt pending opened
  exact ⟨least, value⟩

/-- From its second byte on a sequence has a value, however small. -/
theorem unbroken_of_positive {value owed : Nat} (positive : 0 < value) :
    Pending.Unbroken ⟨value, owed, 0x80, 0xBF⟩ where
  least := UInt8.le_refl 0x80
  value := by
    simp only [UInt8.reduceToNat]
    omega

theorem ofNat_ne_lineBreak {value : Nat} (other : value ≠ 0x0A) : Char.ofNat value ≠ '\n' := by
  intro same
  by_cases valid : value.isValidChar
  · rw [Char.ofNat, dif_pos valid] at same
    exact other (congrArg Char.toNat same)
  · rw [Char.ofNat, dif_neg valid] at same
    exact absurd same (by decide)

theorem start_unbroken (unbroken : some '\n' ∉ read) (other : byte ≠ lineFeed) :
    (Decoder.start read byte).Unbroken := by
  unfold Decoder.start
  split
  · have other_value : byte.toNat ≠ 0x0A := fun same => other (UInt8.toNat_inj.mp same)
    refine ⟨?_, by simp⟩
    simpa [unbroken] using (ofNat_ne_lineBreak other_value).symm
  · cases opens : Pending.ofLead? byte with
    | none => exact ⟨by simpa using unbroken, by simp⟩
    | some pending =>
        refine ⟨unbroken, ?_⟩
        rintro _ ⟨⟩
        exact unbroken_of_ofLead? opens

/-- No byte but a line feed brings a line break. -/
theorem Decoder.Unbroken.feed (unbroken : decoder.Unbroken) (other : byte ≠ lineFeed) :
    (decoder.feed byte).Unbroken := by
  obtain ⟨parts, state⟩ := decoder
  cases state with
  | none => exact start_unbroken unbroken.parts other
  | some pending =>
      have sequence := unbroken.pending pending rfl
      simp only [Decoder.feed]
      split
      · next within =>
          -- No byte within the bounds comes to less than the least one.
          have from_least : pending.least.toNat ≤ byte.toNat := UInt8.le_iff_toNat_le.mp within.1
          have enough := sequence.value
          split
          · have other_value : pending.value * 64 + (byte.toNat - 0x80) ≠ 0x0A := by omega
            refine ⟨?_, by simp⟩
            simpa [unbroken.parts] using (ofNat_ne_lineBreak other_value).symm
          · refine ⟨unbroken.parts, ?_⟩
            intro continued same
            rw [← Option.mem_some.mp same]
            exact unbroken_of_positive (by omega)
      · exact start_unbroken (by simpa using unbroken.parts) other

theorem foldl_feed_unbroken (bytes : lineFeed ∉ line) (unbroken : decoder.Unbroken) :
    (line.foldl Decoder.feed decoder).Unbroken := by
  induction line generalizing decoder with
  | nil => exact unbroken
  | cons byte line ih =>
      simp only [List.mem_cons, not_or] at bytes
      exact ih bytes.2 (unbroken.feed (Ne.symm bytes.1))

theorem read_unbroken (bytes : lineFeed ∉ line) :
    (line.foldl Decoder.feed {}).Unbroken :=
  foldl_feed_unbroken bytes ⟨List.not_mem_nil, by simp⟩

theorem Decoder.Unbroken.finish (unbroken : decoder.Unbroken) : some '\n' ∉ decoder.finish := by
  have parts := unbroken.parts
  obtain ⟨read, state⟩ := decoder
  cases state <;> simpa [Decoder.finish] using parts

theorem Decoder.Unbroken.feed_lineFeed (unbroken : decoder.Unbroken) :
    decoder.feed lineFeed = ⟨some '\n' :: decoder.finish.reverse, none⟩ := by
  obtain ⟨parts, state⟩ := decoder
  cases state with
  | none => simp [Decoder.feed, Decoder.start, Decoder.finish, lineFeed]
  | some pending =>
      have outside : ¬ (pending.least ≤ lineFeed ∧ lineFeed ≤ pending.greatest) := by
        rintro ⟨from_least, -⟩
        have continued := UInt8.le_trans (unbroken.pending pending rfl).least from_least
        exact absurd continued (by decide)
      simp only [Decoder.feed, if_neg outside]
      simp [Decoder.start, Decoder.finish, lineFeed]

theorem parts_line (bytes : lineFeed ∉ line) (rest : Bytes) :
    parts (line ++ lineFeed :: rest) = parts line ++ some '\n' :: parts rest := by
  have apart := foldl_feed_append rest [] (some '\n' :: (parts line).reverse) none
  rw [List.nil_append] at apart
  rw [parts, List.foldl_append, List.foldl_cons, (read_unbroken bytes).feed_lineFeed, ← parts,
    apart, finish_append, List.reverse_cons, List.reverse_reverse, List.append_assoc]
  rfl

theorem decodeLossy_line (bytes : lineFeed ∉ line) (rest : Bytes) :
    decodeLossy (line ++ lineFeed :: rest) = decodeLossy line ++ '\n' :: decodeLossy rest := by
  rw [decodeLossy, parts_line bytes, List.map_append, List.map_cons]
  rfl

theorem decodeLossy_unbroken (bytes : lineFeed ∉ line) : '\n' ∉ decodeLossy line := by
  intro broken
  obtain ⟨part, member, same⟩ := List.mem_map.mp broken
  have unbroken := (read_unbroken bytes).finish
  cases part with
  | none => exact absurd same (by decide)
  | some c =>
      rw [Option.getD_some] at same
      exact unbroken (same ▸ member)

theorem bytes_induction {motive : Bytes → Prop} (last : ∀ line, lineFeed ∉ line → motive line)
    (next : ∀ line rest, lineFeed ∉ line → motive rest → motive (line ++ lineFeed :: rest))
    (bytes : Bytes) : motive bytes := by
  by_cases broken : lineFeed ∈ bytes
  · obtain ⟨line, rest, split, unbroken⟩ := List.eq_append_cons_of_mem broken
    have shorter : rest.length < bytes.length := by
      rw [split, List.length_append, List.length_cons]
      omega
    exact split ▸ next line rest unbroken (bytes_induction last next rest)
  · exact last bytes broken
termination_by bytes.length

end ShaderVariants.Utf8
