import ShaderVariants.Text.Basic

/-!
UTF-8, decoded one byte at a time.

A `Decoder` remembers the sequence it is in the middle of.  `Decoder.feed` either extends that
sequence, or gives it up as one malformed part and starts afresh with the same byte, so the parts
given up are as long as they can be.  `parts` is the whole reading; `decode?` accepts it only
without malformed parts, and `decodeLossy` puts the replacement character in place of each.
-/
namespace ShaderVariants

abbrev Bytes := List UInt8

namespace Utf8

/-- An unfinished sequence: its value so far, how many bytes are owed, and the bounds of the next
one. -/
structure Pending where
  value : Nat
  owed : Nat
  least : UInt8
  greatest : UInt8
deriving DecidableEq, Repr

/-- What has been read, last part first; `none` stands for a malformed part. -/
structure Decoder where
  parts : List (Option Char) := []
  pending : Option Pending := none
deriving DecidableEq, Repr

/-- The sequence that a first byte of two or more opens. -/
def Pending.ofLead? (byte : UInt8) : Option Pending :=
  if 0xC2 ≤ byte ∧ byte ≤ 0xDF then some ⟨byte.toNat - 0xC0, 1, 0x80, 0xBF⟩
  else if byte = 0xE0 then some ⟨0, 2, 0xA0, 0xBF⟩
  else if byte = 0xED then some ⟨0xD, 2, 0x80, 0x9F⟩
  else if 0xE1 ≤ byte ∧ byte ≤ 0xEF then some ⟨byte.toNat - 0xE0, 2, 0x80, 0xBF⟩
  else if byte = 0xF0 then some ⟨0, 3, 0x90, 0xBF⟩
  else if 0xF1 ≤ byte ∧ byte ≤ 0xF3 then some ⟨byte.toNat - 0xF0, 3, 0x80, 0xBF⟩
  else if byte = 0xF4 then some ⟨4, 3, 0x80, 0x8F⟩
  else none

def Decoder.start (parts : List (Option Char)) (byte : UInt8) : Decoder :=
  if byte < 0x80 then ⟨some (Char.ofNat byte.toNat) :: parts, none⟩
  else
    match Pending.ofLead? byte with
    | some pending => ⟨parts, some pending⟩
    | none => ⟨none :: parts, none⟩

def Decoder.feed (decoder : Decoder) (byte : UInt8) : Decoder :=
  match decoder.pending with
  | none => Decoder.start decoder.parts byte
  | some pending =>
      if pending.least ≤ byte ∧ byte ≤ pending.greatest then
        let value := pending.value * 64 + (byte.toNat - 0x80)
        if pending.owed = 1 then ⟨some (Char.ofNat value) :: decoder.parts, none⟩
        else ⟨decoder.parts, some ⟨value, pending.owed - 1, 0x80, 0xBF⟩⟩
      else
        -- The sequence is given up without this byte, which begins anew.
        Decoder.start (none :: decoder.parts) byte

/-- Everything read, in order; a sequence cut short by the end is malformed. -/
def Decoder.finish (decoder : Decoder) : List (Option Char) :=
  match decoder.pending with
  | none => decoder.parts.reverse
  | some _ => (none :: decoder.parts).reverse

/-- The characters and the malformed parts of `bytes`, in order. -/
def parts (bytes : Bytes) : List (Option Char) :=
  (bytes.foldl Decoder.feed {}).finish

def decode? (bytes : Bytes) : Option Text :=
  (parts bytes).mapM id

/-- The text in `bytes`, with one replacement character for each malformed part. -/
def decodeLossy (bytes : Bytes) : Text :=
  (parts bytes).map (·.getD '\uFFFD')

def encode (text : Text) : Bytes :=
  text.flatMap String.utf8EncodeChar

end Utf8

end ShaderVariants
