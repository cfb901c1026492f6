import ShaderVariants.Path
import ShaderVariants.Stage
import ShaderVariants.Toml.Scalar

/-!
Typed reading of TOML values.

A record is read from a table, where its fields have names, or from an array, where they have
places.  Unknown names and surplus places are ignored.
-/
namespace ShaderVariants.Toml

inductive Fields where
  | named (entries : List (String × Value))
  | placed (items : List Value)

/-- A value read as a record.  A date-time counts as a table without any known field. -/
def Value.fields? : Value → Option Fields
  | .table entries => some (.named entries)
  | .array items => some (.placed items)
  | .dateTime _ => some (.named [])
  | _ => none

namespace Fields

def get? (fields : Fields) (place : Nat) (name : String) : Option Value :=
  match fields with
  | .named entries => entries.lookup name
  | .placed items => items[place]?

def getOr (fields : Fields) (place : Nat) (name : String) (default : α)
    (decode : Value → Option α) : Option α :=
  match fields.get? place name with
  | some value => decode value
  | none => some default

def optional (fields : Fields) (place : Nat) (name : String) (decode : Value → Option α) :
    Option (Option α) :=
  match fields.get? place name with
  | some value => (decode value).map some
  | none => some none

/-- A field that only a table may leave out. -/
def omissible (fields : Fields) (place : Nat) (name : String) (decode : Value → Option α) :
    Option (Option α) :=
  match fields, fields.get? place name with
  | _, some value => (decode value).map some
  | .named _, none => some none
  | .placed _, none => none

end Fields

namespace Value

def string? : Value → Option String
  | .string text => some text
  | _ => none

def path? (value : Value) : Option Path :=
  value.string?.map Path.mk

def natural? : Value → Option Nat
  | .integer value => if 0 ≤ value then some value.toNat else none
  | _ => none

/-- Whether a value says nothing: an empty table or an empty array. -/
def isBare : Value → Bool
  | .table entries => entries.isEmpty
  | .array items => items.isEmpty
  | _ => false

/-- One of several named choices: its name, or a table with the name as only key and nothing
under it. -/
def choice? (ofName? : String → Option α) : Value → Option α
  | .string name => ofName? name
  | .table [(name, content)] => if content.isBare then ofName? name else none
  | _ => none

def list? (decode : Value → Option α) : Value → Option (List α)
  | .array items => items.mapM decode
  | _ => none

def stage? : Value → Option Stage :=
  choice? Stage.ofName?

end Value

end ShaderVariants.Toml
