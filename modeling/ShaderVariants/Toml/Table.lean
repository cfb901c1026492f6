import ShaderVariants.Toml.Scalar

/-!
Tables under construction.

While a document is read, a table remembers how it came to be, since that decides who may still add
to it: a table met on the way to a header may be defined later, one made by dotted keys may be
extended by dotted keys only, and a defined one is closed to both.
-/
namespace ShaderVariants.Toml

/-- How a table came to be. -/
inductive Origin where
  /-- Met on the way to a header. -/
  | passed
  /-- Made by a dotted key. -/
  | dotted
  /-- Named by a header. -/
  | defined
deriving DecidableEq, Repr

inductive Item where
  | value (value : Value)
  | table (origin : Origin) (entries : List (String × Item))
  | tables (elements : List (List (String × Item)))

/-- The keys of a table and what they stand for, in order. -/
abbrev Entries := List (String × Item)

namespace Entries

/-- `entries` with `item` in place of what `key` stood for, at the end if it stood for nothing. -/
def set (entries : Entries) (key : String) (item : Item) : Entries :=
  match entries with
  | [] => [(key, item)]
  | (other, old) :: rest => if other = key then (key, item) :: rest else (other, old) :: set rest key item

/-- Adds a value under a dotted key.  `dotted` tells whether the table at hand was made by dotted
keys; where a path of several parts ends it has to be, so that no header's table is extended from
outside. -/
def assignUnder (key : String) (value : Value) (dotted : Bool) :
    List String → Entries → Option Entries
  | [], entries =>
      if dotted && (entries.lookup key).isNone then some (entries ++ [(key, .value value)]) else none
  | part :: path, entries =>
      match entries.lookup part with
      | none => (assignUnder key value true path []).map fun inner => entries.set part (.table .dotted inner)
      | some (.value _) => none
      | some (.table .defined _) => none
      | some (.table origin inner) =>
          -- A table that was only passed may be entered, but not be where the path ends.
          (assignUnder key value (origin = .dotted) path inner).map fun inner =>
            entries.set part (.table origin inner)
      | some (.tables elements) =>
          match elements.reverse with
          | [] => none
          | last :: before =>
              (assignUnder key value false path last).map fun last =>
                entries.set part (.tables (last :: before).reverse)

def assign? (entries : Entries) (path : List String) (value : Value) : Option Entries :=
  match path.reverse with
  | [] => none
  | key :: [] => if (entries.lookup key).isNone then some (entries ++ [(key, .value value)]) else none
  | key :: before => assignUnder key value false before.reverse entries

def ofAssignments? (assignments : List (List String × Value)) : Option Entries :=
  assignments.foldlM (fun entries (path, value) => entries.assign? path value) []

/-- Replaces what the last part of `path` stands for; tables on the way are entered, arrays of
tables at their last element, and missing ones are made. -/
def define? (change : Option Item → Option Item) : List String → Entries → Option Entries
  | [], _ => none
  | [key], entries => (change (entries.lookup key)).map (entries.set key)
  | part :: path, entries =>
      match entries.lookup part with
      | none => (define? change path []).map fun inner => entries.set part (.table .passed inner)
      | some (.value _) => none
      | some (.table origin inner) =>
          (define? change path inner).map fun inner => entries.set part (.table origin inner)
      | some (.tables elements) =>
          match elements.reverse with
          | [] => none
          | last :: before =>
              (define? change path last).map fun last =>
                entries.set part (.tables (last :: before).reverse)

end Entries

mutual

/-- The value an item has once the document is complete. -/
def Item.toValue : Item → Value
  | .value value => value
  | .table _ entries => .table (Entries.values entries)
  | .tables elements => .array (Entries.valuesOfElements elements)

def Entries.values : List (String × Item) → List (String × Value)
  | [] => []
  | (key, item) :: rest => (key, item.toValue) :: Entries.values rest

def Entries.valuesOfElements : List (List (String × Item)) → List Value
  | [] => []
  | element :: rest => .table (Entries.values element) :: Entries.valuesOfElements rest

end

end ShaderVariants.Toml
