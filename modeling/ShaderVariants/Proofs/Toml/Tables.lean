import ShaderVariants.Proofs.Toml.Writing

/-!
Documents of plain tables: each table under its own header, with the values of its keys.

`parse?_of_written` reads such a document back as its tables.  The names of the tables have to be
different, and so have the keys of each; they are what the reader refuses to see twice.
-/
namespace ShaderVariants.Toml

/-- A table under a header, with one assignment for each of its keys. -/
structure PlainTable where
  name : String
  fields : List (String × Value)

/-- The assignment of one key. -/
def assigned (field : String × Value) : Statement :=
  .assign [field.1] field.2

namespace PlainTable

def keys (table : PlainTable) : List String :=
  table.fields.map (·.1)

def statements (table : PlainTable) : List Statement :=
  .table [table.name] :: table.fields.map assigned

def toSection (table : PlainTable) : Section :=
  ⟨.table [table.name], table.fields.map fun (key, value) => ([key], value)⟩

def items (table : PlainTable) : Entries :=
  table.fields.map fun (key, value) => (key, .value value)

/-- The table as the document holds it once its section has been read. -/
def entry (table : PlainTable) : String × Item :=
  (table.name, .table .defined table.items)

end PlainTable

variable {text : Text} {entries document : Entries} {tables : List PlainTable} {key : String}
  {item : Item} {header : Header} {assignments : List (List String × Value)}
  {later : List Statement}

theorem sections_assigns (fields : List (String × Value)) :
    sections header assignments (fields.map assigned ++ later) =
      sections header ((fields.map fun (key, value) => ([key], value)).reverse ++ assignments)
        later := by
  induction fields generalizing assignments with
  | nil => rfl
  | cons field fields ih =>
      rw [List.map_cons, List.cons_append, assigned, sections, ih, List.map_cons, List.reverse_cons,
        List.append_assoc, List.singleton_append]

theorem sections_tables (tables : List PlainTable) :
    sections header assignments (tables.flatMap PlainTable.statements) =
      ⟨header, assignments.reverse⟩ :: tables.map PlainTable.toSection := by
  induction tables generalizing header assignments with
  | nil => rfl
  | cons table tables ih =>
      rw [List.flatMap_cons, PlainTable.statements, List.cons_append, sections, sections_assigns,
        ih, List.append_nil, List.reverse_reverse]
      rfl

theorem lookup_of_not_mem (fresh : key ∉ entries.map (·.1)) : entries.lookup key = none := by
  rw [List.lookup_eq_none_iff]
  intro entry member
  rw [bne_iff_ne]
  rintro rfl
  exact fresh (List.mem_map_of_mem member)

theorem set_of_not_mem (fresh : key ∉ entries.map (·.1)) :
    entries.set key item = entries ++ [(key, item)] := by
  induction entries with
  | nil => rfl
  | cons entry entries ih =>
      rw [List.map_cons, List.mem_cons, not_or] at fresh
      obtain ⟨other, old⟩ := entry
      rw [Entries.set, if_neg (Ne.symm fresh.1), ih fresh.2, List.cons_append]

theorem fill?_cons (path : List String) (value : Value) :
    fill? entries ((path, value) :: assignments) =
      (entries.assign? path value).bind fun entries => fill? entries assignments := by
  rfl

theorem fill?_fields (fields : List (String × Value))
    (distinct : (entries.map (·.1) ++ fields.map (·.1)).Nodup) :
    fill? entries (fields.map fun (key, value) => ([key], value)) =
      some (entries ++ fields.map fun (key, value) => (key, .value value)) := by
  induction fields generalizing entries with
  | nil => simp [fill?]
  | cons field fields ih =>
      obtain ⟨key, value⟩ := field
      have fresh : key ∉ entries.map (·.1) := fun member =>
        (List.nodup_append.mp distinct).2.2 key member key List.mem_cons_self rfl
      have assigned : entries.assign? [key] value = some (entries ++ [(key, .value value)]) := by
        simp [Entries.assign?, lookup_of_not_mem fresh]
      have remaining := @ih (entries ++ [(key, .value value)]) (by simpa using distinct)
      rw [List.map_cons, fill?_cons, assigned, Option.bind_some, remaining, List.append_assoc]
      rfl

theorem place?_table (table : PlainTable) (fresh : table.name ∉ document.map (·.1))
    (distinct : table.keys.Nodup) :
    place? document table.toSection = some (document ++ [table.entry]) := by
  have filled : fill? [] table.toSection.assignments = some table.items :=
    fill?_fields table.fields distinct
  simp only [PlainTable.toSection] at filled ⊢
  simp only [place?]
  rw [Entries.define?.eq_2, lookup_of_not_mem fresh]
  simp only [filled, Option.map_some, set_of_not_mem fresh]
  rfl

theorem place?_tables (tables : List PlainTable)
    (names : (document.map (·.1) ++ tables.map (·.name)).Nodup)
    (keys : ∀ table ∈ tables, table.keys.Nodup) :
    (tables.map PlainTable.toSection).foldlM place? document =
      some (document ++ tables.map PlainTable.entry) := by
  induction tables generalizing document with
  | nil => simp
  | cons table tables ih =>
      have fresh : table.name ∉ document.map (·.1) := fun member =>
        (List.nodup_append.mp names).2.2 table.name member table.name List.mem_cons_self rfl
      obtain ⟨first, others⟩ := List.forall_mem_cons.mp keys
      rw [List.map_cons, List.foldlM_cons, place?_table table fresh first, Option.bind_eq_bind,
        Option.bind_some, ih (by simpa [PlainTable.entry] using names) others, List.map_cons,
        List.append_assoc, List.singleton_append]

theorem values_items (table : PlainTable) : Entries.values table.items = table.fields := by
  obtain ⟨name, fields⟩ := table
  induction fields with
  | nil => rfl
  | cons field fields ih =>
      simp only [PlainTable.items] at ih
      simp [PlainTable.items, Entries.values, Item.toValue, ih]

theorem values_entries (tables : List PlainTable) :
    Entries.values (tables.map PlainTable.entry) =
      tables.map fun table => (table.name, .table table.fields) := by
  induction tables with
  | nil => rfl
  | cons table tables ih =>
      rw [List.map_cons, PlainTable.entry, Entries.values, Item.toValue, values_items, ih,
        List.map_cons]

theorem Written.withoutMark_eq (written : Written text later) : withoutMark text = text := by
  cases written with
  | done => rfl
  | blank rest => rfl
  | comment ordinary rest => rfl
  | table bare rest => rfl
  | assign bare written rest =>
      obtain ⟨first, others, rfl, differs⟩ := bare.exists_first
      exact withoutMark.eq_2 _ fun later same => differs '\uFEFF' rfl (List.cons.inj same).1

theorem parse?_of_written (written : Written text (tables.flatMap PlainTable.statements))
    (names : (tables.map (·.name)).Nodup) (keys : ∀ table ∈ tables, table.keys.Nodup) :
    parse? text = some (tables.map fun table => (table.name, .table table.fields)) := by
  have placed : (sections .top [] (tables.flatMap PlainTable.statements)).foldlM place? [] =
      some (tables.map PlainTable.entry) := by
    rw [sections_tables, List.foldlM_cons]
    exact place?_tables tables names keys
  rw [parse?, written.withoutMark_eq]
  simp [statements?_of_written written (Nat.lt_succ_self _), placed, values_entries]

end ShaderVariants.Toml
