import SchemaCompiler.Naming
import SchemaCompiler.ReferenceGraph
import SchemaCompiler.Schema.Canonical

/-!
Resolution of a table of schemas.

Schemas with one canonical form are merged into the first of them, until no two are left; the
schemas of routes are then added, those that are there already under the name that they have there.

* `Resolution`: the table in order of emission, the names that did not survive, and the cycles;
* `Resolution.merge`: the merging of a table;
* `Resolution.resolve`: resolution, which fails if a reference names no entry.
-/

namespace SchemaCompiler

/-- A resolved table. -/
structure Resolution where
  /-- The entries in order of emission. -/
  table : Table Schema
  /-- The names that did not survive, each with the entry that took its place. -/
  renames : Table String
  /-- The cycles of references, each in table order. -/
  cycles : List (List String)

namespace Resolution

/-- The entry that a name stands for. -/
def canonicalName (resolution : Resolution) (name : String) : String :=
  (Table.get? resolution.renames name).getD name

/-- The canonical form of a schema. -/
def canonical (s : Schema) : Except CompileError Canonical := Canonical.ofSchema s

/-- Renames the references of all entries. -/
def renameAll (f : Renaming) (table : Table Schema) : Table Schema :=
  Table.mapValues (Schema.rename f) table

/-- Changes the targets of renames by further ones. -/
def redirect (renames further : Table String) : Table String :=
  Table.mapValues (fun target => (Table.get? further target).getD target) renames

/-! ### Merging -/

/-- A name for each canonical form. -/
abbrev Forms := List (Canonical × String)

/-- The entries whose form an earlier entry has, each with that entry. -/
def duplicates (forms : Forms) : List (String × Schema) → Except CompileError (Table String)
  | [] => return []
  | (name, s) :: rest => do
    let form ← canonical s
    match forms.lookup form with
    | some first => return (name, first) :: (← duplicates forms rest)
    | none => duplicates ((form, name) :: forms) rest

/-- The renames that there were, with further ones, which those that there were follow. -/
def extendRenames (renames further : Table String) : Table String :=
  further.foldl (fun all entry => Table.insert all entry.1 entry.2) (redirect renames further)

/-- Merges round by round, as long as entries are merged into others. -/
def mergeRounds (table : Table Schema) (renames : Table String) :
    Except CompileError (Table Schema × Table String) := do
  let merged ← duplicates [] table
  let kept := table.filter fun (name, _) => !Table.contains merged name
  if _ : kept.length < table.length then
    mergeRounds (renameAll (.ofTable merged) kept) (extendRenames renames merged)
  else return (table, renames)
termination_by table.length
decreasing_by simpa only [renameAll, Table.mapValues, List.length_map]

/-- A table without two entries of one form, and the names of the entries that were merged into
others. -/
def merge (table : Table Schema) : Except CompileError (Table Schema × Table String) :=
  mergeRounds table []

/-! ### Schemas of routes -/

/-- How far the schemas of routes have been taken into a table. -/
structure Progress where
  table : Table Schema
  renames : Table String
  forms : Forms
  /-- The entries that were added, each with all names that it was added under. -/
  added : Table (List String)

/-- The names that are taken. -/
def Progress.used (progress : Progress) : List String :=
  Table.keys progress.table ++ Table.keys progress.renames

/-- Takes the schema of a route into the table. -/
def Progress.add (progress : Progress) (name : String) (candidate : Schema) :
    Except CompileError Progress := do
  let s := candidate.rename (.ofTable progress.renames)
  let form ← canonical s
  match progress.forms.lookup form with
  | some existing =>
    let added := match Table.get? progress.added existing with
      | some names => Table.insert progress.added existing (names ++ [name])
      | none => progress.added
    return { progress with added, renames := Table.insert progress.renames name existing }
  | none =>
    let free := Naming.unique progress.used name
    let renames :=
      if free = name then progress.renames else Table.insert progress.renames name free
    return {
      table := Table.insert progress.table free s
      renames
      forms := (form, free) :: progress.forms
      added := Table.insert progress.added free [name] }

/-- Takes the schemas of routes into the table. -/
def Progress.addAll (progress : Progress) : List (String × Schema) → Except CompileError Progress
  | [] => return progress
  | (name, candidate) :: rest => do (← progress.add name candidate).addAll rest

/-- The only code that an error can have, which stands at `error.code`. -/
def errorCode? (s : Schema) : Option String := do
  let rules ← s.object?
  let error ← (← Table.get? rules.properties "error").object?
  match (← Table.get? error.properties "code").kind with
  | .string ⟨_, some ⟨[code], _⟩⟩ => some code
  | _ => none

/-- Gives an entry another name. -/
def Progress.renameEntry (progress : Progress) (old new : String) : Progress :=
  let single : Table String := [(old, new)]
  let table := progress.table.map fun (name, s) => (if name = old then new else name, s)
  { progress with
    table := renameAll (.ofTable single) (Table.ofEntries table)
    renames := Table.insert (redirect progress.renames single) old new }

/-- Names an entry that stands for several schemas by the code of its error, if it has one. -/
def Progress.nameError (progress : Progress) (entry : String) (names : List String) : Progress :=
  let preferred := if names.length < 2 then none else
    ((Table.get? progress.table entry).bind errorCode?).bind Naming.errorSchema?
  match preferred with
  | none => progress
  | some preferred =>
    let name := Naming.unique (progress.used.filter (· ≠ entry)) preferred
    if name = entry then progress else progress.renameEntry entry name

/-! ### Resolution -/

/-- The first reference that names no entry. -/
def dangling? (table : Table Schema) : List (String × Schema) → Option CompileError
  | [] => none
  | (name, s) :: rest =>
    match s.references.find? fun target => !Table.contains table target with
    | some target => some (.danglingReference name target)
    | none => dangling? table rest

/-- The entries of some names in their order. -/
def ordered (table : Table Schema) (names : List String) : Table Schema :=
  names.filterMap fun name => (Table.get? table name).map (name, ·)

/-- Resolves the components of a document together with the schemas of its routes. -/
def resolve (components candidates : Table Schema) : Except CompileError Resolution := do
  let (table, renames) ← merge components
  let forms ← table.mapM fun (name, s) => return (← canonical s, name)
  let added ← Progress.addAll ⟨table, renames, forms, []⟩ candidates
  let named := added.added.foldl (fun progress (entry, names) => progress.nameError entry names) added
  match dangling? named.table named.table with
  | some error => throw error
  | none =>
    return {
      table := ordered named.table (ReferenceGraph.emissionOrder named.table)
      renames := named.renames
      cycles := ReferenceGraph.cycles named.table }

end Resolution

end SchemaCompiler
