import SchemaCompiler.Schema.Names

/-!
The references between the entries of a table of schemas.

* `ReferenceGraph.reached`: the entries that the references of an entry lead to;
* `ReferenceGraph.groups`: the sets of entries that lead to one another, each in table order;
* `ReferenceGraph.cycles`: the groups that lead back to themselves;
* `ReferenceGraph.emissionOrder`: all entries, each group after the entries that it refers to.
-/

namespace SchemaCompiler.ReferenceGraph

/-- The entries that an entry refers to. -/
def targets (table : Table Schema) (name : String) : List String :=
  match Table.get? table name with
  | some s => s.references.filter (Table.contains table)
  | none => []

/-- The names with the entries that these refer to. -/
def step (table : Table Schema) (names : List String) : List String :=
  (names ++ names.flatMap (targets table)).eraseDups

/-- The names after a number of steps. -/
def steps (table : Table Schema) : Nat → List String → List String
  | 0, names => names
  | n + 1, names => steps table n (step table names)

/-- The entries that one or more references lead to from an entry.  A way without repetition takes
fewer steps than there are entries. -/
def reached (table : Table Schema) (name : String) : List String :=
  steps table table.length (targets table name)

/-- For each entry the entries that it leads to. -/
def reachTable (table : Table Schema) : Table (List String) :=
  table.map fun (name, _) => (name, reached table name)

/-- Whether an entry leads to another one. -/
def leads (reach : Table (List String)) (source target : String) : Bool :=
  (Table.get? reach source).any (·.contains target)

/-- Whether two entries lead to one another, or are the same. -/
def together (reach : Table (List String)) (a b : String) : Bool :=
  a = b || (leads reach a b && leads reach b a)

/-- The groups of some entries, without those of entries that were there before. -/
def groupsOf (reach : Table (List String)) (all : List String) (before : List String) :
    List String → List (List String)
  | [] => []
  | name :: rest =>
    if before.any (together reach name) then groupsOf reach all (name :: before) rest
    else all.filter (together reach name) :: groupsOf reach all (name :: before) rest

/-- The sets of entries that lead to one another, by the place of their first entry. -/
def groups (table : Table Schema) : List (List String) :=
  groupsOf (reachTable table) (Table.keys table) [] (Table.keys table)

/-- Whether the entries of a group lead back to themselves. -/
def isCycle (table : Table Schema) (group : List String) : Bool :=
  match group with
  | [name] => (targets table name).contains name
  | _ => true

/-- The cycles of references. -/
def cycles (table : Table Schema) : List (List String) := (groups table).filter (isCycle table)

/-- Whether all that a group refers to outside of itself has been emitted. -/
def isReady (table : Table Schema) (emitted group : List String) : Bool :=
  group.all fun name =>
    (targets table name).all fun target => group.contains target || emitted.contains target

/-- The entries of groups after some that are emitted, each time those of the first group that is
ready. -/
def emit (table : Table Schema) (emitted : List String) (waiting : List (List String)) :
    List String :=
  match _ : waiting.find? (isReady table emitted) with
  | some group => emit table (emitted ++ group) (waiting.erase group)
  | none => emitted
termination_by waiting.length
decreasing_by
  have waits := List.mem_of_find?_eq_some ‹_›
  rw [List.length_erase_of_mem waits]
  exact Nat.sub_lt (List.length_pos_of_mem waits) Nat.one_pos

/-- All entries, so that an entry comes after those that it refers to unless they are in a cycle.
The groups stay in one piece, and of those that are ready the first one in the table goes first. -/
def emissionOrder (table : Table Schema) : List String := emit table [] (groups table)

end SchemaCompiler.ReferenceGraph
