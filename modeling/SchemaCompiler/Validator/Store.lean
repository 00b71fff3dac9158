import SchemaCompiler.Validator.Basic

/-!
Named validators, which references are looked up in.

* `Validator.Store`: validators by name, and further names for them;
* `Store.get?`: the validator of a name, which may be a further name;
* `Store.names`: the names that can be looked up.
-/

namespace SchemaCompiler.Validator

/-- Named validators and further names for them. -/
structure Store where
  entries : Table Validator
  links : Table String

namespace Store

/-- The store without validators. -/
def empty : Store := ⟨[], []⟩

/-- Gives a name a validator. -/
def insert (store : Store) (name : String) (validator : Validator) : Store :=
  { store with entries := Table.insert store.entries name validator }

/-- Makes a name stand for another one. -/
def link (store : Store) (name target : String) : Store :=
  { store with links := Table.insert store.links name target }

/-- The validator of a name: its own, or that of the name it stands for. -/
def get? (store : Store) (name : String) : Option Validator :=
  match Table.get? store.entries name with
  | some validator => some validator
  | none => (Table.get? store.links name).bind (Table.get? store.entries)

/-- The name that a name stands for. -/
def canonicalName (store : Store) (name : String) : String :=
  (Table.get? store.links name).getD name

/-- The store of some schemas and further names. -/
def ofSchemas (registry : Registry) (schemas : Table Schema) (links : Table String) : Store :=
  ⟨Table.mapValues (Validator.ofSchema registry) (Table.ofEntries schemas), Table.ofEntries links⟩

/-- All names. -/
def names (store : Store) : List String := Table.keys store.entries ++ Table.keys store.links

theorem mem_names_of_get? {store : Store} {name : String} {validator : Validator}
    (h : store.get? name = some validator) : name ∈ store.names := by
  rw [names, List.mem_append]
  rw [get?] at h
  split at h
  · next found => exact .inl (Table.mem_keys_of_get? found)
  · cases linked : Table.get? store.links name with
    | none => simp [linked] at h
    | some target => exact .inr (Table.mem_keys_of_get? linked)

end Store

end SchemaCompiler.Validator
