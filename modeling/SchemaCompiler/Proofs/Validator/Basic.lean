import SchemaCompiler.Proofs.Table
import SchemaCompiler.Schema.Names
import SchemaCompiler.Validator.Store

/-!
The validators of schemas.

* `Validator.ofSchemas_eq`, `Validator.ofProperties_eq`: the validators of members and of properties;
* `Store.get?_ofSchemas`: a component is looked up as its validator;
* `Validator.Linked`: names lead to validators of related schemas in two stores.
-/

namespace SchemaCompiler.Validator

lemma ofSchemas_eq (registry : Registry) (members : List Schema) :
    ofSchemas registry members = members.map (ofSchema registry) := by
  induction members with
  | nil => rfl
  | cons s rest ih => rw [ofSchemas, ih, List.map_cons]

lemma ofProperties_eq (registry : Registry) (required : List String)
    (properties : List (String × Schema)) :
    ofProperties registry required properties = properties.map fun entry =>
      ⟨entry.1, ofSchema registry entry.2, !required.contains entry.1⟩ := by
  induction properties with
  | nil => rfl
  | cons entry rest ih => rw [ofProperties, ih, List.map_cons]

/-- A component is looked up as its validator, whatever further names there are. -/
lemma Store.get?_ofSchemas {registry : Registry} {schemas : Table Schema}
    (distinct : (Table.keys schemas).Nodup) (links : Table String) {name : String} {s : Schema}
    (found : Table.get? schemas name = some s) :
    (ofSchemas registry schemas links).get? name = some (ofSchema registry s) := by
  rw [get?, ofSchemas, Table.ofEntries_eq_self distinct, Table.get?_mapValues, found]
  rfl

/-- Known names and what they become lead to validators of related schemas in two stores. -/
def Linked (registry : Registry) (f : Renaming) (known : String → Prop)
    (related : Schema → Schema → Prop) (store store' : Store) : Prop :=
  ∀ name, known name → ∃ s t, store.get? name = some (ofSchema registry s) ∧
    store'.get? (f.apply name) = some (ofSchema registry t) ∧ related s t

/-- The stores of two tables of related schemas are linked. -/
lemma linked_ofSchemas {registry : Registry} {f : Renaming} {related : Schema → Schema → Prop}
    {schemas schemas' : Table Schema} (distinct : (Table.keys schemas).Nodup)
    (distinct' : (Table.keys schemas').Nodup)
    (pair : ∀ name s, (name, s) ∈ schemas →
      ∃ t, Table.get? schemas' (f.apply name) = some t ∧ related s t)
    (links links' : Table String) :
    Linked registry f (· ∈ Table.keys schemas) related (.ofSchemas registry schemas links)
      (.ofSchemas registry schemas' links') := by
  intro name known
  obtain ⟨s, here⟩ := Table.exists_get?_iff.2 known
  obtain ⟨t, there, rel⟩ := pair name s (Table.mem_of_get? here)
  exact ⟨s, t, Store.get?_ofSchemas distinct links here, Store.get?_ofSchemas distinct' links' there,
    rel⟩

end SchemaCompiler.Validator
