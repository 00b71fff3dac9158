import SchemaCompiler.Proofs.Compilation.Declarations
import SchemaCompiler.Proofs.Resolution.Candidates
import SchemaCompiler.Proofs.RoundTrip.Decompilation
import SchemaCompiler.Proofs.Validator.Externals

/-!
What a registry has to do with compiling a document.

A registry decides which names stand in the output.  Whether a document compiles, and with what fault if
it does not, is decided without it, and so are the verdicts of the validators.

* `Validator.issue?_registry`: the validators of a schema under two registries find the same issues;
* `Document.declares_of_compile`: every entry has its validator and its type;
* `Compilation.Indistinguishable`: compilations that validation does not tell apart;
* `Document.answers_compile`: those of a document under two registries are.
-/

namespace SchemaCompiler

/-- The validator of a schema finds the same issue with a value whatever is registered, each in the store
that goes with its registry. -/
theorem Validator.issue?_registry (registry registry' : Registry) (schemas : Table Schema)
    (links : Table String) (s : Schema) (value : Json) :
    (ofSchema registry s).issue? (.ofSchemas registry schemas links) value =
      (ofSchema registry' s).issue? (.ofSchemas registry' schemas links) value := by
  have bare : ∀ r : Registry, (ofSchema r s).issue? (.ofSchemas r schemas links) value =
      (ofSchema .empty s).issue? (.ofSchemas .empty schemas links) value := by
    intro r
    rw [issue?, issue?, ← issueAt?_stripped, stripped_ofSchema, Store.stripped_ofSchemas]
  rw [bare registry, bare registry']

/-- No two components that were read go by one name. -/
lemma Components.nodup_of_parseSchemas {components : Components} {table : Table Schema}
    (ok : components.parseSchemas = .ok table) : (Table.keys table).Nodup := by
  obtain ⟨entries, -, eq⟩ := bind_eq_ok_iff.1 ok
  cases eq
  exact Table.nodup_keys_ofEntries entries

namespace Document

variable {document : Document} {registry : Registry} {options : Options}

/-- Every entry of a compilation has its validator and its type. -/
theorem declares_of_compile {compilation : Compilation}
    (ok : document.compile registry options = .ok compilation) {name : String}
    (entry : name ∈ Table.keys compilation.table) : compilation.Declares registry name := by
  obtain ⟨components, built, compiled⟩ := compile_cases ok
  obtain ⟨candidates, fresh, resolved, -⟩ := routeTable_cases compiled.routed
  have distinct := Resolution.nodup_keys_of_resolve
    (nodup_inputs (Components.nodup_of_parseSchemas compiled.parsed) fresh) resolved
  obtain ⟨s, found⟩ := Table.exists_get?_iff.2 entry
  refine ⟨s, found, ?_, ?_⟩
  · rw [compiled.validators]
    exact Validator.Store.get?_ofSchemas distinct _ (compiled.table ▸ found)
  · rw [compiled.types, Table.get?_mapValues, ← compiled.table, found]
    rfl

end Document

/-- Two compilations of the same, up to the names that their validators and types are written with: the
validators of an entry find the same issue with every value, and they stand for one fragment. -/
structure Compilation.Indistinguishable (compilation compilation' : Compilation) : Prop where
  rest : compilation' = { compilation with
    validators := compilation'.validators
    types := compilation'.types
    externals := compilation'.externals }
  validators : ∀ name ∈ Table.keys compilation.table, ∃ v v',
    compilation.validators.get? name = some v ∧ compilation'.validators.get? name = some v' ∧
      (∀ value, v.issue? compilation.validators value = v'.issue? compilation'.validators value) ∧
      v.fragment = v'.fragment

namespace Document

/-- **A registry has no influence on validation.**  Under two registries a document has the same fault, or
it is compiled to tables whose entries have validators with the same issues and the same fragment. -/
theorem answers_compile (document : Document) (options : Options) (registry registry' : Registry) :
    Answers Compilation.Indistinguishable (document.compile registry options)
      (document.compile registry' options) := by
  cases ok : document.compile registry options with
  | error fault =>
      rw [compile_eq_error_iff.2 (compile_eq_error_iff.1 ok)]
      exact .error fault
  | ok compilation =>
      obtain ⟨version, components, built, parsed, routed, eq⟩ := compile_eq_ok_iff.1 ok
      have ok' : document.compile registry' options =
          .ok (assemble registry' components document.components.sanitized built) :=
        compile_eq_ok_iff.2 ⟨version, components, built, parsed, routed, rfl⟩
      rw [ok']
      subst eq
      refine .ok ⟨rfl, fun name entry => ?_⟩
      obtain ⟨s, here, own, -⟩ := declares_of_compile ok entry
      obtain ⟨s', there, own', -⟩ := declares_of_compile ok' entry
      obtain rfl := Option.some.inj (here.symm.trans there)
      refine ⟨_, _, own, own', Validator.issue?_registry registry registry' _ _ s, ?_⟩
      exact congrArg Schema.fragment (Validator.readBack_registry registry registry' s)

end Document

end SchemaCompiler
