import SchemaCompiler.Proofs.Emission
import SchemaCompiler.Proofs.Resolution.Candidates

/-!
Resolving a resolved table changes nothing.

After resolution no two entries have one canonical form, so that merging finds nothing, and the table
is in the order of its emission already.

* `Resolution.merge_of_apart`: merging keeps a table without two entries of one form;
* `Resolution.resolve_of_apart`: what resolution makes of such a table;
* `Resolution.resolve_resolved`: a resolved table is what it is resolved to.
-/

namespace SchemaCompiler.Resolution

variable {table : Table Schema}

/-! ### Merging -/

lemma Apart.formed (apart : Apart table) (distinct : (Table.keys table).Nodup) : Formed table :=
  fun name s mem =>
    have found := (Table.get?_eq_some_iff distinct).2 mem
    (apart name s name s found found).1

/-- Where no two entries have one form, no entry is a duplicate. -/
lemma duplicates_of_apart (distinct : (Table.keys table).Nodup) (apart : Apart table) :
    duplicates [] table = .ok [] := by
  obtain ⟨merged, ok⟩ := @exists_duplicates [] _ (apart.formed distinct)
  have search := duplicates_spec distinct ok
  cases merged with
  | nil => exact ok
  | cons head rest =>
      obtain ⟨⟨name, s⟩, mem, eq⟩ := List.mem_map.1 (search.among head.1 List.mem_cons_self)
      obtain ⟨form, own, placed⟩ := search.placed name s mem
      dsimp only at eq
      rw [eq] at mem placed
      have taken : Table.get? (head :: rest) head.1 = some head.2 :=
        (Table.get?_cons _ _ _ _).trans (if_pos rfl)
      rcases placed with ⟨alive, -⟩ | ⟨first, -, met | ⟨-, t, mem', alive, own'⟩⟩
      · cases taken.symm.trans alive
      · cases met
      · have same := (apart head.1 s first t ((Table.get?_eq_some_iff distinct).2 mem)
          ((Table.get?_eq_some_iff distinct).2 mem')).2 (own.trans own'.symm)
        rw [← same, taken] at alive
        cases alive

/-- Merging keeps a table without two entries of one form. -/
theorem merge_of_apart (distinct : (Table.keys table).Nodup) (apart : Apart table) :
    merge table = .ok (table, []) := by
  have all : table.filter (fun entry => !Table.contains ([] : Table String) entry.1) = table :=
    List.filter_eq_self.2 fun entry _ => rfl
  rw [merge, mergeRounds, duplicates_of_apart distinct apart]
  refine (dif_neg ?_).trans rfl
  rw [all]
  exact Nat.lt_irrefl _

/-! ### Resolution -/

lemma ordered_keys (distinct : (Table.keys table).Nodup) : ordered table (Table.keys table) = table := by
  rw [ordered, Table.keys, List.filterMap_map]
  refine (List.filterMap_congr fun entry mem => ?_).trans List.filterMap_some
  rw [Function.comp_apply, (Table.get?_eq_some_iff distinct).2 mem]
  rfl

/-- A table without two entries of one form, in which all references name entries, is only brought into
the order of emission. -/
theorem resolve_of_apart (distinct : (Table.keys table).Nodup) (apart : Apart table)
    (closed : ∀ name s, (name, s) ∈ table → ∀ target ∈ s.references, target ∈ Table.keys table) :
    resolve table [] = .ok ⟨ordered table (ReferenceGraph.emissionOrder table), [],
      ReferenceGraph.cycles table⟩ := by
  obtain ⟨forms, formed⟩ := exists_forms (apart.formed distinct)
  exact resolve_eq_ok_iff.2 ⟨table, [], forms, ⟨table, [], forms, []⟩, merge_of_apart distinct apart,
    formed, rfl, dangling?_eq_none_iff.2 closed, rfl⟩

/-- A resolved table is in its order of emission, and its entries refer to entries. -/
lemma emitted_of_resolve {components candidates : Table Schema} {resolution : Resolution}
    (distinct : (Table.keys (components ++ candidates)).Nodup)
    (ok : resolve components candidates = .ok resolution) :
    (Table.keys resolution.table).Nodup ∧
      Table.keys resolution.table = ReferenceGraph.emissionOrder resolution.table ∧
      ∀ name s, (name, s) ∈ resolution.table → ∀ target ∈ s.references,
        target ∈ Table.keys resolution.table := by
  obtain ⟨_, _, _, after, _, -, -, -, -, arranged, -⟩ := exists_grown_of_resolve distinct ok
  refine ⟨arranged.nodup, ?_, fun name s mem target refers => ?_⟩
  · rw [ReferenceGraph.emissionOrder_of_keys arranged.distinct arranged.get?_table arranged.keys_table,
      arranged.keys_table]
  · have there := (Table.get?_eq_some_iff arranged.nodup).2 mem
    rw [arranged.get?_table] at there
    rw [arranged.keys_table, (ReferenceGraph.emissionOrder_perm arranged.distinct).mem_iff]
    exact arranged.closed name s there target refers

/-- **Resolution is idempotent**: a resolved table is resolved to itself, in the same order, and no name
is changed. -/
theorem resolve_resolved {components candidates : Table Schema} {resolution : Resolution}
    (posed : Posed components candidates) (ok : resolve components candidates = .ok resolution) :
    resolve resolution.table [] =
      .ok ⟨resolution.table, [], ReferenceGraph.cycles resolution.table⟩ := by
  obtain ⟨distinct, keys, closed⟩ := emitted_of_resolve posed.distinct ok
  obtain ⟨progress, taken, -, entries, -⟩ := taken_of_resolve posed ok
  have apart : Apart resolution.table := by
    intro m s n t foundM foundN
    rw [entries] at foundM foundN
    exact taken.apart m s n t foundM foundN
  rw [resolve_of_apart distinct apart closed, ← keys, ordered_keys distinct]

/-- Three components, of which two are merged and the first comes last, and the schema of a route. -/
theorem resolve_resolved_pets :
    let components : Table Schema :=
      [("Owner", .mk (.reference "Dog") false), ("Cat", .mk .boolean false), ("Dog", .mk .boolean false)]
    let candidates : Table Schema := [("GetPet", .mk (.reference "Cat") false)]
    ∃ resolution, Posed components candidates ∧ resolve components candidates = .ok resolution ∧
      Table.keys resolution.table = ["Cat", "Owner"] ∧
      resolve resolution.table [] =
        .ok ⟨resolution.table, [], ReferenceGraph.cycles resolution.table⟩ := by
  intro components candidates
  have posed : Posed components candidates := by
    refine ⟨by decide, ?_⟩
    rintro name s target mem ⟨t, within, names⟩
    simp only [components, candidates, List.cons_append, List.nil_append, List.mem_cons,
      List.not_mem_nil, or_false, Prod.mk.injEq] at mem
    rcases mem with ⟨-, rfl⟩ | ⟨-, rfl⟩ | ⟨-, rfl⟩ | ⟨-, rfl⟩ <;> cases within with
    | self => cases names <;> decide
    | child among => cases among
  have found : (resolve components candidates).toOption.map (fun r => Table.keys r.table) =
      some ["Cat", "Owner"] := by decide +kernel
  cases ok : resolve components candidates with
  | error fault =>
      rw [ok] at found
      cases found
  | ok resolution =>
      rw [ok] at found
      exact ⟨resolution, posed, rfl, Option.some.inj found, resolve_resolved posed ok⟩

end SchemaCompiler.Resolution
