import SchemaCompiler.Proofs.Emission.Order
import SchemaCompiler.Proofs.Resolution.Idempotence
import SchemaCompiler.Proofs.Resolution.Order

/-!
The cycles of references in a resolved table.

The cycles that are reported are those of the resolved table, each of them as a run of its entries.
They come in the order that their first entries have among the components, which is not always that of
the resolved table: a cycle that waits for a later one comes after it there.  So a second resolution
reports the same cycles, but it may list them in another order.

* `ReferenceGraph.IsCycle`, `ReferenceGraph.mem_cycles_iff`: the cycles of a table;
* `ReferenceGraph.cycles_of_keys`: a table with the same entries in order of emission has the same
  cycles;
* `Resolution.cycles_of_resolve`: what is reported of a resolved table, and what is reported when it is
  resolved again.
-/

namespace SchemaCompiler

namespace ReferenceGraph

variable {table other : Table Schema}

/-! ### The cycles of a table -/

/-- Two or more entries that references lead to from one another, all of them, or an entry that refers
to itself. -/
def IsCycle (table : Table Schema) (group : List String) : Prop :=
  IsComponent table group ∧ (2 ≤ group.length ∨ ∃ a, group = [a] ∧ Refers table a a)

/-- Of two sets of entries one at most is the earlier. -/
lemma Earlier.asymm {group later : List String} (inhabited : group ≠ []) (inhabited' : later ≠ [])
    (earlier : Earlier table group later) : ¬Earlier table later group := by
  obtain ⟨a, rest, rfl⟩ := List.exists_cons_of_ne_nil inhabited
  obtain ⟨b, rest', rfl⟩ := List.exists_cons_of_ne_nil inhabited'
  exact fun back => Nat.lt_asymm (earlier a rfl b rfl) (back b rfl a rfl)

/-- No entry of a component comes before its first one. -/
lemma IsComponent.notMem_before {before after : Table Schema} {a : String} {s : Schema}
    {rest : List String} (component : IsComponent table (a :: rest))
    (distinct : (Table.keys table).Nodup) (split : table = before ++ (a, s) :: after) {b : String}
    (mem : b ∈ a :: rest) : b ∉ Table.keys before := by
  have keys : Table.keys table = Table.keys before ++ a :: Table.keys after := by
    simp [split, Table.keys]
  have apart : (Table.keys before).Disjoint (a :: Table.keys after) :=
    List.disjoint_of_nodup_append (keys ▸ distinct)
  have ordered := component.ordered
  rw [keys, List.sublist_append_iff] at ordered
  obtain ⟨early, late, eq, sub, sub'⟩ := ordered
  cases early with
  | nil =>
      rw [eq] at mem
      exact fun there => apart there (sub'.subset mem)
  | cons first early =>
      obtain rfl := (List.cons.inj eq).1
      exact absurd List.mem_cons_self (apart (sub.subset List.mem_cons_self))

section Closed

variable (distinct : (Table.keys table).Nodup)
  (closed : ∀ a b, Refers table a b → b ∈ Table.keys table)

include distinct closed

/-- The groups are the strongly connected components. -/
theorem mem_groups_iff {group : List String} : group ∈ groups table ↔ IsComponent table group := by
  refine ⟨isComponent_of_mem_groups closed, fun component => ?_⟩
  obtain ⟨a, within⟩ := List.exists_mem_of_ne_nil group component.inhabited
  obtain ⟨found, mem, here⟩ := exists_group (component.ordered.subset within)
  have own := isComponent_of_mem_groups closed mem
  have same : group.Perm found := by
    refine (List.perm_ext_iff_of_nodup (component.ordered.nodup distinct)
      (own.ordered.nodup distinct)).2 fun b => ?_
    rw [component.members a within, own.members a here]
  rwa [(distinct.perm_iff_eq_of_sublist component.ordered own.ordered).1 same]

lemma nodup_groups : (groups table).Nodup := by
  refine (pairwise_earlier_groups distinct).imp_of_mem fun mem _ earlier eq => ?_
  have inhabited := (isComponent_of_mem_groups closed mem).inhabited
  subst eq
  exact earlier.asymm inhabited inhabited earlier

/-- The cycles of a table are its cyclic components. -/
theorem mem_cycles_iff {group : List String} : group ∈ cycles table ↔ IsCycle table group := by
  rw [cycles, List.mem_filter, mem_groups_iff distinct closed, IsCycle]
  refine and_congr_right fun component => ?_
  match group with
  | [] => exact absurd rfl component.inhabited
  | [a] => simp [isCycle, mem_targets_iff closed]
  | _ :: _ :: _ => simp [isCycle]

lemma nodup_cycles : (cycles table).Nodup := (nodup_groups distinct closed).filter _

/-- Two entries are in one cycle if one refers to the other and they are in one component. -/
lemma exists_isCycle {a b : String} (refers : Refers table a b) (both : Mutual table a b) :
    ∃ cycle, IsCycle table cycle ∧ a ∈ cycle ∧ b ∈ cycle := by
  obtain ⟨s, found, -⟩ := id refers
  obtain ⟨group, mem, here⟩ := exists_group (Table.mem_keys_of_get? found)
  have component := (mem_groups_iff distinct closed).1 mem
  have there : b ∈ group := (component.members a here b).2 ⟨closed a b refers, both⟩
  refine ⟨group, ⟨component, ?_⟩, here, there⟩
  match group with
  | [] => cases here
  | [c] =>
      obtain rfl := List.mem_singleton.1 here
      obtain rfl := List.mem_singleton.1 there
      exact .inr ⟨_, rfl, refers⟩
  | _ :: _ :: _ => exact .inl (Nat.le_add_left 2 _)

/-- The first entry of a cycle refers to one of its entries. -/
lemma IsCycle.refers_head {a : String} {rest : List String} (cycle : IsCycle table (a :: rest)) :
    ∃ b ∈ a :: rest, Refers table a b := by
  obtain ⟨component, (long | ⟨b, eq, refers⟩)⟩ := cycle
  · obtain ⟨b, mem⟩ := List.exists_mem_of_length_pos (Nat.lt_of_succ_lt_succ long)
    have own := component.members a List.mem_cons_self
    obtain ⟨-, there, back⟩ := (own b).1 (List.mem_cons_of_mem _ mem)
    rcases there.cases_head with rfl | ⟨c, refers, onward⟩
    · exact absurd mem (List.nodup_cons.1 (component.ordered.nodup distinct)).1
    · have both : Mutual table a c := ⟨.single refers, onward.trans back⟩
      exact ⟨c, (own c).2 ⟨closed a c refers, both⟩, refers⟩
  · cases eq
    exact ⟨a, List.mem_cons_self, refers⟩

end Closed

/-- A table with the same entries in order of emission has the same cycles. -/
theorem cycles_of_keys (distinct : (Table.keys table).Nodup)
    (same : ∀ name, Table.get? other name = Table.get? table name)
    (keys : Table.keys other = emissionOrder table) : (cycles other).Perm (cycles table) := by
  have alike : isCycle other = isCycle table := by
    funext group
    rw [isCycle.eq_def, isCycle.eq_def, targets_congr same]
  rw [cycles, cycles, alike]
  exact (groups_of_keys distinct same keys).2.1.filter _

end ReferenceGraph

namespace Resolution

open ReferenceGraph

variable {table components candidates : Table Schema} {resolution : Resolution}

/-! ### The cycles of a resolved table -/

section Arranged

variable (arranged : Arranged table resolution)

include arranged

/-- In a resolved table references lead to entries. -/
lemma Arranged.refers_known (a b : String) (refers : Refers resolution.table a b) :
    b ∈ Table.keys resolution.table := by
  obtain ⟨s, found, mem⟩ := refers
  rw [arranged.get?_table] at found
  rw [arranged.keys_table, (emissionOrder_perm arranged.distinct).mem_iff]
  exact arranged.closed a s found b mem

lemma Arranged.cycles_perm : (ReferenceGraph.cycles resolution.table).Perm resolution.cycles := by
  rw [arranged.cycles]
  exact cycles_of_keys arranged.distinct arranged.get?_table arranged.keys_table

/-- The cycles that are reported are those of the resolved table. -/
theorem Arranged.mem_cycles_iff {cycle : List String} :
    cycle ∈ resolution.cycles ↔ IsCycle resolution.table cycle := by
  rw [← arranged.cycles_perm.mem_iff]
  exact ReferenceGraph.mem_cycles_iff arranged.nodup arranged.refers_known

lemma Arranged.nodup_cycles : resolution.cycles.Nodup :=
  arranged.cycles_perm.nodup_iff.1 (ReferenceGraph.nodup_cycles arranged.nodup arranged.refers_known)

/-- A list of the cycles is that of the table if it is in the order of the table. -/
lemma Arranged.cycles_eq_iff :
    ReferenceGraph.cycles resolution.table = resolution.cycles ↔
      resolution.cycles.Pairwise (Earlier resolution.table) := by
  have sorted : (ReferenceGraph.cycles resolution.table).Pairwise (Earlier resolution.table) :=
    (pairwise_earlier_groups arranged.nodup).sublist List.filter_sublist
  refine ⟨fun eq => eq ▸ sorted, fun sorted' => ?_⟩
  refine arranged.cycles_perm.eq_of_pairwise (fun group later mem mem' earlier back => ?_) sorted sorted'
  have inhabited := (ReferenceGraph.mem_cycles_iff arranged.nodup arranged.refers_known).1 mem
  have inhabited' := arranged.mem_cycles_iff.1 mem'
  exact absurd back (earlier.asymm inhabited.1.inhabited inhabited'.1.inhabited)

end Arranged

/-- A resolved table comes from a table in which no two entries have one form, and in which the entries
come in the order of the components. -/
lemma exists_apart_of_resolve (distinct : (Table.keys components).Nodup)
    (ok : resolve components [] = .ok resolution) :
    ∃ table, Arranged table resolution ∧ Apart table ∧
      (Table.keys table).Pairwise fun a b =>
        (Table.keys components).idxOf a < (Table.keys components).idxOf b := by
  obtain ⟨table, renames, forms, added, merging, -, adding, closed, rfl⟩ := resolve_eq_ok_iff.1 ok
  cases adding
  obtain ⟨merged, apart⟩ := merged_of_merge distinct merging
  let precedes : String → String → Prop := fun a b =>
    (Table.keys components).idxOf a < (Table.keys components).idxOf b
  have initial : Ordered precedes components [] := ⟨pairwise_idxOf distinct, nofun⟩
  have trans : ∀ a b c, precedes a b → precedes b c → precedes a c := fun _ _ _ => Nat.lt_trans
  have ordered := mergeRounds_ordered trans initial (.initial distinct) merging
  refine ⟨table, ⟨merged.distinct, fun name s found => ?_, rfl, rfl⟩, apart, ordered.pairwise⟩
  exact dangling?_eq_none_iff.1 closed name s (Table.mem_of_get? found)

/-- A resolved table is resolved to itself, with its cycles in its own order. -/
lemma Arranged.resolve_table (arranged : Arranged table resolution) (apart : Apart table) :
    resolve resolution.table [] =
      .ok ⟨resolution.table, [], ReferenceGraph.cycles resolution.table⟩ := by
  have apart' : Apart resolution.table := by
    intro m s n t foundM foundN
    rw [arranged.get?_table] at foundM foundN
    exact apart m s n t foundM foundN
  have closed : ∀ name s, (name, s) ∈ resolution.table → ∀ target ∈ s.references,
      target ∈ Table.keys resolution.table := fun name s mem target refers =>
    arranged.refers_known name target ⟨s, (Table.get?_eq_some_iff arranged.nodup).2 mem, refers⟩
  have order := emissionOrder_of_keys arranged.distinct arranged.get?_table arranged.keys_table
  rw [resolve_of_apart arranged.nodup apart' closed, order, ← arranged.keys_table,
    ordered_keys arranged.nodup]

/-- **The cycles that are reported.**  They are the cycles of the resolved table, each once and in table
order, by the places of their first entries among the components.  When the resolved table is resolved
again the same cycles are reported, now by the places of their first entries in it; the lists are equal
if and only if the first one was in that order already. -/
theorem cycles_of_resolve (distinct : (Table.keys components).Nodup)
    (ok : resolve components [] = .ok resolution) :
    (∀ cycle, cycle ∈ resolution.cycles ↔ IsCycle resolution.table cycle) ∧
      resolution.cycles.Nodup ∧ resolution.cycles.Pairwise (Earlier components) ∧
      ∃ again, resolve resolution.table [] = .ok again ∧ again.table = resolution.table ∧
        again.cycles.Perm resolution.cycles ∧ again.cycles.Pairwise (Earlier resolution.table) ∧
        (again.cycles = resolution.cycles ↔
          resolution.cycles.Pairwise (Earlier resolution.table)) := by
  obtain ⟨table, arranged, apart, sorted⟩ := exists_apart_of_resolve distinct ok
  refine ⟨fun cycle => arranged.mem_cycles_iff, arranged.nodup_cycles, ?_, _,
    arranged.resolve_table apart, rfl, arranged.cycles_perm, ?_, arranged.cycles_eq_iff⟩
  · rw [arranged.cycles]
    exact (pairwise_heads_groups sorted).sublist List.filter_sublist
  · exact (pairwise_earlier_groups arranged.nodup).sublist List.filter_sublist

/-- Two self-references, of which the first one also refers to the second. -/
def rings : Table Schema :=
  [("Outer", .mk (.union .anyOf [.ofName "Outer", .ofName "Inner"] none false) false),
    ("Inner", .mk (.union .anyOf [.ofName "Inner", .mk .boolean false] none false) false)]

theorem cycles_of_resolve_rings :
    ∃ resolution, resolve rings [] = .ok resolution ∧
      (∀ cycle, cycle ∈ resolution.cycles ↔ IsCycle resolution.table cycle) ∧
      resolution.cycles.Pairwise (Earlier rings) ∧
      ∃ again, resolve resolution.table [] = .ok again ∧
        again.cycles.Pairwise (Earlier resolution.table) := by
  have found : (resolve rings []).toOption.isSome = true := by decide +kernel
  cases ok : resolve rings [] with
  | error fault =>
      rw [ok] at found
      cases found
  | ok resolution =>
      obtain ⟨cycles, -, sorted, again, ok', -, -, sorted', -⟩ :=
        cycles_of_resolve (by decide : (Table.keys rings).Nodup) ok
      exact ⟨resolution, rfl, cycles, sorted, again, ok', sorted'⟩

/-- The outer ring is first among the components and last in the resolved table, since it refers to the
inner one. -/
theorem cycles_of_resolved_rings_ne :
    ∃ resolution again, resolve rings [] = .ok resolution ∧
      resolve resolution.table [] = .ok again ∧ again.table = resolution.table ∧
      resolution.cycles = [["Outer"], ["Inner"]] ∧ again.cycles = [["Inner"], ["Outer"]] := by
  have found : (resolve rings []).toOption.map cycles = some [["Outer"], ["Inner"]] := by
    decide +kernel
  have found' : ((resolve rings []).toOption.map fun resolution =>
      ReferenceGraph.cycles resolution.table) = some [["Inner"], ["Outer"]] := by
    decide +kernel
  cases ok : resolve rings [] with
  | error fault =>
      rw [ok] at found
      cases found
  | ok resolution =>
      rw [ok] at found found'
      obtain ⟨table, arranged, apart, -⟩ := exists_apart_of_resolve (by decide) ok
      exact ⟨resolution, _, rfl, arranged.resolve_table apart, rfl, Option.some.inj found,
        Option.some.inj found'⟩

end Resolution

end SchemaCompiler
