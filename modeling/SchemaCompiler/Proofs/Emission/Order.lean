import SchemaCompiler.Proofs.Emission
import SchemaCompiler.Proofs.List

/-!
What the order of emission is.

The order is told by the references alone: the strongly connected components of the graph of
references come one after another, each as a run of its members in table order, and the next one is
always that with the first member of all those that wait for nothing.

* `ReferenceGraph.Refers`, `ReferenceGraph.Mutual`: references, and entries in one component;
* `ReferenceGraph.heads_sublist`: the groups wait in the order of their first members;
* `ReferenceGraph.EmittedBy`: an order of emission cut into components;
* `ReferenceGraph.emissionOrder_spec`: the order of emission has every entry once, those that an entry
  refers to before it, and is cut into components of which the first that is ready comes next.
-/

namespace SchemaCompiler.ReferenceGraph

variable {table : Table Schema}

/-! ### Components -/

/-- An entry refers to a name. -/
def Refers (table : Table Schema) (a b : String) : Prop :=
  ∃ s, Table.get? table a = some s ∧ b ∈ s.references

/-- References lead from each of two entries to the other one, perhaps along none. -/
def Mutual (table : Table Schema) (a b : String) : Prop :=
  Relation.ReflTransGen (Refers table) a b ∧ Relation.ReflTransGen (Refers table) b a

/-- A strongly connected component, its members in table order. -/
structure IsComponent (table : Table Schema) (group : List String) : Prop where
  inhabited : group ≠ []
  ordered : group.Sublist (Table.keys table)
  members : ∀ a ∈ group, ∀ b, b ∈ group ↔ b ∈ Table.keys table ∧ Mutual table a b

/-- All that a group refers to outside of itself has been emitted. -/
def Ready (table : Table Schema) (emitted group : List String) : Prop :=
  ∀ a ∈ group, ∀ b, Refers table a b → b ∈ group ∨ b ∈ emitted

/-- The first member of a group stands before that of another one in the table. -/
def Earlier (table : Table Schema) (group other : List String) : Prop :=
  ∀ a ∈ group.head?, ∀ b ∈ other.head?,
    (Table.keys table).idxOf a < (Table.keys table).idxOf b

/-- An order of emission cut into components.  Each is ready when its turn comes, and of those that are
ready then it has the first member. -/
structure EmittedBy (table : Table Schema) (order : List String) (sequence : List (List String)) :
    Prop where
  pieces : order = sequence.flatten
  components : ∀ group ∈ sequence, IsComponent table group
  ready : ∀ before group after, sequence = before ++ group :: after →
    Ready table before.flatten group
  preferred : ∀ before group after, sequence = before ++ group :: after →
    ∀ later ∈ after, Ready table before.flatten later → Earlier table group later

/-! ### References inside a table -/

section Closed

variable (closed : ∀ a b, Refers table a b → b ∈ Table.keys table)

include closed

lemma mem_targets_iff {a b : String} : b ∈ targets table a ↔ Refers table a b := by
  rw [targets, Refers]
  cases found : Table.get? table a with
  | none => simp
  | some s =>
      simp only [Option.some.injEq, exists_eq_left', List.mem_filter, and_iff_left_iff_imp]
      exact fun refers => Table.mem_keys_iff.1 (closed a b ⟨s, found, refers⟩)

lemma reaches_iff {a b : String} :
    Relation.ReflTransGen (Refers table) a b ↔ a = b ∨ Leads table a b := by
  have same : Refers table = fun a b => b ∈ targets table a := by
    funext a b
    exact propext (mem_targets_iff closed).symm
  rw [Relation.reflTransGen_iff_eq_or_transGen, same, Leads, eq_comm]

lemma mutual_iff {a b : String} : Mutual table a b ↔ Together table a b := by
  rw [Mutual, reaches_iff closed, reaches_iff closed, Together]
  constructor
  · rintro ⟨rfl | ab, ba⟩
    · exact .inl rfl
    · rcases ba with rfl | ba
      · exact .inl rfl
      · exact .inr ⟨ab, ba⟩
  · rintro (rfl | ⟨ab, ba⟩)
    · exact ⟨.inl rfl, .inl rfl⟩
    · exact ⟨.inr ab, .inr ba⟩

lemma isReady_iff {emitted group : List String} :
    isReady table emitted group = true ↔ Ready table emitted group := by
  simp only [isReady, List.all_eq_true, Bool.or_eq_true, List.contains_iff_mem,
    mem_targets_iff closed, Ready]

/-- Groups are strongly connected components. -/
lemma isComponent_of_mem_groups {group : List String} (mem : group ∈ groups table) :
    IsComponent table group := by
  obtain ⟨name, known, rfl⟩ := exists_of_mem_groupsOf mem
  have within : ∀ other, other ∈ (Table.keys table).filter (together (reachTable table) name) ↔
      other ∈ Table.keys table ∧ Together table name other := fun other => by
    rw [List.mem_filter, together_iff]
  refine ⟨List.ne_nil_of_mem ((within name).2 ⟨known, .inl rfl⟩), List.filter_sublist, ?_⟩
  intro a mem b
  have own := ((within a).1 mem).2
  rw [within, mutual_iff closed, and_congr_right_iff]
  exact fun _ => ⟨own.symm.trans, own.trans⟩

end Closed

/-! ### First members -/

/-- A group has its first member first: the groups wait in the order of these. -/
lemma heads_sublist (before rest : List String) :
    ((groupsOf (reachTable table) (before.reverse ++ rest) before rest).map List.head?).Sublist
      (rest.map some) := by
  induction rest generalizing before with
  | nil => exact List.Sublist.refl _
  | cons name rest ih =>
      have later := ih (name :: before)
      rw [List.reverse_cons, List.append_assoc, List.singleton_append] at later
      rw [groupsOf]
      split
      · exact later.cons _
      · next new =>
          have none : before.reverse.filter (together (reachTable table) name) = [] := by
            refine List.filter_eq_nil_iff.2 fun other mem both => new ?_
            exact List.any_eq_true.2 ⟨other, List.mem_reverse.1 mem, both⟩
          have own : together (reachTable table) name name = true := together_iff.2 (.inl rfl)
          rw [List.map_cons, List.filter_append, none, List.nil_append,
            List.filter_cons_of_pos own]
          exact later.cons_cons _

/-- The groups wait in the order of their first members, whatever order the table is in. -/
lemma pairwise_heads_groups {r : String → String → Prop} (sorted : (Table.keys table).Pairwise r) :
    (groups table).Pairwise fun group other => ∀ a ∈ group.head?, ∀ b ∈ other.head?, r a b := by
  have places : ((Table.keys table).map some).Pairwise fun x y => ∀ a ∈ x, ∀ b ∈ y, r a b := by
    refine List.pairwise_map.2 (sorted.imp fun before a eq b eq' => ?_)
    cases eq
    cases eq'
    exact before
  have heads : ((groups table).map List.head?).Sublist ((Table.keys table).map some) :=
    heads_sublist [] (Table.keys table)
  exact (List.pairwise_map (f := List.head?)).1 (places.sublist heads)

/-- The groups wait in the order of their first members. -/
lemma pairwise_earlier_groups (distinct : (Table.keys table).Nodup) :
    (groups table).Pairwise (Earlier table) :=
  pairwise_heads_groups (pairwise_idxOf distinct)

/-! ### The order of emission -/

/-- A group is ready when those before it have been emitted. -/
lemma InTurn.ready {emitted group : List String} {before after : List (List String)}
    (inTurn : InTurn table emitted (before ++ group :: after)) :
    isReady table (emitted ++ before.flatten) group = true := by
  induction before generalizing emitted with
  | nil =>
      cases inTurn with
      | cons ready _ => rwa [List.flatten_nil, List.append_nil]
  | cons first before ih =>
      cases inTurn with
      | cons _ rest =>
          rw [List.flatten_cons, ← List.append_assoc]
          exact ih rest

/-- The order of emission is cut into components. -/
theorem exists_emittedBy (distinct : (Table.keys table).Nodup)
    (closed : ∀ a b, Refers table a b → b ∈ Table.keys table) :
    ∃ sequence, EmittedBy table (emissionOrder table) sequence := by
  obtain ⟨sequence, order, perm, inTurn, preferred⟩ :=
    (@Pending.initial table).exists_sequence (pairwise_earlier_groups distinct)
  refine ⟨sequence, order, fun group mem => ?_, fun before group after split => ?_,
    fun before group after split later mem ready => ?_⟩
  · exact isComponent_of_mem_groups closed (perm.mem_iff.1 mem)
  · rw [split] at inTurn
    exact (isReady_iff closed).1 inTurn.ready
  · exact preferred before group after split later mem ((isReady_iff closed).2 ready)

/-- In an order that is cut into components an entry comes after those that it refers to, but for those
of its own component. -/
lemma EmittedBy.idxOf_lt {order : List String} {sequence : List (List String)}
    (emitted : EmittedBy table order sequence) (distinct : order.Nodup) {a b : String}
    (known : a ∈ order) (refers : Refers table a b) (apart : ¬Mutual table a b) :
    order.idxOf b < order.idxOf a := by
  rw [emitted.pieces] at known
  obtain ⟨group, mem, within⟩ := List.mem_flatten.1 known
  obtain ⟨before, after, split⟩ := List.append_of_mem mem
  have outside : b ∉ group := fun mem' =>
    apart (((emitted.components group mem).members a within b).1 mem').2
  have there : b ∈ before.flatten :=
    (emitted.ready before group after split a within b refers).resolve_left outside
  have pieces : order = before.flatten ++ (group ++ after.flatten) := by
    rw [emitted.pieces, split, List.flatten_append, List.flatten_cons]
  have later : a ∉ before.flatten := by
    rw [pieces] at distinct
    exact fun mem' => List.disjoint_of_nodup_append distinct mem' (List.mem_append_left _ within)
  rw [pieces, List.idxOf_append_of_mem there, List.idxOf_append_of_notMem later]
  exact Nat.lt_add_right _ (List.idxOf_lt_length_of_mem there)

end SchemaCompiler.ReferenceGraph
