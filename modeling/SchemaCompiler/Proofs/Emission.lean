import SchemaCompiler.Proofs.ReferenceGraph

/-!
The order of emission is its own order of emission.

In a table in the order of emission the groups stand in one piece, one after another, so that the
search for groups finds them in just the order in which they were emitted.  Each of them is then ready
when its turn comes.

* `ReferenceGraph.InTurn`, `Pending.exists_sequence`: groups that are emitted in the order in which they
  wait, and an order in which any pending groups are, each the first of those that are ready;
* `ReferenceGraph.groupsOf_flatten`: the groups of the members of groups, one group after another;
* `ReferenceGraph.groups_of_keys`: a table with the same entries in order of emission has the same groups;
* `ReferenceGraph.emissionOrder_of_keys`: a table with the same entries in order of emission has the
  same order of emission.
-/

namespace SchemaCompiler.ReferenceGraph

variable {table other : Table Schema}

/-! ### Groups in turn -/

/-- Each group is ready when those before it have been emitted. -/
inductive InTurn (table : Table Schema) : List String → List (List String) → Prop
  | nil {emitted} : InTurn table emitted []
  | cons {emitted group rest} : isReady table emitted group = true →
      InTurn table (emitted ++ group) rest → InTurn table emitted (group :: rest)

/-- Groups that are ready in turn are emitted in turn. -/
lemma InTurn.emit_eq {emitted : List String} {waiting : List (List String)}
    (inTurn : InTurn table emitted waiting) :
    emit table emitted waiting = emitted ++ waiting.flatten := by
  induction inTurn with
  | nil =>
      rw [emit]
      exact (List.append_nil _).symm
  | @cons emitted group rest ready _ ih =>
      have first : (group :: rest).find? (isReady table emitted) = some group :=
        List.find?_cons_of_pos ready
      rw [emit]
      split
      · next found =>
          obtain rfl := Option.some.inj (first.symm.trans found)
          rw [List.erase_cons_head, ih, List.flatten_cons, List.append_assoc]
      · next none => cases first.symm.trans none

/-- Each group is one that an order puts before the later groups that are ready when its turn comes. -/
def Preferred (table : Table Schema) (r : List String → List String → Prop) (emitted : List String)
    (sequence : List (List String)) : Prop :=
  ∀ before group after, sequence = before ++ group :: after →
    ∀ later ∈ after, isReady table (emitted ++ before.flatten) later = true → r group later

/-- Pending groups are emitted in some order, in which each is ready in turn.  Of those that are ready
the first that waits is taken. -/
lemma Pending.exists_sequence {r : List String → List String → Prop} {emitted : List String}
    {waiting : List (List String)} (pending : Pending table emitted waiting)
    (sorted : waiting.Pairwise r) :
    ∃ sequence, ReferenceGraph.emit table emitted waiting = emitted ++ sequence.flatten ∧
      sequence.Perm waiting ∧ InTurn table emitted sequence ∧
      Preferred table r emitted sequence := by
  fun_induction ReferenceGraph.emit table emitted waiting with
  | case1 emitted waiting group found ih =>
      obtain ⟨sequence, order, perm, inTurn, preferred⟩ :=
        ih (pending.emit group) (sorted.sublist List.erase_sublist)
      obtain ⟨ready, earlier, later, split, unready⟩ := List.find?_eq_some_iff_append.1 found
      have apart : group ∉ earlier := fun mem => by
        simpa only [ready, Bool.not_true, Bool.false_eq_true] using unready group mem
      refine ⟨group :: sequence, ?_, ?_, .cons ready inTurn, ?_⟩
      · rw [order, List.flatten_cons, List.append_assoc]
      · exact (perm.cons group).trans (List.perm_cons_erase (List.mem_of_find?_eq_some found)).symm
      · intro before first after eq other mem ready'
        cases before with
        | nil =>
            -- what waits before the group that is taken is not ready, and what waits behind it follows in order
            obtain ⟨rfl, rfl⟩ := List.cons.inj eq
            rw [List.flatten_nil, List.append_nil] at ready'
            rw [split] at perm sorted
            rw [List.erase_append_right _ apart, List.erase_cons_head] at perm
            rcases List.mem_append.1 (perm.mem_iff.1 mem) with there | there
            · simpa only [ready', Bool.not_true, Bool.false_eq_true] using unready other there
            · exact (List.pairwise_cons.1 (List.pairwise_append.1 sorted).2.1).1 other there
        | cons head before =>
            obtain ⟨rfl, rest⟩ := List.cons.inj eq
            rw [List.flatten_cons, ← List.append_assoc] at ready'
            exact preferred before first after rest other mem ready'
  | case2 emitted waiting none =>
      have empty := pending.waiting_eq_nil none
      refine ⟨[], (List.append_nil _).symm, empty ▸ .nil, .nil, fun before group after eq => ?_⟩
      cases before <;> cases eq

/-- Pending groups are emitted in some order, in which each is ready in turn. -/
lemma Pending.exists_inTurn {emitted : List String} {waiting : List (List String)}
    (pending : Pending table emitted waiting) :
    ∃ sequence, ReferenceGraph.emit table emitted waiting = emitted ++ sequence.flatten ∧
      sequence.Perm waiting ∧ InTurn table emitted sequence := by
  obtain ⟨sequence, order, perm, inTurn, -⟩ :=
    pending.exists_sequence (r := fun _ _ => True) (List.pairwise_of_forall fun _ _ => trivial)
  exact ⟨sequence, order, perm, inTurn⟩

/-! ### Groups one after another -/

section Groups

variable {reach : Table (List String)} {all before : List String}

/-- Members of a group that is there give no further group. -/
lemma groupsOf_append_of_seen {members : List String} (rest : List String)
    (seen : ∀ name ∈ members, before.any (together reach name) = true) :
    groupsOf reach all before (members ++ rest) =
      groupsOf reach all (members.reverse ++ before) rest := by
  induction members generalizing before with
  | nil => rfl
  | cons name members ih =>
      have later : ∀ other ∈ members, (name :: before).any (together reach other) = true :=
        fun other mem => by
          rw [List.any_cons, seen other (List.mem_cons_of_mem _ mem), Bool.or_true]
      rw [List.cons_append, groupsOf, if_pos (seen name List.mem_cons_self), ih later,
        List.reverse_cons, List.append_assoc, List.singleton_append]

/-- The groups of the members of groups are these groups, if each of them is what is together with any
of its members. -/
theorem groupsOf_flatten {sequence : List (List String)}
    (members : ∀ group ∈ sequence, ∀ name ∈ group, all.filter (together reach name) = group)
    (inhabited : [] ∉ sequence) (apart : sequence.Pairwise List.Disjoint)
    (unseen : ∀ group ∈ sequence, ∀ name ∈ group, before.any (together reach name) = false) :
    groupsOf reach all before sequence.flatten = sequence := by
  induction sequence generalizing before with
  | nil => rfl
  | cons group rest ih =>
      obtain ⟨here, later⟩ := List.pairwise_cons.1 apart
      have own : ∀ own ∈ group :: rest, ∀ name ∈ own, ∀ other, other ∈ own ↔
          other ∈ all ∧ together reach name other = true := fun own among name mem other => by
        rw [← List.mem_filter, members own among name mem]
      cases group with
      | nil => exact absurd List.mem_cons_self inhabited
      | cons first others =>
          -- the first name of a group gives the whole group, and its other names give nothing more
          have seen : ∀ name ∈ others, (first :: before).any (together reach name) = true := by
            intro name mem
            have both := (own _ List.mem_cons_self name (List.mem_cons_of_mem _ mem) first).1
              List.mem_cons_self
            rw [List.any_cons, both.2, Bool.true_or]
          have new : ∀ group ∈ rest, ∀ name ∈ group,
              (others.reverse ++ first :: before).any (together reach name) = false := by
            intro group among name mem
            have outside : ∀ target ∈ first :: others, together reach name target = false := by
              intro target within
              refine Bool.eq_false_iff.2 fun both => here group among within ?_
              have known := ((own _ List.mem_cons_self target within target).1 within).1
              exact (own group (List.mem_cons_of_mem _ among) name mem target).2 ⟨known, both⟩
            have earlier := unseen group (List.mem_cons_of_mem _ among) name mem
            simp only [List.mem_cons, List.any_eq_false, Bool.not_eq_true, List.mem_append,
              List.mem_reverse] at outside earlier ⊢
            grind
          have others' := ih (fun group among => members group (List.mem_cons_of_mem _ among))
            (fun among => inhabited (List.mem_cons_of_mem _ among)) later new
          rw [List.flatten_cons, List.cons_append, groupsOf,
            unseen _ List.mem_cons_self first List.mem_cons_self, if_neg Bool.false_ne_true,
            members _ List.mem_cons_self first List.mem_cons_self, groupsOf_append_of_seen _ seen, others']

end Groups

/-! ### Tables with the same entries -/

section Congruence

variable (same : ∀ name, Table.get? other name = Table.get? table name)

include same

lemma targets_congr : targets other = targets table := by
  have contains : Table.contains other = Table.contains table := by
    funext name
    rw [Table.contains, Table.contains, same]
  funext name
  rw [targets, targets, same, contains]

lemma leads_congr : Leads other = Leads table := by
  unfold Leads
  rw [targets_congr same]

lemma isReady_congr : isReady other = isReady table := by
  funext emitted group
  rw [isReady, isReady, targets_congr same]

lemma InTurn.congr {emitted : List String} {sequence : List (List String)}
    (inTurn : InTurn table emitted sequence) : InTurn other emitted sequence := by
  induction inTurn with
  | nil => exact .nil
  | cons ready _ ih => exact .cons (by rwa [isReady_congr same]) ih

end Congruence

/-- The members of a group that is emitted are, in the order of emission, what is together with any of
them. -/
lemma filter_flatten {sequence : List (List String)} {group : List String}
    (apart : sequence.Pairwise List.Disjoint) (mem : group ∈ sequence) {p : String → Bool}
    (own : ∀ name ∈ group, p name = true)
    (foreign : ∀ name ∈ sequence.flatten, p name = true → name ∈ group) :
    sequence.flatten.filter p = group := by
  obtain ⟨earlier, later, rfl⟩ := List.append_of_mem mem
  obtain ⟨-, here, before⟩ := List.pairwise_append.1 apart
  obtain ⟨after, -⟩ := List.pairwise_cons.1 here
  have noneBefore : earlier.flatten.filter p = [] := by
    refine List.filter_eq_nil_iff.2 fun name among holds => ?_
    obtain ⟨other, there, within⟩ := List.mem_flatten.1 among
    refine before other there group List.mem_cons_self within (foreign name ?_ holds)
    exact List.mem_flatten.2 ⟨other, List.mem_append_left _ there, within⟩
  have noneAfter : later.flatten.filter p = [] := by
    refine List.filter_eq_nil_iff.2 fun name among holds => ?_
    obtain ⟨other, there, within⟩ := List.mem_flatten.1 among
    refine after other there (foreign name ?_ holds) within
    exact List.mem_flatten.2 ⟨other, List.mem_append_right _ (List.mem_cons_of_mem _ there), within⟩
  rw [List.flatten_append, List.flatten_cons, List.filter_append, List.filter_append, noneBefore,
    noneAfter, List.filter_eq_self.2 own, List.append_nil, List.nil_append]

/-- A table with the same entries in order of emission has the same groups, which come in the order in
which they are emitted. -/
theorem groups_of_keys (distinct : (Table.keys table).Nodup)
    (same : ∀ name, Table.get? other name = Table.get? table name)
    (keys : Table.keys other = emissionOrder table) :
    (groups other).flatten = emissionOrder table ∧ (groups other).Perm (groups table) ∧
      InTurn table [] (groups other) := by
  obtain ⟨sequence, order, perm, inTurn⟩ := (@Pending.initial table).exists_inTurn
  rw [List.nil_append, ← emissionOrder] at order
  -- in the order of emission each group stands together, so it is found again from its first name
  have known : ∀ name, name ∈ sequence.flatten ↔ name ∈ Table.keys table := fun name => by
    rw [← order, (emissionOrder_perm distinct).mem_iff]
  have apart : sequence.Pairwise List.Disjoint :=
    (perm.pairwise_iff fun disjoint => List.Disjoint.symm disjoint).2 (pairwise_disjoint_groupsOf _ _ _)
  have alike : ∀ a b, together (reachTable other) a b = true ↔ Together table a b := fun a b => by
    rw [together_iff, Together, Together, leads_congr same]
  have inhabited : [] ∉ sequence := by
    intro mem
    obtain ⟨name, there, eq⟩ := exists_of_mem_groupsOf (perm.mem_iff.1 mem)
    have self : name ∈ (Table.keys table).filter (together (reachTable table) name) :=
      List.mem_filter.2 ⟨there, together_iff.2 (.inl rfl)⟩
    rw [← eq] at self
    cases self
  have members : ∀ group ∈ sequence, ∀ name ∈ group,
      sequence.flatten.filter (together (reachTable other) name) = group := by
    intro group mem name within
    obtain ⟨first, all⟩ := isClass_of_mem_groups (perm.mem_iff.1 mem)
    have own := ((all name).1 within).2
    refine filter_flatten apart mem (fun target among => ?_) fun target among both => ?_
    · exact (alike name target).2 (own.symm.trans ((all target).1 among).2)
    · exact (all target).2 ⟨(known target).1 among, own.trans ((alike name target).1 both)⟩
  have found : groups other = sequence := by
    rw [groups, keys, order]
    exact groupsOf_flatten members inhabited apart fun _ _ _ _ => rfl
  rw [found]
  exact ⟨order.symm, perm, inTurn⟩

/-- **The order of emission is a fixed point**: a table with the same entries in order of emission has
that order of emission. -/
theorem emissionOrder_of_keys (distinct : (Table.keys table).Nodup)
    (same : ∀ name, Table.get? other name = Table.get? table name)
    (keys : Table.keys other = emissionOrder table) : emissionOrder other = emissionOrder table := by
  obtain ⟨order, -, inTurn⟩ := groups_of_keys distinct same keys
  rw [emissionOrder.eq_1 other, (inTurn.congr same).emit_eq, List.nil_append, order]

end SchemaCompiler.ReferenceGraph
