import Mathlib.Tactic
import SchemaCompiler.Proofs.Table
import SchemaCompiler.ReferenceGraph

/-!
The references between entries.

* `ReferenceGraph.Leads`, `mem_reached_iff`: the search finds exactly what one or more references lead
  to;
* `ReferenceGraph.isClass_of_mem_groups`, `flatten_groups_perm`: the groups are the classes of entries
  that lead to one another, and every entry is in one of them;
* `ReferenceGraph.Pending.exists_ready`: as long as a group waits, one is ready;
* `ReferenceGraph.emissionOrder_perm`: every entry is emitted, once.
-/

namespace SchemaCompiler.ReferenceGraph

variable {table : Table Schema}

lemma mem_keys_of_target {name target : String} (mem : target ∈ targets table name) :
    name ∈ Table.keys table ∧ target ∈ Table.keys table := by
  rw [targets] at mem
  split at mem
  · next s found =>
      exact ⟨Table.mem_keys_of_get? found, Table.mem_keys_iff.2 (List.mem_filter.1 mem).2⟩
  · cases mem

/-- An entry leads to another one along one or more references. -/
def Leads (table : Table Schema) : String → String → Prop :=
  Relation.TransGen fun name target => target ∈ targets table name

lemma Leads.known {a b : String} (leads : Leads table a b) :
    a ∈ Table.keys table ∧ b ∈ Table.keys table := by
  induction leads with
  | single mem => exact mem_keys_of_target mem
  | tail _ mem ih => exact ⟨ih.1, (mem_keys_of_target mem).2⟩

/-! ### The search -/

lemma mem_step_iff {names : List String} {name : String} :
    name ∈ step table names ↔ name ∈ names ∨ ∃ other ∈ names, name ∈ targets table other := by
  rw [step, List.mem_eraseDups, List.mem_append, List.mem_flatMap]

lemma mem_steps_of_mem {names : List String} {name : String} (n : ℕ) (mem : name ∈ names) :
    name ∈ steps table n names := by
  induction n generalizing names with
  | zero => exact mem
  | succ n ih => exact ih (mem_step_iff.2 (.inl mem))

/-- References lead out of none of the names. -/
def Closed (table : Table Schema) (names : List String) : Prop :=
  ∀ name ∈ names, ∀ target ∈ targets table name, target ∈ names

lemma Closed.mem_steps_iff {names : List String} (closed : Closed table names) (n : ℕ)
    {name : String} : name ∈ steps table n names ↔ name ∈ names := by
  induction n generalizing names with
  | zero => rfl
  | succ n ih =>
      have same : ∀ other, other ∈ step table names ↔ other ∈ names := by
        intro other
        rw [mem_step_iff, or_iff_left_iff_imp]
        rintro ⟨source, mem, target⟩
        exact closed source mem other target
      have closed' : Closed table (step table names) := fun other mem target mem' =>
        (same target).2 (closed other ((same other).1 mem) target mem')
      rw [steps, ih closed', same]

/-- Each step leaves fewer names unless there are none left to find. -/
lemma closed_steps {n : ℕ} {names : List String} (enough : unvisited (Table.keys table) names ≤ n) :
    Closed table (steps table n names) := by
  induction n generalizing names with
  | zero =>
      intro name _ target mem
      have all := List.countP_eq_zero.1 (Nat.le_zero.1 enough) target (mem_keys_of_target mem).2
      simpa [steps] using all
  | succ n ih =>
      by_cases closed : Closed table names
      · intro name mem target mem'
        rw [closed.mem_steps_iff] at mem ⊢
        exact closed name mem target mem'
      · simp only [Closed, not_forall] at closed
        obtain ⟨name, mem, target, mem', new⟩ := closed
        have found : target ∈ step table names := mem_step_iff.2 (.inr ⟨name, mem, mem'⟩)
        have fewer := unvisited_cons_lt (mem_keys_of_target mem').2 new
        have le : unvisited (Table.keys table) (step table names) ≤
            unvisited (Table.keys table) (target :: names) := by
          refine List.countP_mono_left fun other _ unseen => ?_
          rw [Bool.not_eq_true', ← Bool.not_eq_true, List.contains_iff_mem] at unseen ⊢
          refine fun mem => unseen ?_
          rcases List.mem_cons.1 mem with rfl | mem
          · exact found
          · exact mem_step_iff.2 (.inl mem)
        exact ih (by omega)

/-- The search finds exactly what one or more references lead to. -/
theorem mem_reached_iff {name target : String} :
    target ∈ reached table name ↔ Leads table name target := by
  constructor
  · have sound : ∀ n names, (∀ other ∈ names, Leads table name other) →
        ∀ other ∈ steps table n names, Leads table name other := by
      intro n
      induction n with
      | zero => exact fun names leads => leads
      | succ n ih =>
          intro names leads
          refine ih _ fun other mem => ?_
          rcases mem_step_iff.1 mem with mem | ⟨source, mem, mem'⟩
          · exact leads other mem
          · exact (leads source mem).tail mem'
    exact sound _ _ (fun other mem => .single mem) target
  · intro leads
    have closed : Closed table (reached table name) := by
      refine closed_steps (le_trans List.countP_le_length ?_)
      rw [Table.keys, List.length_map]
    induction leads with
    | single mem => exact mem_steps_of_mem _ mem
    | tail _ mem ih => exact closed _ ih _ mem

/-! ### Groups -/

/-- Two entries lead to one another, or are the same. -/
def Together (table : Table Schema) (a b : String) : Prop :=
  a = b ∨ Leads table a b ∧ Leads table b a

lemma Together.symm {a b : String} (h : Together table a b) : Together table b a := by
  rcases h with rfl | ⟨ab, ba⟩
  · exact .inl rfl
  · exact .inr ⟨ba, ab⟩

lemma Together.trans {a b c : String} (h : Together table a b) (h' : Together table b c) :
    Together table a c := by
  rcases h with rfl | ⟨ab, ba⟩
  · exact h'
  · rcases h' with rfl | ⟨bc, cb⟩
    · exact .inr ⟨ab, ba⟩
    · exact .inr ⟨ab.trans bc, cb.trans ba⟩

lemma get?_reachTable (name : String) :
    Table.get? (reachTable table) name =
      if name ∈ Table.keys table then some (reached table name) else none := by
  have general : ∀ entries : Table Schema,
      Table.get? (entries.map fun entry => (entry.1, reached table entry.1)) name =
        if name ∈ Table.keys entries then some (reached table name) else none := by
    intro entries
    induction entries with
    | nil => rfl
    | cons head rest ih =>
        rw [List.map_cons, Table.get?_cons, ih, Table.keys, Table.keys, List.map_cons]
        by_cases eq : head.1 = name
        · simp [eq]
        · simp only [if_neg eq, List.mem_cons, Ne.symm eq, false_or]
  exact general table

lemma leads_iff {a b : String} : leads (reachTable table) a b = true ↔ Leads table a b := by
  rw [leads, get?_reachTable]
  split
  · rw [Option.any_some, List.contains_iff_mem, mem_reached_iff]
  · next unknown => exact ⟨nofun, fun leads => absurd leads.known.1 unknown⟩

lemma together_iff {a b : String} : together (reachTable table) a b = true ↔ Together table a b := by
  rw [together, Bool.or_eq_true, Bool.and_eq_true, leads_iff, leads_iff, decide_eq_true_eq, Together]

lemma exists_of_mem_groupsOf {reach : Table (List String)} {all before rest group : List String}
    (mem : group ∈ groupsOf reach all before rest) :
    ∃ name ∈ rest, group = all.filter (together reach name) := by
  induction rest generalizing before with
  | nil => cases mem
  | cons name rest ih =>
      rw [groupsOf] at mem
      split at mem
      · obtain ⟨other, mem, eq⟩ := ih mem
        exact ⟨other, List.mem_cons_of_mem _ mem, eq⟩
      · rcases List.mem_cons.1 mem with eq | mem
        · exact ⟨name, List.mem_cons_self, eq⟩
        · obtain ⟨other, mem, eq⟩ := ih mem
          exact ⟨other, List.mem_cons_of_mem _ mem, eq⟩

/-- An entry is in a group, or in that of an entry that was there before. -/
lemma exists_mem_groupsOf {all before rest : List String} {name : String} (known : name ∈ all)
    (mem : name ∈ rest) :
    (∃ other ∈ before, Together table name other) ∨
      ∃ group ∈ groupsOf (reachTable table) all before rest, name ∈ group := by
  induction rest generalizing before with
  | nil => cases mem
  | cons head rest ih =>
      -- what was grouped before includes the head from now on
      have later : name ∈ rest → (∃ other ∈ before, Together table name other) ∨
          Together table name head ∨
          ∃ group ∈ groupsOf (reachTable table) all (head :: before) rest, name ∈ group := by
        intro mem
        rcases ih mem with ⟨other, mem, together⟩ | found
        · rcases List.mem_cons.1 mem with rfl | mem
          · exact .inr (.inl together)
          · exact .inl ⟨other, mem, together⟩
        · exact .inr (.inr found)
      have here : (∃ other ∈ before, Together table name other) ∨ Together table name head ∨
          ∃ group ∈ groupsOf (reachTable table) all (head :: before) rest, name ∈ group := by
        rcases List.mem_cons.1 mem with rfl | mem
        · exact .inr (.inl (.inl rfl))
        · exact later mem
      rw [groupsOf]
      rcases here with found | together | ⟨group, found, within⟩
      · exact .inl found
      · split
        · next seen =>
            obtain ⟨other, mem, same⟩ := List.any_eq_true.1 seen
            exact .inl ⟨other, mem, together.trans (together_iff.1 same)⟩
        · refine .inr ⟨_, List.mem_cons_self, List.mem_filter.2 ⟨known, ?_⟩⟩
          exact together_iff.2 together.symm
      · split
        · exact .inr ⟨group, found, within⟩
        · exact .inr ⟨group, List.mem_cons_of_mem _ found, within⟩

/-- A set of entries is a class of entries that lead to one another. -/
def IsClass (table : Table Schema) (group : List String) : Prop :=
  ∃ name, ∀ other, other ∈ group ↔ other ∈ Table.keys table ∧ Together table name other

theorem isClass_of_mem_groups {group : List String} (mem : group ∈ groups table) :
    IsClass table group := by
  obtain ⟨name, -, rfl⟩ := exists_of_mem_groupsOf mem
  exact ⟨name, fun other => by rw [List.mem_filter, together_iff]⟩

theorem exists_group {name : String} (known : name ∈ Table.keys table) :
    ∃ group ∈ groups table, name ∈ group := by
  rcases @exists_mem_groupsOf table _ [] _ _ known known with ⟨other, mem, -⟩ | found
  · cases mem
  · exact found

/-- The members of a group are together with none of the names that were there before. -/
lemma not_together_of_mem_groupsOf {all before rest group : List String}
    (mem : group ∈ groupsOf (reachTable table) all before rest) {name other : String}
    (within : name ∈ group) (earlier : other ∈ before) : ¬Together table name other := by
  induction rest generalizing before with
  | nil => cases mem
  | cons head rest ih =>
      rw [groupsOf] at mem
      split at mem
      · exact ih mem (List.mem_cons_of_mem _ earlier)
      · next new =>
          rcases List.mem_cons.1 mem with rfl | mem
          · intro together
            have same := together_iff.1 (List.mem_filter.1 within).2
            exact new (List.any_eq_true.2 ⟨other, earlier, together_iff.2 (same.trans together)⟩)
          · exact ih mem (List.mem_cons_of_mem _ earlier)

lemma pairwise_disjoint_groupsOf (all before rest : List String) :
    (groupsOf (reachTable table) all before rest).Pairwise List.Disjoint := by
  induction rest generalizing before with
  | nil => exact .nil
  | cons head rest ih =>
      rw [groupsOf]
      split
      · exact ih _
      · refine List.pairwise_cons.2 ⟨fun group mem name here there => ?_, ih _⟩
        have same := together_iff.1 (List.mem_filter.1 here).2
        exact not_together_of_mem_groupsOf mem there List.mem_cons_self same.symm

/-- Every entry is in one group, once. -/
theorem flatten_groups_perm (distinct : (Table.keys table).Nodup) :
    (groups table).flatten.Perm (Table.keys table) := by
  have once : (groups table).flatten.Nodup := by
    refine List.nodup_flatten.2 ⟨fun group mem => ?_, pairwise_disjoint_groupsOf _ _ _⟩
    obtain ⟨name, -, rfl⟩ := exists_of_mem_groupsOf mem
    exact distinct.filter _
  refine (List.perm_ext_iff_of_nodup once distinct).2 fun name => ?_
  rw [List.mem_flatten]
  constructor
  · rintro ⟨group, mem, within⟩
    obtain ⟨first, members⟩ := isClass_of_mem_groups mem
    exact ((members name).1 within).1
  · exact exists_group

/-! ### Emission -/

/-- An entry leads to another one, but not the other way. -/
def Below (table : Table Schema) (b a : String) : Prop := Leads table a b ∧ ¬Leads table b a

lemma wellFounded_below (table : Table Schema) :
    WellFounded fun b a : { name // name ∈ Table.keys table } => Below table b a := by
  have trans : IsTrans { name // name ∈ Table.keys table } fun b a => Below table b a :=
    ⟨fun c b a cb ba => ⟨ba.1.trans cb.1, fun ca => ba.2 (cb.1.trans ca)⟩⟩
  have irrefl : Std.Irrefl fun b a : { name // name ∈ Table.keys table } => Below table b a :=
    ⟨fun a aa => aa.2 aa.1⟩
  exact Finite.wellFounded_of_trans_of_irrefl _

/-- All groups that wait are classes, and every entry is emitted or waits in one of them. -/
structure Pending (table : Table Schema) (emitted : List String) (waiting : List (List String)) :
    Prop where
  classes : ∀ group ∈ waiting, IsClass table group
  cover : ∀ name ∈ Table.keys table, name ∈ emitted ∨ ∃ group ∈ waiting, name ∈ group

lemma Pending.initial : Pending table [] (groups table) :=
  ⟨fun _ => isClass_of_mem_groups, fun _ known => .inr (exists_group known)⟩

lemma Pending.emit {emitted : List String} {waiting : List (List String)}
    (pending : Pending table emitted waiting) (group : List String) :
    Pending table (emitted ++ group) (waiting.erase group) := by
  refine ⟨fun other mem => pending.classes other (List.mem_of_mem_erase mem), fun name known => ?_⟩
  rcases pending.cover name known with mem | ⟨other, mem, within⟩
  · exact .inl (List.mem_append_left _ mem)
  · by_cases eq : other = group
    · exact .inl (List.mem_append_right _ (eq ▸ within))
    · exact .inr ⟨other, (List.mem_erase_of_ne eq).2 mem, within⟩

/-- A group that is not ready refers to an entry below it that waits. -/
lemma Pending.exists_below {emitted : List String} {waiting : List (List String)}
    (pending : Pending table emitted waiting) {group : List String} (mem : group ∈ waiting)
    (unready : isReady table emitted group = false) {name : String} (within : name ∈ group) :
    ∃ target, Below table target name ∧ ∃ other ∈ waiting, target ∈ other := by
  rw [isReady, List.all_eq_false] at unready
  obtain ⟨source, source_mem, blocked⟩ := unready
  rw [Bool.not_eq_true, List.all_eq_false] at blocked
  obtain ⟨target, target_mem, outside⟩ := blocked
  simp only [Bool.or_eq_true, List.contains_iff_mem, not_or] at outside
  obtain ⟨first, members⟩ := pending.classes group mem
  have known := (mem_keys_of_target target_mem).2
  have edge : Leads table source target := .single target_mem
  have same : Together table name source :=
    ((members name).1 within).2.symm.trans ((members source).1 source_mem).2
  have back : ¬Leads table target source := fun back =>
    outside.1 ((members target).2
      ⟨known, ((members source).1 source_mem).2.trans (.inr ⟨edge, back⟩)⟩)
  refine ⟨target, ?_, (pending.cover target known).resolve_left outside.2⟩
  rcases same with rfl | ⟨there, -⟩
  · exact ⟨edge, back⟩
  · exact ⟨there.trans edge, fun h => back (h.trans there)⟩

/-- As long as a group waits, one is ready: one with an entry that none that waits is below. -/
theorem Pending.exists_ready {emitted : List String} {waiting : List (List String)}
    (pending : Pending table emitted waiting) (waits : waiting ≠ []) :
    ∃ group ∈ waiting, isReady table emitted group = true := by
  by_contra none
  have unready : ∀ group ∈ waiting, isReady table emitted group = false := fun group mem =>
    Bool.eq_false_iff.2 fun ready => none ⟨group, mem, ready⟩
  have never : ∀ name : { name // name ∈ Table.keys table }, ∀ group ∈ waiting, name.1 ∉ group := by
    intro name
    induction name using (wellFounded_below table).induction with
    | _ name ih =>
        intro group mem within
        obtain ⟨target, below, other, mem', within'⟩ :=
          pending.exists_below mem (unready group mem) within
        exact ih ⟨target, below.1.known.2⟩ below other mem' within'
  obtain ⟨group, mem⟩ := List.exists_mem_of_ne_nil waiting waits
  have blocked := unready group mem
  rw [isReady, List.all_eq_false] at blocked
  obtain ⟨name, within, -⟩ := blocked
  obtain ⟨first, members⟩ := pending.classes group mem
  exact never ⟨name, ((members name).1 within).1⟩ group mem within

/-- Nothing waits when nothing is ready. -/
lemma Pending.waiting_eq_nil {emitted : List String} {waiting : List (List String)}
    (pending : Pending table emitted waiting)
    (none : waiting.find? (isReady table emitted) = none) : waiting = [] := by
  by_contra waits
  obtain ⟨group, mem, ready⟩ := pending.exists_ready waits
  exact List.find?_eq_none.1 none group mem ready

/-- Everything that waits is emitted, once. -/
theorem Pending.emit_perm {emitted : List String} {waiting : List (List String)}
    (pending : Pending table emitted waiting) :
    (ReferenceGraph.emit table emitted waiting).Perm (emitted ++ waiting.flatten) := by
  fun_induction ReferenceGraph.emit table emitted waiting with
  | case1 emitted waiting group found ih =>
      have waits := List.mem_of_find?_eq_some found
      refine (ih (pending.emit group)).trans ?_
      rw [List.append_assoc]
      exact ((List.perm_cons_erase waits).flatten.symm).append_left _
  | case2 emitted waiting none =>
      rw [pending.waiting_eq_nil none, List.flatten_nil, List.append_nil]

/-- Every entry is emitted, once. -/
theorem emissionOrder_perm (distinct : (Table.keys table).Nodup) :
    (emissionOrder table).Perm (Table.keys table) :=
  Pending.initial.emit_perm.trans (flatten_groups_perm distinct)

end SchemaCompiler.ReferenceGraph
