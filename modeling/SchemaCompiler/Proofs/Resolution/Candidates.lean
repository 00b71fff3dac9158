import SchemaCompiler.Proofs.Resolution.Success

/-!
Taking the schemas of routes into a table, whatever they refer to.

References are checked last, when the table also has the entries for the schemas of routes, some of
them under the names of errors.  So besides components a reference can name such an entry.

* `Resolution.Entered`: the entry of an input, with the renames that there were when it was taken in;
* `Resolution.Grown`: what holds while schemas of routes are taken in;
* `Resolution.Retitled`: what changes when entries get the names of errors;
* `Resolution.Arranged`, `Resolution.exists_arranged_of_resolve`: a resolution brings the entries of a
  table into their order of emission;
* `Resolution.reference_cases`: what a reference can name when resolution succeeds;
* `Resolution.entry_of_resolve`: the entry that a component or the schema of a route stands for.
-/

namespace SchemaCompiler.Resolution

variable {components table inputs : Table Schema} {renames : Table String}

/-! ### Taking schemas in -/

/-- The entry of an input.  It has the form of the input by the earlier renames, which there were when the
input was taken in.  Those are still there, and what there is for components was there then. -/
structure Entered (components : Table Schema) (renames : Table String) (progress : Progress)
    (name : String) (s t : Schema) (earlier : Table String) : Prop where
  found : Table.get? progress.table (progress.renaming.apply name) = some t
  formed : ∃ form, canonical t = .ok form
  same : t.normal = (s.rename (.ofTable earlier)).normal
  still : ∀ old new, Table.get? earlier old = some new → Table.get? progress.renames old = some new
  complete : ∀ old ∈ Table.keys components, Table.get? earlier old = Table.get? renames old

/-- What holds while schemas of routes are taken into a merged table: entries stay, components keep
what they stand for, and every input has an entry. -/
structure Grown (components table : Table Schema) (renames : Table String) (inputs : Table Schema)
    (progress : Progress) : Prop where
  distinct : (Table.keys progress.table).Nodup
  alive : ∀ name ∈ Table.keys progress.table, Table.get? progress.renames name = none
  kept : ∀ name s, Table.get? table name = some s → Table.get? progress.table name = some s
  same : ∀ name ∈ Table.keys components, Table.get? progress.renames name = Table.get? renames name
  among : ∀ name ∈ Table.keys components, name ∈ Table.keys inputs
  known : ∀ name ∈ progress.used, name ∈ Table.keys inputs
  forms : ∀ form first, progress.forms.lookup form = some first →
    ∃ s, Table.get? progress.table first = some s ∧ canonical s = .ok form
  added : ∀ name ∈ Table.keys progress.added, name ∉ Table.keys components
  entered : ∀ name s, (name, s) ∈ inputs → ∃ t earlier, Entered components renames progress name s t earlier

/-- What the entry of an input does not refer to under its old name has got a new one. -/
lemma Entered.mem_references {progress : Progress} {name : String} {s t : Schema} {earlier : Table String}
    (entered : Entered components renames progress name s t earlier) {target : String}
    (refers : target ∈ s.references) (unnamed : Table.get? earlier target = none) :
    target ∈ t.references := by
  rw [← Schema.mem_references_normal_iff, entered.same, Schema.mem_references_normal_iff]
  exact Schema.mem_references_rename_iff.2 ⟨target, refers, apply_of_unnamed unnamed⟩

/-- An input has an entry that refers to what it refers to, unless that is an input. -/
lemma Grown.held {progress : Progress} (grown : Grown components table renames inputs progress)
    {name : String} {s : Schema} (mem : (name, s) ∈ inputs) :
    ∃ entry t, Table.get? progress.table entry = some t ∧
      ∀ target ∈ s.references, target ∈ Table.keys inputs ∨ target ∈ t.references := by
  obtain ⟨t, earlier, entered⟩ := grown.entered name s mem
  refine ⟨_, t, entered.found, fun target refers => ?_⟩
  cases renamed : Table.get? earlier target with
  | none => exact .inr (entered.mem_references refers renamed)
  | some new =>
      have still := Table.mem_keys_of_get? (entered.still target new renamed)
      exact .inl (grown.known target (List.mem_append_right _ still))

/-- At first the entries are the merged components. -/
lemma Grown.initial (merged : Merged components table renames) (apart : Apart table)
    (distinct : (Table.keys components).Nodup) {forms : Forms}
    (formed : table.mapM (fun (name, s) => return (← canonical s, name)) = .ok forms) :
    Grown components table renames components ⟨table, renames, forms, []⟩ := by
  refine ⟨merged.distinct, merged.alive, fun name s found => found, fun name mem => rfl,
    fun name mem => mem, ?_, ?_, nofun, ?_⟩
  · intro name mem
    rcases List.mem_append.1 mem with mem | mem
    · obtain ⟨s, found⟩ := Table.exists_get?_iff.2 mem
      obtain ⟨t, input, -⟩ := merged.own name s found
      exact Table.mem_keys_of_get? input
    · exact merged.known name mem
  · intro form first found
    have own : ∀ m s n t, (m, s) ∈ table → (n, t) ∈ table → canonical s = canonical t → m = n :=
      fun m s n t memM memN => (apart m s n t ((Table.get?_eq_some_iff merged.distinct).2 memM)
        ((Table.get?_eq_some_iff merged.distinct).2 memN)).2
    obtain ⟨s, mem, ok⟩ := (lookup_forms formed own form first).1 found
    exact ⟨s, (Table.get?_eq_some_iff merged.distinct).2 mem, ok⟩
  · intro name s mem
    obtain ⟨t, stands, same⟩ := merged.stands name s ((Table.get?_eq_some_iff distinct).2 mem)
    exact ⟨t, renames, stands, (apart _ t _ t stands stands).1, same, fun old new found => found,
      fun old mem => rfl⟩

section Add

variable {progress after : Progress} {name : String} {candidate : Schema}

/-- A schema of a route has an entry of its form, and what had an entry keeps it. -/
lemma Grown.entered_append (before : Grown components table renames inputs progress)
    (new : name ∉ Table.keys inputs) (free : name ∉ progress.used) {form : Canonical}
    (formed : canonical (candidate.rename progress.renaming) = .ok form)
    (adds : progress.Adds name candidate form after) (other : String) (s : Schema)
    (mem : (other, s) ∈ inputs ++ [(name, candidate)]) :
    ∃ t earlier, Entered components renames after other s t earlier := by
  have still : ∀ old target, Table.get? progress.renames old = some target →
      Table.get? after.renames old = some target := by
    intro old target was
    have ne : name ≠ old := by
      rintro rfl
      exact free (List.mem_append_right _ (Table.mem_keys_of_get? was))
    rw [adds.get?_renames ne, was]
  rcases List.mem_append.1 mem with mem | mem
  · obtain ⟨t, earlier, entered⟩ := before.entered other s mem
    have ne : name ≠ other := by
      rintro rfl
      exact new (List.mem_map_of_mem mem)
    refine ⟨t, earlier, ?_, entered.formed, entered.same,
      fun old target was => still old target (entered.still old target was), entered.complete⟩
    rw [Progress.renaming, apply_congr (adds.get?_renames ne)]
    exact adds.kept free entered.found
  · obtain ⟨rfl, rfl⟩ := Prod.mk.inj (List.mem_singleton.1 mem)
    obtain ⟨t, found, own⟩ := adds.exists_entry formed before.forms free
    exact ⟨t, progress.renames, found, ⟨form, own⟩, (Schema.canonical_eq_iff own formed).1 rfl, still,
      before.same⟩

/-- One schema of a route is taken into the table. -/
lemma Grown.add (before : Grown components table renames inputs progress)
    (new : name ∉ Table.keys inputs) (ok : progress.add name candidate = .ok after) :
    Grown components table renames (inputs ++ [(name, candidate)]) after := by
  have free : name ∉ progress.used := fun mem => new (before.known name mem)
  have outside : name ∉ Table.keys components := fun mem => new (before.among name mem)
  obtain ⟨form, formed, adds⟩ := Progress.exists_adds free ok
  refine ⟨adds.nodup before.distinct, adds.alive free before.alive,
    fun entry t there => adds.kept free (before.kept entry t there), ?_, ?_, ?_,
    adds.formed_of_lookup formed before.forms free, ?_, before.entered_append new free formed adds⟩
  · intro other mem
    rw [adds.get?_renames fun eq => outside (eq ▸ mem), before.same other mem]
  · exact fun other mem => Table.mem_keys_append_iff.2 (.inl (before.among other mem))
  · intro other mem
    refine Table.mem_keys_append_iff.2 ((adds.mem_used mem).imp (before.known other) ?_)
    exact List.mem_singleton.2
  · intro entry mem
    rcases adds.mem_added mem with mem | rfl
    · exact before.added entry mem
    · exact outside

/-- All schemas of routes are taken into the table. -/
theorem Grown.addAll {candidates : Table Schema} (before : Grown components table renames inputs progress)
    (distinct : (Table.keys (inputs ++ candidates)).Nodup) (ok : progress.addAll candidates = .ok after) :
    Grown components table renames (inputs ++ candidates) after := by
  refine Progress.addAll_induct (motive := Grown components table renames) ?_ before distinct ok
  exact fun inputs progress next name candidate before _ new first => before.add new first

end Add

/-! ### Names of errors -/

/-- What changes when entries that are no components get the names of errors. -/
structure Retitled (components : Table Schema) (progress after : Progress) (f : Renaming) : Prop where
  distinct : (Table.keys after.table).Nodup
  alive : ∀ name ∈ Table.keys after.table, Table.get? after.renames name = none
  entries : ∀ name s, Table.get? progress.table name = some s →
    Table.get? after.table (f.apply name) = some (s.rename f)
  own : ∀ name ∈ Table.keys after.table, ∃ before ∈ Table.keys progress.table, f.apply before = name
  follows : ∀ name, after.renaming.apply name = f.apply (progress.renaming.apply name)
  still : ∀ name ∈ Table.keys progress.renames, name ∈ Table.keys after.renames
  outside : ∀ name ∈ Table.keys components, f name = none
  titled : ∀ name new, f name = some new → (name ∈ Table.keys progress.table ∨ Title name) ∧ Title new
  unused : ∀ name new, f name = some new →
    Table.get? progress.renames name = none ∧ Table.get? progress.renames new = none

section Retitled

variable {progress next after : Progress} {f g : Renaming}

/-- Without new names nothing changes. -/
lemma Retitled.refl (distinct : (Table.keys progress.table).Nodup)
    (alive : ∀ name ∈ Table.keys progress.table, Table.get? progress.renames name = none) :
    Retitled components progress progress fun _ => none := by
  have same : ∀ s : Schema, s.rename (fun _ => none) = s := fun s =>
    Schema.rename_eq_self fun name _ => rfl
  refine ⟨distinct, alive, fun name s found => ?_, fun name mem => ⟨name, mem, rfl⟩, fun name => rfl,
    fun name mem => mem, fun name _ => rfl, nofun, nofun⟩
  rw [same]
  exact found

/-- An entry is called as before, or has got its name. -/
lemma Retitled.own_cases (retitled : Retitled components progress after f) {name : String}
    (mem : name ∈ Table.keys after.table) :
    name ∈ Table.keys progress.table ∨ ∃ before, f before = some name := by
  obtain ⟨before, there, rfl⟩ := retitled.own name mem
  rw [Renaming.apply]
  cases renamed : f before with
  | none => exact .inl there
  | some new => exact .inr ⟨before, renamed⟩

/-- An entry is called as before, or after an error. -/
lemma Retitled.mem_or_title (retitled : Retitled components progress after f) {name : String}
    (mem : name ∈ Table.keys after.table) : name ∈ Table.keys progress.table ∨ Title name :=
  (retitled.own_cases mem).imp_right fun ⟨before, renamed⟩ => (retitled.titled before name renamed).2

/-- Names of errors become names of errors. -/
lemma Retitled.title_apply (retitled : Retitled components progress after f) {name : String}
    (title : Title name) : Title (f.apply name) := by
  rw [Renaming.apply]
  cases renamed : f name with
  | none => exact title
  | some new => exact (retitled.titled name new renamed).2

/-- A name is new by the first of two renamings, perhaps followed by the second, or by the second alone. -/
lemma andThen_cases {name new : String} (renamed : f.andThen g name = some new) :
    (∃ middle, f name = some middle ∧ g.apply middle = new) ∨ g name = some new := by
  rw [Renaming.andThen] at renamed
  cases old : f name with
  | some middle =>
      rw [old] at renamed
      exact .inl ⟨middle, rfl, Option.some.inj renamed⟩
  | none =>
      rw [old] at renamed
      exact .inr renamed

/-- New names can be given one after another. -/
lemma Retitled.trans (first : Retitled components progress next f)
    (second : Retitled components next after g) :
    Retitled components progress after (f.andThen g) := by
  have still : ∀ name, Table.get? next.renames name = none → Table.get? progress.renames name = none :=
    fun name none => Table.get?_eq_none_iff.2 fun mem => Table.get?_eq_none_iff.1 none (first.still name mem)
  refine ⟨second.distinct, second.alive, ?_, ?_, ?_, fun name mem => second.still name
    (first.still name mem), ?_, ?_, ?_⟩
  · intro name s found
    rw [Renaming.apply_andThen, ← Schema.rename_rename]
    exact second.entries _ _ (first.entries name s found)
  · intro name mem
    obtain ⟨middle, there, rfl⟩ := second.own name mem
    obtain ⟨before, present, rfl⟩ := first.own middle there
    exact ⟨before, present, Renaming.apply_andThen f g before⟩
  · intro name
    rw [second.follows, first.follows, Renaming.apply_andThen]
  · intro name mem
    rw [Renaming.andThen, first.outside name mem]
    exact second.outside name mem
  · intro name new renamed
    obtain ⟨middle, old, rfl⟩ | renamed := andThen_cases renamed
    · obtain ⟨known, title⟩ := first.titled name middle old
      exact ⟨known, second.title_apply title⟩
    · obtain ⟨known, title⟩ := second.titled name new renamed
      exact ⟨known.elim first.mem_or_title .inr, title⟩
  · intro name new renamed
    obtain ⟨middle, old, rfl⟩ | renamed := andThen_cases renamed
    · obtain ⟨own, target⟩ := first.unused name middle old
      refine ⟨own, ?_⟩
      rw [Renaming.apply]
      -- if the name in the middle is renamed again, the last name was not in use before either step
      cases newer : g middle with
      | none => exact target
      | some new => exact still new (second.unused middle new newer).2
    · exact (second.unused name new renamed).imp (still name) (still new)

lemma ofTable_single_eq_some {old new name renamed : String}
    (found : Renaming.ofTable [(old, new)] name = some renamed) : old = name ∧ new = renamed := by
  rw [Renaming.ofTable, Table.get?_cons] at found
  split at found
  · next eq => exact ⟨eq, Option.some.inj found⟩
  · cases found

/-- One entry gets the name of an error. -/
lemma retitled_renameEntry (distinct : (Table.keys progress.table).Nodup)
    (alive : ∀ name ∈ Table.keys progress.table, Table.get? progress.renames name = none)
    {old new : String} (there : old ∈ Table.keys progress.table) (outside : old ∉ Table.keys components)
    (free : new ∉ progress.used) (title : Title new) :
    Retitled components progress (progress.renameEntry old new) (.ofTable [(old, new)]) := by
  obtain ⟨freeTable, freeRenames⟩ := Progress.notMem_of_free free
  refine ⟨Progress.nodup_renameEntry distinct freeTable,
    Progress.alive_renameEntry distinct alive there free, ?_, ?_, ?_, ?_, ?_, ?_, ?_⟩
  · intro name s found
    have ne : name ≠ new := fun eq => freeTable (eq ▸ Table.mem_keys_of_get? found)
    rw [Progress.table_renameEntry distinct freeTable, renameAll, Table.get?_mapValues, apply_single,
      get?_moved freeTable ne, found]
    rfl
  · intro name mem
    obtain ⟨before, present, eq⟩ := (Progress.mem_keys_renameEntry_iff distinct freeTable).1 mem
    exact ⟨before, present, by rw [apply_single, eq]⟩
  · intro name
    rw [Progress.apply_renameEntry (alive old there), apply_single]
  · intro name mem
    refine Table.mem_keys_insert_iff.2 (.inr ?_)
    rwa [redirect, Table.keys_mapValues]
  · intro name mem
    rw [Option.eq_none_iff_forall_ne_some]
    intro _ renamed
    obtain ⟨rfl, -⟩ := ofTable_single_eq_some renamed
    exact outside mem
  · intro name _ renamed
    obtain ⟨rfl, rfl⟩ := ofTable_single_eq_some renamed
    exact ⟨.inl there, title⟩
  · intro name _ renamed
    obtain ⟨rfl, rfl⟩ := ofTable_single_eq_some renamed
    exact ⟨alive old there, Table.get?_eq_none_iff.2 freeRenames⟩

/-- Entries for errors have got the names of the errors. -/
theorem exists_retitled (distinct : (Table.keys progress.table).Nodup)
    (alive : ∀ name ∈ Table.keys progress.table, Table.get? progress.renames name = none)
    {entries : Table (List String)}
    (outside : ∀ entry ∈ Table.keys entries, entry ∉ Table.keys components) :
    ∃ f, Retitled components progress
      (entries.foldl (fun progress (entry, names) => progress.nameError entry names) progress) f := by
  induction entries generalizing progress with
  | nil => exact ⟨_, .refl distinct alive⟩
  | cons head rest ih =>
      obtain ⟨entry, names⟩ := head
      have later : ∀ other ∈ Table.keys rest, other ∉ Table.keys components := fun other mem =>
        outside other (List.mem_cons_of_mem _ mem)
      rw [List.foldl_cons]
      dsimp only
      rcases progress.nameError_cases entry names with same | ⟨new, there, free, title, renamed⟩
      · rw [same]
        exact ih distinct alive later
      · rw [renamed]
        have first := retitled_renameEntry distinct alive there (outside entry List.mem_cons_self) free title
        obtain ⟨f, rest⟩ := ih first.distinct first.alive later
        exact ⟨_, first.trans rest⟩

end Retitled

/-! ### Resolution -/

/-- A resolution brings the entries of a table, all of whose references name entries, into their order of
emission, and reports the cycles of that table. -/
structure Arranged (table : Table Schema) (resolution : Resolution) : Prop where
  distinct : (Table.keys table).Nodup
  closed : ∀ name s, Table.get? table name = some s → ∀ target ∈ s.references,
    target ∈ Table.keys table
  entries : resolution.table = ordered table (ReferenceGraph.emissionOrder table)
  cycles : resolution.cycles = ReferenceGraph.cycles table

lemma Arranged.get?_table {table : Table Schema} {resolution : Resolution}
    (arranged : Arranged table resolution) (name : String) :
    Table.get? resolution.table name = Table.get? table name := by
  rw [arranged.entries]
  exact get?_emitted arranged.distinct name

lemma Arranged.keys_table {table : Table Schema} {resolution : Resolution}
    (arranged : Arranged table resolution) :
    Table.keys resolution.table = ReferenceGraph.emissionOrder table := by
  rw [arranged.entries]
  exact keys_emitted arranged.distinct

lemma Arranged.nodup {table : Table Schema} {resolution : Resolution}
    (arranged : Arranged table resolution) : (Table.keys resolution.table).Nodup := by
  rw [arranged.entries]
  exact nodup_keys_emitted arranged.distinct

/-- Taking in the schema of a route leaves the names of entries distinct. -/
lemma Progress.nodup_add {progress after : Progress} {name : String} {candidate : Schema}
    (distinct : (Table.keys progress.table).Nodup) (ok : progress.add name candidate = .ok after) :
    (Table.keys after.table).Nodup := by
  rw [Progress.add, bind_eq_ok_iff] at ok
  obtain ⟨form, -, ok⟩ := ok
  split at ok <;> cases ok
  · exact distinct
  · exact Table.nodup_keys_insert distinct _ _

lemma Progress.nodup_addAll {progress after : Progress} {candidates : Table Schema}
    (distinct : (Table.keys progress.table).Nodup) (ok : progress.addAll candidates = .ok after) :
    (Table.keys after.table).Nodup := by
  induction candidates generalizing progress with
  | nil =>
      cases ok
      exact distinct
  | cons head rest ih =>
      rw [Progress.addAll, bind_eq_ok_iff] at ok
      obtain ⟨next, first, ok⟩ := ok
      exact ih (nodup_add distinct first) ok

/-- So does naming entries after errors. -/
lemma Progress.nodup_nameError {progress : Progress} (distinct : (Table.keys progress.table).Nodup)
    (entry : String) (names : List String) :
    (Table.keys (progress.nameError entry names).table).Nodup := by
  rw [nameError]
  split
  · exact distinct
  · dsimp only
    split
    · exact distinct
    · rw [renameEntry, renameAll, Table.keys_mapValues]
      exact Table.nodup_keys_ofEntries _

lemma Progress.nodup_finish {progress : Progress} (distinct : (Table.keys progress.table).Nodup) :
    (Table.keys progress.finish.table).Nodup := by
  rw [finish]
  generalize progress.added = added
  induction added generalizing progress with
  | nil => exact distinct
  | cons head rest ih => exact ih (nodup_nameError distinct head.1 head.2)

/-- Whatever the names of the schemas of routes are, a resolution arranges a table. -/
lemma exists_arranged_of_resolve {candidates : Table Schema} {resolution : Resolution}
    (distinct : (Table.keys components).Nodup) (ok : resolve components candidates = .ok resolution) :
    ∃ table, Arranged table resolution := by
  obtain ⟨table, renames, forms, added, merging, -, adding, closed, rfl⟩ := resolve_eq_ok_iff.1 ok
  obtain ⟨merged, -⟩ := merged_of_merge distinct merging
  have unique := Progress.nodup_finish (Progress.nodup_addAll merged.distinct adding)
  refine ⟨added.finish.table, unique, fun name s found => ?_, rfl, rfl⟩
  exact dangling?_eq_none_iff.1 closed name s (Table.mem_of_get? found)

/-- What resolution consists of, as far as it is known without what the schemas refer to. -/
lemma exists_grown_of_resolve {candidates : Table Schema} {resolution : Resolution}
    (distinct : (Table.keys (components ++ candidates)).Nodup)
    (ok : resolve components candidates = .ok resolution) :
    ∃ table renames progress after f, Merged components table renames ∧ Apart table ∧
      Grown components table renames (components ++ candidates) progress ∧
      Retitled components progress after f ∧ Arranged after.table resolution ∧
      resolution.renames = after.renames := by
  have own : (Table.keys components).Nodup := by
    rw [Table.keys, List.map_append] at distinct
    exact (List.nodup_append.1 distinct).1
  obtain ⟨table, renames, forms, added, merging, formed, adding, closed, rfl⟩ := resolve_eq_ok_iff.1 ok
  obtain ⟨merged, apart⟩ := merged_of_merge own merging
  have grown := (Grown.initial merged apart own formed).addAll distinct adding
  obtain ⟨f, retitled⟩ := exists_retitled grown.distinct grown.alive grown.added
  refine ⟨table, renames, added, added.finish, f, merged, apart, grown, retitled,
    ⟨retitled.distinct, fun name s found => ?_, rfl, rfl⟩, rfl⟩
  exact dangling?_eq_none_iff.1 closed name s (Table.mem_of_get? found)

/-- No two entries of a resolved table have one name. -/
lemma nodup_keys_of_resolve {candidates : Table Schema} {resolution : Resolution}
    (distinct : (Table.keys (components ++ candidates)).Nodup)
    (ok : resolve components candidates = .ok resolution) : (Table.keys resolution.table).Nodup := by
  obtain ⟨_, _, _, _, _, -, -, -, -, arranged, -⟩ := exists_grown_of_resolve distinct ok
  exact arranged.nodup

/-- A reference has got a new name, or names an entry afterwards. -/
lemma Retitled.renamed_or_mem {progress after : Progress} {f : Renaming}
    (retitled : Retitled components progress after f)
    (closed : ∀ name s, Table.get? after.table name = some s → ∀ target ∈ s.references,
      target ∈ Table.keys after.table) {entry : String} {t : Schema}
    (found : Table.get? progress.table entry = some t) {target : String} (refers : target ∈ t.references) :
    (∃ new, f target = some new) ∨ target ∈ Table.keys after.table := by
  have renamed : f.apply target ∈ Table.keys after.table :=
    closed _ _ (retitled.entries entry t found) _ (Schema.mem_references_rename_iff.2 ⟨_, refers, rfl⟩)
  rw [Renaming.apply] at renamed
  cases moved : f target with
  | some new => exact .inl ⟨new, rfl⟩
  | none =>
      rw [moved, Option.getD_none] at renamed
      exact .inr renamed

/-- Before entries got the names of errors, a reference named an entry, unless it is one of these
names. -/
lemma Retitled.reference_cases {progress after : Progress} {f : Renaming}
    (retitled : Retitled components progress after f)
    (closed : ∀ name s, Table.get? after.table name = some s → ∀ target ∈ s.references,
      target ∈ Table.keys after.table) {entry : String} {t : Schema}
    (found : Table.get? progress.table entry = some t) {target : String} (refers : target ∈ t.references) :
    target ∈ Table.keys progress.table ∨ Title target := by
  obtain ⟨new, moved⟩ | there := retitled.renamed_or_mem closed found refers
  · exact (retitled.titled target new moved).1
  · exact retitled.mem_or_title there

/-- **What a reference can name when resolution succeeds**: a component, the schema of a route, or an
entry under the name of an error. -/
theorem reference_cases {candidates : Table Schema} {resolution : Resolution}
    (distinct : (Table.keys (components ++ candidates)).Nodup)
    (ok : resolve components candidates = .ok resolution) {name : String} {s : Schema}
    (mem : (name, s) ∈ components ++ candidates) {target : String} (refers : target ∈ s.references) :
    target ∈ Table.keys (components ++ candidates) ∨ Title target := by
  obtain ⟨table, renames, progress, after, f, -, -, grown, retitled, arranged, -⟩ :=
    exists_grown_of_resolve distinct ok
  obtain ⟨entry, t, found, covers⟩ := grown.held mem
  rcases covers target refers with input | refers
  · exact .inl input
  · refine (retitled.reference_cases arranged.closed found refers).imp_left fun there => ?_
    exact grown.known target (List.mem_append_left _ there)

/-- What a reference names has not been absorbed by another entry. -/
lemma Retitled.reference_alive {progress after : Progress} {f : Renaming}
    (retitled : Retitled components progress after f)
    (alive : ∀ name ∈ Table.keys progress.table, Table.get? progress.renames name = none)
    (closed : ∀ name s, Table.get? after.table name = some s → ∀ target ∈ s.references,
      target ∈ Table.keys after.table) {entry : String} {t : Schema}
    (found : Table.get? progress.table entry = some t) {target : String} (refers : target ∈ t.references) :
    Table.get? progress.renames target = none := by
  obtain ⟨new, moved⟩ | there := retitled.renamed_or_mem closed found refers
  · exact (retitled.unused target new moved).1
  · obtain before | ⟨old, moved⟩ := retitled.own_cases there
    · exact alive target before
    · exact (retitled.unused old target moved).2

/-- The entry that an input stands for is the input by some renames, but for the order of what has none.
They are the ones of the resolution for what is a component, a reference or what no entry took the place
of. -/
lemma exists_renaming_of_resolve {candidates : Table Schema} {resolution : Resolution}
    (distinct : (Table.keys (components ++ candidates)).Nodup)
    (ok : resolve components candidates = .ok resolution) {name : String} {s : Schema}
    (mem : (name, s) ∈ components ++ candidates) :
    ∃ t g, Table.get? resolution.table (resolution.canonicalName name) = some t ∧
      (∃ form, canonical t = .ok form) ∧ t.normal = (s.rename g).normal ∧
      ∀ target, (target ∈ Table.keys components ∨ target ∈ s.references ∨
          Table.get? resolution.renames target = none) →
        g.apply target = (Renaming.ofTable resolution.renames).apply target := by
  obtain ⟨table, renames, progress, after, f, -, -, grown, retitled, arranged, final⟩ :=
    exists_grown_of_resolve distinct ok
  obtain ⟨t, earlier, entered⟩ := grown.entered name s mem
  have follows : ∀ target, (Renaming.ofTable resolution.renames).apply target =
      f.apply (progress.renaming.apply target) := by
    intro target
    rw [final]
    exact retitled.follows target
  obtain ⟨form, formed⟩ := entered.formed
  refine ⟨t.rename f, (Renaming.ofTable earlier).andThen f, ?_, exists_canonical_rename formed f, ?_, ?_⟩
  · have entry := retitled.entries _ t entered.found
    rw [← follows, ← arranged.get?_table] at entry
    exact entry
  · rw [Schema.normal_rename, entered.same, ← Schema.normal_rename, Schema.rename_rename]
  · -- names that were not renamed then have not been renamed since
    intro target placed
    have named : Table.get? progress.renames target = Table.get? earlier target := by
      cases was : Table.get? earlier target with
      | some new => exact entered.still target new was
      | none =>
          rcases placed with known | refers | free
          · rw [grown.same target known, ← entered.complete target known, was]
          · exact retitled.reference_alive grown.alive arranged.closed entered.found
              (entered.mem_references refers was)
          · refine Table.get?_eq_none_iff.2 fun mem => ?_
            rw [final] at free
            exact Table.get?_eq_none_iff.1 free (retitled.still target mem)
    rw [Renaming.apply_andThen, follows, Progress.renaming, apply_congr named]

/-- **The entry that an input stands for** is the input with its names renamed, but for the order of what
has none.  A name that is no reference must be that of a component, or of nothing that another entry took
the place of. -/
theorem entry_of_resolve {candidates : Table Schema} {resolution : Resolution}
    (distinct : (Table.keys (components ++ candidates)).Nodup)
    (ok : resolve components candidates = .ok resolution) {name : String} {s : Schema}
    (mem : (name, s) ∈ components ++ candidates) :
    ∃ t, Table.get? resolution.table (resolution.canonicalName name) = some t ∧
      (∃ form, canonical t = .ok form) ∧
      ((∀ target, s.Names target → target ∈ Table.keys components ∨ target ∈ s.references ∨
          Table.get? resolution.renames target = none) →
        t.normal = (s.rename (.ofTable resolution.renames)).normal) := by
  obtain ⟨t, g, found, formed, same, agrees⟩ := exists_renaming_of_resolve distinct ok mem
  refine ⟨t, found, formed, fun placed => same.trans (congrArg Schema.normal ?_)⟩
  exact Schema.rename_congr fun target names => agrees target (placed target names)

end SchemaCompiler.Resolution
