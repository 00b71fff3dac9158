import SchemaCompiler.Proofs.Naming
import SchemaCompiler.Proofs.Resolution.Merging

/-!
Taking the schemas of routes into a table is exact.

The schemas of routes refer to components alone, and no rename of a component is made after merging.
So an entry that was taken in never changes, and the form that it was taken in under stays its form,
also when it is given another name at the end.

* `Progress.Adds`, `Progress.exists_adds`: what taking in one schema does, from which every invariant of
  the table follows; `Progress.addAll_induct`: so does what holds when all of them have been taken in;
* `Resolution.Taken`: every input stands for the only entry that its form has;
* `Filling.addAll`: this holds when all schemas of routes have been taken in;
* `Taken.renameEntry`, `Taken.nameErrors`: it holds after entries have been given other names.
-/

namespace SchemaCompiler.Resolution

/-- The renaming of a table of schemas in progress. -/
abbrev Progress.renaming (progress : Progress) : Renaming := .ofTable progress.renames

/-- Every input stands for the only entry that its form has, and only components are referred to. -/
structure Taken (components inputs : Table Schema) (progress : Progress) : Prop where
  distinct : (Table.keys progress.table).Nodup
  alive : ∀ name ∈ Table.keys progress.table, Table.get? progress.renames name = none
  apart : Apart progress.table
  refers : ∀ name s target, Table.get? inputs name = some s → s.Names target →
    target ∈ Table.keys components
  named : ∀ name s target, Table.get? progress.table name = some s → s.Names target →
    target ∈ Table.keys components
  stays : ∀ name ∈ Table.keys components, progress.renaming.apply name ∈ Table.keys components
  stands : ∀ name s, Table.get? inputs name = some s →
    ∃ t form, Table.get? progress.table (progress.renaming.apply name) = some t ∧
      canonical t = .ok form ∧ canonical (s.rename progress.renaming) = .ok form

/-- A canonical form survives a renaming. -/
lemma exists_canonical_rename {s : Schema} {form : Canonical} (ok : canonical s = .ok form)
    (f : Renaming) : ∃ renamed, canonical (s.rename f) = .ok renamed :=
  Schema.exists_canonical_iff.2 (Schema.safe_rename_iff.2 (Schema.exists_canonical_iff.1 ⟨form, ok⟩))

/-- Merged components stand for the entries that they were merged into. -/
lemma Taken.initial {components table : Table Schema} {renames : Table String} {forms : Forms}
    (merged : Merged components table renames) (apart : Apart table)
    (formed : ∀ name s, Table.get? components name = some s → ∃ form, canonical s = .ok form)
    (refers : ∀ name s target, Table.get? components name = some s → s.Names target →
      target ∈ Table.keys components) :
    Taken components components ⟨table, renames, forms, []⟩ := by
  have among : ∀ name s, Table.get? table name = some s → name ∈ Table.keys components := by
    intro name s found
    obtain ⟨t, input, -⟩ := merged.own name s found
    exact Table.mem_keys_of_get? input
  refine ⟨merged.distinct, merged.alive, apart, refers, ?_, ?_, ?_⟩
  · intro name s target found names
    obtain ⟨t, there⟩ := Table.exists_get?_iff.2 (merged.closed refers found names)
    exact among target t there
  · intro name mem
    obtain ⟨s, input⟩ := Table.exists_get?_iff.2 mem
    obtain ⟨t, there, -⟩ := merged.stands name s input
    exact among _ t there
  · intro name s input
    obtain ⟨t, there, normal⟩ := merged.stands name s input
    obtain ⟨form, ok⟩ := formed name s input
    obtain ⟨renamed, okRenamed⟩ := exists_canonical_rename ok (.ofTable renames)
    obtain ⟨form', okEntry⟩ := (apart _ t _ t there there).1
    refine ⟨t, form', there, okEntry, ?_⟩
    rw [(Schema.canonical_eq_iff okEntry okRenamed).2 normal]
    exact okRenamed

/-! ### Taking a schema into the table -/

lemma apply_congr {renames others : Table String} {name : String}
    (same : Table.get? renames name = Table.get? others name) :
    (Renaming.ofTable renames).apply name = (Renaming.ofTable others).apply name :=
  congrArg (fun new => new.getD name) same

lemma apply_of_unnamed {renames : Table String} {name : String}
    (unnamed : Table.get? renames name = none) : (Renaming.ofTable renames).apply name = name := by
  rw [Renaming.apply, Renaming.ofTable, unnamed, Option.getD_none]

lemma apply_insert (renames : Table String) (name target other : String) :
    (Renaming.ofTable (Table.insert renames name target)).apply other =
      if name = other then target else (Renaming.ofTable renames).apply other := by
  rw [Renaming.apply, Renaming.ofTable, Table.get?_insert]
  split <;> rfl

/-- A name that is not used names no entry, and did not name one. -/
lemma Progress.notMem_of_free {progress : Progress} {new : String} (free : new ∉ progress.used) :
    new ∉ Table.keys progress.table ∧ new ∉ Table.keys progress.renames :=
  not_or.1 fun mem => free (List.mem_append.2 mem)

/-- What becomes of a table in progress when a schema of some form is taken in under a free name: the schema
stands for the entry of this form, or becomes an entry. -/
inductive Progress.Adds (progress : Progress) (name : String) (candidate : Schema) (form : Canonical) :
    Progress → Prop where
  | meets {existing : String} {added : Table (List String)}
      (met : progress.forms.lookup form = some existing)
      (same : ∀ entry ∈ Table.keys added, entry ∈ Table.keys progress.added) :
      Adds progress name candidate form
        ⟨progress.table, Table.insert progress.renames name existing, progress.forms, added⟩
  | enters (unmet : progress.forms.lookup form = none) :
      Adds progress name candidate form
        ⟨Table.insert progress.table name (candidate.rename progress.renaming), progress.renames,
          (form, name) :: progress.forms, Table.insert progress.added name [name]⟩

section Step

variable {progress after : Progress} {name other : String} {candidate : Schema} {form : Canonical}

lemma Progress.exists_adds (free : name ∉ progress.used) (ok : progress.add name candidate = .ok after) :
    ∃ form, canonical (candidate.rename progress.renaming) = .ok form ∧
      progress.Adds name candidate form after := by
  rw [add, bind_eq_ok_iff] at ok
  obtain ⟨form, formed, ok⟩ := ok
  refine ⟨form, formed, ?_⟩
  cases met : progress.forms.lookup form with
  | some existing =>
      simp only [met] at ok
      cases ok
      refine .meets met fun entry mem => ?_
      cases names : Table.get? progress.added existing with
      | none => rwa [names] at mem
      | some others =>
          rw [names] at mem
          rcases Table.mem_keys_insert_iff.1 mem with rfl | mem
          · exact Table.mem_keys_of_get? names
          · exact mem
  | none =>
      simp only [met, Naming.unique_eq_self free, if_pos] at ok
      cases ok
      exact .enters met

namespace Progress.Adds

variable (adds : progress.Adds name candidate form after)

include adds

lemma nodup (distinct : (Table.keys progress.table).Nodup) : (Table.keys after.table).Nodup := by
  cases adds with
  | meets => exact distinct
  | enters => exact Table.nodup_keys_insert distinct _ _

/-- Only the schema that is taken in gets renamed. -/
lemma get?_renames (ne : name ≠ other) :
    Table.get? after.renames other = Table.get? progress.renames other := by
  cases adds with
  | meets => rw [Table.get?_insert, if_neg ne]
  | enters => rfl

/-- Entries are not renamed. -/
lemma alive (free : name ∉ progress.used)
    (before : ∀ entry ∈ Table.keys progress.table, Table.get? progress.renames entry = none) :
    ∀ entry ∈ Table.keys after.table, Table.get? after.renames entry = none := by
  obtain ⟨freeTable, freeRenames⟩ := notMem_of_free free
  intro entry mem
  cases adds with
  | meets =>
      have ne : name ≠ entry := fun eq => freeTable (eq ▸ mem)
      rw [Table.get?_insert, if_neg ne]
      exact before entry mem
  | enters =>
      rcases Table.mem_keys_insert_iff.1 mem with rfl | mem
      · exact Table.get?_eq_none_iff.2 freeRenames
      · exact before entry mem

/-- Entries stay. -/
lemma kept (free : name ∉ progress.used) {t : Schema} (found : Table.get? progress.table other = some t) :
    Table.get? after.table other = some t := by
  cases adds with
  | meets => exact found
  | enters =>
      rw [Table.get?_insert, if_neg, found]
      exact fun eq => (notMem_of_free free).1 (eq ▸ Table.mem_keys_of_get? found)

lemma mem_used (mem : other ∈ after.used) : other ∈ progress.used ∨ other = name := by
  cases adds with
  | meets =>
      rcases List.mem_append.1 mem with mem | mem
      · exact .inl (List.mem_append_left _ mem)
      · exact (Table.mem_keys_insert_iff.1 mem).symm.imp_left (List.mem_append_right _)
  | enters =>
      rcases List.mem_append.1 mem with mem | mem
      · exact (Table.mem_keys_insert_iff.1 mem).symm.imp_left (List.mem_append_left _)
      · exact .inl (List.mem_append_right _ mem)

lemma mem_added (mem : other ∈ Table.keys after.added) :
    other ∈ Table.keys progress.added ∨ other = name := by
  cases adds with
  | meets met same => exact .inl (same other mem)
  | enters => exact (Table.mem_keys_insert_iff.1 mem).symm

section Forms

variable (formed : canonical (candidate.rename progress.renaming) = .ok form)
  (own : ∀ form first, progress.forms.lookup form = some first →
    ∃ s, Table.get? progress.table first = some s ∧ canonical s = .ok form)

include formed own

/-- The schema that is taken in has an entry of its form. -/
lemma exists_entry (free : name ∉ progress.used) :
    ∃ t, Table.get? after.table (after.renaming.apply name) = some t ∧ canonical t = .ok form := by
  cases adds with
  | @meets existing _ met =>
      obtain ⟨t, found, ok⟩ := own form existing met
      exact ⟨t, by rw [Progress.renaming, apply_insert, if_pos rfl, found], ok⟩
  | enters =>
      have unnamed := Table.get?_eq_none_iff.2 (notMem_of_free free).2
      refine ⟨_, ?_, formed⟩
      rw [Progress.renaming, apply_of_unnamed unnamed, Table.get?_insert, if_pos rfl]

/-- A form that is looked up is that of an entry. -/
lemma formed_of_lookup (free : name ∉ progress.used) (met : Canonical) (first : String)
    (found : after.forms.lookup met = some first) :
    ∃ s, Table.get? after.table first = some s ∧ canonical s = .ok met := by
  cases adds with
  | meets => exact own met first found
  | enters unmet =>
      rw [lookup_cons] at found
      split at found
      · next eq =>
          cases found
          exact ⟨_, by rw [Table.get?_insert, if_pos rfl], eq ▸ formed⟩
      · obtain ⟨s, there, ok⟩ := own met first found
        have entering : progress.Adds name candidate form _ := .enters unmet
        exact ⟨s, entering.kept free there, ok⟩

end Forms

end Progress.Adds

/-- What holds of a table in progress, and of the inputs that have been taken in, holds when further schemas
have been taken in if each of them keeps it up. -/
theorem Progress.addAll_induct {motive : Table Schema → Progress → Prop} {inputs candidates : Table Schema}
    (step : ∀ inputs progress next name candidate, motive inputs progress →
      (name, candidate) ∈ candidates → name ∉ Table.keys inputs → progress.add name candidate = .ok next →
      motive (inputs ++ [(name, candidate)]) next)
    (initial : motive inputs progress) (distinct : (Table.keys (inputs ++ candidates)).Nodup)
    (ok : progress.addAll candidates = .ok after) : motive (inputs ++ candidates) after := by
  induction candidates generalizing inputs progress with
  | nil =>
      cases ok
      rwa [List.append_nil]
  | cons head rest ih =>
      obtain ⟨name, candidate⟩ := head
      have new : name ∉ Table.keys inputs := by
        rw [Table.keys, List.map_append, List.map_cons] at distinct
        exact fun mem => List.disjoint_of_nodup_append distinct mem List.mem_cons_self
      rw [List.append_cons] at distinct ⊢
      rw [addAll, bind_eq_ok_iff] at ok
      obtain ⟨next, first, ok⟩ := ok
      refine ih ?_ (step _ _ _ _ _ initial List.mem_cons_self new first) distinct ok
      exact fun inputs progress next name candidate before mem =>
        step inputs progress next name candidate before (List.mem_cons_of_mem _ mem)

end Step

/-- The input that a schema of a route is. -/
lemma get?_append_single {inputs : Table Schema} {name other : String} {candidate s : Schema}
    (found : Table.get? (inputs ++ [(name, candidate)]) other = some s) :
    Table.get? inputs other = some s ∨ other = name ∧ s = candidate := by
  rw [Table.get?_append, Table.get?_cons] at found
  rcases Option.or_eq_some_iff.1 found with found | ⟨-, found⟩
  · exact .inl found
  · split at found
    · next eq => exact .inr ⟨eq.symm, (Option.some.inj found).symm⟩
    · cases found

/-- What is kept up while schemas of routes are taken in: names are those of inputs, and the forms
are those of the entries. -/
structure Filling (components inputs : Table Schema) (progress : Progress) : Prop where
  taken : Taken components inputs progress
  among : ∀ name ∈ Table.keys components, name ∈ Table.keys inputs
  known : ∀ name ∈ progress.used, name ∈ Table.keys inputs
  forms : ∀ form first, progress.forms.lookup form = some first ↔
    ∃ s, Table.get? progress.table first = some s ∧ canonical s = .ok form
  added : ∀ name ∈ Table.keys progress.added, name ∉ Table.keys components

section Add

variable {components inputs : Table Schema} {progress : Progress} {name : String} {candidate : Schema}
  {form : Canonical}

lemma Filling.ne_of_component (before : Filling components inputs progress)
    (new : name ∉ Table.keys inputs) {other : String} (mem : other ∈ Table.keys components) :
    name ≠ other := by
  rintro rfl
  exact new (before.among name mem)

lemma Filling.refers_append (before : Filling components inputs progress)
    (refers : ∀ target, candidate.Names target → target ∈ Table.keys components) (other : String)
    (s : Schema) (target : String)
    (found : Table.get? (inputs ++ [(name, candidate)]) other = some s) (names : s.Names target) :
    target ∈ Table.keys components := by
  rcases get?_append_single found with found | ⟨-, rfl⟩
  · exact before.taken.refers other s target found names
  · exact refers target names

/-- A form that is not there is the form of no entry. -/
lemma Filling.form_ne (before : Filling components inputs progress)
    (unmet : progress.forms.lookup form = none) (other : String) (t : Schema)
    (found : Table.get? progress.table other = some t) : canonical t ≠ .ok form := by
  intro same
  rw [(before.forms form other).2 ⟨t, found, same⟩] at unmet
  cases unmet

/-- An entry whose form no other one has can be added. -/
lemma Apart.insert {table : Table Schema} (apart : Apart table) {s : Schema}
    (ok : canonical s = .ok form)
    (new : ∀ other t, Table.get? table other = some t → canonical t ≠ .ok form) :
    Apart (Table.insert table name s) := by
  intro m u n v foundM foundN
  rw [Table.get?_insert] at foundM foundN
  split at foundM
  · next eqM =>
      cases foundM
      refine ⟨⟨form, ok⟩, fun same => ?_⟩
      split at foundN
      · next eqN => exact eqM.symm.trans eqN
      · exact absurd (same.symm.trans ok) (new n v foundN)
  · refine ⟨(apart m u m u foundM foundM).1, fun same => ?_⟩
    split at foundN
    · cases foundN
      exact absurd (same.trans ok) (new m u foundM)
    · exact (apart m u n v foundM foundN).2 same

/-- The forms are those of the entries also after an entry has been added. -/
lemma lookup_insert {table : Table Schema} {forms : Forms}
    (own : ∀ form first, forms.lookup form = some first ↔
      ∃ s, Table.get? table first = some s ∧ canonical s = .ok form)
    (free : name ∉ Table.keys table) {s : Schema} (ok : canonical s = .ok form)
    (new : ∀ other t, Table.get? table other = some t → canonical t ≠ .ok form) (met : Canonical)
    (first : String) :
    ((form, name) :: forms).lookup met = some first ↔
      ∃ t, Table.get? (Table.insert table name s) first = some t ∧ canonical t = .ok met := by
  rw [lookup_cons, Table.get?_insert]
  by_cases eq : met = form
  · rw [if_pos eq, Option.some.injEq, eq]
    constructor
    · rintro rfl
      exact ⟨_, if_pos rfl, ok⟩
    · rintro ⟨t, found, same⟩
      split at found
      · assumption
      · exact absurd same (new first t found)
  · rw [if_neg eq, own]
    constructor
    · rintro ⟨t, found, same⟩
      have ne : name ≠ first := by
        rintro rfl
        exact free (Table.mem_keys_of_get? found)
      exact ⟨t, by rw [if_neg ne, found], same⟩
    · rintro ⟨t, found, same⟩
      split at found
      · cases found
        rw [ok] at same
        exact absurd (Except.ok.inj same).symm eq
      · exact ⟨t, found, same⟩

/-- No form is that of two entries after a schema has been taken in. -/
lemma Filling.apart_add (before : Filling components inputs progress) {after : Progress}
    (adds : progress.Adds name candidate form after)
    (formed : canonical (candidate.rename progress.renaming) = .ok form) : Apart after.table := by
  cases adds with
  | meets => exact before.taken.apart
  | enters unmet => exact before.taken.apart.insert formed (before.form_ne unmet)

lemma Filling.forms_add (before : Filling components inputs progress) {after : Progress}
    (adds : progress.Adds name candidate form after) (free : name ∉ progress.used)
    (formed : canonical (candidate.rename progress.renaming) = .ok form) (met : Canonical) (first : String) :
    after.forms.lookup met = some first ↔
      ∃ s, Table.get? after.table first = some s ∧ canonical s = .ok met := by
  cases adds with
  | meets => exact before.forms met first
  | enters unmet =>
      exact lookup_insert before.forms (Progress.notMem_of_free free).1 formed (before.form_ne unmet) met first

/-- Entries refer to components alone after a schema has been taken in that refers to components alone. -/
lemma Filling.named_add (before : Filling components inputs progress) {after : Progress}
    (adds : progress.Adds name candidate form after)
    (refers : ∀ target, candidate.Names target → target ∈ Table.keys components) (entry : String)
    (s : Schema) (target : String) (found : Table.get? after.table entry = some s)
    (names : s.Names target) : target ∈ Table.keys components := by
  cases adds with
  | meets => exact before.taken.named entry s target found names
  | enters =>
      rw [Table.get?_insert] at found
      split at found
      · cases found
        obtain ⟨old, named, rfl⟩ := Schema.names_rename_iff.1 names
        exact before.taken.stays old (refers old named)
      · exact before.taken.named entry s target found names

/-- One schema of a route is taken into the table. -/
lemma Filling.add (before : Filling components inputs progress) (new : name ∉ Table.keys inputs)
    (refers : ∀ target, candidate.Names target → target ∈ Table.keys components) {after : Progress}
    (ok : progress.add name candidate = .ok after) :
    Filling components (inputs ++ [(name, candidate)]) after := by
  have taken := before.taken
  have free : name ∉ progress.used := fun mem => new (before.known name mem)
  obtain ⟨form, formed, adds⟩ := Progress.exists_adds free ok
  -- no component has the name of the schema, so components stand for what they stood for
  have component : ∀ other ∈ Table.keys components,
      after.renaming.apply other = progress.renaming.apply other := fun other mem =>
    apply_congr (adds.get?_renames (before.ne_of_component new mem))
  have rename : ∀ s : Schema, (∀ target, s.Names target → target ∈ Table.keys components) →
      s.rename after.renaming = s.rename progress.renaming := fun s names =>
    Schema.rename_congr fun target mem => component target (names target mem)
  refine ⟨⟨adds.nodup taken.distinct, adds.alive free taken.alive, before.apart_add adds formed,
    before.refers_append refers, before.named_add adds refers, ?_, ?_⟩, ?_, ?_,
    before.forms_add adds free formed, ?_⟩
  · intro other mem
    rw [component other mem]
    exact taken.stays other mem
  · intro other s found
    rcases get?_append_single found with found | ⟨rfl, rfl⟩
    · have ne : name ≠ other := by
        rintro rfl
        exact new (Table.mem_keys_of_get? found)
      obtain ⟨t, form', there, okEntry, okInput⟩ := taken.stands other s found
      refine ⟨t, form', ?_, okEntry, ?_⟩
      · rw [Progress.renaming, apply_congr (adds.get?_renames ne)]
        exact adds.kept free there
      · rw [rename s fun target => taken.refers other s target found, okInput]
    · obtain ⟨t, there, okEntry⟩ :=
        adds.exists_entry formed (fun form first => (before.forms form first).1) free
      exact ⟨t, form, there, okEntry, by rw [rename s refers, formed]⟩
  · exact fun other mem => Table.mem_keys_append_iff.2 (.inl (before.among other mem))
  · intro other mem
    refine Table.mem_keys_append_iff.2 ((adds.mem_used mem).imp (before.known other) ?_)
    exact List.mem_singleton.2
  · intro entry mem
    rcases adds.mem_added mem with mem | rfl
    · exact before.added entry mem
    · exact fun mem => new (before.among entry mem)

/-- All schemas of routes are taken into the table. -/
theorem Filling.addAll {candidates : Table Schema} (before : Filling components inputs progress)
    (distinct : (Table.keys (inputs ++ candidates)).Nodup)
    (refers : ∀ other s target, (other, s) ∈ candidates → s.Names target →
      target ∈ Table.keys components) {after : Progress}
    (ok : progress.addAll candidates = .ok after) :
    Filling components (inputs ++ candidates) after := by
  refine Progress.addAll_induct (motive := Filling components) ?_ before distinct ok
  exact fun inputs progress next name candidate before mem new first =>
    before.add new (fun target => refers name candidate target mem) first

end Add

/-! ### Other names for entries -/

/-- A table with one entry under another name. -/
def moved (old new : String) (table : Table Schema) : Table Schema :=
  table.map fun (name, s) => (if name = old then new else name, s)

lemma apply_single (old new name : String) :
    (Renaming.ofTable [(old, new)]).apply name = if name = old then new else name := by
  rw [Renaming.apply, Renaming.ofTable, Table.get?_cons]
  by_cases eq : old = name
  · rw [if_pos eq, if_pos eq.symm, Option.getD_some]
  · rw [if_neg eq, if_neg (Ne.symm eq)]
    rfl

section Moved

variable {old new : String} {table : Table Schema}

lemma get?_moved (free : new ∉ Table.keys table) {name : String} (ne : name ≠ new) :
    Table.get? (moved old new table) (if name = old then new else name) = Table.get? table name := by
  induction table with
  | nil => rfl
  | cons head rest ih =>
      obtain ⟨key, s⟩ := head
      rw [Table.keys, List.map_cons, List.mem_cons, not_or] at free
      have same : (if key = old then new else key) = (if name = old then new else name) ↔
          key = name := by
        by_cases eq : key = old <;> by_cases eq' : name = old <;> simp [eq, eq', ne.symm] <;> grind
      rw [moved, List.map_cons, Table.get?_cons, Table.get?_cons, ← moved, ih free.2]
      simp only [same]

lemma mem_moved_iff {name : String} {s : Schema} :
    (name, s) ∈ moved old new table ↔
      ∃ before, (before, s) ∈ table ∧ (if before = old then new else before) = name := by
  rw [moved, List.mem_map]
  constructor
  · rintro ⟨⟨before, t⟩, mem, eq⟩
    obtain ⟨rfl, rfl⟩ := Prod.mk.inj eq
    exact ⟨before, mem, rfl⟩
  · rintro ⟨before, mem, rfl⟩
    exact ⟨_, mem, rfl⟩

lemma keys_moved : Table.keys (moved old new table) =
    (Table.keys table).map fun name => if name = old then new else name := by
  rw [moved, Table.keys, Table.keys, List.map_map, List.map_map]
  rfl

lemma nodup_keys_moved (distinct : (Table.keys table).Nodup) (free : new ∉ Table.keys table) :
    (Table.keys (moved old new table)).Nodup := by
  rw [keys_moved]
  refine distinct.map_on fun a memA b memB same => ?_
  have neA : a ≠ new := fun eq => free (eq ▸ memA)
  have neB : b ≠ new := fun eq => free (eq ▸ memB)
  split at same <;> split at same <;> simp_all

end Moved

section Naming

variable {components inputs : Table Schema} {progress : Progress} {old new : String}

/-- The entry is moved, and references follow it. -/
lemma Progress.table_renameEntry (distinct : (Table.keys progress.table).Nodup)
    (free : new ∉ Table.keys progress.table) :
    (progress.renameEntry old new).table =
      renameAll (.ofTable [(old, new)]) (moved old new progress.table) := by
  rw [renameEntry, ← moved, Table.ofEntries_eq_self (nodup_keys_moved distinct free)]

/-- Other names are renamed as they were. -/
lemma Progress.get?_renames_renameEntry {name : String} (other : old ≠ name)
    (none : Table.get? progress.renames name = none) :
    Table.get? (progress.renameEntry old new).renames name = .none := by
  rw [renameEntry, Table.get?_insert, if_neg other, redirect, Table.get?_mapValues, none,
    Option.map_none]

lemma Progress.nodup_renameEntry (distinct : (Table.keys progress.table).Nodup)
    (free : new ∉ Table.keys progress.table) : (Table.keys (progress.renameEntry old new).table).Nodup := by
  rw [table_renameEntry distinct free, renameAll, Table.keys_mapValues]
  exact nodup_keys_moved distinct free

lemma Progress.mem_keys_renameEntry_iff (distinct : (Table.keys progress.table).Nodup)
    (free : new ∉ Table.keys progress.table) {name : String} :
    name ∈ Table.keys (progress.renameEntry old new).table ↔
      ∃ before ∈ Table.keys progress.table, (if before = old then new else before) = name := by
  rw [table_renameEntry distinct free, renameAll, Table.keys_mapValues, keys_moved, List.mem_map]

/-- Entries are not renamed, the one that is moved included. -/
lemma Progress.alive_renameEntry (distinct : (Table.keys progress.table).Nodup)
    (alive : ∀ name ∈ Table.keys progress.table, Table.get? progress.renames name = none)
    (there : old ∈ Table.keys progress.table) (free : new ∉ progress.used) :
    ∀ name ∈ Table.keys (progress.renameEntry old new).table,
      Table.get? (progress.renameEntry old new).renames name = none := by
  obtain ⟨freeTable, freeRenames⟩ := notMem_of_free free
  intro name mem
  obtain ⟨before, present, rfl⟩ := (mem_keys_renameEntry_iff distinct freeTable).1 mem
  split
  · exact get?_renames_renameEntry (fun eq => freeTable (eq ▸ there)) (Table.get?_eq_none_iff.2 freeRenames)
  · next ne => exact get?_renames_renameEntry (Ne.symm ne) (alive before present)

/-- The new table differs in the name of the entry alone, as no entry refers to it. -/
lemma Taken.table_renameEntry (before : Taken components inputs progress)
    (outside : old ∉ Table.keys components) (free : new ∉ Table.keys progress.table) :
    (progress.renameEntry old new).table = moved old new progress.table := by
  have unchanged : renameAll (.ofTable [(old, new)]) (moved old new progress.table) =
      moved old new progress.table := by
    rw [renameAll]
    conv_rhs => rw [← Table.mapValues_id (moved old new progress.table)]
    refine Table.mapValues_congr fun entry mem => ?_
    obtain ⟨name, there, -⟩ := mem_moved_iff.1 mem
    refine Schema.rename_eq_self fun target names => ?_
    rw [apply_single, if_neg]
    rintro rfl
    exact outside (before.named name _ _ ((Table.get?_eq_some_iff before.distinct).2 there) names)
  rw [Progress.table_renameEntry before.distinct free, unchanged]

/-- What stood for the entry follows it. -/
lemma Progress.apply_renameEntry (alive : Table.get? progress.renames old = none) (name : String) :
    (progress.renameEntry old new).renaming.apply name =
      if progress.renaming.apply name = old then new else progress.renaming.apply name := by
  have composed : Renaming.ofTable (extendRenames progress.renames [(old, new)]) = _ :=
    ofTable_extendRenames (List.nodup_singleton old) fun other mem => by
      rw [List.mem_singleton.1 mem]
      exact alive
  change (Renaming.ofTable (extendRenames progress.renames [(old, new)])).apply name = _
  rw [composed, Renaming.apply_andThen, apply_single]

/-- An entry that is no component can be given another name. -/
theorem Taken.renameEntry (before : Taken components inputs progress)
    (there : old ∈ Table.keys progress.table) (outside : old ∉ Table.keys components)
    (free : new ∉ progress.used) : Taken components inputs (progress.renameEntry old new) := by
  have freeTable := (Progress.notMem_of_free free).1
  have table := before.table_renameEntry outside freeTable
  have apply : ∀ name, (progress.renameEntry old new).renaming.apply name = _ :=
    Progress.apply_renameEntry (before.alive old there)
  -- components keep the entries that they stand for
  have component : ∀ name ∈ Table.keys components,
      (progress.renameEntry old new).renaming.apply name = progress.renaming.apply name := by
    intro name mem
    rw [apply, if_neg]
    exact fun eq => outside (eq ▸ before.stays name mem)
  have entry : ∀ name s, Table.get? (moved old new progress.table) name = some s →
      ∃ other, Table.get? progress.table other = some s ∧ name = if other = old then new else other := by
    intro name s found
    obtain ⟨other, mem, eq⟩ := mem_moved_iff.1 (Table.mem_of_get? found)
    exact ⟨other, (Table.get?_eq_some_iff before.distinct).2 mem, eq.symm⟩
  refine ⟨Progress.nodup_renameEntry before.distinct freeTable,
    Progress.alive_renameEntry before.distinct before.alive there free, ?_, before.refers, ?_, ?_, ?_⟩
  · intro m s n t foundM foundN
    rw [table] at foundM foundN
    obtain ⟨m', thereM, rfl⟩ := entry m s foundM
    obtain ⟨n', thereN, rfl⟩ := entry n t foundN
    refine ⟨(before.apart m' s m' s thereM thereM).1, fun same => ?_⟩
    rw [(before.apart m' s n' t thereM thereN).2 same]
  · intro name s target found names
    rw [table] at found
    obtain ⟨other, there', -⟩ := entry name s found
    exact before.named other s target there' names
  · intro name mem
    rw [component name mem]
    exact before.stays name mem
  · intro name s input
    obtain ⟨t, form, found, okEntry, okInput⟩ := before.stands name s input
    have ne : progress.renaming.apply name ≠ new := fun eq =>
      freeTable (eq ▸ Table.mem_keys_of_get? found)
    refine ⟨t, form, ?_, okEntry, ?_⟩
    · rw [table, apply, get?_moved freeTable ne, found]
    · rw [← okInput]
      exact congrArg canonical (Schema.rename_congr fun target names =>
        component target (before.refers name s target input names))

/-- The name of the error of some code, perhaps with a number. -/
def Title (name : String) : Prop :=
  ∃ code base, Naming.errorSchema? code = some base ∧ Naming.Variant base name

/-- An entry for an error stays as it is, or gets a free name of that error. -/
lemma Progress.nameError_cases (progress : Progress) (entry : String) (names : List String) :
    progress.nameError entry names = progress ∨
      ∃ new, entry ∈ Table.keys progress.table ∧ new ∉ progress.used ∧ Title new ∧
        progress.nameError entry names = progress.renameEntry entry new := by
  rw [Progress.nameError]
  split
  · exact .inl rfl
  · next preferred found =>
      dsimp only
      split
      · exact .inl rfl
      · next ne =>
          split at found
          · cases found
          · obtain ⟨code, found, named⟩ := Option.bind_eq_some_iff.1 found
            obtain ⟨s, found, -⟩ := Option.bind_eq_some_iff.1 found
            refine .inr ⟨_, Table.mem_keys_of_get? found, fun used => ?_,
              ⟨code, preferred, named, Naming.variant_unique _ _⟩, rfl⟩
            refine Naming.unique_notMem (progress.used.filter (· ≠ entry)) preferred ?_
            exact List.mem_filter.2 ⟨used, decide_eq_true ne⟩

/-- An entry for an error can get the name of the error. -/
lemma Taken.nameError (before : Taken components inputs progress) {entry : String}
    (outside : entry ∉ Table.keys components) (names : List String) :
    Taken components inputs (progress.nameError entry names) := by
  rcases progress.nameError_cases entry names with same | ⟨new, there, free, -, renamed⟩
  · rwa [same]
  · rw [renamed]
    exact before.renameEntry there outside free

/-- Entries for errors have got the names of the errors. -/
theorem Taken.nameErrors (before : Taken components inputs progress)
    {entries : Table (List String)}
    (outside : ∀ entry ∈ Table.keys entries, entry ∉ Table.keys components) :
    Taken components inputs
      (entries.foldl (fun progress (entry, names) => progress.nameError entry names) progress) := by
  induction entries generalizing progress with
  | nil => exact before
  | cons head rest ih =>
      refine ih (before.nameError (outside head.1 List.mem_cons_self) head.2) ?_
      exact fun entry mem => outside entry (List.mem_cons_of_mem _ mem)

end Naming

end SchemaCompiler.Resolution
