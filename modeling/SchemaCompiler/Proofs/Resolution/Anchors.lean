import SchemaCompiler.Proofs.Resolution.Candidates

/-!
Where names lead.

Three phases of resolution change the renames: merging, which absorbs whole sets of entries, taking in
the schemas of routes, and giving entries the names of errors, which moves an entry away from a name
that others were renamed to.  One invariant on the names alone passes through all of them.

* `Resolution.Anchored`: every input is an entry or leads to one, and entries come from nowhere else;
* `Anchored.extend`: the step by which names are absorbed or moved;
* `Resolution.anchored_of_resolve`: a resolution is anchored in its inputs, whatever they refer to;
* `Resolution.origin_of_resolve`: a name that is used is that of an input or of an error;
* `Resolution.Covers`: what anchoring says of names and their canonical names.
-/

namespace SchemaCompiler.Resolution

/-- Every input is an entry or was renamed to one, and every entry is an input or has been renamed to. -/
structure Anchored (inputs names : List String) (renames : Table String) : Prop where
  distinct : names.Nodup
  once : (Table.keys renames).Nodup
  alive : ∀ name ∈ names, name ∉ Table.keys renames
  targets : ∀ entry ∈ renames, entry.2 ∈ names
  origin : ∀ name ∈ names, name ∈ inputs ∨ ∃ entry ∈ renames, entry.2 = name
  placed : ∀ name ∈ inputs, name ∈ names ∨ name ∈ Table.keys renames

variable {inputs names after : List String} {renames further : Table String}

/-- At first every input is an entry. -/
lemma Anchored.initial (distinct : inputs.Nodup) : Anchored inputs inputs [] :=
  ⟨distinct, List.nodup_nil, nofun, nofun, fun _ mem => .inl mem, fun _ mem => .inl mem⟩

/-- Further renames of names that were not renamed are appended. -/
lemma extendRenames_eq_append (once : (Table.keys renames).Nodup)
    (distinct : (Table.keys further).Nodup)
    (apart : ∀ name ∈ Table.keys further, name ∉ Table.keys renames) :
    extendRenames renames further = redirect renames further ++ further := by
  refine Table.foldl_insert_eq_append ?_
  have keys : Table.keys (redirect renames further) = Table.keys renames :=
    Table.keys_mapValues _ renames
  rw [Table.keys, List.map_append, ← Table.keys, ← Table.keys, keys]
  refine List.nodup_append.2 ⟨once, distinct, fun a mem b mem' eq => ?_⟩
  exact apart b mem' (eq ▸ mem)

/-- Entries are renamed: each of them leads to an entry from then on, and what led to it does so too. -/
lemma Anchored.extend (before : Anchored inputs names renames) (unique : after.Nodup)
    (distinct : (Table.keys further).Nodup) (among : ∀ name ∈ Table.keys further, name ∈ names)
    (kept : ∀ name ∈ names, name ∉ Table.keys further → name ∈ after)
    (led : ∀ entry ∈ further, entry.2 ∈ after)
    (own : ∀ name ∈ after, name ∉ Table.keys further ∧ name ∉ Table.keys renames ∧
      (name ∈ names ∨ ∃ entry ∈ further, entry.2 = name)) :
    Anchored inputs after (extendRenames renames further) := by
  have apart : ∀ name ∈ Table.keys further, name ∉ Table.keys renames := fun name mem =>
    before.alive name (among name mem)
  have renamed : ∀ name, name ∈ Table.keys (redirect renames further ++ further) ↔
      name ∈ Table.keys renames ∨ name ∈ Table.keys further := fun name => by
    rw [Table.mem_keys_append_iff, redirect, Table.keys_mapValues]
  rw [extendRenames_eq_append before.once distinct apart]
  refine ⟨unique, ?_, ?_, ?_, ?_, ?_⟩
  · rw [Table.keys, List.map_append, ← Table.keys, ← Table.keys, redirect, Table.keys_mapValues]
    exact List.nodup_append.2 ⟨before.once, distinct, fun a mem b mem' eq => apart b mem' (eq ▸ mem)⟩
  · intro name mem renamed'
    obtain ⟨notFurther, notRenamed, -⟩ := own name mem
    exact ((renamed name).1 renamed').elim notRenamed notFurther
  · intro entry mem
    rcases List.mem_append.1 mem with mem | mem
    · obtain ⟨⟨old, target⟩, there, rfl⟩ := List.mem_map.1 mem
      dsimp only
      -- an older renaming now leads where its target was moved, if it was
      cases moved : Table.get? further target with
      | some new => exact led _ (Table.mem_of_get? moved)
      | none =>
          exact kept target (before.targets _ there) (Table.get?_eq_none_iff.1 moved)
    · exact led entry mem
  · intro name mem
    obtain ⟨notFurther, -, there | ⟨entry, mem', eq⟩⟩ := own name mem
    · refine (before.origin name there).imp_right ?_
      rintro ⟨⟨old, target⟩, among', rfl⟩
      refine ⟨_, List.mem_append_left _ (List.mem_map_of_mem among'), ?_⟩
      dsimp only
      rw [Table.get?_eq_none_iff.2 notFurther, Option.getD_none]
    · exact .inr ⟨entry, List.mem_append_right _ mem', eq⟩
  · intro name mem
    rw [renamed]
    rcases before.placed name mem with there | old
    · by_cases moved : name ∈ Table.keys further
      · exact .inr (.inr moved)
      · exact .inl (kept name there moved)
    · exact .inr (.inl old)

/-- A new input is renamed to an entry. -/
lemma Anchored.absorb (before : Anchored inputs names renames) {name target : String}
    (free : name ∉ names ∧ name ∉ Table.keys renames) (there : target ∈ names) :
    Anchored (inputs ++ [name]) names (renames ++ [(name, target)]) := by
  have keys : Table.keys (renames ++ [(name, target)]) = Table.keys renames ++ [name] :=
    List.map_append
  refine ⟨before.distinct, ?_, ?_, ?_, ?_, ?_⟩
  · rw [keys, ← List.concat_eq_append]
    exact before.once.concat free.2
  · intro other mem renamed
    rw [keys, List.mem_append, List.mem_singleton] at renamed
    rcases renamed with renamed | rfl
    · exact before.alive other mem renamed
    · exact free.1 mem
  · intro entry mem
    rcases List.mem_append.1 mem with mem | mem
    · exact before.targets entry mem
    · rw [List.mem_singleton.1 mem]
      exact there
  · intro other mem
    rcases before.origin other mem with input | ⟨entry, among, eq⟩
    · exact .inl (List.mem_append_left _ input)
    · exact .inr ⟨entry, List.mem_append_left _ among, eq⟩
  · intro other mem
    rw [keys, List.mem_append]
    rcases List.mem_append.1 mem with mem | mem
    · exact (before.placed other mem).imp_right .inl
    · exact .inr (.inr mem)

/-- A new input becomes an entry. -/
lemma Anchored.enter (before : Anchored inputs names renames) {name : String}
    (free : name ∉ names ∧ name ∉ Table.keys renames) :
    Anchored (inputs ++ [name]) (names ++ [name]) renames := by
  refine ⟨?_, before.once, ?_, ?_, ?_, ?_⟩
  · rw [← List.concat_eq_append]
    exact before.distinct.concat free.1
  · intro other mem
    rcases List.mem_append.1 mem with mem | mem
    · exact before.alive other mem
    · rw [List.mem_singleton.1 mem]
      exact free.2
  · exact fun entry mem => List.mem_append_left _ (before.targets entry mem)
  · intro other mem
    rcases List.mem_append.1 mem with mem | mem
    · exact (before.origin other mem).imp_left (List.mem_append_left _)
    · exact .inl (List.mem_append_right _ mem)
  · intro other mem
    rcases List.mem_append.1 mem with mem | mem
    · exact (before.placed other mem).imp_left (List.mem_append_left _)
    · exact .inl (List.mem_append_right _ mem)

/-! ### Merging -/

/-- An entry is merged into one that is kept. -/
lemma Search.target_kept {table : Table Schema} {merged : Table String}
    (search : Search [] table merged) {name first : String} (mem : (name, first) ∈ merged) :
    first ∈ Table.keys table ∧ first ∉ Table.keys merged := by
  have found := (Table.get?_eq_some_iff search.distinct).2 mem
  obtain ⟨⟨old, s⟩, input, eq⟩ := List.mem_map.1 (search.among name (List.mem_map_of_mem mem))
  obtain rfl : old = name := eq
  obtain ⟨form, -, placed⟩ := search.placed old s input
  rcases placed with ⟨none, -⟩ | ⟨target, some, met⟩
  · cases none.symm.trans found
  · obtain rfl := Option.some.inj (some.symm.trans found)
    rcases met with met | ⟨-, t, there, alive, -⟩
    · cases met
    · exact ⟨List.mem_map_of_mem there, Table.get?_eq_none_iff.1 alive⟩

/-- A round of merging. -/
lemma Anchored.round {table : Table Schema} {merged : Table String}
    (before : Anchored inputs (Table.keys table) renames) (search : Search [] table merged) :
    Anchored inputs (Table.keys (renameAll (.ofTable merged) (kept merged table)))
      (extendRenames renames merged) := by
  have mem_kept : ∀ name, name ∈ Table.keys (kept merged table) ↔
      name ∈ Table.keys table ∧ name ∉ Table.keys merged := by
    intro name
    rw [← Table.exists_get?_iff, ← Table.exists_get?_iff, get?_kept, ← Table.get?_eq_none_iff]
    split <;> simp_all
  rw [renameAll, Table.keys_mapValues]
  refine before.extend (before.distinct.sublist (Table.keys_filter_sublist _ _)) search.distinct
    search.among (fun name mem alive => (mem_kept name).2 ⟨mem, alive⟩)
    (fun entry mem => (mem_kept _).2 (search.target_kept mem)) fun name mem => ?_
  obtain ⟨there, alive⟩ := (mem_kept name).1 mem
  exact ⟨alive, before.alive name there, .inl there⟩

/-- The rounds of merging. -/
lemma anchored_of_mergeRounds {table last : Table Schema} {final : Table String}
    (before : Anchored inputs (Table.keys table) renames)
    (ok : mergeRounds table renames = .ok (last, final)) :
    Anchored inputs (Table.keys last) final := by
  induction length : table.length using Nat.strong_induction_on generalizing table renames with
  | _ n ih =>
      subst length
      obtain ⟨merged, found, ⟨fewer, ok⟩ | ⟨-, result⟩⟩ := mergeRounds_cases ok
      · refine ih _ ?_ (before.round (duplicates_spec before.distinct found)) ok rfl
        rwa [renameAll, Table.mapValues, List.length_map]
      · cases result
        exact before

/-! ### Schemas of routes -/

/-- One schema of a route is taken into the table. -/
lemma anchored_of_add {components table taken : Table Schema} {progress next : Progress} {name : String}
    {candidate : Schema} {merges : Table String}
    (grown : Grown components table merges taken progress)
    (before : Anchored (Table.keys taken) (Table.keys progress.table) progress.renames)
    (new : name ∉ Table.keys taken) (ok : progress.add name candidate = .ok next) :
    Anchored (Table.keys (taken ++ [(name, candidate)])) (Table.keys next.table) next.renames := by
  have unused : name ∉ progress.used := fun mem => new (grown.known name mem)
  have free := Progress.notMem_of_free unused
  have keys : Table.keys (taken ++ [(name, candidate)]) = Table.keys taken ++ [name] :=
    List.map_append
  obtain ⟨form, -, adds⟩ := Progress.exists_adds unused ok
  rw [keys]
  cases adds with
  | @meets existing _ met =>
      obtain ⟨t, found, -⟩ := grown.forms form existing met
      rw [Table.insert_of_notMem free.2]
      exact before.absorb free (Table.mem_keys_of_get? found)
  | enters =>
      rw [Table.insert_of_notMem free.1, Table.keys.eq_1 (_ ++ _), List.map_append]
      exact before.enter free

/-- All schemas of routes are taken into the table. -/
lemma anchored_of_addAll {components table taken candidates : Table Schema} {progress next : Progress}
    {merges : Table String} (grown : Grown components table merges taken progress)
    (before : Anchored (Table.keys taken) (Table.keys progress.table) progress.renames)
    (distinct : (Table.keys (taken ++ candidates)).Nodup) (ok : progress.addAll candidates = .ok next) :
    Anchored (Table.keys (taken ++ candidates)) (Table.keys next.table) next.renames := by
  have both := Progress.addAll_induct (motive := fun taken progress =>
    Grown components table merges taken progress ∧
      Anchored (Table.keys taken) (Table.keys progress.table) progress.renames) ?_ ⟨grown, before⟩ distinct ok
  · exact both.2
  · exact fun taken progress next name candidate ⟨grown, before⟩ _ new first =>
      ⟨grown.add new first, anchored_of_add grown before new first⟩

/-! ### Names of errors -/

/-- An entry gets another name. -/
lemma Anchored.renameEntry {progress : Progress} {old new : String}
    (before : Anchored inputs (Table.keys progress.table) progress.renames)
    (there : old ∈ Table.keys progress.table) (free : new ∉ progress.used) :
    Anchored inputs (Table.keys (progress.renameEntry old new).table)
      (progress.renameEntry old new).renames := by
  obtain ⟨freeTable, freeRenames⟩ := Progress.notMem_of_free free
  have ne : new ≠ old := fun eq => freeTable (eq ▸ there)
  have single : (Table.keys [(old, new)]).Nodup := List.nodup_singleton old
  have moved : ∀ {name}, name ∈ Table.keys (progress.renameEntry old new).table ↔
      ∃ before ∈ Table.keys progress.table, (if before = old then new else before) = name :=
    Progress.mem_keys_renameEntry_iff before.distinct freeTable
  refine before.extend (Progress.nodup_renameEntry before.distinct freeTable) single ?_ ?_ ?_ ?_
  · intro name mem
    rw [List.mem_singleton.1 mem]
    exact there
  · exact fun name mem other => moved.2 ⟨name, mem, if_neg fun eq => other (List.mem_singleton.2 eq)⟩
  · intro entry mem
    rw [List.mem_singleton.1 mem]
    exact moved.2 ⟨old, there, if_pos rfl⟩
  · intro name mem
    obtain ⟨first, among, rfl⟩ := moved.1 mem
    split
    · refine ⟨fun mem => ne (List.mem_singleton.1 mem), freeRenames, .inr ?_⟩
      exact ⟨_, List.mem_singleton_self _, rfl⟩
    · next other =>
        exact ⟨fun mem => other (List.mem_singleton.1 mem), before.alive first among, .inl among⟩

/-- Entries for errors get the names of the errors. -/
lemma Anchored.nameErrors {progress : Progress} {entries : Table (List String)}
    (before : Anchored inputs (Table.keys progress.table) progress.renames) :
    let last := entries.foldl (fun progress (entry, names) => progress.nameError entry names) progress
    Anchored inputs (Table.keys last.table) last.renames := by
  induction entries generalizing progress with
  | nil => exact before
  | cons head rest ih =>
      rw [List.foldl_cons]
      refine ih ?_
      dsimp only
      rcases progress.nameError_cases head.1 head.2 with same | ⟨new, there, free, -, renamed⟩
      · rwa [same]
      · rw [renamed]
        exact before.renameEntry there free

/-! ### Resolution -/

/-- **A resolution is anchored in its inputs**, whatever these refer to. -/
theorem anchored_of_resolve {components candidates : Table Schema} {resolution : Resolution}
    (distinct : (Table.keys (components ++ candidates)).Nodup)
    (ok : resolve components candidates = .ok resolution) :
    Anchored (Table.keys (components ++ candidates)) (Table.keys resolution.table)
      resolution.renames := by
  have own : (Table.keys components).Nodup := by
    rw [Table.keys, List.map_append] at distinct
    exact distinct.of_append_left
  obtain ⟨table, renames, forms, added, merging, formed, adding, -, rfl⟩ := resolve_eq_ok_iff.1 ok
  obtain ⟨merged, apart⟩ := merged_of_merge own merging
  have grown := Grown.initial merged apart own formed
  have taken := anchored_of_addAll grown (anchored_of_mergeRounds (.initial own) merging) distinct adding
  have finished : Anchored (Table.keys (components ++ candidates)) (Table.keys added.finish.table)
      added.finish.renames := taken.nameErrors
  obtain ⟨unique, once, alive, targets, origin, placed⟩ := finished
  -- emission only changes the order of the entries
  have mem : ∀ name, name ∈ Table.keys (ordered added.finish.table
      (ReferenceGraph.emissionOrder added.finish.table)) ↔ name ∈ Table.keys added.finish.table :=
    fun name => by rw [keys_emitted unique, (ReferenceGraph.emissionOrder_perm unique).mem_iff]
  exact ⟨nodup_keys_emitted unique, once, fun name there => alive name ((mem name).1 there),
    fun entry there => (mem _).2 (targets entry there), fun name there => origin name ((mem name).1 there),
    fun name input => (placed name input).imp_left (mem name).2⟩

/-- **Where names come from.**  An entry, and a name that did not survive, has the name of an input or that
of an error. -/
theorem origin_of_resolve {components candidates : Table Schema} {resolution : Resolution}
    (distinct : (Table.keys (components ++ candidates)).Nodup)
    (ok : resolve components candidates = .ok resolution) {name : String}
    (mem : name ∈ Table.keys resolution.table ∨ name ∈ Table.keys resolution.renames) :
    name ∈ Table.keys (components ++ candidates) ∨ Title name := by
  have anchored := anchored_of_resolve distinct ok
  obtain ⟨table, renames, progress, after, f, -, -, grown, retitled, arranged, final⟩ :=
    exists_grown_of_resolve distinct ok
  rcases mem with there | renamed
  · rw [← Table.exists_get?_iff, arranged.get?_table, Table.exists_get?_iff] at there
    obtain ⟨before, present, rfl⟩ := retitled.own name there
    rw [Renaming.apply]
    cases moved : f before with
    | some new => exact .inr (retitled.titled before new moved).2
    | none => exact .inl (grown.known before (List.mem_append_left _ present))
  · by_cases early : name ∈ Table.keys progress.renames
    · exact .inl (grown.known name (List.mem_append_right _ early))
    · cases moved : f name with
      | some new =>
          refine (retitled.titled name new moved).1.imp_left fun there => ?_
          exact grown.known name (List.mem_append_left _ there)
      | none =>
          -- the name would lead to itself, but names lead to entries, which were not renamed
          obtain ⟨target, led⟩ := Table.exists_get?_iff.2 renamed
          have self : after.renaming.apply name = name := by
            rw [retitled.follows, Progress.renaming, apply_of_unnamed (Table.get?_eq_none_iff.2 early),
              Renaming.apply, moved, Option.getD_none]
          have leads : after.renaming.apply name = target := by
            rw [Progress.renaming, Renaming.apply, Renaming.ofTable, ← final, led, Option.getD_some]
          have there := anchored.targets _ (Table.mem_of_get? led)
          rw [← leads, self] at there
          exact absurd renamed (anchored.alive name there)

/-- What becomes of the names of some inputs: each is that of an entry or was renamed, but not both;
names are renamed to entries; an entry has the name of an input or one that was renamed to; and the
canonical name of a canonical name is that name. -/
structure Covers (inputs : List String) (resolution : Resolution) : Prop where
  placed : ∀ name ∈ inputs, Xor (name ∈ Table.keys resolution.table)
    (name ∈ Table.keys resolution.renames)
  targets : ∀ entry ∈ resolution.renames, entry.2 ∈ Table.keys resolution.table
  origin : ∀ name ∈ Table.keys resolution.table,
    name ∈ inputs ∨ ∃ entry ∈ resolution.renames, entry.2 = name
  idempotent : ∀ name, resolution.canonicalName (resolution.canonicalName name) =
    resolution.canonicalName name

section Anchored

variable {resolution : Resolution}
  (anchored : Anchored inputs (Table.keys resolution.table) resolution.renames)

include anchored

lemma Anchored.canonicalName_eq_self {name : String} (there : name ∈ Table.keys resolution.table) :
    resolution.canonicalName name = name := by
  rw [canonicalName, Table.get?_eq_none_iff.2 (anchored.alive name there), Option.getD_none]

/-- The canonical name of an input is that of an entry. -/
lemma Anchored.canonicalName_mem {name : String} (input : name ∈ inputs) :
    resolution.canonicalName name ∈ Table.keys resolution.table := by
  rw [canonicalName]
  cases renamed : Table.get? resolution.renames name with
  | some target => exact anchored.targets _ (Table.mem_of_get? renamed)
  | none => exact (anchored.placed name input).resolve_right (Table.get?_eq_none_iff.1 renamed)

/-- What anchoring says of names. -/
theorem Anchored.covers : Covers inputs resolution := by
  refine ⟨fun name input => ?_, anchored.targets, anchored.origin, fun name => ?_⟩
  · rcases anchored.placed name input with there | old
    · exact .inl ⟨there, anchored.alive name there⟩
    · exact .inr ⟨old, fun there => anchored.alive name there old⟩
  · cases renamed : Table.get? resolution.renames name with
    | some target =>
        have led : resolution.canonicalName name = target := by
          rw [canonicalName, renamed, Option.getD_some]
        rw [led]
        exact anchored.canonicalName_eq_self (anchored.targets _ (Table.mem_of_get? renamed))
    | none =>
        have own : resolution.canonicalName name = name := by
          rw [canonicalName, renamed, Option.getD_none]
        rw [own, own]

end Anchored

end SchemaCompiler.Resolution
