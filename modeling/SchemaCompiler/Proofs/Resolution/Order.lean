import SchemaCompiler.Proofs.Resolution.Success

/-!
Merging does not depend on the order of the components.

Two orders merge other entries into others, round by round, so that the tables of their rounds have
nothing to do with each other.  But what merging one order ends with is a renaming under which schemas
of one normal form have one name, and whatever a round of another order merges has one name under any
such renaming.  So each of the two renamings joins the components that the other one joins.

* `Resolution.Saturated`, `Resolution.Refines`: such a renaming, and one that joins no more than another;
* `Resolution.refines_round`, `Resolution.mergeRounds_refines`: a round joins no more than any
  saturated renaming, and neither do all rounds;
* `Resolution.mergeRounds_ordered`: what an entry is merged into precedes it;
* `Resolution.resolve_perm`: two orders of the components resolve alike.
-/

namespace SchemaCompiler.Resolution

/-! ### What is joined -/

/-- Inputs of one normal form after renaming have one name. -/
def Saturated (inputs : Table Schema) (g : Renaming) : Prop :=
  ∀ a s b t, (a, s) ∈ inputs → (b, t) ∈ inputs → (s.rename g).normal = (t.rename g).normal →
    g.apply a = g.apply b

/-- A renaming that can be made before another one without a difference. -/
def Refines (f g : Renaming) : Prop := ∀ name, g.apply (f.apply name) = g.apply name

/-- A finer renaming joins no more. -/
lemma Refines.joined {f g : Renaming} (refines : Refines f g) {a b : String}
    (same : f.apply a = f.apply b) : g.apply a = g.apply b :=
  calc g.apply a = g.apply (f.apply a) := (refines a).symm
    _ = g.apply (f.apply b) := by rw [same]
    _ = g.apply b := refines b

lemma Refines.rename {f g : Renaming} (refines : Refines f g) (s : Schema) :
    (s.rename f).rename g = s.rename g := by
  rw [Schema.rename_rename]
  refine Schema.rename_congr fun name _ => ?_
  rw [Renaming.apply_andThen, refines]

/-- What a search merges has one normal form. -/
lemma Search.normal_eq {table : Table Schema} {merged : Table String}
    (search : Search [] table merged) {name first : String} (found : Table.get? merged name = some first) :
    ∃ s t, (name, s) ∈ table ∧ (first, t) ∈ table ∧ s.normal = t.normal := by
  obtain ⟨⟨m, s⟩, mem, rfl⟩ := List.mem_map.1 (search.among name (Table.mem_keys_of_get? found))
  obtain ⟨form, own, placed⟩ := search.placed m s mem
  rcases placed with ⟨kept, -⟩ | ⟨target, taken, met | ⟨-, t, mem', -, own'⟩⟩
  · cases kept.symm.trans found
  · cases met
  · obtain rfl : target = first := Option.some.inj (taken.symm.trans found)
    exact ⟨s, t, mem, mem', (Schema.canonical_eq_iff own own').1 rfl⟩

/-- A round joins no more than a saturated renaming. -/
lemma refines_round {inputs table : Table Schema} {renames merged : Table String} {g : Renaming}
    (before : Merged inputs table renames) (saturated : Saturated inputs g)
    (search : Search [] table merged) (refines : Refines (.ofTable renames) g) :
    Refines (.ofTable (extendRenames renames merged)) g := by
  have dead : ∀ name ∈ Table.keys merged, Table.get? renames name = none := fun name mem =>
    before.alive name (search.among name mem)
  have once : Refines (.ofTable merged) g := by
    intro name
    rw [Renaming.apply.eq_1 (.ofTable merged), Renaming.ofTable]
    cases found : Table.get? merged name with
    | none => rfl
    | some first =>
        obtain ⟨s, t, memS, memT, same⟩ := search.normal_eq found
        obtain ⟨u, inputU, rfl⟩ :=
          before.own name s ((Table.get?_eq_some_iff before.distinct).2 memS)
        obtain ⟨v, inputV, rfl⟩ :=
          before.own first t ((Table.get?_eq_some_iff before.distinct).2 memT)
        refine saturated first v name u (Table.mem_of_get? inputV) (Table.mem_of_get? inputU) ?_
        rw [← refines.rename u, ← refines.rename v, Schema.normal_rename, ← same,
          ← Schema.normal_rename]
  intro name
  rw [ofTable_extendRenames search.distinct dead, Renaming.apply_andThen, once, refines]

/-- Merging joins no more than a saturated renaming. -/
theorem mergeRounds_refines {inputs table last : Table Schema} {renames final : Table String}
    {g : Renaming} (saturated : Saturated inputs g) (before : Merged inputs table renames)
    (refines : Refines (.ofTable renames) g)
    (ok : mergeRounds table renames = .ok (last, final)) : Refines (.ofTable final) g := by
  induction length : table.length using Nat.strong_induction_on generalizing table renames with
  | _ n ih =>
      subst length
      obtain ⟨merged, found, ⟨fewer, ok⟩ | ⟨-, result⟩⟩ := mergeRounds_cases ok
      · have search := duplicates_spec before.distinct found
        refine ih _ ?_ (before.round search) (refines_round before saturated search refines) ok rfl
        rwa [renameAll, Table.mapValues, List.length_map]
      · cases result
        exact refines

/-- What merging ends with is saturated. -/
lemma Merged.saturated {inputs table : Table Schema} {renames : Table String}
    (merged : Merged inputs table renames) (apart : Apart table)
    (distinct : (Table.keys inputs).Nodup) : Saturated inputs (.ofTable renames) := by
  intro a s b t memS memT same
  obtain ⟨u, standsU, normalU⟩ := merged.stands a s ((Table.get?_eq_some_iff distinct).2 memS)
  obtain ⟨v, standsV, normalV⟩ := merged.stands b t ((Table.get?_eq_some_iff distinct).2 memT)
  obtain ⟨⟨c, formU⟩, joined⟩ := apart _ u _ v standsU standsV
  obtain ⟨⟨d, formV⟩, -⟩ := apart _ v _ u standsV standsU
  have forms : c = d := (Schema.canonical_eq_iff formU formV).2 (by rw [normalU, same, normalV])
  exact joined (by rw [formU, formV, forms])

lemma Saturated.perm {inputs other : Table Schema} {g : Renaming} (perm : inputs.Perm other)
    (saturated : Saturated inputs g) : Saturated other g := fun a s b t memS memT =>
  saturated a s b t (perm.mem_iff.2 memS) (perm.mem_iff.2 memT)

/-! ### What comes first -/

/-- What a search merges an entry into precedes it, in any order that the entries come in. -/
lemma duplicates_ordered {R : String → String → Prop} {forms : Forms} {rest : Table Schema}
    {merged : Table String} (pairwise : (Table.keys rest).Pairwise R)
    (met : ∀ entry ∈ forms, ∀ name ∈ Table.keys rest, R entry.2 name)
    (ok : duplicates forms rest = .ok merged) :
    ∀ name first, Table.get? merged name = some first → R first name := by
  induction rest generalizing forms merged with
  | nil =>
      cases ok
      exact nofun
  | cons head rest ih =>
      obtain ⟨name, s⟩ := head
      obtain ⟨here, later⟩ := List.pairwise_cons.1 pairwise
      have met' : ∀ entry ∈ forms, ∀ n ∈ Table.keys rest, R entry.2 n := fun entry mem n among =>
        met entry mem n (List.mem_cons_of_mem _ among)
      rw [duplicates, bind_eq_ok_iff] at ok
      obtain ⟨form, -, ok⟩ := ok
      cases found : forms.lookup form with
      | none =>
          rw [found] at ok
          -- the entry is the first of its form: from here on it is what others are merged into
          refine ih later (fun entry mem => ?_) ok
          rcases List.mem_cons.1 mem with rfl | mem
          · exact here
          · exact met' entry mem
      | some first =>
          rw [found, bind_eq_ok_iff] at ok
          obtain ⟨merged', others, eq⟩ := ok
          cases eq
          obtain ⟨earlier, others', split, -⟩ := List.lookup_eq_some_iff.1 found
          have mem : (form, first) ∈ forms := split ▸ List.mem_append_right _ List.mem_cons_self
          have own : R first name := met _ mem name List.mem_cons_self
          intro n target taken
          rw [Table.get?_cons] at taken
          split at taken
          · next eq =>
              cases taken
              exact eq ▸ own
          · exact ih later met' others n target taken

/-- The names of a table come in an order, and every name that did not survive has come after the one
that took its place. -/
structure Ordered (R : String → String → Prop) (table : Table Schema) (renames : Table String) :
    Prop where
  pairwise : (Table.keys table).Pairwise R
  precedes : ∀ name target, Table.get? renames name = some target → R target name

lemma Ordered.round {R : String → String → Prop} (trans : ∀ a b c, R a b → R b c → R a c)
    {inputs table : Table Schema} {renames merged : Table String} (ordered : Ordered R table renames)
    (before : Merged inputs table renames) (found : duplicates [] table = .ok merged) :
    Ordered R (renameAll (.ofTable merged) (kept merged table)) (extendRenames renames merged) := by
  have search := duplicates_spec before.distinct found
  have here := duplicates_ordered ordered.pairwise (fun entry mem => absurd mem List.not_mem_nil) found
  refine ⟨?_, ?_⟩
  · rw [renameAll, Table.keys_mapValues]
    exact ordered.pairwise.sublist (Table.keys_filter_sublist _ _)
  · intro name target taken
    rw [extendRenames, Table.get?_foldl_insert search.distinct, redirect, Table.get?_mapValues] at taken
    rcases Option.or_eq_some_iff.1 taken with taken | ⟨-, taken⟩
    · exact here name target taken
    · obtain ⟨old, renamed, rfl⟩ := Option.map_eq_some_iff.1 taken
      have earlier := ordered.precedes name old renamed
      cases further : Table.get? merged old with
      | none => exact earlier
      | some first => exact trans _ _ _ (here old first further) earlier

/-- What an entry is merged into precedes it. -/
theorem mergeRounds_ordered {R : String → String → Prop} (trans : ∀ a b c, R a b → R b c → R a c)
    {inputs table last : Table Schema} {renames final : Table String}
    (ordered : Ordered R table renames) (before : Merged inputs table renames)
    (ok : mergeRounds table renames = .ok (last, final)) : Ordered R last final := by
  induction length : table.length using Nat.strong_induction_on generalizing table renames with
  | _ n ih =>
      subst length
      obtain ⟨merged, found, ⟨fewer, ok⟩ | ⟨-, result⟩⟩ := mergeRounds_cases ok
      · have search := duplicates_spec before.distinct found
        refine ih _ ?_ (ordered.round trans before found) (before.round search) ok rfl
        rwa [renameAll, Table.mapValues, List.length_map]
      · cases result
        exact ordered

/-! ### Resolution -/

/-- Every component stands for the first one, in the order of the table, of those that stand for
the same. -/
def NamesFirst (components : Table Schema) (resolution : Resolution) : Prop :=
  ∀ a ∈ Table.keys components,
    (Table.keys components).find?
        (fun b => resolution.canonicalName b = resolution.canonicalName a) =
      some (resolution.canonicalName a)

/-- Resolution of components makes the renames that merging makes. -/
lemma merge_of_resolve {components : Table Schema} {resolution : Resolution}
    (ok : resolve components [] = .ok resolution) :
    ∃ table, merge components = .ok (table, resolution.renames) := by
  obtain ⟨table, renames, forms, added, merged, -, adding, -, renamesEq⟩ := resolve_cases ok
  cases adding
  exact ⟨table, renamesEq ▸ merged⟩

theorem namesFirst_of_resolve {components : Table Schema} {resolution : Resolution}
    (distinct : (Table.keys components).Nodup) (ok : resolve components [] = .ok resolution) :
    NamesFirst components resolution := by
  obtain ⟨table, merge⟩ := merge_of_resolve ok
  let precedes : String → String → Prop := fun a b =>
    (Table.keys components).idxOf a < (Table.keys components).idxOf b
  have trans : ∀ a b c, precedes a b → precedes b c → precedes a c := fun _ _ _ => Nat.lt_trans
  have initial : Ordered precedes components [] := ⟨pairwise_idxOf distinct, nofun⟩
  have ordered := mergeRounds_ordered trans initial (.initial distinct) merge
  obtain ⟨merged, -⟩ := merged_of_merge distinct merge
  intro a known
  obtain ⟨s, input⟩ := Table.exists_get?_iff.2 known
  obtain ⟨t, stands, -⟩ := merged.stands a s input
  have alive : (Table.get? resolution.renames (resolution.canonicalName a)) = none :=
    merged.alive _ (Table.mem_keys_of_get? stands)
  obtain ⟨u, there, -⟩ := merged.own _ t stands
  refine find?_eq_some_of_first distinct (Table.mem_keys_of_get? there) ?_ fun b _ same => ?_
  · simp [canonicalName.eq_1 resolution (resolution.canonicalName a), alive]
  · rw [← of_decide_eq_true same, canonicalName]
    cases renamed : Table.get? resolution.renames b with
    | none => exact Nat.le_refl _
    | some target => exact Nat.le_of_lt (ordered.precedes b target renamed)

/-- Two results for the components in two orders: the second joins what the first one does. -/
theorem joined_of_perm {components other : Table Schema} {resolution result : Resolution}
    (distinct : (Table.keys components).Nodup) (perm : components.Perm other)
    (ok : resolve components [] = .ok resolution) (ok' : resolve other [] = .ok result) {a b : String}
    (same : resolution.canonicalName a = resolution.canonicalName b) :
    result.canonicalName a = result.canonicalName b := by
  have distinct' : (Table.keys other).Nodup := (perm.map Prod.fst).nodup_iff.1 distinct
  obtain ⟨table, merge⟩ := merge_of_resolve ok
  obtain ⟨table', merge'⟩ := merge_of_resolve ok'
  obtain ⟨merged', apart'⟩ := merged_of_merge distinct' merge'
  have saturated : Saturated components (.ofTable result.renames) :=
    (merged'.saturated apart' distinct').perm perm.symm
  have refines : Refines (.ofTable resolution.renames) (.ofTable result.renames) :=
    mergeRounds_refines saturated (.initial distinct) (fun name => rfl) merge
  exact refines.joined same

/-- **The order of the components does not matter**: resolution succeeds for both of two orders or for
neither, it joins the same components, and it joins them in the one that comes first. -/
theorem resolve_perm {components other : Table Schema} (distinct : (Table.keys components).Nodup)
    (perm : components.Perm other) :
    ((∃ resolution, resolve components [] = .ok resolution) ↔
        ∃ resolution, resolve other [] = .ok resolution) ∧
      ∀ resolution result, resolve components [] = .ok resolution → resolve other [] = .ok result →
        (∀ a b, resolution.canonicalName a = resolution.canonicalName b ↔
          result.canonicalName a = result.canonicalName b) ∧
        NamesFirst components resolution ∧ NamesFirst other result := by
  have distinct' : (Table.keys other).Nodup := (perm.map Prod.fst).nodup_iff.1 distinct
  refine ⟨?_, fun resolution result ok ok' => ⟨fun a b => ⟨?_, ?_⟩, ?_, ?_⟩⟩
  · have keys : ∀ name, name ∈ Table.keys components ↔ name ∈ Table.keys other := fun name =>
      (perm.map Prod.fst).mem_iff
    simp only [exists_resolve_iff distinct, exists_resolve_iff distinct', Formed, perm.mem_iff, keys]
  · exact joined_of_perm distinct perm ok ok'
  · exact joined_of_perm distinct' perm.symm ok' ok
  · exact namesFirst_of_resolve distinct ok
  · exact namesFirst_of_resolve distinct' ok'

/-- Four components, of which two are merged because two others are, in two orders. -/
theorem resolve_perm_friends :
    let components : Table Schema :=
      [("Cat", .mk .boolean false), ("Dog", .mk .boolean false), ("Pet", .mk (.reference "Dog") false),
        ("Friend", .mk (.reference "Cat") false)]
    ∃ resolution result, resolve components [] = .ok resolution ∧
      resolve components.reverse [] = .ok result ∧
      resolution.canonicalName "Friend" = "Pet" ∧ result.canonicalName "Pet" = "Friend" ∧
      (∀ a b, resolution.canonicalName a = resolution.canonicalName b ↔
        result.canonicalName a = result.canonicalName b) ∧
      NamesFirst components resolution ∧ NamesFirst components.reverse result := by
  intro components
  have renames : (resolve components []).toOption.map renames =
      some [("Dog", "Cat"), ("Friend", "Pet")] := by decide +kernel
  have renames' : (resolve components.reverse []).toOption.map Resolution.renames =
      some [("Cat", "Dog"), ("Pet", "Friend")] := by decide +kernel
  have alike := (resolve_perm (by decide) (List.reverse_perm components).symm).2
  cases ok : resolve components [] with
  | error fault =>
      rw [ok] at renames
      cases renames
  | ok resolution =>
      cases ok' : resolve components.reverse [] with
      | error fault =>
          rw [ok'] at renames'
          cases renames'
      | ok result =>
          rw [ok] at renames
          rw [ok'] at renames'
          have first := Option.some.inj renames
          have second := Option.some.inj renames'
          refine ⟨resolution, result, rfl, rfl, ?_, ?_, alike resolution result ok ok'⟩
          · rw [canonicalName, first]
            decide
          · rw [canonicalName, second]
            decide

end SchemaCompiler.Resolution
