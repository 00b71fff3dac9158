import Mathlib.Tactic
import SchemaCompiler.Proofs.Except
import SchemaCompiler.Registry

/-!
What registrations leave in a registry.

A registration is refused, or it leaves the name looked up for its key and all else as it was.  So a
registry only grows until it is cleared, and which registrations succeed one after another does not
depend on their order: their names have to be identifiers and those of one key the same.

* `Registry.lookup?_register`: what is looked up after a registration;
* `Registry.registerPairs`: registrations one after another, each of which has to succeed;
* `Registry.Agree`, `Registry.exists_registerPairs_iff`: the pairs that can be registered so;
* `Registry.ofPairs_eq`: the registry of some pairs is made in this way;
* `Registry.Stops`, `Registry.stops_of_extend`: an object is registered up to the member that is refused;
* `Registry.WellFormed`, `Registry.Keeps`: what every operation keeps, and every run of operations;
* `Registry.registrations`: operations keep names valid and in place, and their order makes no
  difference.
-/

namespace SchemaCompiler.Registry

variable {registry next : Registry} {key : RegistryKey} {name : String} {error : CompileError}

/-! ### One registration -/

/-- A registration succeeds if the name is an identifier and no other one is registered for the key. -/
lemma exists_register_iff :
    (∃ next, registry.register key name = .ok next) ↔
      Text.isIdentifier name ∧ ∀ existing, registry.lookup? key = some existing → existing = name := by
  rw [register]
  cases identifier : Text.isIdentifier name with
  | false => simp
  | true =>
      cases registry.lookup? key with
      | none => simp
      | some existing => by_cases same : existing = name <;> simp [same]

/-- A registration that succeeds adds its pair, unless it is there. -/
lemma register_cases (ok : registry.register key name = .ok next) :
    registry.lookup? key = some name ∧ next = registry ∨
      registry.lookup? key = none ∧ next = ⟨registry.entries ++ [(key, name)]⟩ := by
  rw [register] at ok
  split at ok
  · cases ok
  · cases found : registry.lookup? key with
    | none =>
        simp only [found] at ok
        cases ok
        exact .inr ⟨rfl, rfl⟩
    | some existing =>
        simp only [found] at ok
        split at ok
        · next same =>
            cases ok
            exact .inl ⟨by rw [same], rfl⟩
        · cases ok

/-- After a registration its key has its name, and the other keys have the names they had. -/
lemma lookup?_register (ok : registry.register key name = .ok next) (other : RegistryKey) :
    next.lookup? other = if other = key then some name else registry.lookup? other := by
  rcases register_cases ok with ⟨found, rfl⟩ | ⟨free, rfl⟩
  · split
    · next same => rw [same, found]
    · rfl
  · rw [lookup?, List.lookup_append, ← lookup?]
    split
    · next same => simp [same, free]
    · next different =>
        have apart : (other == key) = false := by simpa using different
        rw [List.lookup_cons, apart, List.lookup_nil, Option.or_none]

/-! ### Registrations one after another -/

/-- Registers pairs, each of which has to succeed. -/
def registerPairs (registry : Registry) (pairs : List (RegistryKey × String)) :
    Except CompileError Registry :=
  pairs.foldlM (fun registry pair => registry.register pair.1 pair.2) registry

lemma registerPairs_cons (registry : Registry) (pair : RegistryKey × String)
    (rest : List (RegistryKey × String)) :
    registry.registerPairs (pair :: rest) =
      registry.register pair.1 pair.2 >>= fun next => next.registerPairs rest :=
  List.foldlM_cons

/-- The names of some pairs are identifiers, and a key has one name among them and in a registry. -/
structure Agree (registry : Registry) (pairs : List (RegistryKey × String)) : Prop where
  valid : ∀ pair ∈ pairs, Text.isIdentifier pair.2
  stored : ∀ pair ∈ pairs, ∀ existing, registry.lookup? pair.1 = some existing → existing = pair.2
  same : ∀ pair ∈ pairs, ∀ other ∈ pairs, pair.1 = other.1 → pair.2 = other.2

variable {pairs others : List (RegistryKey × String)}

lemma Agree.perm (agree : registry.Agree pairs) (perm : others.Perm pairs) : registry.Agree others where
  valid pair mem := agree.valid pair (perm.subset mem)
  stored pair mem := agree.stored pair (perm.subset mem)
  same pair mem other mem' := agree.same pair (perm.subset mem) other (perm.subset mem')

/-- A pair that is registered is no longer among those that have to agree, but in the registry. -/
lemma agree_cons_iff (ok : registry.register key name = .ok next) :
    registry.Agree ((key, name) :: pairs) ↔ next.Agree pairs := by
  have fits := exists_register_iff.1 ⟨next, ok⟩
  have found := lookup?_register ok
  constructor
  · intro agree
    refine ⟨fun pair mem => agree.valid pair (.tail _ mem), fun pair mem existing there => ?_,
      fun pair mem other mem' => agree.same pair (.tail _ mem) other (.tail _ mem')⟩
    rw [found] at there
    split at there
    · next same =>
        cases there
        exact agree.same (key, name) (.head _) pair (.tail _ mem) same.symm
    · exact agree.stored pair (.tail _ mem) existing there
  · intro agree
    have first : ∀ pair ∈ pairs, pair.1 = key → name = pair.2 := fun pair mem same =>
      agree.stored pair mem name (by rw [found, if_pos same])
    refine ⟨List.forall_mem_cons.2 ⟨fits.1, agree.valid⟩,
      List.forall_mem_cons.2 ⟨fits.2, fun pair mem existing there => ?_⟩, ?_⟩
    · by_cases same : pair.1 = key
      · rw [← first pair mem same]
        exact fits.2 existing (same ▸ there)
      · exact agree.stored pair mem existing (by rw [found, if_neg same, there])
    · intro pair mem other mem' same
      -- the first pair is either one, and each of the others agrees with it through the registry
      rcases List.mem_cons.1 mem with rfl | mem <;> rcases List.mem_cons.1 mem' with rfl | mem'
      · rfl
      · exact first other mem' same.symm
      · exact (first pair mem same).symm
      · exact agree.same pair mem other mem' same

/-- Pairs can be registered one after another if and only if they agree with each other and with what
is registered.  Their order does not matter. -/
theorem exists_registerPairs_iff :
    (∃ next, registry.registerPairs pairs = .ok next) ↔ registry.Agree pairs := by
  induction pairs generalizing registry with
  | nil => exact ⟨fun _ => ⟨nofun, nofun, nofun⟩, fun _ => ⟨registry, rfl⟩⟩
  | cons pair rest ih =>
      obtain ⟨key, name⟩ := pair
      simp only [registerPairs_cons, bind_eq_ok_iff]
      constructor
      · rintro ⟨next, first, ok, later⟩
        exact (agree_cons_iff ok).2 (ih.1 ⟨next, later⟩)
      · intro agree
        obtain ⟨first, ok⟩ := exists_register_iff.2
          ⟨agree.valid (key, name) (.head _), agree.stored (key, name) (.head _)⟩
        obtain ⟨next, later⟩ := ih.2 ((agree_cons_iff ok).1 agree)
        exact ⟨next, first, ok, later⟩

/-- What is registered afterwards was registered before or is among the pairs. -/
theorem lookup?_registerPairs (ok : registry.registerPairs pairs = .ok next) :
    next.lookup? key = some name ↔ registry.lookup? key = some name ∨ (key, name) ∈ pairs := by
  induction pairs generalizing registry with
  | nil =>
      cases ok
      simp
  | cons pair rest ih =>
      obtain ⟨own, given⟩ := pair
      obtain ⟨middle, first, later⟩ := bind_eq_ok_iff.1 (registerPairs_cons _ _ _ ▸ ok)
      have fits := (exists_register_iff.1 ⟨middle, first⟩).2
      rw [ih later, lookup?_register first, List.mem_cons, Prod.mk.injEq, ← or_assoc]
      refine or_congr_left ?_
      split
      · next same =>
          subst same
          refine ⟨fun eq => .inr ⟨rfl, (Option.some.inj eq).symm⟩, ?_⟩
          rintro (stored | ⟨-, eq⟩)
          · rw [fits name stored]
          · rw [eq]
      · next different => simp [different]

/-! ### The members of an object -/

/-- The object that gives some names to the keys of some texts. -/
def written (pairs : List (String × String)) : List (String × Json) :=
  pairs.map fun pair => (pair.1, .string pair.2)

/-- The pairs of keys and names that an object gives. -/
def keyed (pairs : List (String × String)) : List (RegistryKey × String) :=
  pairs.map fun pair => (.ofText pair.1, pair.2)

lemma registerPairs_keyed (registry : Registry) (pairs : List (String × String)) :
    registry.registerPairs (keyed pairs) =
      match registry.registerAll pairs with
      | (next, none) => .ok next
      | (_, some error) => .error error := by
  induction pairs generalizing registry with
  | nil => rfl
  | cons pair rest ih =>
      obtain ⟨key, name⟩ := pair
      rw [keyed, List.map_cons, ← keyed, registerPairs_cons, registerAll]
      cases answer : registry.register (.ofText key) name with
      | ok next => exact ih next
      | error error => rfl

/-- The registry of some pairs is that of their registrations one after another. -/
theorem ofPairs_eq (pairs : List (String × String)) :
    ofPairs pairs = empty.registerPairs (keyed pairs) := (registerPairs_keyed empty pairs).symm

/-- The registration of a value is refused: it is no object, or it has a member that is refused, and
then the pairs before that member are registered. -/
inductive Stops (registry : Registry) : Json → Registry → CompileError → Prop
  | notObject {value : Json} (other : ∀ members, value ≠ .object members) :
      Stops registry value registry (.unsupported "#" .registryNotObject)
  | notString (before : List (String × String)) {next : Registry} {key : String} {offered : Json}
      (after : List (String × Json)) (registered : registry.registerPairs (keyed before) = .ok next)
      (other : ∀ name, offered ≠ .string name) :
      Stops registry (.object (written before ++ (key, offered) :: after)) next
        (.unsupported s!"#/{key}" .registryAliasNotString)
  | refused (before : List (String × String)) {next : Registry} {key name : String}
      {error : CompileError} (after : List (String × Json))
      (registered : registry.registerPairs (keyed before) = .ok next)
      (refused : next.register (.ofText key) name = .error error) :
      Stops registry (.object (written before ++ (key, .string name) :: after)) next error

/-- What is refused after a first member is refused with it. -/
lemma Stops.cons {text : String} {members : List (String × Json)} {first : Registry}
    (ok : registry.register (.ofText text) name = .ok first)
    (stops : first.Stops (.object members) next error) :
    registry.Stops (.object ((text, .string name) :: members)) next error := by
  have longer : ∀ before, first.registerPairs (keyed before) = .ok next →
      registry.registerPairs (keyed ((text, name) :: before)) = .ok next := fun before registered => by
    rw [keyed, List.map_cons, ← keyed, registerPairs_cons]
    exact bind_eq_ok_iff.2 ⟨first, ok, registered⟩
  generalize eq : Json.object members = value at stops
  cases stops with
  | notObject other => exact absurd eq.symm (other members)
  | notString before after registered other =>
      cases eq
      exact .notString ((text, name) :: before) after (longer before registered) other
  | refused before after registered refused =>
      cases eq
      exact .refused ((text, name) :: before) after (longer before registered) refused

/-- The members of an object are registered one after another, or up to one that is refused. -/
lemma extendMembers_cases (registry : Registry) (members : List (String × Json)) :
    (∃ pairs next, members = written pairs ∧ registry.registerPairs (keyed pairs) = .ok next ∧
        registry.extendMembers members = (next, none)) ∨
      ∃ next error, registry.extendMembers members = (next, some error) ∧
        registry.Stops (.object members) next error := by
  fun_induction extendMembers registry members with
  | case1 registry => exact .inl ⟨[], registry, rfl, rfl, rfl⟩
  | case2 registry key name rest next ok ih =>
      rcases ih with ⟨pairs, last, rfl, registered, eq⟩ | ⟨last, error, eq, stops⟩
      · refine .inl ⟨(key, name) :: pairs, last, rfl, ?_, eq⟩
        rw [keyed, List.map_cons, ← keyed, registerPairs_cons]
        exact bind_eq_ok_iff.2 ⟨next, ok, registered⟩
      · exact .inr ⟨last, error, eq, stops.cons ok⟩
  | case3 registry key name rest error refused =>
      exact .inr ⟨registry, error, rfl, .refused [] rest rfl refused⟩
  | case4 registry key offered rest other =>
      exact .inr ⟨registry, _, rfl, .notString [] rest rfl other⟩

/-- A registration of a value that is refused stops where it is refused. -/
theorem stops_of_extend {value : Json} (refused : registry.extend value = (next, some error)) :
    registry.Stops value next error := by
  rw [extend.eq_def] at refused
  split at refused
  · next members =>
      rcases registry.extendMembers_cases members with ⟨_, _, -, -, eq⟩ | ⟨_, _, eq, stops⟩
      · rw [eq] at refused
        cases refused
      · rw [eq] at refused
        cases refused
        exact stops
  · next other =>
      cases refused
      exact .notObject other

/-- Whether it is refused or not, the registration of a value amounts to that of some pairs. -/
lemma exists_registerPairs_of_extend (registry : Registry) (value : Json) :
    ∃ pairs, registry.registerPairs pairs = .ok (registry.extend value).1 := by
  cases answer : registry.extend value with
  | mk next error =>
      cases error with
      | some error =>
          cases stops_of_extend answer with
          | notObject => exact ⟨[], rfl⟩
          | notString before _ registered => exact ⟨keyed before, registered⟩
          | refused before _ registered => exact ⟨keyed before, registered⟩
      | none =>
          rw [extend.eq_def] at answer
          split at answer
          · next members =>
              rcases registry.extendMembers_cases members with ⟨pairs, _, -, registered, eq⟩ | ⟨_, _, eq, -⟩
              · rw [eq] at answer
                cases answer
                exact ⟨keyed pairs, registered⟩
              · rw [eq] at answer
                cases answer
          · cases answer

/-! ### Operations -/

/-- Every registered name is an identifier. -/
def Valid (registry : Registry) : Prop := ∀ entry ∈ registry.entries, Text.isIdentifier entry.2

/-- What is registered stays as it is. -/
def Keeps (registry next : Registry) : Prop :=
  ∀ key name, registry.lookup? key = some name → next.lookup? key = some name

lemma valid_empty : empty.Valid := fun _ mem => absurd mem List.not_mem_nil

lemma Valid.register (valid : registry.Valid) (ok : registry.register key name = .ok next) :
    next.Valid := by
  rcases register_cases ok with ⟨-, rfl⟩ | ⟨-, rfl⟩
  · exact valid
  · have identifier := (exists_register_iff.1 ⟨_, ok⟩).1
    exact List.forall_mem_append.2 ⟨valid, List.forall_mem_singleton.2 identifier⟩

lemma Valid.registerPairs (valid : registry.Valid) (ok : registry.registerPairs pairs = .ok next) :
    next.Valid := by
  induction pairs generalizing registry with
  | nil =>
      cases ok
      exact valid
  | cons pair rest ih =>
      obtain ⟨first, own, later⟩ := bind_eq_ok_iff.1 (registerPairs_cons _ _ _ ▸ ok)
      exact ih (valid.register own) later

lemma keeps_registerPairs (ok : registry.registerPairs pairs = .ok next) : registry.Keeps next :=
  fun _ _ stored => (lookup?_registerPairs ok).2 (.inl stored)

/-- An operation removes everything or amounts to the registration of some pairs. -/
lemma perform_cases (registry : Registry) (operation : Operation) :
    operation = .clear ∧ (registry.perform operation).1 = empty ∨
      ∃ pairs, registry.registerPairs pairs = .ok (registry.perform operation).1 := by
  cases operation with
  | register key name =>
      refine .inr ?_
      cases answer : registry.register key name with
      | ok next => exact ⟨[(key, name)], by rw [perform, answer, registerPairs_cons, answer]; rfl⟩
      | error error => exact ⟨[], by rw [perform, answer]; rfl⟩
  | extend value => exact .inr (registry.exists_registerPairs_of_extend value)
  | clear => exact .inl ⟨rfl, rfl⟩

lemma Valid.perform (valid : registry.Valid) (operation : Operation) :
    (registry.perform operation).1.Valid := by
  rcases registry.perform_cases operation with ⟨-, cleared⟩ | ⟨pairs, registered⟩
  · rw [cleared]
    exact valid_empty
  · exact valid.registerPairs registered

lemma keeps_perform {operation : Operation} (kept : operation ≠ .clear) :
    registry.Keeps (registry.perform operation).1 := by
  rcases registry.perform_cases operation with ⟨cleared, -⟩ | ⟨pairs, registered⟩
  · exact absurd cleared kept
  · exact keeps_registerPairs registered

lemma Valid.performAll (valid : registry.Valid) (operations : List Operation) :
    (registry.performAll operations).Valid := by
  induction operations generalizing registry with
  | nil => exact valid
  | cons operation rest ih => exact ih (valid.perform operation)

/-- Unless a registry is cleared, what is registered stays. -/
lemma keeps_performAll {operations : List Operation} (kept : .clear ∉ operations) :
    registry.Keeps (registry.performAll operations) := by
  induction operations generalizing registry with
  | nil => exact fun _ _ stored => stored
  | cons operation rest ih =>
      obtain ⟨first, later⟩ := not_or.1 (mt List.mem_cons.2 kept)
      exact fun key name stored => ih later key name (keeps_perform (Ne.symm first) key name stored)

/-- A registration that is refused changes nothing. -/
lemma perform_register_of_refused (refused : (registry.perform (.register key name)).2 = some error) :
    (registry.perform (.register key name)).1 = registry := by
  rw [perform] at refused ⊢
  cases answer : registry.register key name with
  | ok next => simp [answer] at refused
  | error other => rfl

/-- **No name is displaced, and the order of registrations does not matter.**  Operations keep the names
in a registry valid and, until it is cleared, in place.  A registration that is refused changes nothing,
and that of an object stops before the member that is refused.  Pairs can be registered one after another
in every order or in none, and give every key the same name. -/
theorem registrations (operations : List Operation) (pairs : List (RegistryKey × String)) :
    (empty.performAll operations).Valid ∧
    (∀ more, .clear ∉ more →
      (empty.performAll operations).Keeps (empty.performAll (operations ++ more))) ∧
    (∀ key name error,
      ((empty.performAll operations).perform (.register key name)).2 = some error →
        ((empty.performAll operations).perform (.register key name)).1 = empty.performAll operations) ∧
    (∀ value next error, (empty.performAll operations).perform (.extend value) = (next, some error) →
      (empty.performAll operations).Stops value next error) ∧
    ((∃ next, empty.registerPairs pairs = .ok next) ↔
      ∀ others, others.Perm pairs → ∃ next, empty.registerPairs others = .ok next) ∧
    ∀ others next next', others.Perm pairs → empty.registerPairs pairs = .ok next →
      empty.registerPairs others = .ok next' → ∀ key, next.lookup? key = next'.lookup? key ∧
        ∀ name, next.lookup? key = some name ↔ (key, name) ∈ pairs := by
  refine ⟨?valid, ?keeps, ?refused, ?stops, ?order, ?lookups⟩
  case valid => exact valid_empty.performAll operations
  case keeps =>
    intro more kept
    rw [performAll, performAll, List.foldl_append]
    exact keeps_performAll kept
  case refused => exact fun key name error => perform_register_of_refused
  case stops => exact fun value next error => stops_of_extend
  case order =>
    refine ⟨fun registered others perm => ?_, fun all => all pairs (.refl pairs)⟩
    exact exists_registerPairs_iff.2 ((exists_registerPairs_iff.1 registered).perm perm)
  case lookups =>
    intro others next next' perm registered registered' key
    have found : ∀ name, next.lookup? key = some name ↔ (key, name) ∈ pairs := fun name =>
      (lookup?_registerPairs registered).trans (or_iff_right nofun)
    have found' : ∀ name, next'.lookup? key = some name ↔ (key, name) ∈ others := fun name =>
      (lookup?_registerPairs registered').trans (or_iff_right nofun)
    refine ⟨Option.ext fun name => ?_, found⟩
    rw [found, found', perm.mem_iff]

end SchemaCompiler.Registry
