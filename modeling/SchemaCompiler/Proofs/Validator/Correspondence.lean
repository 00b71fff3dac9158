import SchemaCompiler.Proofs.List
import SchemaCompiler.Proofs.Validator.Derivation

/-!
Validators that ask the same of all values in two stores.

* `Corresponds`: two validators have one form and the same demands, and the validators inside them
  are again related.  The order of fields, and how allowed values are listed, do not matter;
* `Correspondence`: a relation that is kept up inside validators and along references;
* `Correspondence.accepts_eq`: validators that it relates accept the same values, by induction
  on the height of derivations, as each rule of one store is a rule of the other.
-/

namespace SchemaCompiler.Validator

/-- Two validators have one form and the same demands; `related` is asked about the validators inside
them and those that references lead to. -/
inductive Corresponds (store store' : Store) (related : Validator → Validator → Prop) :
    Validator → Validator → Prop
  | string (checks : StringChecks) : Corresponds store store' related (.string checks) (.string checks)
  | number {checks checks' : NumberChecks} (same : ∀ n, checks.Passed n ↔ checks'.Passed n) :
      Corresponds store store' related (.number checks) (.number checks')
  | boolean : Corresponds store store' related .boolean .boolean
  | null : Corresponds store store' related .null .null
  | unknown : Corresponds store store' related .unknown .unknown
  | strings {listed listed' : Enumeration String} {checks checks' : StringChecks}
      (same : ∀ text, text ∈ listed.values ↔ text ∈ listed'.values) :
      Corresponds store store' related (.strings listed checks) (.strings listed' checks')
  | numbers {listed listed' : Enumeration Json.Number} {checks checks' : NumberChecks}
      (same : ∀ n, (∃ m ∈ listed.values, m.equals n = true) ↔
        ∃ m ∈ listed'.values, m.equals n = true) :
      Corresponds store store' related (.numbers listed checks) (.numbers listed' checks')
  | array {item item' : Validator} {bounds : ItemBounds} (items : related item item') :
      Corresponds store store' related (.array item bounds) (.array item' bounds)
  | object {fields fields' : List (Field Validator)} {extras extras' : Extras Validator}
      (forth : ∀ field ∈ fields, ∃ field' ∈ fields', field'.name = field.name ∧
        field'.optional = field.optional ∧ related field.rule field'.rule)
      (back : ∀ field' ∈ fields', ∃ field ∈ fields, field.name = field'.name ∧
        field.optional = field'.optional ∧ related field.rule field'.rule)
      (closed : extras = .forbid ↔ extras' = .forbid)
      (further : ∀ rule, extras = .schema rule → ∃ rule', extras' = .schema rule' ∧ related rule rule')
      (further' : ∀ rule', extras' = .schema rule' →
        ∃ rule, extras = .schema rule ∧ related rule rule') :
      Corresponds store store' related (.object fields extras) (.object fields' extras')
  | union {keyword keyword' : UnionKeyword} {members members' : List Validator}
      {objectTyped objectTyped' : Bool} (all : List.Forall₂ related members members') :
      Corresponds store store' related (.union keyword members none objectTyped)
        (.union keyword' members' none objectTyped')
  | intersection {members members' : List Validator} {inlined inlined' objectTyped objectTyped' : Bool}
      (all : List.Forall₂ related members members') :
      Corresponds store store' related (.intersection members inlined objectTyped)
        (.intersection members' inlined' objectTyped')
  | reference {name name' : String} {target target' : Validator} (found : store.get? name = some target)
      (found' : store'.get? name' = some target') (targets : related target target') :
      Corresponds store store' related (.reference name) (.reference name')
  | external {name name' : String} {base base' : Validator} (bases : related base base') :
      Corresponds store store' related (.external name base) (.external name' base')
  | nullable {inner inner' : Validator} (inners : related inner inner') :
      Corresponds store store' related (.nullable inner) (.nullable inner')

variable {store store' : Store} {related : Validator → Validator → Prop}

lemma Corresponds.symm {v w : Validator} (h : Corresponds store store' related v w) :
    Corresponds store' store (flip related) w v := by
  cases h with
  | string checks => exact .string checks
  | number same => exact .number fun n => (same n).symm
  | boolean => exact .boolean
  | null => exact .null
  | unknown => exact .unknown
  | strings same => exact .strings fun text => (same text).symm
  | numbers same => exact .numbers fun n => (same n).symm
  | array items => exact .array items
  | object forth back closed further further' =>
      exact .object back forth closed.symm further' further
  | union all => exact .union all.flip
  | intersection all => exact .intersection all.flip
  | reference found found' targets => exact .reference found' found targets
  | external bases => exact .external bases
  | nullable inners => exact .nullable inners

/-- A rule for an object is one for an object that corresponds to it. -/
lemma Rule.transfer_object {inside here inside' here' : Validator → Json → Prop}
    {fields fields' : List (Field Validator)} {extras extras' : Extras Validator} {value : Json}
    (rule : Rule store inside here (.object fields extras) value)
    (h : Corresponds store store' related (.object fields extras) (.object fields' extras'))
    (within : ∀ v w x, related v w → inside v x → inside' w x) :
    Rule store' inside' here' (.object fields' extras') value := by
  obtain ⟨members, rfl, ⟨present, declared⟩, shut, others⟩ := rule_object_iff.1 rule
  cases h with
  | object forth back closed further further' =>
      have names : ∀ name, name ∈ fields.map Field.name → name ∈ fields'.map Field.name := by
        intro name mem
        obtain ⟨field, there, rfl⟩ := List.mem_map.1 mem
        obtain ⟨field', mem', eq, -⟩ := forth field there
        exact List.mem_map.2 ⟨field', mem', eq⟩
      refine .object ?_ ?_ ?_ ?_
      · intro field' mem' needed
        obtain ⟨field, mem, name, optional, -⟩ := back field' mem'
        rw [← name]
        exact present field mem (optional.trans needed)
      · intro field' mem' x found
        obtain ⟨field, mem, name, -, pair⟩ := back field' mem'
        rw [← name] at found
        exact within _ _ x pair (declared field mem x found)
      · exact fun eq entry mem => names _ (shut (closed.2 eq) entry mem)
      · intro rule' eq' entry mem new
        obtain ⟨rule, eq, pair⟩ := further' rule' eq'
        exact within _ _ _ pair (others rule eq entry mem fun mem' => new (names _ mem'))

/-- A rule for a validator is one for a validator that corresponds to it. -/
lemma Rule.transfer {inside here inside' here' : Validator → Json → Prop} {v w : Validator}
    {value : Json} (rule : Rule store inside here v value) (h : Corresponds store store' related v w)
    (within : ∀ v w x, related v w → inside v x → inside' w x)
    (same : ∀ v w, related v w → here v value → here' w value) :
    Rule store' inside' here' w value := by
  cases h with
  | string =>
      cases rule with
      | string passed => exact .string passed
  | number agree =>
      cases rule with
      | number passed => exact .number ((agree _).1 passed)
  | boolean =>
      cases rule with
      | boolean b => exact .boolean b
  | null =>
      cases rule with
      | null => exact .null
  | unknown => exact .unknown value
  | strings agree =>
      cases rule with
      | strings among => exact .strings ((agree _).1 among)
  | numbers agree =>
      cases rule with
      | numbers among equal =>
          obtain ⟨m, among, equal⟩ := (agree _).1 ⟨_, among, equal⟩
          exact .numbers among equal
  | array items =>
      cases rule with
      | array passed all => exact .array passed fun x mem => within _ _ x items (all x mem)
  | object forth back closed further further' =>
      exact rule.transfer_object (.object forth back closed further further') within
  | union all =>
      cases rule with
      | union _ among holds =>
          obtain ⟨member', among', pair⟩ := exists_mem_of_forall₂ all among
          exact .union (.inl rfl) among' (same _ _ pair holds)
  | intersection all =>
      cases rule with
      | intersection each =>
          refine .intersection fun member' mem' => ?_
          obtain ⟨member, mem, pair⟩ := exists_mem_of_forall₂ all.flip mem'
          exact same _ _ pair (each member mem)
  | reference found found' targets =>
      cases rule with
      | reference found'' holds =>
          rw [found] at found''
          cases found''
          exact .reference found' (same _ _ targets holds)
  | external bases =>
      cases rule with
      | external holds => exact .external (same _ _ bases holds)
  | nullable inners =>
      cases rule with
      | admittedNull => exact .admittedNull _
      | nullable holds => exact .nullable (same _ _ inners holds)

/-- A relation between the validators of two stores that is kept up inside them and along
references. -/
def Correspondence (store store' : Store) (related : Validator → Validator → Prop) : Prop :=
  ∀ v w, related v w → Corresponds store store' related v w

lemma Correspondence.symm (h : Correspondence store store' related) :
    Correspondence store' store (flip related) := fun v w pair => (h w v pair).symm

/-- Derivations are carried over from one store to the other, at the same height. -/
lemma DerivesIn.transfer (h : Correspondence store store' related) {n : ℕ} {v w : Validator}
    {value : Json} (pair : related v w) (derives : DerivesIn store n v value) :
    DerivesIn store' n w value := by
  induction n generalizing v w value with
  | zero => exact derives.elim
  | succ n ih =>
      exact Rule.transfer derives (h v w pair) (fun _ _ _ pair' => ih pair') fun _ _ pair' => ih pair'

lemma Correspondence.issue?_eq_none (h : Correspondence store store' related) {v w : Validator}
    (pair : related v w) {value : Json} (ok : v.issue? store value = none) :
    w.issue? store' value = none := by
  obtain ⟨n, derives⟩ := derives_of_issueAt?_eq_none ok
  exact issueAt?_eq_none_of_derivesIn (derives.transfer h pair) (by simp)

/-- Validators that correspond to each other accept the same values. -/
theorem Correspondence.accepts_eq (h : Correspondence store store' related) {v w : Validator}
    (pair : related v w) (value : Json) : v.accepts store value = w.accepts store' value := by
  rw [Bool.eq_iff_iff, accepts, accepts, Option.isNone_iff_eq_none, Option.isNone_iff_eq_none]
  exact ⟨h.issue?_eq_none pair, h.symm.issue?_eq_none pair⟩

end SchemaCompiler.Validator
