import SchemaCompiler.Json.Canonical
import SchemaCompiler.Proofs.Number.Render

/-!
Canonical JSON text tells the value that it was written for, up to the spelling of its numbers.

A text is followed through from the left: its first character gives the kind of the value, a string
ends at the first quotation mark that is not escaped, and a number ends where no character of a
number follows.  So no text of a value continues another one.

* `Json.ind`: induction over values by way of their items and members;
* `Json.plain`: a value with every number as the double that it is compared through, zero without a
  sign;
* `Json.quote_append_inj`: what follows a quoted string, and the string, can be told from the text;
* `Json.canonicalText_append_inj`: the same of a whole value, if no number is continued;
* `Json.canonicalText_eq_iff`: two values have one canonical text if and only if they differ at most
  in the spelling of numbers.
-/

namespace SchemaCompiler

/-! ### Plain numbers -/

/-- A double whose zero has no sign. -/
def Double.plain (x : Double) : Double := ⟨decide (x.value < 0), x.steps, x.representable⟩

lemma Double.natAbs_value (x : Double) : x.value.natAbs = x.steps := by
  rw [value]
  split <;> simp

lemma Double.value_plain (x : Double) : x.plain.value = x.value := by
  have steps := x.natAbs_value
  rw [value, plain]
  by_cases negative : x.value < 0
  · simp only [negative, decide_true, if_true]
    omega
  · simp only [negative, decide_false, Bool.false_eq_true, if_false]
    omega

lemma Double.plain_eq_iff {x y : Double} : x.plain = y.plain ↔ x.value = y.value := by
  refine ⟨fun eq => ?_, fun eq => ?_⟩
  · rw [← x.value_plain, eq, y.value_plain]
  · have steps : x.steps = y.steps := by rw [← x.natAbs_value, eq, y.natAbs_value]
    simp only [plain, eq, steps]

lemma Double.value_neg_iff (x : Double) : x.value < 0 ↔ x.negative = true ∧ x.steps ≠ 0 := by
  rw [value]
  split
  · next negative =>
      simp only [negative, true_and]
      omega
  · next positive =>
      simp only [positive, Bool.false_eq_true, false_and, iff_false]
      omega

namespace Json

/-- The double that a number is compared through, zero without a sign. -/
def Number.plain (n : Number) : Number := .real n.toDouble.plain

lemma Number.plain_eq_iff {m n : Number} : m.plain = n.plain ↔ m.toDouble.value = n.toDouble.value := by
  rw [plain, plain, Number.real.injEq, Double.plain_eq_iff]

lemma Number.value_plain (n : Number) : n.plain.toDouble.value = n.toDouble.value := by
  rw [plain, toDouble, Double.value_plain]

@[simp]
lemma Number.plain_plain (n : Number) : n.plain.plain = n.plain :=
  Number.plain_eq_iff.2 n.value_plain

mutual

/-- The value with plain numbers. -/
def plain : Json → Json
  | number n => number n.plain
  | array items => array (plainItems items)
  | object members => object (plainMembers members)
  | value => value

/-- The items with plain numbers. -/
def plainItems : List Json → List Json
  | [] => []
  | item :: rest => plain item :: plainItems rest

/-- The members with plain numbers. -/
def plainMembers : List (String × Json) → List (String × Json)
  | [] => []
  | (name, value) :: rest => (name, plain value) :: plainMembers rest

end

lemma plainItems_eq (items : List Json) : plainItems items = items.map plain := by
  induction items with
  | nil => rfl
  | cons item rest ih => rw [plainItems, ih, List.map_cons]

lemma plainMembers_eq (members : List (String × Json)) :
    plainMembers members = Table.mapValues plain members := by
  induction members with
  | nil => rfl
  | cons member rest ih => rw [plainMembers, ih, Table.mapValues, Table.mapValues, List.map_cons]

/-- The induction principle of values: what holds of scalars and is inherited from items and from
the values of members holds of all values. -/
@[elab_as_elim]
theorem ind {P : Json → Prop} (null : P .null) (bool : ∀ b, P (.bool b))
    (number : ∀ n, P (.number n)) (string : ∀ s, P (.string s))
    (array : ∀ items : List Json, (∀ v ∈ items, P v) → P (.array items))
    (object : ∀ members : List (String × Json), (∀ m ∈ members, P m.2) → P (.object members))
    (v : Json) : P v :=
  Json.rec (motive_1 := P) (motive_2 := fun items => ∀ v ∈ items, P v)
    (motive_3 := fun members => ∀ m ∈ members, P m.2) (motive_4 := fun m => P m.2)
    null bool number string array object
    (fun v h => absurd h (by simp))
    (fun _ _ head tail v h => by
      rcases List.mem_cons.1 h with rfl | h
      · exact head
      · exact tail v h)
    (fun m h => absurd h (by simp))
    (fun _ _ head tail m h => by
      rcases List.mem_cons.1 h with rfl | h
      · exact head
      · exact tail m h)
    (fun _ _ h => h) v

/-! ### Strings -/

/-- Reads a character back from the text of a string. -/
def readEscaped : List Char → Option (Char × List Char)
  | '\\' :: 'n' :: rest => some ('\n', rest)
  | '\\' :: 'r' :: rest => some ('\r', rest)
  | '\\' :: 't' :: rest => some ('\t', rest)
  | '\\' :: 'b' :: rest => some ('\x08', rest)
  | '\\' :: 'f' :: rest => some ('\x0c', rest)
  | '\\' :: 'u' :: _ :: _ :: a :: b :: rest => do
    return (Char.ofNat ((← Text.hexValue? a) * 16 + (← Text.hexValue? b)), rest)
  | '\\' :: c :: rest => some (c, rest)
  | c :: rest => some (c, rest)
  | [] => none

lemma hexValue?_hexDigit {n : ℕ} (h : n < 16) : Text.hexValue? (Text.hexDigit n) = some n := by
  have all : ∀ i : Fin 16, Text.hexValue? (Text.hexDigit i.val) = some i.val := by decide
  exact all ⟨n, h⟩

lemma readEscaped_escapeChar (c : Char) (rest : List Char) :
    readEscaped (escapeChar c ++ rest) = some (c, rest) := by
  rw [escapeChar]
  split
  · next eq => rw [eq]; rfl
  split
  · next eq => rw [eq]; rfl
  split
  · next eq => rw [eq]; rfl
  split
  · next eq => rw [eq]; rfl
  split
  · next eq => rw [eq]; rfl
  split
  · next eq => rw [eq]; rfl
  split
  · next eq => rw [eq]; rfl
  split
  · next control =>
      have code : c.toNat / 16 * 16 + c.toNat % 16 = c.toNat := by omega
      simp [readEscaped, Text.hexByte, hexValue?_hexDigit (show c.toNat / 16 < 16 by omega),
        hexValue?_hexDigit (Nat.mod_lt c.toNat (show 0 < 16 by omega)), code]
  · next backslash _ _ _ _ _ _ =>
      rw [List.singleton_append, readEscaped.eq_def]
      split <;> simp_all

/-- No character is written with a quotation mark in front. -/
lemma exists_escapeChar_eq_cons (c : Char) : ∃ d rest, escapeChar c = d :: rest ∧ d ≠ '"' := by
  by_cases h : escapeChar c = [c]
  · refine ⟨c, [], h, ?_⟩
    rintro rfl
    exact absurd h (by decide)
  · refine ⟨'\\', (escapeChar c).tail, ?_, by decide⟩
    rw [escapeChar] at h ⊢
    repeat' split
    all_goals first
      | rfl
      | simp_all

lemma escaped_append_inj {cs ds r s : List Char}
    (eq : cs.flatMap escapeChar ++ '"' :: r = ds.flatMap escapeChar ++ '"' :: s) :
    cs = ds ∧ r = s := by
  induction cs generalizing ds with
  | nil =>
      cases ds with
      | nil => exact ⟨rfl, (List.cons_eq_cons.1 eq).2⟩
      | cons d ds =>
          obtain ⟨e, rest, code, ne⟩ := exists_escapeChar_eq_cons d
          rw [List.flatMap_cons, code] at eq
          exact absurd (List.cons_eq_cons.1 eq).1.symm ne
  | cons c cs ih =>
      cases ds with
      | nil =>
          obtain ⟨e, rest, code, ne⟩ := exists_escapeChar_eq_cons c
          rw [List.flatMap_cons, code] at eq
          exact absurd (List.cons_eq_cons.1 eq).1 ne
      | cons d ds =>
          rw [List.flatMap_cons, List.flatMap_cons, List.append_assoc, List.append_assoc] at eq
          have read := congrArg readEscaped eq
          rw [readEscaped_escapeChar, readEscaped_escapeChar, Option.some.injEq,
            Prod.mk.injEq] at read
          obtain ⟨rfl, rest⟩ := read
          obtain ⟨rfl, rfl⟩ := ih rest
          exact ⟨rfl, rfl⟩

/-- A quoted string ends where it is closed. -/
theorem quote_append_inj {a b : String} {r s : List Char}
    (eq : (quote a).toList ++ r = (quote b).toList ++ s) : a = b ∧ r = s := by
  simp only [quote, String.toList_ofList, List.cons_append, List.append_assoc, List.nil_append,
    List.cons.injEq, true_and] at eq
  obtain ⟨chars, rest⟩ := escaped_append_inj eq
  exact ⟨String.toList_inj.1 chars, rest⟩

/-! ### Numbers -/

/-- What follows does not continue a number. -/
def Delimited (cs : List Char) : Prop := ∀ c ∈ cs.head?, ¬Decimal.Numeric c

lemma delimited_nil : Delimited [] := by simp [Delimited]

lemma delimited_cons {c : Char} {rest : List Char} (h : c ∈ [',', ']', '}']) :
    Delimited (c :: rest) := by
  rintro d mem numeric
  obtain rfl : c = d := by simpa using mem
  simp only [List.mem_cons, List.not_mem_nil, or_false] at h
  rcases h with rfl | rfl | rfl <;> simp [Decimal.Numeric] at numeric

lemma numeric_append_inj {cs ds r s : List Char} (hc : ∀ c ∈ cs, Decimal.Numeric c)
    (hd : ∀ c ∈ ds, Decimal.Numeric c) (hr : Delimited r) (hs : Delimited s)
    (eq : cs ++ r = ds ++ s) : cs = ds ∧ r = s := by
  induction cs generalizing ds with
  | nil =>
      cases ds with
      | nil => exact ⟨rfl, eq⟩
      | cons d ds =>
          rw [List.nil_append] at eq
          exact absurd (hd d (by simp)) (hr d (by simp [eq]))
  | cons c cs ih =>
      cases ds with
      | nil =>
          rw [List.nil_append] at eq
          exact absurd (hc c (by simp)) (hs c (by simp [← eq]))
      | cons d ds =>
          obtain ⟨rfl, rest⟩ := List.cons_eq_cons.1 eq
          obtain ⟨rfl, rfl⟩ := ih (fun e h => hc e (by simp [h])) (fun e h => hd e (by simp [h])) rest
          exact ⟨rfl, rfl⟩

/-! ### Values -/

/-- The kind of the values whose text begins with a character. -/
def openedKind (c : Char) : String :=
  if c = 'n' then "null" else if c = 't' ∨ c = 'f' then "boolean" else if c = '"' then "string"
  else if c = '[' then "array" else if c = '\x7b' then "object" else "number"

/-- The first character of a text gives the kind of the value. -/
lemma exists_canonicalText_eq_cons (v : Json) :
    ∃ c rest, (canonicalText v).toList = c :: rest ∧ openedKind c = v.kindName ∧ c ≠ ']' := by
  cases v with
  | null => exact ⟨'n', _, by rw [canonicalText]; rfl, by decide, by decide⟩
  | bool b =>
      cases b
      · exact ⟨'f', _, by rw [canonicalText]; rfl, by decide, by decide⟩
      · exact ⟨'t', _, by rw [canonicalText]; rfl, by decide, by decide⟩
  | number n =>
      obtain ⟨c, rest, text, lead⟩ := Double.exists_render_eq_cons canonicalStyle n.toDouble
      refine ⟨c, rest, by rw [canonicalText, text], ?_⟩
      rcases lead with rfl | digit
      · exact ⟨by rw [kindName]; decide, by decide⟩
      · have ne : ∀ d : Char, d.isDigit = false → c ≠ d := by
          rintro d other rfl
          rw [digit] at other
          cases other
        refine ⟨?_, ne ']' (by decide)⟩
        simp only [openedKind, ne 'n' (by decide), ne 't' (by decide), ne 'f' (by decide),
          ne '"' (by decide), ne '[' (by decide), ne '\x7b' (by decide), or_self, if_false, kindName]
  | string s =>
      exact ⟨'"', _, by rw [canonicalText, quote, String.toList_ofList]; rfl,
        by rw [kindName]; decide, by decide⟩
  | array items =>
      exact ⟨'[', _, by simp only [canonicalText, String.toList_append]; rfl,
        by rw [kindName]; decide, by decide⟩
  | object members =>
      exact ⟨'\x7b', _, by simp only [canonicalText, String.toList_append]; rfl,
        by rw [kindName]; decide, by decide⟩

lemma kindName_eq_of_append_eq {a b : Json} {r s : List Char}
    (eq : (canonicalText a).toList ++ r = (canonicalText b).toList ++ s) : a.kindName = b.kindName := by
  obtain ⟨c, _, textA, kindA, -⟩ := exists_canonicalText_eq_cons a
  obtain ⟨d, _, textB, kindB, -⟩ := exists_canonicalText_eq_cons b
  rw [textA, textB] at eq
  rw [← kindA, ← kindB, (List.cons_eq_cons.1 eq).1]

/-- What stands after the first item. -/
def afterItem (rest : List Json) : List Char :=
  if rest = [] then [] else ',' :: (canonicalItems rest).toList

lemma toList_canonicalItems_cons (item : Json) (rest : List Json) :
    (canonicalItems (item :: rest)).toList = (canonicalText item).toList ++ afterItem rest := by
  cases rest with
  | nil => simp [canonicalItems, afterItem]
  | cons next rest => simp [canonicalItems, afterItem]

/-- What stands after the first member. -/
def afterMember (rest : List (String × Json)) : List Char :=
  if rest = [] then [] else ',' :: (canonicalMembers rest).toList

lemma toList_canonicalMembers_cons (name : String) (value : Json) (rest : List (String × Json)) :
    (canonicalMembers ((name, value) :: rest)).toList =
      (quote name).toList ++ ':' :: ((canonicalText value).toList ++ afterMember rest) := by
  cases rest with
  | nil => simp [canonicalMembers, afterMember]
  | cons next rest => simp [canonicalMembers, afterMember]

/-- The text of a value tells the value and where it ends. -/
def Told (v : Json) : Prop :=
  ∀ (w : Json) (r s : List Char), Delimited r → Delimited s →
    (canonicalText v).toList ++ r = (canonicalText w).toList ++ s → v.plain = w.plain ∧ r = s

/-- What stands behind the first of several texts tells whether there are more, and what they are. -/
lemma separated_inj {α : Type} {as bs : List α} (f : List α → List Char) {close : Char}
    {r s : List Char} (ne : close ≠ ',')
    (eq : (if as = [] then [] else ',' :: f as) ++ close :: r =
      (if bs = [] then [] else ',' :: f bs) ++ close :: s) :
    as = [] ∧ bs = [] ∧ r = s ∨ f as ++ close :: r = f bs ++ close :: s := by
  split at eq <;> split at eq
  · next nilA nilB => exact .inl ⟨nilA, nilB, (List.cons_eq_cons.1 eq).2⟩
  · exact absurd (List.cons_eq_cons.1 eq).1 ne
  · exact absurd (List.cons_eq_cons.1 eq).1.symm ne
  · exact .inr (List.cons_eq_cons.1 eq).2

lemma canonicalItems_append_inj {as bs : List Json} {r s : List Char} (told : ∀ a ∈ as, Told a)
    (eq : (canonicalItems as).toList ++ ']' :: r = (canonicalItems bs).toList ++ ']' :: s) :
    plainItems as = plainItems bs ∧ r = s := by
  -- no item begins with the bracket that closes the list
  have opened : ∀ (item : Json) (rest cs ds : List Char),
      ']' :: cs ≠ (canonicalText item).toList ++ rest ++ ds := by
    intro item rest cs ds eq
    obtain ⟨c, _, text, -, ne⟩ := exists_canonicalText_eq_cons item
    rw [text] at eq
    exact ne (List.cons_eq_cons.1 eq).1.symm
  induction as generalizing bs with
  | nil =>
      cases bs with
      | nil => exact ⟨rfl, (List.cons_eq_cons.1 eq).2⟩
      | cons b bs =>
          rw [toList_canonicalItems_cons] at eq
          exact absurd eq (opened _ _ _ _)
  | cons a as ih =>
      cases bs with
      | nil =>
          rw [toList_canonicalItems_cons] at eq
          exact absurd eq.symm (opened _ _ _ _)
      | cons b bs =>
          have delimited : ∀ (rest : List Json) (cs : List Char),
              Delimited (afterItem rest ++ ']' :: cs) := by
            intro rest cs
            rw [afterItem]
            split <;> exact delimited_cons (by simp)
          rw [toList_canonicalItems_cons, toList_canonicalItems_cons, List.append_assoc,
            List.append_assoc] at eq
          obtain ⟨first, after⟩ := told a (by simp) b _ _ (delimited _ _) (delimited _ _) eq
          rw [plainItems, plainItems, first]
          rcases separated_inj (fun items => (canonicalItems items).toList) (by decide) after with
            ⟨nilA, nilB, rest⟩ | after
          · rw [nilA, nilB]
            exact ⟨rfl, rest⟩
          · obtain ⟨others, rest⟩ := ih (fun v h => told v (by simp [h])) after
            exact ⟨by rw [others], rest⟩

lemma canonicalMembers_append_inj {as bs : List (String × Json)} {r s : List Char}
    (told : ∀ a ∈ as, Told a.2)
    (eq : (canonicalMembers as).toList ++ '\x7d' :: r = (canonicalMembers bs).toList ++ '\x7d' :: s) :
    plainMembers as = plainMembers bs ∧ r = s := by
  -- no name begins with the brace that closes the object
  have opened : ∀ (name : String) (rest cs ds : List Char),
      '\x7d' :: cs ≠ (quote name).toList ++ rest ++ ds := by
    intro name rest cs ds eq
    rw [quote, String.toList_ofList] at eq
    exact absurd (List.cons_eq_cons.1 eq).1 (by decide)
  induction as generalizing bs with
  | nil =>
      cases bs with
      | nil => exact ⟨rfl, (List.cons_eq_cons.1 eq).2⟩
      | cons b bs =>
          rw [toList_canonicalMembers_cons] at eq
          exact absurd eq (opened _ _ _ _)
  | cons a as ih =>
      cases bs with
      | nil =>
          rw [toList_canonicalMembers_cons] at eq
          exact absurd eq.symm (opened _ _ _ _)
      | cons b bs =>
          obtain ⟨nameA, valueA⟩ := a
          obtain ⟨nameB, valueB⟩ := b
          have delimited : ∀ (rest : List (String × Json)) (cs : List Char),
              Delimited (afterMember rest ++ '\x7d' :: cs) := by
            intro rest cs
            rw [afterMember]
            split <;> exact delimited_cons (by simp)
          rw [toList_canonicalMembers_cons, toList_canonicalMembers_cons, List.append_assoc,
            List.append_assoc] at eq
          obtain ⟨rfl, values⟩ := quote_append_inj eq
          rw [List.cons_append, List.cons_append, List.append_assoc, List.append_assoc] at values
          obtain ⟨first, after⟩ := told (nameA, valueA) (by simp) valueB _ _ (delimited _ _)
            (delimited _ _) (List.cons_eq_cons.1 values).2
          rw [plainMembers, plainMembers, first]
          rcases separated_inj (fun members => (canonicalMembers members).toList) (by decide) after with
            ⟨nilA, nilB, rest⟩ | after
          · rw [nilA, nilB]
            exact ⟨rfl, rest⟩
          · obtain ⟨others, rest⟩ := ih (fun m h => told m (by simp [h])) after
            exact ⟨by rw [others], rest⟩

/-- The text of a value tells the value and where it ends, up to the spelling of numbers. -/
theorem canonicalText_append_inj (v : Json) : Told v := by
  induction v using ind with
  | null =>
      intro w r s _ _ eq
      -- the first character tells the kind of the other value
      have kind := kindName_eq_of_append_eq eq
      cases w <;> simp only [kindName, String.reduceEq] at kind
      exact ⟨rfl, List.append_cancel_left eq⟩
  | bool b =>
      intro w r s _ _ eq
      have kind := kindName_eq_of_append_eq eq
      cases w <;> simp only [kindName, String.reduceEq] at kind
      next c =>
        rw [canonicalText, canonicalText] at eq
        cases b <;> cases c
        · exact ⟨rfl, List.append_cancel_left eq⟩
        · exact absurd (List.cons_eq_cons.1 eq).1 (by decide)
        · exact absurd (List.cons_eq_cons.1 eq).1 (by decide)
        · exact ⟨rfl, List.append_cancel_left eq⟩
  | number n =>
      intro w r s hr hs eq
      have kind := kindName_eq_of_append_eq eq
      cases w <;> simp only [kindName, String.reduceEq] at kind
      next m =>
        rw [canonicalText, canonicalText] at eq
        obtain ⟨texts, rest⟩ := numeric_append_inj (Double.numeric_render _ _)
          (Double.numeric_render _ _) hr hs eq
        have value := Double.value_eq_of_render_eq (String.toList_inj.1 texts)
        rw [plain, plain, Number.plain_eq_iff.2 value]
        exact ⟨rfl, rest⟩
  | string a =>
      intro w r s _ _ eq
      have kind := kindName_eq_of_append_eq eq
      cases w <;> simp only [kindName, String.reduceEq] at kind
      next b =>
        rw [canonicalText, canonicalText] at eq
        obtain ⟨rfl, rest⟩ := quote_append_inj eq
        exact ⟨rfl, rest⟩
  | array items ih =>
      intro w r s _ _ eq
      have kind := kindName_eq_of_append_eq eq
      cases w <;> simp only [kindName, String.reduceEq] at kind
      next others =>
        simp only [canonicalText, String.toList_append, List.append_assoc] at eq
        obtain ⟨plainly, rest⟩ := canonicalItems_append_inj ih (List.append_cancel_left eq)
        rw [plain, plain, plainly]
        exact ⟨rfl, rest⟩
  | object members ih =>
      intro w r s _ _ eq
      have kind := kindName_eq_of_append_eq eq
      cases w <;> simp only [kindName, String.reduceEq] at kind
      next others =>
        simp only [canonicalText, String.toList_append, List.append_assoc] at eq
        obtain ⟨plainly, rest⟩ := canonicalMembers_append_inj ih (List.append_cancel_left eq)
        rw [plain, plain, plainly]
        exact ⟨rfl, rest⟩

/-- The sign of a zero is not written. -/
lemma render_plain (x : Double) : x.plain.render canonicalStyle = x.render canonicalStyle := by
  have negative : (x.plain.negative = true ∧ (x.plain.steps ≠ 0 ∨ canonicalStyle.signedZero = true)) ↔
      x.negative = true ∧ (x.steps ≠ 0 ∨ canonicalStyle.signedZero = true) := by
    simp only [Double.plain, decide_eq_true_eq, canonicalStyle, Bool.false_eq_true, or_false,
      Double.value_neg_iff, and_assoc, and_self]
  rw [Double.render, Double.render]
  simp only [negative]
  rfl

lemma canonicalItems_plain {items : List Json}
    (ih : ∀ v ∈ items, canonicalText v.plain = canonicalText v) :
    canonicalItems (plainItems items) = canonicalItems items := by
  induction items with
  | nil => rfl
  | cons item rest tail =>
      have others := tail fun v h => ih v (by simp [h])
      have after : afterItem (plainItems rest) = afterItem rest := by
        rw [afterItem, afterItem, others, plainItems_eq]
        simp
      rw [plainItems, ← String.toList_inj, toList_canonicalItems_cons, toList_canonicalItems_cons,
        ih item (by simp), after]

lemma canonicalMembers_plain {members : List (String × Json)}
    (ih : ∀ m ∈ members, canonicalText m.2.plain = canonicalText m.2) :
    canonicalMembers (plainMembers members) = canonicalMembers members := by
  induction members with
  | nil => rfl
  | cons member rest tail =>
      obtain ⟨name, value⟩ := member
      have others := tail fun m h => ih m (by simp [h])
      have after : afterMember (plainMembers rest) = afterMember rest := by
        rw [afterMember, afterMember, others, plainMembers_eq, Table.mapValues]
        simp
      rw [plainMembers, ← String.toList_inj, toList_canonicalMembers_cons,
        toList_canonicalMembers_cons, ih (name, value) (by simp), after]

lemma canonicalText_plain (v : Json) : canonicalText v.plain = canonicalText v := by
  induction v using ind with
  | null => rfl
  | bool => rfl
  | number n =>
      rw [plain, canonicalText, canonicalText]
      exact render_plain n.toDouble
  | string => rfl
  | array items ih => rw [plain, canonicalText, canonicalText, canonicalItems_plain ih]
  | object members ih => rw [plain, canonicalText, canonicalText, canonicalMembers_plain ih]

/-- **Two values have one canonical text** if and only if they differ at most in the spelling of
their numbers. -/
theorem canonicalText_eq_iff {v w : Json} : canonicalText v = canonicalText w ↔ v.plain = w.plain := by
  refine ⟨fun eq => ?_, fun eq => ?_⟩
  · exact (canonicalText_append_inj v w [] [] delimited_nil delimited_nil (by rw [eq])).1
  · rw [← canonicalText_plain v, eq, canonicalText_plain]

end Json

end SchemaCompiler
