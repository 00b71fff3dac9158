import SchemaCompiler.Pattern.Brackets

/-!
Reading the text of a pattern.

* `Scan.body`: the alternatives of a group, or of a whole pattern;
* `Tree.ofText`: the structure of the text of a pattern, or its first fault.
-/

namespace SchemaCompiler.Pattern

namespace Scan

/-! ### Repetitions -/

/-- The last item that was read, if it can be repeated, and those before it, each with the place
where it starts. -/
def repeatable (items : List (Place × Tree)) : Scan ((Place × Tree) × List (Place × Tree)) := do
  match items with
  | [] | (_, .empty) :: _ | (_, .flags _) :: _ => fault .repetitionMissing (Span.at (← place))
  | item :: before => return (item, before)

/-- Moves past the mark of a repetition that takes as little as it can. -/
def lazyMark : Scan Unit := do
  if (← peek) = some '?' then advance

/-- A repetition by one of the three marks. -/
def simpleRepetition (items : List (Place × Tree)) (least : Nat) (most : Option Nat) :
    Scan (List (Place × Tree)) := do
  let ((start, item), before) ← repeatable items
  advance
  lazyMark
  return (start, .repetition (← spanFrom start) item least most) :: before

/-- The counts in the braces of a repetition, after the opening brace. -/
def counts (start : Place) : Scan (Nat × Option Nat) := do
  let first ← decimal .repetitionCountEmpty
  if ← atEnd then fault .repetitionCountUnclosed (← spanFrom start)
  if (← peek) = some ',' then
    if !(← advanceToText) then fault .repetitionCountUnclosed (← spanFrom start)
    if (← peek) = some '}' then return (← liftExcept first, none)
    else
      let least ← liftExcept first
      let most ← liftExcept (← decimal .repetitionCountEmpty)
      return (least, some most)
  else
    let count ← liftExcept first
    return (count, some count)
where
  /-- A count, or the fault in it. -/
  liftExcept (count : Except Fault Nat) : Scan Nat := liftM count

/-- A repetition with counts in braces. -/
def countedRepetition (items : List (Place × Tree)) : Scan (List (Place × Tree)) := do
  let start ← place
  let ((itemStart, item), before) ← repeatable items
  if !(← advanceToText) then fault .repetitionCountUnclosed (← spanFrom start)
  let (least, most) ← counts start
  if (← peek) ≠ some '}' then fault .repetitionCountUnclosed (← spanFrom start)
  if ← advanceToText then lazyMark
  if most.any (· < least) then fault .repetitionCountInvalid (← spanFrom start)
  return (itemStart, .repetition (← spanFrom itemStart) item least most) :: before

/-! ### Groups -/

/-- Whether a character can stand in the name of a group. -/
def isNameChar (first : Bool) (c : Char) : Bool :=
  c = '_' || letters.contains c.toNat ||
    (!first && (c = '.' || c = '[' || c = ']' || numerals.contains c.toNat))

/-- The characters of the name of a group, up to the end of the name or of the text. -/
def nameChars (first : Bool) : Nat → Scan (List Char)
  | 0 => return []
  | fuel + 1 => do
    match ← peek with
    | none | some '>' => return []
    | some c =>
      if isNameChar first c then
        advance
        return c :: (← nameChars false fuel)
      else fault .groupNameInvalid (← spanOfNext)

/-- The name of a group, which no earlier group has. -/
def groupName : Scan Unit := do
  let start ← place
  let name := String.ofList (← nameChars true (← fuel))
  let span ← spanFrom start
  if ← atEnd then fault .groupNameUnclosed (Span.at span.stop)
  advance
  if name.isEmpty then fault .groupNameEmpty (Span.at start)
  match (← get).names.lookup name with
  | some earlier => throw ⟨.groupNameDuplicate, span, some earlier⟩
  | none => modify fun cursor => { cursor with names := cursor.names ++ [(name, span)] }

/-- The flags by their letters. -/
def flagOf? : Char → Option Flag
  | 'i' => some .caseless
  | 'm' => some .multiLine
  | 's' => some .dotAll
  | 'U' => some .swapGreed
  | 'u' => some .unicode
  | 'R' => some .crlf
  | 'x' => some .verbose
  | _ => none

/-- The flags up to the end of their list, after those that have been read. -/
def flagItems : Nat → List (FlagItem × Span) → Scan (List FlagItem)
  | 0, _ => return []
  | fuel + 1, before => do
    let span ← spanOfNext
    match ← peek with
    | none => fault .flagMissing (Span.at (← place))
    | some ':' | some ')' =>
      match before.getLast? with
      | some (.minus, dangling) => fault .flagDanglingNegation dangling
      | _ => return before.map (·.1)
    | some c =>
      let item ←
        if c = '-' then pure FlagItem.minus
        else
          match flagOf? c with
          | some flag => pure (.flag flag)
          | none => fault .flagUnrecognized span
      match before.lookup item with
      | some earlier =>
        throw ⟨if c = '-' then .flagRepeatedNegation else .flagDuplicate, span, some earlier⟩
      | none =>
        advance
        flagItems fuel (before ++ [(item, span)])

/-- What opens with a parenthesis: flags for the rest of the group, or a new group, with or without a
number, and its flags. -/
def parenthesis (opened : Span) : Scan (List FlagItem ⊕ Bool × List FlagItem) := do
  advance
  skipBlanks
  for mark in ["?=", "?!", "?<=", "?<!"] do
    if ← accept mark then fault .lookAround (← spanFrom opened.start)
  let inside := Span.at (← place)
  if (← accept "?P<") then
    groupName
    return .inr (true, [])
  else if (← accept "?<") then
    groupName
    return .inr (true, [])
  else if ← accept "?" then
    if ← atEnd then fault .groupUnclosed opened
    let items ← flagItems (← fuel) []
    let ends := (← peek) = some ')'
    advance
    if !ends then return .inr (false, items)
    else if items.isEmpty then fault .repetitionMissing inside
    else return .inl items
  else return .inr (true, [])

/-- One item is itself, and several are a sequence.  The last one is first. -/
def sequenceOf (span : Span) : List (Place × Tree) → Tree
  | [] => .empty
  | [(_, item)] => item
  | items => .sequence span (items.reverse.map Prod.snd)

/-- The alternatives that have been read, the last one first. -/
def alternativesOf (span : Span) : List Tree → Tree
  | [only] => only
  | members => .alternatives span members.reverse

/-- What has been read of a group. -/
structure Progress where
  /-- Where the first alternative starts. -/
  start : Place
  /-- The alternatives before the one that is being read, the last one first. -/
  before : List Tree
  /-- Where the alternative starts that is being read. -/
  first : Place
  /-- The items of that alternative and where they start, the last one first. -/
  items : List (Place × Tree)

/-- A group of which nothing has been read. -/
def Progress.initial (start : Place) : Progress := ⟨start, [], start, []⟩

/-- The alternative that is being read, if it ends at a place. -/
def Progress.current (progress : Progress) (stop : Place) : Tree :=
  sequenceOf ⟨progress.first, stop⟩ progress.items

/-- What has been read, if it ends at a place. -/
def Progress.finished (progress : Progress) (stop : Place) : Tree :=
  alternativesOf ⟨progress.start, stop⟩ (progress.current stop :: progress.before)

/-- What has been read, with one more item. -/
def Progress.add (progress : Progress) (start : Place) (item : Tree) : Progress :=
  { progress with items := (start, item) :: progress.items }

/-- A character outside of brackets. -/
def atom : Scan Atom := do
  let span ← spanOfNext
  match ← peek with
  | some '\\' => escape
  | some '.' => advance; return .dot span
  | some '^' => advance; return .condition span .lineStart
  | some '$' => advance; return .condition span .lineEnd
  | some c => advance; return .literal ⟨span, c, false⟩
  | none => fault .escapeIncomplete span

/-- The rest of a group that is open, or of the whole pattern, after what has been read of it. -/
def body : Nat → Option Span → Progress → Scan Tree
  | 0, _, _ => return .empty
  | fuel + 1, opened, progress => do
    skipBlanks
    let here ← place
    match ← peek with
    | none =>
      match opened with
      | some span => fault .groupUnclosed span
      | none => return progress.finished here
    | some ')' =>
      match opened with
      | some _ => advance; return progress.finished here
      | none => fault .groupUnopened (← spanOfNext)
    | some '|' =>
      advance
      let before := progress.current here :: progress.before
      body fuel opened { progress with before, first := ← place, items := [] }
    | some '(' =>
      let verbose := (← get).verbose
      let parenthesisSpan ← spanOfNext
      let setVerbose := fun flags : List FlagItem => modify fun cursor : Cursor =>
        { cursor with verbose := (flagState? .verbose flags true).getD verbose }
      match ← parenthesis parenthesisSpan with
      | .inl flags =>
        setVerbose flags
        body fuel opened (progress.add here (.flags flags))
      | .inr (numbered, flags) =>
        setVerbose flags
        let inner ← body fuel (some parenthesisSpan) (.initial (← place))
        modify fun cursor => { cursor with verbose }
        body fuel opened (progress.add here (.group (← spanFrom here) numbered flags inner))
    | some '[' =>
      let points ← bracketed (← Scan.fuel)
      body fuel opened (progress.add here (.oneOf points))
    | some '?' =>
      body fuel opened { progress with items := ← simpleRepetition progress.items 0 (some 1) }
    | some '*' =>
      body fuel opened { progress with items := ← simpleRepetition progress.items 0 none }
    | some '+' =>
      body fuel opened { progress with items := ← simpleRepetition progress.items 1 none }
    | some '{' => body fuel opened { progress with items := ← countedRepetition progress.items }
    | some _ => body fuel opened (progress.add here (← atom).tree)

end Scan

/-- The structure of the text of a pattern, which is not nested too deeply.  Every step of a reading
takes a character, so the length of the text bounds their number. -/
def Tree.ofText (text : String) : Except Fault Tree := do
  let start : Place := ⟨0, 1, 1⟩
  let reading := Scan.body (text.length + 2) none (.initial start)
  let (tree, _) ← reading.run ⟨text.toList, start, false, []⟩
  match tree.tooDeep? 0 with
  | some span => throw ⟨.nestedTooDeeply, span, none⟩
  | none => return tree

end SchemaCompiler.Pattern
