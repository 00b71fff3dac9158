import SchemaCompiler.Pattern.Basic
import SchemaCompiler.Pattern.Fault

/-!
The structure of the text of a pattern.

* `Pattern.ClassTree`: what stands for one character;
* `Pattern.Atom`: what a character or an escape stands for;
* `Pattern.Tree`: the text of a pattern, before its flags are applied;
* `Tree.tooDeep?`: the first part that is nested too deeply.
-/

namespace SchemaCompiler.Pattern

/-- The flags that can be set within a pattern. -/
inductive Flag where
  | caseless
  | multiLine
  | dotAll
  | swapGreed
  | unicode
  | crlf
  | verbose
  deriving DecidableEq, Repr

/-- A piece of a list of flags: the flags after a minus are cleared. -/
inductive FlagItem where
  | minus
  | flag (flag : Flag)
  deriving DecidableEq, Repr

/-- Whether a list of flags sets or clears a flag, if it names it. -/
def flagState? (flag : Flag) : List FlagItem → Bool → Option Bool
  | [], _ => none
  | .minus :: rest, _ => flagState? flag rest false
  | .flag named :: rest, set => if named = flag then some set else flagState? flag rest set

/-- A character that stands for itself. -/
structure Literal where
  span : Span
  char : Char
  /-- Whether it is written as two hexadecimal digits, which is how bytes are written. -/
  asByte : Bool

/-- The sets with a letter of their own. -/
inductive Shorthand where
  | digit
  | space
  | word
  deriving DecidableEq, Repr

/-- The set of characters that a Unicode class asks for. -/
inductive Query where
  | named (name : String)
  | valued (property value : String)

/-- The operations between the sets of a class. -/
inductive ClassOperation where
  | intersection
  | difference
  | symmetricDifference
  deriving DecidableEq, Repr

/-- What stands for one character. -/
inductive ClassTree where
  | literal (literal : Literal)
  | range (first last : Literal)
  | named (span : Span) (negated : Bool) (points : Unicode.PointSet)
  | property (span : Span) (negated : Bool) (query : Query)
  | shorthand (span : Span) (negated : Bool) (kind : Shorthand)
  | bracketed (span : Span) (negated : Bool) (inner : ClassTree)
  /-- Members side by side: none or several of them. -/
  | union (span : Span) (members : List ClassTree)
  | operation (kind : ClassOperation) (left right : ClassTree)

/-- The part of the text that a class takes. -/
def ClassTree.span : ClassTree → Span
  | literal l => l.span
  | range first last => ⟨first.span.start, last.span.stop⟩
  | named span _ _ | property span _ _ | shorthand span _ _ | bracketed span _ _ | union span _ =>
    span
  | operation _ left right => ⟨left.span.start, right.span.stop⟩

/-- The conditions on places, before the flags decide on their meaning. -/
inductive Condition where
  | lineStart
  | lineEnd
  | textStart
  | textEnd
  | word (place : WordPlace)
  deriving DecidableEq, Repr

/-- What an escape or a character can stand for. -/
inductive Atom where
  | literal (literal : Literal)
  | dot (span : Span)
  | condition (span : Span) (condition : Condition)
  | oneOf (span : Span) (points : ClassTree)

/-- The part of the text that an atom takes. -/
def Atom.span : Atom → Span
  | literal l => l.span
  | dot span | condition span _ | oneOf span _ => span

/-- The structure of the text of a pattern. -/
inductive Tree where
  | empty
  | flags (items : List FlagItem)
  | literal (literal : Literal)
  | dot (span : Span)
  | condition (span : Span) (condition : Condition)
  | oneOf (points : ClassTree)
  | repetition (span : Span) (inner : Tree) (least : Nat) (most : Option Nat)
  /-- A group, which may have a number, and the flags that it sets. -/
  | group (span : Span) (numbered : Bool) (items : List FlagItem) (inner : Tree)
  | alternatives (span : Span) (members : List Tree)
  | sequence (span : Span) (members : List Tree)

/-! ### Depth -/

/-- The part itself if as many others as may be nested are around it, and else the first part inside
it that is nested too deeply. -/
def deepest? (depth : Nat) (span : Span) (inside : Nat → Option Span) : Option Span :=
  if depth < nestLimit then inside (depth + 1) else some span

mutual

/-- The first part of a class that is nested too deeply when some others are around it. -/
def ClassTree.tooDeep? (depth : Nat) : ClassTree → Option Span
  | bracketed span _ inner => deepest? depth span fun depth => inner.tooDeep? depth
  | union _ [] => none
  | union span members => deepest? depth span fun depth => ClassTree.anyTooDeep? depth members
  | operation kind left right =>
    deepest? depth (operation kind left right).span fun depth =>
      (left.tooDeep? depth).or (right.tooDeep? depth)
  | _ => none

/-- The first part of several classes that is nested too deeply. -/
def ClassTree.anyTooDeep? (depth : Nat) : List ClassTree → Option Span
  | [] => none
  | member :: rest => (member.tooDeep? depth).or (ClassTree.anyTooDeep? depth rest)

end

mutual

/-- The first part that is nested too deeply when some others are around it. -/
def Tree.tooDeep? (depth : Nat) : Tree → Option Span
  | oneOf points => points.tooDeep? depth
  | repetition span inner _ _ => deepest? depth span fun depth => inner.tooDeep? depth
  | group span _ _ inner => deepest? depth span fun depth => inner.tooDeep? depth
  | alternatives span members => deepest? depth span fun depth => Tree.anyTooDeep? depth members
  | sequence span members => deepest? depth span fun depth => Tree.anyTooDeep? depth members
  | _ => none

/-- The first part of several trees that is nested too deeply. -/
def Tree.anyTooDeep? (depth : Nat) : List Tree → Option Span
  | [] => none
  | member :: rest => (member.tooDeep? depth).or (Tree.anyTooDeep? depth rest)

end

/-- An atom outside of brackets. -/
def Atom.tree : Atom → Tree
  | literal l => .literal l
  | dot span => .dot span
  | condition span c => .condition span c
  | oneOf _ points => .oneOf points

end SchemaCompiler.Pattern
