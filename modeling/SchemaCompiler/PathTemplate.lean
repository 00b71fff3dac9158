import SchemaCompiler.Text.Affix

/-!
Path templates such as `/users/{id}/files/{name}.{ext}`.

A segment of a path is a sequence of text without braces and groups of a name in braces.

* `PathTemplate.placeholders`: the names of a path's groups, or what is wrong with its first
  segment that is not of this form;
* `TemplateError`: the faults, with the byte offset in the segment of the brace that is at fault.
-/

namespace SchemaCompiler

/-- What can be wrong with a segment of a path. -/
inductive TemplateError where
  | unclosed (segment : String) (position : Nat)
  | emptyName (segment : String)
  | unmatched (segment : String) (position : Nat)
  | nested (segment : String) (position : Nat)
  deriving DecidableEq, Repr

/-- The wording of a template error. -/
def TemplateError.message : TemplateError → String
  | unclosed segment position => s!"unclosed '\x7b' at position {position} in segment '{segment}'"
  | emptyName segment => s!"empty parameter '\x7b\x7d' in segment '{segment}'"
  | unmatched segment position => s!"unmatched '\x7d' at position {position} in segment '{segment}'"
  | nested segment position => s!"nested '\x7b' at position {position} in segment '{segment}'"

namespace PathTemplate

/-- The reader of a segment is outside all groups, or within the group that was opened at a place,
with the characters of its name so far and the place of the first brace opened inside. -/
inductive State where
  | outside
  | inside (opened : Nat) (name : List Char) (nested : Option Nat)

/-- The names of the groups in the rest of a segment, from a byte offset on. -/
def groups (segment : String) : State → (offset : Nat) → List Char →
    Except TemplateError (List String)
  | .outside, _, [] => .ok []
  | .inside opened _ _, _, [] => .error (.unclosed segment opened)
  | .outside, offset, c :: rest =>
    if c = '\x7b' then groups segment (.inside offset [] none) (offset + 1) rest
    else if c = '\x7d' then .error (.unmatched segment offset)
    else groups segment .outside (offset + c.utf8Size) rest
  | .inside opened name nested, offset, c :: rest =>
    if c = '\x7d' then
      match nested with
      | some position => .error (.nested segment position)
      | none =>
        if name.isEmpty then .error (.emptyName segment)
        else (groups segment .outside (offset + 1) rest).map (String.ofList name :: ·)
    else if c = '\x7b' then
      groups segment (.inside opened (name ++ [c]) (nested.or (some offset))) (offset + 1) rest
    else groups segment (.inside opened (name ++ [c]) nested) (offset + c.utf8Size) rest

/-- The names of the groups of a segment. -/
def segmentNames (segment : String) : Except TemplateError (List String) :=
  groups segment .outside 0 segment.toList

/-- The names of the groups of several segments, each name once, in order. -/
def placeholders (path : String) : Except TemplateError (List String) := do
  let names ← (Text.splitOn '/' path).mapM segmentNames
  return names.flatten.eraseDups

end PathTemplate

end SchemaCompiler
