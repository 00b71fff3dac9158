import SchemaCompiler.Json.Value

/-!
JSON pointers: paths from a value to one of its parts.

* `Json.Pointer.escape`, `Json.Pointer.unescape`: a segment as it is written, `~` being written
  `~0` and `/` being written `~1`;
* `Json.Pointer.render`: the text of a path, one `/` before each segment;
* `Json.at?`: the part of a value that a path leads to.
-/

namespace SchemaCompiler.Json

namespace Pointer

/-- A character of a segment as it is written. -/
def escapeChar (c : Char) : List Char :=
  if c = '~' then ['~', '0'] else if c = '/' then ['~', '1'] else [c]

/-- A segment as it is written. -/
def escape (segment : String) : String := String.ofList (segment.toList.flatMap escapeChar)

/-- The characters that a written segment stands for. -/
def unescapeChars : List Char → List Char
  | '~' :: '1' :: rest => '/' :: unescapeChars rest
  | '~' :: '0' :: rest => '~' :: unescapeChars rest
  | c :: rest => c :: unescapeChars rest
  | [] => []

/-- The segment that a text stands for. -/
def unescape (text : String) : String := String.ofList (unescapeChars text.toList)

/-- The text of a path. -/
def render (path : List String) : String :=
  String.join (path.map fun segment => "/" ++ escape segment)

theorem unescapeChars_flatMap_escapeChar (cs : List Char) :
    unescapeChars (cs.flatMap escapeChar) = cs := by
  induction cs with
  | nil => rfl
  | cons c rest ih =>
    by_cases h : c = '~'
    · simp [escapeChar, h, unescapeChars, ih]
    · by_cases g : c = '/'
      · simp [escapeChar, g, unescapeChars, ih]
      · simp [escapeChar, h, g, unescapeChars, ih]

theorem unescape_escape (segment : String) : unescape (escape segment) = segment := by
  simp [unescape, escape, unescapeChars_flatMap_escapeChar]

end Pointer

/-- The part of a value that a path leads to: members by name, items by their decimal index. -/
def at? : Json → List String → Option Json
  | value, [] => some value
  | .object members, segment :: path =>
    match Table.get? members segment with
    | some value => at? value path
    | none => none
  | .array items, segment :: path =>
    match items.zipIdx.find? (fun item => toString item.2 = segment) with
    | some (value, _) => at? value path
    | none => none
  | _, _ :: _ => none

end SchemaCompiler.Json
