import SchemaCompiler.Json.Source

/-!
Reading JSON text.

* `Json.Source.ofText`: the tree of a text, up to its first fault.

An exponent is applied in exact arithmetic, so that a number is rounded once (`Double.ofDecimal`).
-/

namespace SchemaCompiler

/-- The double nearest to a decimal `digits × 10 ^ exponent`; `none` beyond the finite doubles.  A
decimal whose leading digit stands far outside the range is not worked out. -/
def Double.ofDecimal (negative : Bool) (digits : Nat) (exponent : Int) : Option Double :=
  let leading := exponent + (Nat.toDigits 10 digits).length
  if digits = 0 ∨ leading < -400 then some (zero negative)
  else if 400 < leading then none
  else
    let (up, down) := tenPower exponent
    nearest negative (digits * up * one) down

namespace Json

/-- The rest of a text and where it begins. -/
structure Cursor where
  rest : List Char
  position : Position

namespace Cursor

/-- The beginning of a text. -/
def ofText (text : String) : Cursor := ⟨text.toList, .start⟩

/-- Past the next character. -/
def step (c : Cursor) : Cursor :=
  match c.rest with
  | [] => c
  | x :: rest => ⟨rest, c.position.after x⟩

/-- The place that a fault in the next character is reported at. -/
def ahead (c : Cursor) : Position := c.position.ahead c.rest

/-- A fault in the next character. -/
def faultAhead (c : Cursor) (kind : FaultKind) : Fault := ⟨kind, c.ahead⟩

/-- A fault in what has been read. -/
def faultHere (c : Cursor) (kind : FaultKind) : Fault := ⟨kind, c.position⟩

/-- Past the characters of a class. -/
def skipWhile (p : Char → Bool) : List Char → Position → Cursor
  | [], position => ⟨[], position⟩
  | x :: rest, position =>
    if p x then skipWhile p rest (position.after x) else ⟨x :: rest, position⟩

/-- Spaces, tabs and line ends may stand between the parts of a text. -/
def isBlank (c : Char) : Bool := c = ' ' || c = '\n' || c = '\t' || c = '\r'

/-- Past the blanks. -/
def skipBlanks (c : Cursor) : Cursor := skipWhile isBlank c.rest c.position

/-- Past the digits. -/
def skipDigits (c : Cursor) : Cursor := skipWhile Char.isDigit c.rest c.position

end Cursor

/-! ### Numbers -/

/-- The value of a decimal digit. -/
def digitValue (c : Char) : Nat := c.toNat - '0'.toNat

/-- The value of a row of decimal digits. -/
def digitsValue (digits : List Char) : Nat := digits.foldl (fun n d => n * 10 + digitValue d) 0

/-- The number of a whole numeral: exact if it fits 64 bits with its sign, otherwise the double
nearest to it, if there is one.  A negative zero is a double. -/
def wholeNumber? (negative : Bool) (n : Nat) : Option Number :=
  if !negative ∧ n < Nat.pow 2 64 then some (.integer n)
  else if negative ∧ n ≠ 0 ∧ n ≤ Nat.pow 2 63 then some (.integer (-(n : Int)))
  else (Double.ofDecimal negative n 0).map .real

/-- Reads the exponent of a number: its value and the rest. -/
def readExponent (c : Cursor) : Except Fault (Int × Cursor) :=
  let c := c.step
  let (negative, c) := match c.rest with
    | '+' :: _ => (false, c.step)
    | '-' :: _ => (true, c.step)
    | _ => (false, c)
  match c.rest with
  | [] => .error (c.faultHere .endInValue)
  | x :: _ =>
    if x.isDigit then
      let digits := c.rest.takeWhile Char.isDigit
      let n : Int := digitsValue digits
      .ok (if negative then -n else n, c.skipDigits)
    else .error (c.faultAhead .invalidNumber)

/-- Reads the part of a number after its whole digits: a fraction, an exponent, or nothing.  A
number beyond the finite doubles is a number all the same, which only a use of it finds fault
with. -/
def readFraction (negative : Bool) (whole : List Char) (c : Cursor) :
    Except Fault (Except Fault Number × Cursor) := do
  let finish (number : Option Number) (c : Cursor) : Except Fault Number × Cursor :=
    match number with
    | some x => (.ok x, c)
    | none => (.error (c.faultHere .numberOutOfRange), c)
  let exponent (fraction : List Char) (c : Cursor) :
      Except Fault (Except Fault Number × Cursor) := do
    let (e, c) ← readExponent c
    let x := Double.ofDecimal negative (digitsValue (whole ++ fraction)) (e - fraction.length)
    return finish (x.map .real) c
  match c.rest with
  | '.' :: rest =>
    let fraction := rest.takeWhile Char.isDigit
    let after := c.step.skipDigits
    if fraction.isEmpty then
      .error (if rest.isEmpty then c.step.faultAhead .endInValue else c.step.faultAhead .invalidNumber)
    else
      match after.rest with
      | 'e' :: _ => exponent fraction after
      | 'E' :: _ => exponent fraction after
      | _ =>
        let x := Double.ofDecimal negative (digitsValue (whole ++ fraction)) (-fraction.length)
        return finish (x.map .real) after
  | 'e' :: _ => exponent [] c
  | 'E' :: _ => exponent [] c
  | _ => return finish (wholeNumber? negative (digitsValue whole)) c

/-- Reads a number at its sign or first digit.  No digit follows a leading zero. -/
def readNumber (c : Cursor) : Except Fault (Except Fault Number × Cursor) :=
  let (negative, c) := match c.rest with
    | '-' :: _ => (true, c.step)
    | _ => (false, c)
  match c.rest with
  | [] => .error (c.faultHere .endInValue)
  | '0' :: rest =>
    match rest with
    | d :: _ =>
      if d.isDigit then .error (c.step.faultAhead .invalidNumber)
      else readFraction negative ['0'] c.step
    | [] => readFraction negative ['0'] c.step
  | d :: _ =>
    if d.isDigit then readFraction negative (c.rest.takeWhile Char.isDigit) c.skipDigits
    else .error (c.faultAhead .invalidNumber)

/-! ### Strings -/

/-- The characters of the simple escapes. -/
def simpleEscape? : Char → Option Char
  | '"' => some '"'
  | '\\' => some '\\'
  | '/' => some '/'
  | 'b' => some '\x08'
  | 'f' => some '\x0c'
  | 'n' => some '\n'
  | 'r' => some '\r'
  | 't' => some '\t'
  | _ => none

/-- The place a number of bytes on, if the text is that long. -/
def placeAfterBytes : (count : Nat) → List Char → Position → Option Position
  | 0, _, position => some position
  | _ + 1, [], _ => none
  | count + 1, c :: rest, position =>
    if count + 1 < c.utf8Size then some ⟨position.line, position.column + (count + 1)⟩
    else placeAfterBytes (count + 1 - c.utf8Size) rest (position.after c)
  termination_by _ text _ => text.length

/-- Reads the four digits of a character escape, each of which is a byte. -/
def readHex (c : Cursor) : Except Fault (Nat × Cursor) :=
  let digits := (c.rest.take 4).filterMap Text.hexValue?
  if digits.length = 4 then
    .ok (digits.foldl (fun n digit => n * 16 + digit) 0, c.step.step.step.step)
  else
    match placeAfterBytes 4 c.rest c.position with
    | some place => .error ⟨.invalidEscape, place⟩
    | none => .error ((Cursor.skipWhile (fun _ => true) c.rest c.position).faultHere .endInString)

/-- Reads the second half of a surrogate pair. -/
def readLowSurrogate (high : Nat) (c : Cursor) : Except Fault (Char × Cursor) :=
  match c.rest with
  | [] => .error (c.faultHere .endInString)
  | '\\' :: rest =>
    match rest with
    | [] => .error (c.step.faultHere .endInString)
    | 'u' :: _ => do
      let (low, after) ← readHex c.step.step
      if 0xDC00 ≤ low ∧ low ≤ 0xDFFF then
        return (Char.ofNat ((high - 0xD800) * 0x400 + (low - 0xDC00) + 0x10000), after)
      else throw (after.faultHere .loneSurrogate)
    | _ => .error (c.step.faultAhead .unfinishedSurrogatePair)
  | _ => .error (c.faultAhead .unfinishedSurrogatePair)

/-- Reads an escape after its backslash. -/
def readEscape (c : Cursor) : Except Fault (Char × Cursor) :=
  match c.rest with
  | [] => .error (c.faultHere .endInString)
  | 'u' :: _ => do
    let (n, after) ← readHex c.step
    if 0xDC00 ≤ n ∧ n ≤ 0xDFFF then throw (after.faultHere .loneSurrogate)
    else if 0xD800 ≤ n ∧ n ≤ 0xDBFF then readLowSurrogate n after
    else return (Char.ofNat n, after)
  | x :: _ =>
    match simpleEscape? x with
    | some y => .ok (y, c.step)
    | none => .error (c.faultAhead .invalidEscape)

/-- Reads a string after its opening quote.  `taken` holds the characters so far in reverse. -/
def readString : (fuel : Nat) → (taken : List Char) → Cursor → Except Fault (String × Cursor)
  | 0, _, c => .error (c.faultHere .endInString)
  | fuel + 1, taken, c =>
    match c.rest with
    | [] => .error (c.faultHere .endInString)
    | '"' :: _ => .ok (String.ofList taken.reverse, c.step)
    | '\\' :: _ => do
      let (x, after) ← readEscape c.step
      readString fuel (x :: taken) after
    | x :: _ =>
      if x.toNat < 32 then .error (c.step.faultHere .controlCharacter)
      else readString fuel (x :: taken) c.step

/-- Passes over an escape after its backslash.  It need not stand for a character. -/
def skipEscape (c : Cursor) : Except Fault Cursor :=
  match c.rest with
  | [] => .error (c.faultHere .endInString)
  | 'u' :: _ => (readHex c.step).map Prod.snd
  | x :: _ =>
    if (simpleEscape? x).isSome then .ok c.step else .error (c.faultAhead .invalidEscape)

/-- Passes over a string after its opening quote. -/
def skipString : (fuel : Nat) → Cursor → Except Fault Cursor
  | 0, c => .error (c.faultHere .endInString)
  | fuel + 1, c =>
    match c.rest with
    | [] => .error (c.faultHere .endInString)
    | '"' :: _ => .ok c.step
    | '\\' :: _ => do skipString fuel (← skipEscape c.step)
    | x :: _ =>
      if x.toNat < 32 then .error (c.faultHere .controlCharacter) else skipString fuel c.step

/-- Reads a string after its opening quote.  What is no string to a reader that uses it may be one to
a reader that passes over it. -/
def readText (c : Cursor) : Except Breach (Except Fault String × Cursor) :=
  let fuel := c.rest.length + 1
  match readString fuel [] c with
  | .ok (text, after) => .ok (.ok text, after)
  | .error used =>
    match skipString fuel c with
    | .ok after => .ok (.error used, after)
    | .error skipped => .error ⟨used, skipped⟩

/-! ### Values -/

/-- Where the reader stands when it gives up a list after an item. -/
def resumeInList (c : Cursor) : Position :=
  let c := c.skipBlanks
  match c.rest with
  | ']' :: _ => c.step.position
  | ',' :: _ => c.step.skipBlanks.position
  | _ => c.position

/-- Where the reader stands when it gives up an object after a member. -/
def resumeInObject (c : Cursor) : Position :=
  let c := c.skipBlanks
  match c.rest with
  | '\x7d' :: _ => c.step.position
  | _ => c.position

/-- Reads the letters of a literal after its first. -/
def readLiteral (letters : List Char) (c : Cursor) : Except Fault Cursor :=
  match letters with
  | [] => .ok c
  | l :: ls =>
    match c.rest with
    | [] => .error (c.faultHere .endInValue)
    | x :: _ => if x = l then readLiteral ls c.step else .error ⟨.expectedLiteral, c.ahead⟩

/-- The end of a number in a text that ends too early, which a reader that passes over it takes for
any other fault in a number. -/
def numberBreach (fault : Fault) : Breach :=
  ⟨fault, if fault.kind = .endInValue then { fault with kind := .invalidNumber } else fault⟩

/-- The end of a list that breaks off at the next character. -/
def brokenList (c : Cursor) (used skipped : FaultKind) : Closing :=
  .broken ⟨c.faultAhead used, c.faultAhead skipped⟩

mutual

/-- Reads a value.  Without a cursor nothing after it can be read. -/
def readValue : (fuel : Nat) → Cursor → Source × Option Cursor
  | 0, c => (.fault (.plain (c.faultAhead .endInValue)), none)
  | fuel + 1, c =>
    let c := c.skipBlanks
    let literal (letters : List Char) (make : Position → Source) : Source × Option Cursor :=
      match readLiteral letters c.step with
      | .ok after => (make after.position, some after)
      | .error fault => (.fault (.plain fault), none)
    match c.rest with
    | [] => (.fault (.plain (c.faultAhead .endInValue)), none)
    | 'n' :: _ => literal ['u', 'l', 'l'] .null
    | 't' :: _ => literal ['r', 'u', 'e'] (.bool true)
    | 'f' :: _ => literal ['a', 'l', 's', 'e'] (.bool false)
    | '"' :: _ =>
      match readText c.step with
      | .ok (value, after) => (.string value after.position, some after)
      | .error breach => (.fault breach, none)
    | '[' :: _ =>
      let (items, closing, after) := readItems fuel true c.step
      (.array c.position items closing, after)
    | '\x7b' :: _ =>
      let (members, closing, after) := readMembers fuel true c.step
      (.object c.position members closing, after)
    | x :: _ =>
      if x = '-' || x.isDigit then
        match readNumber c with
        | .ok (value, after) => (.number value after.position, some after)
        | .error fault => (.fault (numberBreach fault), none)
      else (.fault (.plain (c.faultAhead .expectedValue)), none)

/-- Reads the items of a list up to its bracket. -/
def readItems : (fuel : Nat) → (first : Bool) → Cursor →
    List (SourceItem Source) × Closing × Option Cursor
  | 0, _, c => ([], brokenList c .endInList .endInList, none)
  | fuel + 1, first, c =>
    let c := c.skipBlanks
    let item (c : Cursor) : List (SourceItem Source) × Closing × Option Cursor :=
      match readValue fuel c with
      | (value, some after) =>
        let (items, closing, last) := readItems fuel false after
        (⟨value, resumeInList after⟩ :: items, closing, last)
      | (value, none) => ([⟨value, c.position⟩], brokenList c .endInList .endInList, none)
    match c.rest with
    | [] => ([], brokenList c .endInList .endInList, none)
    | ']' :: _ => ([], .closed c.step.position, some c.step)
    | x :: _ =>
      if first then item c
      else if x = ',' then
        let c := c.step.skipBlanks
        match c.rest with
        | [] => ([], brokenList c .endInValue .endInValue, none)
        | ']' :: _ => ([], brokenList c .trailingComma .expectedValue, none)
        | _ => item c
      else ([], brokenList c .expectedListCommaOrEnd .expectedListCommaOrEnd, none)

/-- Reads the members of an object up to its bracket. -/
def readMembers : (fuel : Nat) → (first : Bool) → Cursor →
    List (SourceMember Source) × Closing × Option Cursor
  | 0, _, c => ([], brokenList c .endInObject .endInObject, none)
  | fuel + 1, first, c =>
    let c := c.skipBlanks
    let broken (used skipped : FaultKind) (c : Cursor) :
        List (SourceMember Source) × Closing × Option Cursor :=
      ([], brokenList c used skipped, none)
    let member (c : Cursor) : List (SourceMember Source) × Closing × Option Cursor :=
      match readText c.step with
      | .ok (name, afterName) =>
        let colon := afterName.skipBlanks
        let (value, after) := match colon.rest with
          | ':' :: _ => readValue fuel colon.step
          | [] => (.noColon (colon.faultAhead .endInObject), none)
          | _ => (.noColon (colon.faultAhead .expectedColon), none)
        match after with
        | some after =>
          let (members, closing, last) := readMembers fuel false after
          (⟨name, resumeInObject afterName, value, resumeInObject after⟩ :: members, closing, last)
        | none =>
          ([⟨name, resumeInObject afterName, value, c.position⟩],
            brokenList c .endInObject .endInObject, none)
      | .error breach => ([], .broken breach, none)
    match c.rest with
    | [] => broken .endInObject .endInObject c
    | '\x7d' :: _ => ([], .closed c.step.position, some c.step)
    | x :: _ =>
      if first then if x = '"' then member c else broken .keyNotString .keyNotString c
      else if x = ',' then
        let c := c.step.skipBlanks
        match c.rest with
        | [] => broken .endInValue .endInObject c
        | '"' :: _ => member c
        | '\x7d' :: _ => broken .trailingComma .keyNotString c
        | _ => broken .keyNotString .keyNotString c
      else broken .expectedObjectCommaOrEnd .expectedObjectCommaOrEnd c

end

/-- The tree of a text and what follows it. -/
def Source.ofText (text : String) : Source × Option Cursor :=
  let c := Cursor.ofText text
  readValue (2 * c.rest.length + 2) c

end Json

end SchemaCompiler
