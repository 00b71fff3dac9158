import SchemaCompiler.Pattern.Scan

/-!
Dates, and times of day with their offset.

* `Calendar.daysIn`: the length of a month;
* `Calendar.isDate`: a year, a month and a day, ten bytes long;
* `Calendar.isDateTime`: a date, a time and an offset in the usual interchange form.
-/

namespace SchemaCompiler.Calendar

/-- Whether a year has a 29th of February. -/
def isLeap (year : Int) : Bool := year % 4 == 0 && (year % 100 != 0 || year % 400 == 0)

/-- The number of days in a month, none if there is no such month. -/
def daysIn (year : Int) (month : Nat) : Nat :=
  match month with
  | 1 | 3 | 5 | 7 | 8 | 10 | 12 => 31
  | 4 | 6 | 9 | 11 => 30
  | 2 => if isLeap year then 29 else 28
  | _ => 0

/-- Whether there is such a day. -/
def isDay (year : Int) (month day : Nat) : Bool :=
  decide (1 ≤ day) && decide (day ≤ daysIn year month)

/-- A number of at least and at most so many digits, and what follows it. -/
def number? (least most : Nat) (text : List Char) : Option (Nat × List Char) :=
  let digits := (text.takeWhile Char.isDigit).take most
  if digits.length < least then none
  else
    some (digits.foldl (fun n c => n * 10 + (c.toNat - '0'.toNat)) 0, text.drop digits.length)

/-- What follows a character. -/
def expect? (c : Char) (text : List Char) : Option (List Char) :=
  match text with
  | head :: rest => if head = c then some rest else none
  | [] => none

/-- A year, which has four digits at most unless it has a sign. -/
def year? (text : List Char) : Option (Int × List Char) :=
  match text with
  | '-' :: rest => (number? 1 rest.length rest).map fun (n, rest) => (-(n : Int), rest)
  | '+' :: rest => (number? 1 rest.length rest).map fun (n, rest) => ((n : Int), rest)
  | _ => (number? 1 4 text).map fun (n, rest) => ((n : Int), rest)

/-- Whether a text is a year, a month and a day with minuses between them, and takes ten bytes.
Blanks may stand before each number. -/
def isDate (text : String) : Bool :=
  let skip := fun cs : List Char => cs.dropWhile Pattern.isBlank
  let parsed := do
    let (year, rest) ← year? (skip text.toList)
    let (month, rest) ← number? 1 2 (skip (← expect? '-' rest))
    let (day, rest) ← number? 1 2 (skip (← expect? '-' rest))
    return (year, month, day, rest)
  match parsed with
  | some (year, month, day, rest) => isDay year month day && rest.isEmpty && text.utf8ByteSize == 10
  | none => false

/-- What follows an offset: `Z`, or hours below 24 and minutes below 60 with a sign. -/
def offset? (text : List Char) : Option (List Char) :=
  match text with
  | 'Z' :: rest | 'z' :: rest => some rest
  | sign :: rest => do
    if sign ≠ '+' ∧ sign ≠ '-' ∧ sign ≠ '\u2212' then none
    let (hours, rest) ← number? 2 2 rest
    let (minutes, rest) ← number? 2 2 (← expect? ':' rest)
    if hours < 24 ∧ minutes < 60 then some rest else none
  | [] => none

/-- What follows the digits of a fraction of a second, if there is one. -/
def fraction? (text : List Char) : Option (List Char) :=
  match text with
  | '.' :: rest => do
    let _ ← number? 1 9 rest
    return rest.dropWhile Char.isDigit
  | _ => some text

/-- Whether a text is a date, a time and an offset.  A second may be the sixtieth. -/
def isDateTime (text : String) : Bool :=
  let parsed := do
    let (year, rest) ← number? 4 4 text.toList
    let (month, rest) ← number? 2 2 (← expect? '-' rest)
    let (day, rest) ← number? 2 2 (← expect? '-' rest)
    let separator :: rest := rest | none
    if separator ≠ 'T' ∧ separator ≠ 't' ∧ separator ≠ ' ' then none
    let (hour, rest) ← number? 2 2 rest
    let (minute, rest) ← number? 2 2 (← expect? ':' rest)
    let (second, rest) ← number? 2 2 (← expect? ':' rest)
    let rest ← offset? (← fraction? rest)
    return isDay year month day && decide (hour < 24) && decide (minute < 60) &&
      decide (second ≤ 60) && rest.isEmpty
  parsed.getD false

end SchemaCompiler.Calendar
