import SchemaCompiler.Text.Affix

/-!
Colors of text in a terminal.

* `ColorMode`, `ThemeMode`: what can be asked for;
* `Theme`: the colors for dark and for light backgrounds, by `Role`;
* `Paint.apply`: a text in the color of a role.
-/

namespace SchemaCompiler

/-- When colors are used. -/
inductive ColorMode where
  | always
  | auto
  | never
  deriving DecidableEq, Repr

/-- What background the terminal is taken to have. -/
inductive ThemeMode where
  | dark
  | light
  | auto
  deriving DecidableEq, Repr

/-- A color by its parts of red, green and blue. -/
structure Color where
  red : Nat
  green : Nat
  blue : Nat
  deriving DecidableEq, Repr

/-- What a colored text is for. -/
inductive Role where
  | time
  | primary
  | accent
  | info
  | success
  | label
  | value
  deriving DecidableEq, Repr

/-- The background that colors are chosen for. -/
inductive Theme where
  | dark
  | light
  deriving DecidableEq, Repr

namespace Theme

/-- The color of a role. -/
def color : Theme → Role → Color
  | dark, .time => ⟨118, 166, 166⟩
  | dark, .primary => ⟨191, 126, 4⟩
  | dark, .accent => ⟨166, 84, 55⟩
  | dark, .info => ⟨118, 166, 166⟩
  | dark, .success => ⟨118, 166, 166⟩
  | dark, .label => ⟨217, 164, 4⟩
  | dark, .value => ⟨242, 211, 56⟩
  | light, .time => ⟨92, 62, 38⟩
  | light, .primary => ⟨70, 42, 25⟩
  | light, .accent => ⟨211, 99, 70⟩
  | light, .info => ⟨40, 111, 170⟩
  | light, .success => ⟨34, 142, 90⟩
  | light, .label => ⟨176, 103, 66⟩
  | light, .value => ⟨199, 146, 76⟩

/-- A number of a byte in decimal digits, which a plus sign may precede. -/
def byte? (text : String) : Option Nat :=
  let digits := (Text.stripPrefix? "+" text).getD text
  if digits.isEmpty || !digits.toList.all Char.isDigit then none
  else
    let n := digits.toList.foldl (fun n c => min 256 (n * 10 + (c.toNat - '0'.toNat))) 0
    if n < 256 then some n else none

/-- The theme that a terminal declares by the numbers of its colors, the last of which is that of its
background.  The bright colors have the numbers from 8 on. -/
def ofDeclared (declared : Option String) : Theme :=
  match declared.bind fun text => (Text.splitOn ';' text).getLast?.bind byte? with
  | some background => if 8 ≤ background then light else dark
  | none => dark

/-- The theme of a mode. -/
def ofMode (declared : Option String) : ThemeMode → Theme
  | .dark => dark
  | .light => light
  | .auto => ofDeclared declared

end Theme

/-- The colors in use, if there are any. -/
structure Paint where
  theme : Option Theme

namespace Paint

/-- The colors for a mode. -/
def ofMode (isTerminal : Bool) (theme : Theme) : ColorMode → Paint
  | .always => ⟨some theme⟩
  | .auto => ⟨if isTerminal then some theme else none⟩
  | .never => ⟨none⟩

/-- The sequence that sets the color of a role.  Without colors it sets the usual one. -/
def start (paint : Paint) (role : Role) : String :=
  match paint.theme with
  | some theme =>
    let color := theme.color role
    s!"\x1b[38;2;{color.red};{color.green};{color.blue}m"
  | none => "\x1b[39m"

/-- A text in the color of a role. -/
def apply (paint : Paint) (role : Role) (text : String) : String :=
  paint.start role ++ text ++ "\x1b[39m"

end Paint

end SchemaCompiler
