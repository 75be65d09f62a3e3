/-
# Environment files

An environment file assigns values to names, `NAME=value`, one assignment a
line. Blanks around both are dropped, `export` may stand in front, and a name
without equals sign is assigned nothing. A number sign starts a comment, at the
start of a line, after a value between quotes, and after a blank in any other
value. Between single quotes a backslash keeps a quote or a backslash, between
double quotes it also writes controls, and either may hold line ends. A line of
any other form is skipped.

The assignments are then carried out in order: `${NAME}` in a value stands for
what the name was assigned before, in the file or else in the environment, and
`${NAME:-text}` for the text when it was assigned nothing.

Key definitions: `Dotenv.Assignment`, `Dotenv.assignments`, `Dotenv.expanded`,
`Dotenv.unified`, `Dotenv.load`.
-/
import Folio.Text.Digits

namespace Folio
namespace Dotenv

open Text

/-- A name and what is assigned to it, if anything is. -/
structure Assignment where
  name : String
  value : Option String
  deriving DecidableEq, Repr

/-! ### Lines -/

/-- A blank within a line. -/
def isGap (c : Char) : Bool :=
  isBlank c && c != '\n'

/-- What follows the line a text starts with. -/
def afterLine (s : List Char) : List Char :=
  (s.dropWhile (· ≠ '\n')).drop 1

/-- What follows the line when nothing but a comment is left of it. -/
def afterEnd? (s : List Char) : Option (List Char) :=
  match s.dropWhile isGap with
  | [] => some []
  | '\n' :: rest => some rest
  | '#' :: rest => some (afterLine rest)
  | _ => none

/-- The text without an `export` in front. -/
def withoutExport (s : List Char) : List Char :=
  match s with
  | 'e' :: 'x' :: 'p' :: 'o' :: 'r' :: 't' :: c :: rest =>
    if isGap c then rest.dropWhile isGap else s
  | _ => s

/-! ### Names and values -/

/-- The name a text starts with, and the rest. -/
def name? (s : List Char) : Option (List Char × List Char) :=
  match s with
  | '\'' :: rest =>
    match rest.takeWhile (· ≠ '\''), rest.dropWhile (· ≠ '\'') with
    | c :: name, _ :: rest => some (c :: name, rest)
    | _, _ => none
  | _ =>
    let isPart := fun c => c != '=' && c != '#' && !isBlank c
    if s.takeWhile isPart = [] then none else some (s.takeWhile isPart, s.dropWhile isPart)

/-- What a backslash and a character stand for between quotes `q`. -/
def escaped? (q c : Char) : Option Char :=
  if c = '\\' ∨ c = '\'' then some c
  else if q = '\'' then none
  else match c with
    | '"' => some '"'
    | 'a' => some (Char.ofNat 0x7)
    | 'b' => some (Char.ofNat 0x8)
    | 'f' => some (Char.ofNat 0xc)
    | 'n' => some '\n'
    | 'r' => some '\r'
    | 't' => some '\t'
    | 'v' => some (Char.ofNat 0xb)
    | _ => none

/-- What stands before the closing quote `q`, and the rest. -/
def quoted? (q : Char) : List Char → Option (List Char × List Char)
  | [] => none
  | [c] => if c = q then some ([], []) else none
  | c :: d :: rest =>
    if c = q then some ([], d :: rest)
    else
      match if c = '\\' then escaped? q d else none with
      | some e => (quoted? q rest).map fun r => (e :: r.1, r.2)
      | none => (quoted? q (d :: rest)).map fun r => (c :: r.1, r.2)

/-- A value without the comment behind it. -/
def uncommented : List Char → List Char
  | [] => []
  | c :: rest =>
    if isBlank c ∧ (rest.dropWhile isBlank).head? = some '#' then [] else c :: uncommented rest

/-- The value after an equals sign, and the rest. -/
def value? (s : List Char) : Option (List Char × List Char) :=
  match s.dropWhile isGap with
  | '\'' :: rest => quoted? '\'' rest
  | '"' :: rest => quoted? '"' rest
  | _ =>
    some (trimmed isBlank (uncommented (s.takeWhile (· ≠ '\n'))), s.dropWhile (· ≠ '\n'))

/-! ### Assignments -/

/-- The assignment a text starts with, if it has the form of one, and what
follows its last line. -/
def assignment (s : List Char) : Option Assignment × List Char :=
  match name? s with
  | none => (none, afterLine s)
  | some (name, rest) =>
    match rest.dropWhile isGap with
    | '=' :: rest =>
      match value? rest with
      | none => (none, afterLine rest)
      | some (value, rest) =>
        match afterEnd? rest with
        | some rest => (some ⟨String.ofList name, some (String.ofList value)⟩, rest)
        | none => (none, afterLine rest)
    | rest =>
      match afterEnd? rest with
      | some rest => (some ⟨String.ofList name, none⟩, rest)
      | none => (none, afterLine rest)

/-- The assignments of a text of at most that many lines. -/
def assignmentsWithin : Nat → List Char → List Assignment
  | 0, _ => []
  | lines + 1, s =>
    match withoutExport (s.dropWhile isBlank) with
    | [] => []
    | start =>
      let r := assignment start
      r.1.toList ++ assignmentsWithin lines r.2

/-- The assignments of a text in order. -/
def assignments (s : List Char) : List Assignment :=
  assignmentsWithin (s.length + 1) s

/-! ### References -/

/-- What the reference at the start of a text names, its default, and the
rest. -/
def reference? (s : List Char) : Option (List Char × List Char × List Char) :=
  let isPart := fun c => c != '\x7d' && c != ':'
  match s with
  | '$' :: '\x7b' :: rest =>
    let name := rest.takeWhile isPart
    match rest.dropWhile isPart with
    | '\x7d' :: rest => some (name, [], rest)
    | ':' :: '-' :: rest =>
      match rest.dropWhile (· ≠ '\x7d') with
      | _ :: after => some (name, rest.takeWhile (· ≠ '\x7d'), after)
      | [] => none
    | _ => none
  | _ => none

/-- What a name was last assigned, if it was assigned anything. -/
def lookup (done : List Assignment) (environment : List (String × String)) (name : String) :
    Option (Option String) :=
  match done.reverse.find? fun a => a.name == name with
  | some a => some a.value
  | none => (environment.lookup name).map some

/-- A text of at most that many characters with its references replaced. -/
def expandedWithin (known : String → Option (Option String)) : Nat → List Char → List Char
  | 0, _ => []
  | _, [] => []
  | n + 1, c :: rest =>
    match reference? (c :: rest) with
    | some (name, default, after) =>
      (((known (String.ofList name)).getD (some (String.ofList default))).getD "").toList ++
        expandedWithin known n after
    | none => c :: expandedWithin known n rest

/-- A value with its references replaced. -/
def expanded (known : String → Option (Option String)) (value : String) : String :=
  String.ofList (expandedWithin known value.toList.length value.toList)

/-- Carries out assignments after those done before. -/
def carryOut (environment : List (String × String)) (done : List Assignment) :
    List Assignment → List Assignment
  | [] => done
  | a :: rest =>
    let value := a.value.map (expanded (lookup done environment))
    carryOut environment (done ++ [⟨a.name, value⟩]) rest

/-- A text in which every line ends with a line feed, also one that ended with a
carriage return or with both. -/
def unified : List Char → List Char
  | '\r' :: '\n' :: rest => '\n' :: unified rest
  | '\r' :: rest => '\n' :: unified rest
  | c :: rest => c :: unified rest
  | [] => []

/-- A text without the mark of its byte order, which may stand at its start. -/
def unmarked : List Char → List Char
  | c :: rest => if c.toNat = 0xfeff then rest else c :: rest
  | [] => []

/-- The lines of a file as one text. -/
def text (lines : List String) : List Char :=
  unified (unmarked (lines.flatMap fun line => line.toList ++ ['\n']))

/-- What the lines of a file assign in an environment. -/
def load (environment : List (String × String)) (lines : List String) : List Assignment :=
  carryOut environment [] (assignments (text lines))

end Dotenv
end Folio
