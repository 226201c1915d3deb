-- Dates and timestamps read from text. White space may stand before every number.
import SqlTree.Calendar.Basic
import SqlTree.Text.Blank
import SqlTree.Text.Digits

namespace SqlTree.Calendar

/-- A number of one to `most` digits, and what follows it. -/
def number? (most : Nat) (cs : List Char) : Option (Nat × List Char) :=
  let ds := (cs.take most).takeWhile Text.isDigit
  if ds.isEmpty then none else some (Text.numeralValue ds, cs.drop ds.length)

/-- A number of one or two digits after optional white space. -/
def field? (cs : List Char) : Option (Nat × List Char) :=
  number? 2 (Text.dropBlanks cs)

/-- A year after optional white space: at most four digits, or with a sign any number of them. -/
def year? (cs : List Char) : Option (Int × List Char) :=
  match Text.dropBlanks cs with
  | '-' :: cs => (number? cs.length cs).map fun (n, rest) => (-(n : Int), rest)
  | '+' :: cs => (number? cs.length cs).map fun (n, rest) => ((n : Int), rest)
  | cs => (number? 4 cs).map fun (n, rest) => ((n : Int), rest)

/-- What follows an expected character. -/
def expect? (c : Char) : List Char → Option (List Char)
  | d :: cs => if c == d then some cs else none
  | [] => none

/-- A date at the front of a text, and what follows it. -/
def date? (cs : List Char) : Option (Date × List Char) := do
  let (year, cs) ← year? cs
  let (month, cs) ← field? (← expect? '-' cs)
  let (day, cs) ← field? (← expect? '-' cs)
  some (← Date.of? year month day, cs)

/-- A fraction of a second in nanoseconds, which may be absent; digits past the ninth are
dropped. -/
def fraction? (cs : List Char) : Option (Nat × List Char) :=
  match cs with
  | '.' :: cs => do
    let (n, rest) ← number? 9 cs
    some (n * Nat.pow 10 (9 - (cs.length - rest.length)), rest.dropWhile Text.isDigit)
  | cs => some (0, cs)

/-- A time at the front of a text, on a given date, and what follows it. Second 60 is the leap
second after second 59. -/
def time? (date : Date) (cs : List Char) : Option (Timestamp × List Char) := do
  let (hour, cs) ← field? cs
  let (minute, cs) ← field? (← expect? ':' cs)
  let (second, cs) ← field? (← expect? ':' cs)
  let (nanos, cs) ← fraction? cs
  let t ←
    if second == 60 then Timestamp.of? date hour minute 59 (nanos + 1000000000)
    else Timestamp.of? date hour minute second nanos
  some (t, cs)

/-- The value of a reader that leaves nothing over. -/
def whole? {α : Type} : Option (α × List Char) → Option α
  | some (a, []) => some a
  | _ => none

/-- Date and time with nothing or white space between them. -/
def spacedTimestamp? (cs : List Char) : Option Timestamp := do
  let (date, cs) ← date? cs
  whole? (time? date (Text.dropBlanks cs))

/-- Date and time with a `T` between them. -/
def isoTimestamp? (cs : List Char) : Option Timestamp := do
  let (date, cs) ← date? cs
  whole? (time? date (← expect? 'T' cs))

end SqlTree.Calendar

namespace SqlTree

/-- Reads a text that is one date. -/
def Date.read? (cs : List Char) : Option Date :=
  Calendar.whole? (Calendar.date? cs)

/-- Reads a text that is one timestamp, in either form. -/
def Timestamp.read? (cs : List Char) : Option Timestamp :=
  Calendar.spacedTimestamp? cs <|> Calendar.isoTimestamp? cs

end SqlTree
