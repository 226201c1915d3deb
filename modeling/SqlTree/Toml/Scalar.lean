-- Numbers, dates and times of a configuration file. Settings hold none of them, so they are only
-- checked.
import SqlTree.Calendar.Basic
import SqlTree.Double.Rounding
import SqlTree.Toml.Lexeme
import SqlTree.Value.Basic

namespace SqlTree.Toml

/-! ## Numbers -/

/-- Digits with single underscores between them. -/
def digitRun (isDigit : Char → Bool) : Scan (List Char) := do
  let first ← one isDigit
  let rest ← repeated ((do exactly ['_']; one isDigit) <|> one isDigit)
  return first :: rest

/-- An optional sign; whether it is a minus. -/
def sign : Scan Bool := do
  let s ← optional (one fun c => c == '+' || c == '-')
  return s == some '-'

/-- A whole number in decimal, without leading zeros. -/
def decimalInt : Scan (Bool × List Char) := do
  let negative ← sign
  let digits ← (do
      let first ← one fun c => '1' ≤ c && c ≤ '9'
      let rest ← repeated ((do exactly ['_']; one Text.isDigit) <|> one Text.isDigit)
      return first :: rest)
    <|> (do return [← one Text.isDigit])
  return (negative, digits)

/-- The number that digits in a base stand for. -/
def baseValue (base : Nat) (ds : List Char) : Nat :=
  ds.foldl (fun n c => base * n + (Text.hexValue? c).getD 0) 0

/-- A whole number after a mark for its base. -/
def basedInt (mark : Char) (base : Nat) : Scan Unit := do
  exactly ['0', mark]
  let ds ← digitRun fun c => (Text.hexValue? c).any (· < base)
  if fitsInt64 (baseValue base ds) then return () else failure

/-- A whole number, which has to fit sixty-four bits. -/
def integer : Scan Unit :=
  basedInt 'x' 16 <|> basedInt 'o' 8 <|> basedInt 'b' 2 <|> (do
    notHere (do exactly ['0']; one fun c => c == 'x' || c == 'o' || c == 'b')
    let (negative, ds) ← decimalInt
    let n : Int := Text.numeralValue ds
    if fitsInt64 (if negative then -n else n) then return () else failure)

/-- The power of ten of a number. -/
def exponent : Scan Int := do
  let _ ← one fun c => c == 'e' || c == 'E'
  let negative ← sign
  let n : Int := Text.numeralValue (← digitRun Text.isDigit)
  return if negative then -n else n

/-- A number with a fraction or an exponent. Plus infinity is too large, unless it is named. -/
def float : Scan Unit :=
  (do
    let (negative, whole) ← decimalInt
    let (fraction, power) ← (do return ([], ← exponent))
      <|> (do
        exactly ['.']
        let fraction ← digitRun Text.isDigit
        return (fraction, (← optional exponent).getD 0))
    let d := Double.ofDecimal negative (Text.numeralValue (whole ++ fraction))
      (power - fraction.length)
    if d == Double.infinity false then failure else return ())
  <|> (do
    let _ ← sign
    exactly ['i', 'n', 'f'] <|> exactly ['n', 'a', 'n'])

/-! ## Dates and times -/

/-- A number of exactly so many digits between two bounds. -/
def fixedNumber (digits low high : Nat) : Scan Nat := do
  let ds ← (List.replicate digits ()).mapM fun _ => one Text.isDigit
  let n := Text.numeralValue ds
  if low ≤ n && n ≤ high then return n else failure

/-- A day of the calendar. -/
def date : Scan Unit := do
  let year ← fixedNumber 4 0 9999
  exactly ['-']
  let month ← fixedNumber 2 1 12
  exactly ['-']
  let day ← fixedNumber 2 1 31
  if day ≤ daysInMonth year month then return () else failure

/-- A time of day. -/
def time : Scan Unit := do
  let _ ← fixedNumber 2 0 23
  exactly [':']
  let _ ← fixedNumber 2 0 59
  exactly [':']
  let _ ← fixedNumber 2 0 60
  let _ ← optional (do
    exactly ['.']
    let _ ← one Text.isDigit
    many Text.isDigit)

/-- The distance from universal time. -/
def offset : Scan Unit :=
  (do let _ ← one fun c => c == 'Z' || c == 'z')
  <|> (do
    let _ ← one fun c => c == '+' || c == '-'
    let _ ← fixedNumber 2 0 23
    exactly [':']
    let _ ← fixedNumber 2 0 59)

/-- A date, a time, or both, and with both an offset. -/
def dateTime : Scan Unit :=
  (do
    date
    let _ ← optional (do
      let _ ← one fun c => c == 'T' || c == 't' || c == ' '
      time
      optional offset))
  <|> time

/-- A number, a date or a time. -/
def number : Scan Unit := dateTime <|> float <|> integer

end SqlTree.Toml
