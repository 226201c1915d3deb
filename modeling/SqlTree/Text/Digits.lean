-- Numerals: decimal and hexadecimal digits, written and read.
namespace SqlTree.Text

/-- Whether a character is a decimal digit. -/
def isDigit (c : Char) : Bool := '0' ≤ c && c ≤ '9'

/-- The number a decimal digit stands for. -/
def digitValue (c : Char) : Nat := c.toNat - '0'.toNat

/-- The number a decimal numeral denotes; the empty numeral denotes zero. -/
def numeralValue (ds : List Char) : Nat :=
  ds.foldl (fun n c => 10 * n + digitValue c) 0

/-- The decimal numeral of a number, without leading zeros. -/
def natDigits (n : Nat) : List Char := Nat.toDigits 10 n

/-- The decimal numeral of an integer, with a minus sign if it is negative. -/
def intDigits : Int → List Char
  | .ofNat n => natDigits n
  | .negSucc n => '-' :: natDigits (n + 1)

/-- A numeral widened with leading zeros to at least `width` digits. -/
def padded (width n : Nat) : List Char :=
  let ds := natDigits n
  List.replicate (width - ds.length) '0' ++ ds

/-- The integer a signed decimal numeral denotes: an optional sign, then at least one digit and
nothing else. -/
def readInt : List Char → Option Int
  | '-' :: ds => if ds.isEmpty || !ds.all isDigit then none else some (-(numeralValue ds : Int))
  | '+' :: ds => if ds.isEmpty || !ds.all isDigit then none else some (numeralValue ds)
  | ds => if ds.isEmpty || !ds.all isDigit then none else some (numeralValue ds)

/-- The lower-case hexadecimal numeral of a number, without leading zeros. -/
def hexDigits (n : Nat) : List Char := Nat.toDigits 16 n

/-- A byte as two lower-case hexadecimal digits. -/
def hexByte (b : UInt8) : List Char :=
  [Nat.digitChar (b.toNat / 16), Nat.digitChar (b.toNat % 16)]

/-- The number a hexadecimal digit of either case stands for. -/
def hexValue? (c : Char) : Option Nat :=
  if isDigit c then some (digitValue c)
  else if 'a' ≤ c && c ≤ 'f' then some (c.toNat - 'a'.toNat + 10)
  else if 'A' ≤ c && c ≤ 'F' then some (c.toNat - 'A'.toNat + 10)
  else none

end SqlTree.Text
