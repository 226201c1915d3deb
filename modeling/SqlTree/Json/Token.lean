-- The tokens of JSON text, read one character at a time.
import SqlTree.Double.Reader
import SqlTree.Double.Scaling
import SqlTree.Json.Basic

namespace SqlTree.Json

/-- A token of JSON. -/
inductive Token where
  | openArray
  | closeArray
  | openObject
  | closeObject
  | comma
  | colon
  | null
  | bool (b : Bool)
  | number (n : Number)
  | string (s : String)
deriving DecidableEq, Repr

/-! ## Numbers and words -/

/-- Puts digits after those of a number for as long as sixty-four bits hold it, and returns how
many digits are left over. -/
def appendDigits (n : Nat) : List Char → Nat × Nat
  | [] => (n, 0)
  | c :: cs =>
    let longer := 10 * n + Text.digitValue c
    if longer < Nat.pow 2 64 then appendDigits longer cs else (n, (c :: cs).length)

/-- The digits that are kept of a numeral without exponent, and the power of ten that goes with
them. A digit left over before the point still raises the power; one after it does nothing. -/
def significand (n : Double.Numeral) : Nat × Int :=
  let (digits, leftOver) := appendDigits 0 n.whole
  let (digits, ignored) := appendDigits digits n.fraction
  (digits, (leftOver : Int) - (n.fraction.length - ignored : Nat))

/-- The number of an unsigned numeral. Whole numbers of at most sixty-four bits are kept exactly,
apart from minus zero. Any other is rounded twice, first to the double of its digits and then by
the power of ten, and refused if it is too large. -/
def Number.ofNumeral? (negative : Bool) (n : Double.Numeral) : Option Number := do
  if n.whole.isEmpty || (n.whole.length > 1 && n.whole.head? == some '0') then none
  if n.hasPoint && n.fraction.isEmpty then none
  let magnitude := Text.numeralValue n.whole
  let fits :=
    if negative then magnitude != 0 && magnitude ≤ Nat.pow 2 63 else magnitude < Nat.pow 2 64
  if !n.hasPoint && n.exponent.isNone && fits then
    some (.int (if negative then -(magnitude : Int) else magnitude))
  else
    let (digits, power) := significand n
    let d ← (Double.nearest false digits 1).scaled? (power + (← n.power?))
    some (.double (.ofMagnitudeBits negative d.bits.toNat))

/-- The number that a numeral denotes. -/
def Number.read? : List Char → Option Number
  | '-' :: cs => Double.Numeral.split? cs >>= Number.ofNumeral? true
  | cs => Double.Numeral.split? cs >>= Number.ofNumeral? false

def isNumberChar (c : Char) : Bool :=
  Text.isDigit c || c == '-' || c == '+' || c == '.' || c == 'e' || c == 'E'

/-- The token that a word is. -/
def wordToken? (word : String) : Option Token :=
  if word == "null" then some .null
  else if word == "true" then some (.bool true)
  else if word == "false" then some (.bool false)
  else none

/-! ## The reader of tokens -/

/-- Where a reader of characters stands. What it has of an unfinished token is kept in reverse. -/
inductive Lexing where
  | between
  | word (read : List Char)
  | number (read : List Char)
  | string (read : List Char)
  /-- After a backslash. -/
  | escape (read : List Char)
  /-- Inside the four digits after `\u`; `high` is the high surrogate that went before. -/
  | unit (read : List Char) (high : Option Nat) (digits : Nat) (value : Nat)
  /-- After a high surrogate: a backslash must come. -/
  | lowBackslash (read : List Char) (high : Nat)
  /-- After a high surrogate and a backslash: `u` must come. -/
  | lowMark (read : List Char) (high : Nat)

/-- JSON's own white space. -/
def isGap (c : Char) : Bool := c == ' ' || c == '\t' || c == '\n' || c == '\r'

/-- A character that stands between tokens, or starts one, or is one. -/
def stepBetween (done : List Token) (c : Char) : Option (Lexing × List Token) :=
  if isGap c then some (.between, done)
  else if c == '[' then some (.between, .openArray :: done)
  else if c == ']' then some (.between, .closeArray :: done)
  else if c == '\x7b' then some (.between, .openObject :: done)
  else if c == '\x7d' then some (.between, .closeObject :: done)
  else if c == ',' then some (.between, .comma :: done)
  else if c == ':' then some (.between, .colon :: done)
  else if c == '"' then some (.string [], done)
  else if Text.isDigit c || c == '-' then some (.number [c], done)
  else if 'a' ≤ c && c ≤ 'z' then some (.word [c], done)
  else none

/-- The character that a one-letter escape stands for. -/
def escaped? (c : Char) : Option Char :=
  if c == '"' || c == '\\' || c == '/' then some c
  else if c == 'b' then some '\x08'
  else if c == 'f' then some '\x0c'
  else if c == 'n' then some '\n'
  else if c == 'r' then some '\r'
  else if c == 't' then some '\t'
  else none

/-- A sixteen-bit unit is complete: surrogates come in pairs, high before low. -/
def finishUnit (read : List Char) (high : Option Nat) (value : Nat) : Option Lexing :=
  let isHigh := 0xd800 ≤ value && value < 0xdc00
  let isLow := 0xdc00 ≤ value && value < 0xe000
  match high with
  | some h =>
    if isLow then
      some (.string (Char.ofNat (0x10000 + (h - 0xd800) * 0x400 + (value - 0xdc00)) :: read))
    else none
  | none =>
    if isHigh then some (.lowBackslash read value)
    else if isLow then none
    else some (.string (Char.ofNat value :: read))

/-- A token that ends where the next character no longer belongs to it. -/
def finishToken? : Lexing → Option (List Token)
  | .between => some []
  | .word read => (wordToken? (String.ofList read.reverse)).map ([·])
  | .number read => (Number.read? read.reverse).map ([.number ·])
  | _ => none

/-- One character further. The tokens that are done are kept in reverse. -/
def Lexing.step (done : List Token) (c : Char) : Lexing → Option (Lexing × List Token)
  | .between => stepBetween done c
  | .word read =>
    if 'a' ≤ c && c ≤ 'z' then some (.word (c :: read), done)
    else do stepBetween ((← finishToken? (.word read)) ++ done) c
  | .number read =>
    if isNumberChar c then some (.number (c :: read), done)
    else do stepBetween ((← finishToken? (.number read)) ++ done) c
  | .string read =>
    if c == '"' then some (.between, .string (String.ofList read.reverse) :: done)
    else if c == '\\' then some (.escape read, done)
    else if c.toNat < 0x20 then none
    else some (.string (c :: read), done)
  | .escape read =>
    if c == 'u' then some (.unit read none 0 0, done)
    else (escaped? c).map fun e => (.string (e :: read), done)
  | .unit read high digits value => do
    let value := 16 * value + (← Text.hexValue? c)
    if digits == 3 then (finishUnit read high value).map (·, done)
    else some (.unit read high (digits + 1) value, done)
  | .lowBackslash read high => if c == '\\' then some (.lowMark read high, done) else none
  | .lowMark read high => if c == 'u' then some (.unit read (some high) 0 0, done) else none

/-- The tokens of the rest of a text. -/
def lexFrom (state : Lexing) (done : List Token) : List Char → Option (List Token)
  | [] => (finishToken? state).map fun last => (last ++ done).reverse
  | c :: cs =>
    match state.step done c with
    | some (state, done) => lexFrom state done cs
    | none => none

/-- The tokens of a text, if it is made of tokens and white space. -/
def tokens? (cs : List Char) : Option (List Token) := lexFrom .between [] cs

end SqlTree.Json
