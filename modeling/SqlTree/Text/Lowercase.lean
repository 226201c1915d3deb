-- Lower-casing by Unicode's full rules: one character may become two, and a capital sigma at the
-- end of a word takes its final form.
import SqlTree.Text.CaseTable
import SqlTree.Text.Ranges

namespace SqlTree.Text

namespace CaseRun

/-- Whether a code point is one of the run's. -/
def covers (r : CaseRun) (n : Nat) : Bool :=
  r.first ≤ n && n ≤ r.last && (n - r.first) % r.step == 0

/-- The lower-case form of a code point of the run. -/
def image (r : CaseRun) (n : Nat) : Char :=
  Char.ofNat (Int.ofNat n + r.shift).toNat

end CaseRun

/-- The lower-case form of a character that stands alone. -/
def lowerChar (c : Char) : List Char :=
  let n := c.toNat
  if n < 0x80 then
    [if 0x41 ≤ n && n ≤ 0x5a then Char.ofNat (n + 32) else c]
  else if n == 0x130 then
    ['i', Char.ofNat 0x307]
  else
    match lowerRuns.find? (·.covers n) with
    | some run => [run.image n]
    | none => [c]

def isCased (c : Char) : Bool := inRanges casedRanges c.toNat

/-- Whether a character is skipped over where the end of a word is looked for. -/
def isCaseIgnorable (c : Char) : Bool := inRanges ignorableRanges c.toNat

/-- Whether the first character that is not skipped over is a cased one. -/
def meetsCased (cs : List Char) : Bool :=
  (cs.dropWhile isCaseIgnorable).head?.any isCased

/-- Lower-cases a text, given what stands before it, nearest character first: a capital sigma
after a cased character and not before one is final. -/
def lowerAfter (before : List Char) : List Char → List Char
  | [] => []
  | c :: cs =>
    let lower :=
      if c == 'Σ' then
        [if meetsCased before && !meetsCased cs then 'ς' else 'σ']
      else lowerChar c
    lower ++ lowerAfter (c :: before) cs

/-- The lower-case form of a text. -/
def lowercase (s : String) : String :=
  String.ofList (lowerAfter [] s.toList)

end SqlTree.Text
