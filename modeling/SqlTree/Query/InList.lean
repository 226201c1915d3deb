-- Tests of a column against a list of values: which of the values can match.
import SqlTree.Cast.Serialize
import SqlTree.Query.Node

namespace SqlTree.InList

/-- Whether a value is a candidate for a column: nulls and numbers out of range match nothing. -/
def isCandidate (c : Caster) (v : Value) : Except CastError Bool :=
  if v.isNull || !c.isSerializable v then .ok false
  else (c.serialize v).map fun w => !w.isNull

/-- The candidates among values, in order. -/
def filterCandidates (c : Caster) : List Value → Except CastError (List Value)
  | [] => .ok []
  | v :: vs => do
    let keep ← isCandidate c v
    let rest ← filterCandidates c vs
    return if keep then v :: rest else rest

/-- The values that can match, as they were given. -/
def candidates (m : InList Caster Value) : Except CastError (List Value) :=
  filterCandidates m.column.type m.values

/-- The values that can match, cast to the column's type. -/
def castedValues (m : InList Caster Value) : Except CastError (List Value) := do
  (← m.candidates).mapM m.column.type.serialize

end SqlTree.InList
