-- Why a query does not compile. Every fault lies at one node: a value that cannot be cast, or a
-- node that the grammar has no rule for. The error is that of the first fault among the nodes that
-- are rendered, and the values that are bound have no part in it.
import SqlTree.Proofs.BindOrder
import SqlTree.Proofs.Congruence

namespace SqlTree

/-! ## Faults -/

/-- The error of a result. -/
def CastError.of? {α : Type} : Except CastError α → Option CastError
  | .ok _ => none
  | .error e => some e

namespace Node

/-- The error of a literal that its column does not take, or of the values that a column is tested
against if one of them cannot be cast. -/
def castFault? : Query → Option CastError
  | .casted c v => CastError.of? (c.type.serialize v)
  | .inList m => CastError.of? m.candidates
  | _ => none

/-- The error that a node causes by itself. -/
def fault? (d : Dialect) (n : Query) : Option CompileError :=
  if n.isSupported d.grammar then n.castFault?.map .cast
  else some (.unsupported n.kind d.name)

end Node

/-! ## The first fault -/

namespace Rendering

end Rendering

namespace Node

end Node

/-! ## Bound values -/

end SqlTree
