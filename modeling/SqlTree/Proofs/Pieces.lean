-- What a visit writes, apart from any collector: pieces of text and binds in order, up to the end
-- or to the first thing that cannot be rendered.
import SqlTree.Render.Collector

namespace SqlTree

/-- A piece of a statement. -/
inductive Piece where
  | text (s : String)
  | bind (b : Bind Caster Value)
deriving Repr

/-- What rendering yields. -/
structure Rendering where
  pieces : List Piece
  /-- Whether the text changes with the number of values in some list. -/
  perValue : Bool
  /-- What ended the rendering early. -/
  error : Option CompileError
deriving Repr

namespace Rendering

def empty : Rendering := ⟨[], false, none⟩

def text (s : String) : Rendering := ⟨[.text s], false, none⟩

def bind (b : Bind Caster Value) : Rendering := ⟨[.bind b], false, none⟩

/-- An error at the start. -/
def fail (e : CompileError) : Rendering := ⟨[], false, some e⟩

/-- Nothing but the mark that the text changes with a number of values. -/
def varying : Rendering := ⟨[], true, none⟩

/-- One rendering after another; nothing follows an error. -/
def andThen (a b : Rendering) : Rendering :=
  match a.error with
  | some _ => a
  | none => ⟨a.pieces ++ b.pieces, a.perValue || b.perValue, b.error⟩

instance : Append Rendering := ⟨andThen⟩

/-- What an optional part renders as. -/
def optional (lead : String) : Option Rendering → Rendering
  | none => empty
  | some r => text lead ++ r

/-- Renderings with a separator between them. -/
def joined (separator : String) : List Rendering → Rendering
  | [] => empty
  | [r] => r
  | r :: s :: rest => r ++ (text separator ++ joined separator (s :: rest))

/-- A clause with a keyword before it, left out if it has no items. -/
def clause (lead separator : String) : List Rendering → Rendering
  | [] => empty
  | r :: rest => text lead ++ joined separator (r :: rest)

/-- Two operands around an operator. -/
def between (op : String) (left right : Rendering) : Rendering := left ++ (text op ++ right)

/-- Binds with commas between them. -/
def binds (bs : List (Bind Caster Value)) : Rendering := joined ", " (bs.map bind)

/-- A value that has been cast, as a literal. -/
def literal : Except CastError Value → Rendering
  | .ok v => text v.literal
  | .error e => fail (.cast e)

end Rendering

end SqlTree
