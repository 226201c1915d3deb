-- Equality of queries: casters are compared by the names of their types, numbers by value.
import SqlTree.Query.Node

namespace SqlTree

def Column.same (a b : Column Caster) : Bool :=
  a.table == b.table && a.name == b.name && a.type.sqlType == b.type.sqlType

def Bind.same (a b : Bind Caster Value) : Bool :=
  a.name == b.name && a.value.same b.value && a.type.sqlType == b.type.sqlType

def InList.same (a b : InList Caster Value) : Bool :=
  a.column.same b.column && Value.sameItems a.values b.values && a.polarity == b.polarity

mutual
/-- Equality of trees. -/
def Node.same : Query → Query → Bool
  | .sql a, .sql b => a == b
  | .star, .star => true
  | .distinct, .distinct => true
  | .column a, .column b => a.same b
  | .table a, .table b => a == b
  | .quoted a, .quoted b => a.same b
  | .casted a v, .casted b w => v.same w && a.same b
  | .bind a, .bind b => a.same b
  | .list as, .list bs => sameNodes as bs
  | .and as, .and bs => sameNodes as bs
  | .unary o a, .unary p b => o == p && Node.same a b
  | .binary o a c, .binary p b d => o == p && Node.same a b && Node.same c d
  | .tableAlias a n, .tableAlias b m => Node.same a b && n == m
  | .between a c e, .between b d f => Node.same a b && Node.same c d && Node.same e f
  | .like n a c e s, .like m b d f t =>
    n == m && Node.same a b && Node.same c d && sameOption e f && s == t
  | .regexp n a c s, .regexp m b d t => n == m && Node.same a b && Node.same c d && s == t
  | .call n as s x, .call m bs t y => n == m && sameNodes as bs && s == t && x == y
  | .inList a, .inList b => a.same b
  | .select a, .select b => Select.same a b
  | _, _ => false

def sameNodes : List Query → List Query → Bool
  | [], [] => true
  | a :: as, b :: bs => Node.same a b && sameNodes as bs
  | _, _ => false

def sameOption : Option Query → Option Query → Bool
  | none, none => true
  | some a, some b => Node.same a b
  | _, _ => false

def Join.same : Join Caster Value → Join Caster Value → Bool
  | ⟨k, a, x⟩, ⟨l, b, y⟩ => k == l && Node.same a b && sameOption x y

def sameJoins : List (Join Caster Value) → List (Join Caster Value) → Bool
  | [], [] => true
  | a :: as, b :: bs => Join.same a b && sameJoins as bs
  | _, _ => false

def Select.same : Select Caster Value → Select Caster Value → Bool
  | ⟨d, ps, s, js, ws, gs, hs, os, l, o⟩, ⟨d', ps', s', js', ws', gs', hs', os', l', o'⟩ =>
    sameOption d d' && sameNodes ps ps' && sameOption s s' && sameJoins js js'
      && sameNodes ws ws' && sameNodes gs gs' && sameNodes hs hs' && sameNodes os os'
      && sameOption l l' && sameOption o o'
end

end SqlTree
