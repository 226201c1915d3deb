-- Short ways to build conditions and orderings on a column.
import SqlTree.Query.Node

namespace SqlTree

namespace Column

variable {τ ν : Type}

def node (c : Column τ) : Node τ ν := .column c

def bind (c : Column τ) (v : ν) : Node τ ν :=
  .bind { name := c.name, value := v, type := c.type }

/-- The column has this value. -/
def equals (c : Column τ) (v : ν) : Node τ ν := .binary .equal c.node (c.bind v)

/-- The column has this pattern. -/
def like (c : Column τ) (pattern : ν) (caseSensitive : Bool) : Node τ ν :=
  .like false c.node (c.bind pattern) none caseSensitive

/-- The column has one of these values. -/
def inValues (c : Column τ) (vs : List ν) : Node τ ν :=
  .inList { column := c, values := vs, polarity := .isIn }

/-- The column has none of these values. -/
def notInValues (c : Column τ) (vs : List ν) : Node τ ν :=
  .inList { column := c, values := vs, polarity := .notIn }

/-- The smallest come first. -/
def asc (c : Column τ) : Node τ ν := .unary .ascending c.node

/-- The largest come first. -/
def desc (c : Column τ) : Node τ ν := .unary .descending c.node

end Column

namespace Node

variable {τ ν : Type}

def grouping (n : Node τ ν) : Node τ ν := .unary .grouping n

def nullsFirst (n : Node τ ν) : Node τ ν := .unary .nullsFirst n

def nullsLast (n : Node τ ν) : Node τ ν := .unary .nullsLast n

end Node

end SqlTree
