-- The forms that the nodes of a document take: a tag, the names of the parts, and the tree that
-- the parts make.
import SqlTree.Document.Reading

namespace SqlTree.Document

/-- A form of nodes: how they are marked, which parts they have in which order, and what the parts
make. -/
structure Form where
  tag : String
  parts : List String
  build : Slots Reading → Option Document

/-! ## Forms that many nodes share -/

def unaryForm (tag : String) (op : UnaryOp) : Form where
  tag := tag
  parts := ["expr"]
  build s := do return .unary op (← s.required "expr" Reading.node)

def binaryForm (tag : String) (op : BinaryOp) : Form where
  tag := tag
  parts := ["left", "right"]
  build s := do
    return .binary op (← s.required "left" Reading.node) (← s.required "right" Reading.node)

/-- A pattern, which minds case unless told otherwise. -/
def likeForm (tag : String) (negated : Bool) : Form where
  tag := tag
  parts := ["left", "right", "escape", "case_sensitive"]
  build s := do
    return .like negated (← s.required "left" Reading.node) (← s.required "right" Reading.node)
      (← s.withDefault "escape" none Reading.nodeOrNull)
      (← s.withDefault "case_sensitive" true Reading.flag)

/-- A regular expression, which minds case unless told otherwise. -/
def regexpForm (tag : String) (negated : Bool) : Form where
  tag := tag
  parts := ["left", "right", "case_sensitive"]
  build s := do
    return .regexp negated (← s.required "left" Reading.node) (← s.required "right" Reading.node)
      (← s.withDefault "case_sensitive" true Reading.flag)

/-! ## The other forms -/

def sqlForm : Form where
  tag := "sql"
  parts := ["sql"]
  build s := do return .sql (← s.required "sql" Reading.string)

def starForm : Form where
  tag := "star"
  parts := []
  build _ := some .star

def columnForm : Form where
  tag := "attribute"
  parts := ["table", "name", "type"]
  build s := do
    return .column {
      table := ← s.withDefault "table" none Reading.stringOrNull
      name := ← s.required "name" Reading.string
      type := ← s.required "type" Reading.string }

def tableForm : Form where
  tag := "table"
  parts := ["name", "alias"]
  build s := do
    return .table {
      name := ← s.required "name" Reading.string
      altName := ← s.withDefault "alias" none Reading.stringOrNull }

def quotedForm : Form where
  tag := "quoted"
  parts := ["value"]
  build s := do return .quoted (← s.required "value" Reading.value)

def castedForm : Form where
  tag := "casted"
  parts := ["attribute", "value"]
  build s := do
    return .casted (← s.required "attribute" Reading.column) (← s.required "value" Reading.value)

/-- The table of a bound column plays no part. -/
def bindForm : Form where
  tag := "bind"
  parts := ["attribute", "value"]
  build s := do
    let c ← s.required "attribute" Reading.column
    return .bind { name := c.name, value := ← s.required "value" Reading.value, type := c.type }

def listForm : Form where
  tag := "list"
  parts := ["items"]
  build s := do return .list (← s.required "items" Reading.nodes)

def tableAliasForm : Form where
  tag := "table_alias"
  parts := ["relation", "name"]
  build s := do
    return .tableAlias (← s.required "relation" Reading.node) (← s.required "name" Reading.string)

def andForm : Form where
  tag := "and"
  parts := ["children"]
  build s := do return .and (← s.required "children" Reading.nodes)

def betweenForm : Form where
  tag := "between"
  parts := ["expr", "low", "high"]
  build s := do
    return .between (← s.required "expr" Reading.node) (← s.required "low" Reading.node)
      (← s.required "high" Reading.node)

def distinctForm : Form where
  tag := "distinct"
  parts := []
  build _ := some .distinct

def callForm : Form where
  tag := "named_function"
  parts := ["name", "args", "distinct", "alias"]
  build s := do
    return .call (← s.required "name" Reading.string) (← s.withDefault "args" [] Reading.nodes)
      (← s.withDefault "distinct" false Reading.flag)
      (← s.withDefault "alias" none Reading.stringOrNull)

def inListForm : Form where
  tag := "homogeneous_in"
  parts := ["attribute", "values", "negated"]
  build s := do
    return .inList {
      column := ← s.required "attribute" Reading.column
      values := ← s.required "values" Reading.values
      polarity := if ← s.withDefault "negated" false Reading.flag then .notIn else .isIn }

def selectForm : Form where
  tag := "select"
  parts := ["distinct", "projections", "from", "joins", "wheres", "groups", "havings", "orders",
    "limit", "offset"]
  build s := do
    return .select {
      distinct := ← s.withDefault "distinct" none Reading.nodeOrNull
      projections := ← s.withDefault "projections" [] Reading.nodes
      source := ← s.withDefault "from" none Reading.nodeOrNull
      joins := ← s.withDefault "joins" [] Reading.joins
      wheres := ← s.withDefault "wheres" [] Reading.nodes
      groups := ← s.withDefault "groups" [] Reading.nodes
      havings := ← s.withDefault "havings" [] Reading.nodes
      orders := ← s.withDefault "orders" [] Reading.nodes
      limit := ← s.withDefault "limit" none Reading.nodeOrNull
      offset := ← s.withDefault "offset" none Reading.nodeOrNull }

/-! ## All forms -/

/-- All forms, in the order of their numbers. -/
def forms : List Form :=
  [ sqlForm,
    starForm,
    columnForm,
    tableForm,
    quotedForm,
    castedForm,
    bindForm,
    listForm,
    unaryForm "grouping" .grouping,
    unaryForm "not" .not,
    tableAliasForm,
    binaryForm "equality" .equal,
    binaryForm "not_equal" .notEqual,
    binaryForm "greater_than" .greater,
    binaryForm "greater_than_or_equal" .greaterOrEqual,
    binaryForm "less_than" .less,
    binaryForm "less_than_or_equal" .lessOrEqual,
    binaryForm "is_distinct_from" .distinctFrom,
    binaryForm "is_not_distinct_from" .notDistinctFrom,
    binaryForm "as" .aliased,
    binaryForm "or" .or,
    binaryForm "in" .isIn,
    binaryForm "not_in" .notIn,
    andForm,
    betweenForm,
    likeForm "matches" false,
    likeForm "does_not_match" true,
    regexpForm "regexp" false,
    regexpForm "not_regexp" true,
    unaryForm "ascending" .ascending,
    unaryForm "descending" .descending,
    unaryForm "nulls_first" .nullsFirst,
    unaryForm "nulls_last" .nullsLast,
    distinctForm,
    unaryForm "distinct_on" .distinctOn,
    unaryForm "grouping_element" .groupingElement,
    unaryForm "cube" .cube,
    unaryForm "roll_up" .rollUp,
    unaryForm "grouping_set" .groupingSet,
    unaryForm "lateral" .lateral,
    callForm,
    inListForm,
    selectForm ]

/-- The form of a tag, which is a name. -/
def namedForm? : Json → Option Form
  | .string tag => forms.find? (·.tag == tag)
  | _ => none

/-- The form of a tag inside a document, where a number will do as well as a name. -/
def anyForm? : Json → Option Form
  | .number (.int (.ofNat n)) => forms[n]?
  | tag => namedForm? tag

end SqlTree.Document
