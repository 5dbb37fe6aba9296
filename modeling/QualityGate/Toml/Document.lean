import QualityGate.Toml.Value

/-!
TOML documents. The statements of a document build one table. How a table came about decides what
may still be added to it: a table is defined once, and a key is set once.

* `descend`: changing the table at the end of a path.
* `TomlValue.ofText?`: the table that a text stands for, if it is a document.
-/

namespace QualityGate.Toml

/-- How a table came about. -/
inductive Origin where
  /-- By a statement for a table inside it. -/
  | implied
  /-- By a path of keys in an assignment. -/
  | dotted
  /-- By its own statement. -/
  | declared
  /-- As a value. -/
  | inline
  deriving DecidableEq, Repr

/-- A part of a document that is being built. -/
inductive Node where
  | leaf (v : TomlValue)
  | array (items : List Node)
  /-- An array of tables that were declared one by one, the latest first. -/
  | tables (items : List (List (List Char × Node)))
  | table (origin : Origin) (members : List (List Char × Node))
  deriving Inhabited

/-- The members of a table. -/
abbrev Members := List (List Char × Node)

/-- The members with another node for a key, which is made from the node that was there. -/
def alter (key : List Char) (f : Option Node → Option Node) : Members → Option Members
  | [] => (f none).map fun n => [(key, n)]
  | (k, n) :: ms =>
    if k = key then (f (some n)).map fun n => (k, n) :: ms
    else (alter key f ms).map ((k, n) :: ·)

/-- The members with the table at the end of a path changed; tables on the way are made if they are
missing. An assignment cannot reach into a table that has a statement of its own, and nothing can
reach into an inline table. -/
def descend (dotted : Bool) (f : Origin → Members → Option Members) (origin : Origin) :
    List (List Char) → Members → Option Members
  | [], ms => f origin ms
  | key :: path, ms =>
    alter key (fun
      | none =>
        let origin := if dotted then .dotted else .implied
        (descend dotted f origin path []).map (.table origin)
      | some (.table origin ms) =>
        if origin = .inline ∨ (dotted ∧ origin = .declared) then none
        else (descend dotted f origin path ms).map (.table origin)
      | some (.tables (ms :: earlier)) =>
        (descend dotted f .declared path ms).map fun ms => .tables (ms :: earlier)
      | some _ => none) ms

/-- A path without its last key, and that key. -/
def splitLast? (path : List (List Char)) : Option (List (List Char) × List Char) :=
  path.getLast?.map fun key => (path.dropLast, key)

/-- The members with a key set to a value. -/
def assign (path : List (List Char)) (n : Node) (ms : Members) : Option Members :=
  (splitLast? path).bind fun (front, key) =>
    descend true
      (fun origin ms =>
        if !front.isEmpty && origin != .dotted then none
        else alter key (fun old => if old.isNone then some n else none) ms)
      .declared front ms

mutual

/-- The node of a value. -/
def Written.toNode? : Written → Option Node
  | .scalar v => some (.leaf v)
  | .array items => (toNodes? items).map .array
  | .inlineTable assignments => (toMembers? [] assignments).map (.table .inline)

/-- The nodes of values. -/
def toNodes? : List Written → Option (List Node)
  | [] => some []
  | w :: ws => (Written.toNode? w).bind fun n => (toNodes? ws).map (n :: ·)

/-- The members of an inline table, given those of the assignments so far. -/
def toMembers? (ms : Members) : List (List (List Char) × Written) → Option Members
  | [] => some ms
  | (path, w) :: rest =>
    (Written.toNode? w).bind fun n => (assign path n ms).bind fun ms => toMembers? ms rest

end

/-- The members with a table declared. A table that was only implied may be declared later. -/
def declare (path : List (List Char)) (ms : Members) : Option Members :=
  (splitLast? path).bind fun (front, key) =>
    descend false
      (fun _ ms => alter key (fun
        | none => some (.table .declared [])
        | some (.table .implied ms) => some (.table .declared ms)
        | some _ => none) ms)
      .declared front ms

/-- The members with one more table in an array of tables. -/
def declareItem (path : List (List Char)) (ms : Members) : Option Members :=
  (splitLast? path).bind fun (front, key) =>
    descend false
      (fun _ ms => alter key (fun
        | none => some (.tables [[]])
        | some (.tables items) => some (.tables ([] :: items))
        | some _ => none) ms)
      .declared front ms

/-- The members with an assignment made in the table at the end of a path. -/
def assignIn (current path : List (List Char)) (n : Node) (ms : Members) : Option Members :=
  descend false (fun _ ms => assign path n ms) .declared current ms

/-- The members that statements give, after the table at the end of `current` was declared. -/
def build (current : List (List Char)) (ms : Members) : List Statement → Option Members
  | [] => some ms
  | .table path :: rest => (declare path ms).bind fun ms => build path ms rest
  | .arrayItem path :: rest => (declareItem path ms).bind fun ms => build path ms rest
  | .assignment path w :: rest =>
    w.toNode?.bind fun n => (assignIn current path n ms).bind fun ms => build current ms rest

mutual

/-- The value of a node. -/
def Node.toValue : Node → TomlValue
  | .leaf v => v
  | .array items => .array (toValues items)
  | .tables items => .array (toTables items).reverse
  | .table _ ms => .table (toValueMembers ms)

/-- The values of nodes. -/
def toValues : List Node → List TomlValue
  | [] => []
  | n :: ns => n.toValue :: toValues ns

/-- The values of tables. -/
def toTables : List (List (List Char × Node)) → List TomlValue
  | [] => []
  | ms :: rest => .table (toValueMembers ms) :: toTables rest

/-- The values of members. -/
def toValueMembers : List (List Char × Node) → List (List Char × TomlValue)
  | [] => []
  | (key, n) :: ms => (key, n.toValue) :: toValueMembers ms

end

/-- A text without the mark for its byte order. -/
def dropByteOrderMark : List Char → List Char
  | '\ufeff' :: rest => rest
  | s => s

end QualityGate.Toml

namespace QualityGate

/-- The table that a text stands for, if it is a document. -/
def TomlValue.ofText? (s : List Char) : Option TomlValue :=
  ((Toml.statements? (Toml.dropByteOrderMark s)).bind (Toml.build [] [])).map fun ms =>
    .table (Toml.toValueMembers ms)

end QualityGate
