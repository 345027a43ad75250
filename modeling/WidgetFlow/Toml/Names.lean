/-!
# Names in TOML documents

A name may be given a value once, a table may have one header, and a value is no table. A table that
comes from a key of several parts can grow until the next header; then it counts as if it had a
header of its own.
-/

namespace WidgetFlow.Toml

/-- What a name stands for. -/
inductive Kind where
  | value
  | table
  /-- A list of tables, each with a header. -/
  | tables
  deriving DecidableEq, Inhabited

/-- How a name is in use. -/
structure Use where
  kind : Kind
  /-- It has been defined for good. -/
  final : Bool := false
  /-- It comes from a key of several parts. -/
  dotted : Bool := false
  deriving DecidableEq, Inhabited

/-- The names of a document that are in use. -/
structure Names where
  /-- By their full path, the latest first. -/
  uses : List (List String × Use) := []
  /-- The table that keys belong to. -/
  current : List String := []
  deriving Inhabited

namespace Names

/-- How a path is in use. -/
def use? (n : Names) (path : List String) : Option Use := n.uses.lookup path

/-- The names with a path in use. -/
def put (n : Names) (path : List String) (u : Use) : Names :=
  { n with uses := (path, u) :: n.uses.filter fun (p, _) => p ≠ path }

/-- A path that is further down than another. -/
def isBelow (top path : List String) : Bool := top.isPrefixOf path && top.length < path.length

/-- What is below a path is no longer in use. -/
def clear (n : Names) (top : List String) : Names :=
  { n with uses := n.uses.filter fun (p, _) => !isBelow top p }

/-- The tables of the current table that come from keys of several parts are defined for good. -/
def finish (n : Names) : Names :=
  { n with
    uses := n.uses.map fun (p, u) =>
      if isBelow n.current p && u.dotted then (p, { u with final := true, dotted := false })
      else (p, u) }

/-- Takes the tables on the way to a value: new ones, or ones that may still grow. -/
def enterDotted (n : Names) (top : List String) : List String → Option Names
  | [] => some n
  | part :: rest =>
    let path := top ++ [part]
    match n.use? path with
    | none => (n.put path { kind := .table, dotted := true }).enterDotted path rest
    | some u => if u.kind = .table && !u.final then n.enterDotted path rest else none

/-- Gives a value to a key of the current table. -/
def define (n : Names) (key : List String) : Option Names :=
  let path := n.current ++ key
  (n.enterDotted n.current key.dropLast).bind fun n =>
    match n.use? path with
    | some _ => none
    | none => some (n.put path { kind := .value, final := true })

/-- Takes the tables on the way to a table with a header. -/
def enterHeader (n : Names) (top : List String) : List String → Option Names
  | [] => some n
  | part :: rest =>
    let path := top ++ [part]
    match n.use? path with
    | none => (n.put path { kind := .table }).enterHeader path rest
    | some u => if u.kind = .value then none else n.enterHeader path rest

/-- Begins the table of a header. -/
def beginTable (n : Names) (path : List String) : Option Names :=
  (n.finish.enterHeader [] path.dropLast).bind fun n =>
    let next := { n.put path { kind := .table, final := true } with current := path }
    match n.use? path with
    | none => some next
    | some u => if u.kind = .table && !u.final then some next else none

/-- Begins the next table of a list of tables, which has names of its own. -/
def beginListed (n : Names) (path : List String) : Option Names :=
  (n.finish.enterHeader [] path.dropLast).bind fun n =>
    match n.use? path with
    | none => some { n.put path { kind := .tables, final := true } with current := path }
    | some u => if u.kind = .tables then some { n.clear path with current := path } else none

end Names

end WidgetFlow.Toml
