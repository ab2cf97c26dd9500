import SinkAudit.Json.Basic

/-!
# TOML documents

A document is a table.  A table remembers how it came to be, because that decides who may add to
it: a table with a header of its own is never given another one; a table that exists only because a
header named something below it may still get one; and a table that exists because of a dotted key
grows by dotted keys only.  A table written inside braces is complete.

* `Toml`: a value.
* `Toml.Entries.update`: adding below a path, under these rules.
* `Toml.toJson`: the plain data of a document.
-/

namespace SinkAudit

/-- How a table came to be. -/
inductive TableOrigin where
  /-- By a header of its own. -/
  | header
  /-- By a header of something below it. -/
  | implied
  /-- By a dotted key. -/
  | dotted
  deriving DecidableEq, Repr

/-- A value of a document. -/
inductive Toml where
  | text (s : String)
  | integer (n : Int)
  | real (x : Number)
  | bool (b : Bool)
  | moment (stamp : String)
  | array (items : List Toml)
  /-- A table inside braces. -/
  | inline (entries : List (String × Toml))
  | table (origin : TableOrigin) (entries : List (String × Toml))
  /-- Tables with the same header, each with its entries. -/
  | tables (rows : List (List (String × Toml)))
  deriving Repr

namespace Toml

/-- The entries of a table. -/
abbrev Entries := List (String × Toml)

namespace Entries

/-- The value of a key. -/
def get? (k : String) (es : Entries) : Option Toml :=
  (es.find? fun e => e.1 == k).map (·.2)

/-- The entries with the value of a key replaced or added. -/
def set (k : String) (v : Toml) : Entries → Entries
  | [] => [(k, v)]
  | (l, u) :: es => if l = k then (k, v) :: es else (l, u) :: set k v es

/-- The origin of a table that a path makes. -/
def newOrigin (dotted : Bool) : TableOrigin := if dotted then .dotted else .implied

/-- Changes the table below a path; tables on the way are made if they are missing.  `dotted` says
that the path is the front of a dotted key, which may not enter a table with a header. -/
def update (dotted : Bool) (change : TableOrigin → Entries → Option Entries) :
    List String → TableOrigin → Entries → Option Entries
  | [], origin, es => change origin es
  | k :: ks, _, es =>
    match es.get? k with
    | none =>
      (update dotted change ks (newOrigin dotted) []).map fun sub =>
        es.set k (.table (newOrigin dotted) sub)
    | some (.table origin sub) =>
      if dotted && origin == .header then none
      else (update dotted change ks origin sub).map fun sub => es.set k (.table origin sub)
    | some (.tables rows) =>
      match rows.getLast? with
      | none => none
      | some last =>
        (update dotted change ks .header last).map fun sub =>
          es.set k (.tables (rows.dropLast ++ [sub]))
    | some _ => none

/-- Adds a value under a dotted key. -/
def assign (path : List String) (v : Toml) (origin : TableOrigin) (es : Entries) : Option Entries :=
  match path.getLast? with
  | none => none
  | some k =>
    let front := path.dropLast
    update true (fun o es =>
      -- a dotted key adds only to tables made by dotted keys
      if (o == .dotted) == front.isEmpty then none
      else if (es.get? k).isSome then none
      else some (es.set k v)) front origin es

/-- Adds values under dotted keys, in turn. -/
def assignAll : List (List String × Toml) → Entries → Option Entries
  | [], es => some es
  | (path, v) :: r, es => (assign path v .header es).bind (assignAll r)

/-- Adds the table under a header. -/
def addTable (path : List String) (body : List (List String × Toml)) (es : Entries) :
    Option Entries :=
  match path.getLast? with
  | none => none
  | some k =>
    update false (fun _ es =>
      match es.get? k with
      | none => (assignAll body []).map fun sub => es.set k (.table .header sub)
      | some (.table .implied old) =>
        (assignAll body old).map fun sub => es.set k (.table .header sub)
      | some _ => none) path.dropLast .header es

/-- Adds one more table under a repeated header. -/
def addRow (path : List String) (body : List (List String × Toml)) (es : Entries) :
    Option Entries :=
  match path.getLast? with
  | none => none
  | some k =>
    update false (fun _ es =>
      match es.get? k, assignAll body [] with
      | none, some row => some (es.set k (.tables [row]))
      | some (.tables rows), some row => some (es.set k (.tables (rows ++ [row])))
      | _, _ => none) path.dropLast .header es

end Entries

mutual

/-- The plain data of a value.  A moment has no plain form of its own: it is a record in which no
field is given. -/
def toJson : Toml → Json
  | text s => .text s
  | integer n => .num (if 0 ≤ n then .nat n.toNat else .minus n.natAbs)
  | real x => .num x
  | bool b => .bool b
  | moment _ => .object []
  | array items => .arr (itemsJson items)
  | inline es => .obj (entriesJson es)
  | table _ es => .obj (entriesJson es)
  | tables rows => .arr (rowsJson rows)

/-- The plain data of items. -/
def itemsJson : List Toml → List Json
  | [] => []
  | v :: vs => v.toJson :: itemsJson vs

/-- The plain data of entries. -/
def entriesJson : List (String × Toml) → List (Option String × Json)
  | [] => []
  | (k, v) :: es => (some k, v.toJson) :: entriesJson es

/-- The plain data of tables. -/
def rowsJson : List (List (String × Toml)) → List Json
  | [] => []
  | es :: rs => .obj (entriesJson es) :: rowsJson rs

end

end Toml

end SinkAudit
