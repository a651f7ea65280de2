import PathRouter.Document.Value
/-!
# Tables of a TOML document

A document is built up line by line.  A table remembers how it came to be: under a header of its own, on the way to
another header (`implicit`), or by a dotted key (`dotted`).  A table may have one header, dotted keys may only extend
tables that dotted keys made, and a header on the way to which an array of tables lies goes into the last table of the
array.
-/
namespace PathRouter.Toml

inductive Node where
  | leaf (v : Value)
  | table (implicit dotted : Bool) (entries : List (String × Node))
  /-- An array of tables, the last one first. -/
  | tables (items : List (List (String × Node)))

abbrev Table := List (String × Node)

mutual

def Node.toValue : Node → Value
  | .leaf v => v
  | .table _ _ es => .object (members es)
  | .tables ts => .array (objects ts).reverse

def members : List (String × Node) → List (String × Value)
  | [] => []
  | (k, n) :: rest => (k, n.toValue) :: members rest

def objects : List (List (String × Node)) → List Value
  | [] => []
  | t :: rest => .object (members t) :: objects rest

end

/-- Adds a value under a dotted key: `path` leads through tables and `key` is the last part.  `inside` tells of the
table at hand, unless it is the one the path starts from, whether dotted keys made it. -/
def insertKey (inside : Option Bool) (key : String) (n : Node) : (path : List String) → Table → Option Table
  | [], t =>
    if inside = some false ∨ (Entries.get? key t).isSome then none else some (Entries.put key n t)
  | p :: path, t =>
    match Entries.get? p t with
    | none => (insertKey (some true) key n path []).map (fun u => Entries.put p (.table true true u) t)
    | some (.table true dotted u) =>
      (insertKey (some dotted) key n path u).map (fun u => Entries.put p (.table true dotted u) t)
    | some (.tables (u :: us)) =>
      (insertKey (some false) key n path u).map (fun u => Entries.put p (.tables (u :: us)) t)
    | some _ => none

/-- An assignment of a document: a dotted key, the last part apart, and its value. -/
structure Assignment where
  path : List String
  key : String
  value : Value

def insertAll (as : List Assignment) (t : Table) : Option Table :=
  as.foldlM (fun t a => insertKey none a.key (.leaf a.value) a.path t) t

/-- Changes the table that the path of a header leads to; tables that are missing on the way are made. -/
def modifyAt (f : Table → Option Table) : (path : List String) → Table → Option Table
  | [], t => f t
  | p :: path, t =>
    match Entries.get? p t with
    | none => (modifyAt f path []).map (fun u => Entries.put p (.table true false u) t)
    | some (.table implicit dotted u) =>
      (modifyAt f path u).map (fun u => Entries.put p (.table implicit dotted u) t)
    | some (.tables (u :: us)) => (modifyAt f path u).map (fun u => Entries.put p (.tables (u :: us)) t)
    | some _ => none

/-- The header of a section: of a table, or of the next table of an array. -/
structure Header where
  path : List String
  key : String
  isArray : Bool

/-- Adds a section. -/
def addSection (h : Header) (as : List Assignment) (root : Table) : Option Table :=
  modifyAt (fun t =>
    match h.isArray, Entries.get? h.key t with
    | true, none => (insertAll as []).map (fun u => Entries.put h.key (.tables [u]) t)
    | true, some (.tables us) => (insertAll as []).map (fun u => Entries.put h.key (.tables (u :: us)) t)
    | false, none => (insertAll as []).map (fun u => Entries.put h.key (.table false false u) t)
    | false, some (.table true false u) => (insertAll as u).map (fun u => Entries.put h.key (.table false false u) t)
    | _, _ => none) h.path root

/-- The document of the assignments before the first header and of the sections after it. -/
def build (first : List Assignment) (sections : List (Header × List Assignment)) : Option Value := do
  let root ← insertAll first []
  let root ← sections.foldlM (fun t s => addSection s.1 s.2 t) root
  some (.object (members root))

end PathRouter.Toml
