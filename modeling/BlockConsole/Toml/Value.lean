/-!
# TOML documents as values

A TOML document is a table: keys with values, which may be tables again. How a table came to be
decides who may add to it (`Origin`), and `Table.updateAt` walks along a path of keys under these
rules. `Table.insertKey`, `Table.openSection` and `Table.addItem` are the three ways in which a
document grows: by a key with a value, by a header `[a.b]` and by a header `[[a.b]]`. Each fails
where a key or a table would be defined twice.
-/

namespace BlockConsole.Toml

/-- How a table **came to be**: by a header of its own, on the way to the table of a header, by a
dotted key, or as a value between braces. -/
inductive Origin where
  | header
  | implicit
  | dotted
  | inline
deriving DecidableEq

/-- A **value**. Of a number with a fraction or an exponent only the kind is kept. -/
inductive Value where
  | text (s : String)
  | integer (i : Int)
  | float
  | boolean (b : Bool)
  | array (items : List Value)
  | table (origin : Origin) (entries : List (String × Value))
  /-- The tables of all headers `[[…]]` with one path. -/
  | tables (items : List Value)

/-- A **table**: its origin and its entries, in the order in which they came. -/
structure Table where
  origin : Origin
  entries : List (String × Value) := []

namespace Table

/-- The table as a value. -/
def toValue (t : Table) : Value :=
  .table t.origin t.entries

/-- The value under a key. -/
def get? (t : Table) (key : String) : Option Value :=
  t.entries.lookup key

/-- The table with a value under a key, at the end if the key is new. -/
def put (t : Table) (key : String) (v : Value) : Table :=
  if (t.get? key).isSome then
    { t with entries := t.entries.map fun e => if e.1 = key then (key, v) else e }
  else { t with entries := t.entries ++ [(key, v)] }

/-- Changes the table at the end of a path of keys. Tables on the way that do not exist are made,
and of the tables of a header `[[…]]` the last one is meant. A table between braces is closed, and
a dotted key does not lead into a table that has a header. -/
def updateAt (dotted : Bool) :
    (path : List String) → (change : Table → Option Table) → Table → Option Table
  | [], change, t => change t
  | key :: path, change, t =>
    match t.get? key with
    | none => do
      let inner ← updateAt dotted path change ⟨if dotted then .dotted else .implicit, []⟩
      some (t.put key inner.toValue)
    | some (.table origin entries) =>
      if origin = .inline || (dotted && origin = .header) then none
      else do
        let inner ← updateAt dotted path change ⟨origin, entries⟩
        some (t.put key inner.toValue)
    | some (.tables items) =>
      match items.getLast? with
      | some (.table origin entries) => do
        let inner ← updateAt dotted path change ⟨origin, entries⟩
        some (t.put key (.tables (items.dropLast ++ [inner.toValue])))
      | _ => none
    | some _ => none

/-- Adds a key with a value, reached by a dotted key if `path` is not empty. -/
def insertKey (path : List String) (key : String) (v : Value) (t : Table) : Option Table :=
  updateAt true path
    (fun inner =>
      if (inner.origin = .dotted) = path.isEmpty then none
      else if (inner.get? key).isSome then none
      else some (inner.put key v))
    t

/-- Adds the table of a header `[…]` with a path that ends in `key`. -/
def openSection (path : List String) (key : String) (t : Table) : Option Table :=
  updateAt false path
    (fun inner =>
      match inner.get? key with
      | none => some (inner.put key (.table .header []))
      | some (.table .implicit entries) => some (inner.put key (.table .header entries))
      | some _ => none)
    t

/-- Adds one more table of the headers `[[…]]` with a path that ends in `key`. -/
def addItem (path : List String) (key : String) (t : Table) : Option Table :=
  updateAt false path
    (fun inner =>
      match inner.get? key with
      | none => some (inner.put key (.tables [.table .header []]))
      | some (.tables items) => some (inner.put key (.tables (items ++ [.table .header []])))
      | some _ => none)
    t

end Table

end BlockConsole.Toml
