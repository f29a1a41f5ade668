/-
TOML values, and how a document's tables come together.

# Contents

A document gives its tables piece by piece: headers open them, dotted
keys reach into them, and some come into being only because a path goes
through them. What may still be done to a table depends on how it came
into being, its `Kind`:

* an `implied` table, made by a header's path, may be opened once;
* a `dotted` table, made by a key's path, may be extended by keys alone;
* an `opened` table, or one written inline, may not be defined again.

`Table.descend` follows a path and changes the table at its end; of a
list of tables the path takes the last. Every step that the format
forbids makes it fail.
-/

namespace Warden.Toml

/-- How a table came into being. -/
inductive Kind where
  | opened
  | implied
  | dotted
deriving DecidableEq, Repr

inductive Value where
  | string (text : String)
  | integer (n : Int)
  /-- A floating point number, as written. -/
  | float (text : String)
  | boolean (b : Bool)
  /-- A date, a time or both, as written. -/
  | datetime (text : String)
  | array (items : List Value)
  | inline (entries : List (String × Value))
  | table (kind : Kind) (entries : List (String × Value))
  /-- A list of tables, each opened by a header of its own. -/
  | tables (items : List Value)

/-- A table under construction. -/
structure Table where
  kind : Kind
  entries : List (String × Value)

namespace Table

/-- A table without entries. -/
def new (kind : Kind) : Table := ⟨kind, []⟩

def get? (t : Table) (key : String) : Option Value := t.entries.lookup key

/-- Gives a key its value, in place if it has one. -/
def put (t : Table) (key : String) (v : Value) : Table :=
  if (t.get? key).isSome then
    { t with entries := t.entries.map fun (k, old) => if k = key then (k, v) else (k, old) }
  else { t with entries := t.entries ++ [(key, v)] }

/-- The value that a table is. -/
def toValue (t : Table) : Value := .table t.kind t.entries

/-- Changes the table at the end of a path. The path of a key
(`byKey`) makes the tables it lacks dotted and does not enter opened
ones; the path of a header makes them implied. -/
def descend (byKey : Bool) (change : Table → Option Table) : List String → Table → Option Table
  | [], t => change t
  | k :: ks, t =>
    match t.get? k with
    | none => do
      let child ← descend byKey change ks (.new (if byKey then .dotted else .implied))
      return t.put k child.toValue
    | some (.table kind entries) =>
      if byKey && kind = .opened then none
      else do
        let child ← descend byKey change ks ⟨kind, entries⟩
        return t.put k child.toValue
    | some (.tables items) =>
      match items.getLast? with
      | some (.table kind entries) => do
        let child ← descend byKey change ks ⟨kind, entries⟩
        return t.put k (.tables (items.dropLast ++ [child.toValue]))
      | _ => none
    | some _ => none

/-- Opens the table of a header. -/
def openTable (path : List String) (key : String) (root : Table) : Option Table :=
  root.descend false (fun parent =>
    match parent.get? key with
    | none => some (parent.put key (.table .opened []))
    | some (.table .implied entries) => some (parent.put key (.table .opened entries))
    | some _ => none) path

/-- Adds one more table to the list of a header. -/
def openItem (path : List String) (key : String) (root : Table) : Option Table :=
  root.descend false (fun parent =>
    match parent.get? key with
    | none => some (parent.put key (.tables [.table .opened []]))
    | some (.tables items) => some (parent.put key (.tables (items ++ [.table .opened []])))
    | some _ => none) path

/-- Gives a key, reached through a path of keys, its only value. -/
def assign (path : List String) (key : String) (v : Value) (t : Table) : Option Table :=
  t.descend true (fun last =>
    if decide (last.kind = .dotted) = path.isEmpty then none
    else if (last.get? key).isSome then none
    else some (last.put key v)) path

end Table

end Warden.Toml
