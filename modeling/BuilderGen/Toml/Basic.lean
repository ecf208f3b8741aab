/-!
# TOML documents

The values of a document and the rules by which its lines add to its tables.  A table that a longer name
brings about may be opened later by a header of its own; a table that dotted keys bring about is extended
by dotted keys only; a table that was opened, or written inside of braces, is never opened again.
-/

namespace BuilderGen.Toml

/-- How a table came about. -/
inductive TableOrigin where
  /-- By a header of its own. -/
  | header
  /-- By a header that leads through it. -/
  | implied
  /-- By a dotted key that leads through it. -/
  | dotted
  /-- By braces. -/
  | inline
deriving DecidableEq, Repr, Inhabited

/-- A value.  Numbers and moments are kept as written. -/
inductive Value where
  | text (value : String)
  | truth (value : Bool)
  | number (written : String)
  | moment (written : String)
  | array (items : List Value)
  | table (origin : TableOrigin) (entries : List (String × Value))
  /-- The tables of headers in double brackets, the last of them apart. -/
  | tables (earlier : List (List (String × Value))) (last : List (String × Value))
deriving Repr, Inhabited

/-- The keys of a table with their values, in the order in which they came about. -/
abbrev Entries := List (String × Value)

namespace Entries

def replace (entries : Entries) (key : String) (value : Value) : Entries :=
  entries.map fun (name, old) => if name = key then (name, value) else (name, old)

/-- Changes the entries of the table that keys lead to.  Tables on the way come about when they are
missing.  The change sees how the table came about and may fail. -/
def changeAt? (missing : TableOrigin) (change : TableOrigin → Entries → Option Entries) :
    List String → TableOrigin → Entries → Option Entries
  | [], origin, entries => change origin entries
  | key :: rest, _, entries =>
      match entries.lookup key with
      | none => do
          let inner ← changeAt? missing change rest missing []
          return entries ++ [(key, .table missing inner)]
      | some (.table origin inner) =>
          if origin = .inline ∨ (missing = .dotted ∧ origin = .header) then none
          else do
            let inner ← changeAt? missing change rest origin inner
            return entries.replace key (.table origin inner)
      | some (.tables earlier last) => do
          let last ← changeAt? missing change rest .header last
          return entries.replace key (.tables earlier last)
      | some _ => none

/-- Adds a value under a dotted key.  The table that takes the value is extended by dotted keys exactly
when dotted keys brought it about. -/
def insert? (entries : Entries) (path : List String) (key : String) (value : Value) : Option Entries :=
  changeAt? .dotted (fun origin entries =>
    if (origin = .dotted) = (path = []) ∨ (entries.lookup key).isSome then none
    else some (entries ++ [(key, value)])) path .header entries

/-- Opens a table by its header. -/
def openTable? (entries : Entries) (path : List String) (key : String) : Option Entries :=
  changeAt? .implied (fun _ entries =>
    match entries.lookup key with
    | none => some (entries ++ [(key, .table .header [])])
    | some (.table .implied inner) => some (entries.replace key (.table .header inner))
    | some _ => none) path .header entries

/-- Opens the next table of a list of tables by its header. -/
def openNext? (entries : Entries) (path : List String) (key : String) : Option Entries :=
  changeAt? .implied (fun _ entries =>
    match entries.lookup key with
    | none => some (entries ++ [(key, .tables [] [])])
    | some (.tables earlier last) => some (entries.replace key (.tables (earlier ++ [last]) []))
    | some _ => none) path .header entries

/-- The table of entries between braces: dotted keys, each with the value it ends in. -/
def ofPairs? : Entries → List (List String × String × Value) → Option Entries
  | entries, [] => some entries
  | entries, (path, key, value) :: rest => do ofPairs? (← entries.insert? path key value) rest

end Entries

end BuilderGen.Toml
