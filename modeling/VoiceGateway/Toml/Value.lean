/-!
# TOML values and tables

A TOML document is a table whose entries keep the order in which their keys
were first given. How a table came about decides what may still be added to it,
so every table remembers that.
-/

namespace VoiceGateway.Toml

/-- How a table came about. -/
inductive Origin where
  /-- Written between braces. It is complete and takes no further entries. -/
  | inline
  /-- Opened by a header of its own. -/
  | header
  /-- Mentioned on the way to the table of a header. -/
  | path
  /-- Mentioned on the way of a dotted key. -/
  | dotted
deriving DecidableEq, Repr

inductive Value where
  | text (s : String)
  | integer (i : Int)
  | float (x : Float)
  | bool (b : Bool)
  /-- A date, a time or both, as written. -/
  | moment (written : String)
  | array (items : List Value)
  | table (origin : Origin) (entries : List (String × Value))
  /-- The tables that share a header in double brackets. -/
  | tables (rows : List (List (String × Value)))

/-- The entries of a table in the order of their keys. -/
abbrev Table : Type := List (String × Value)

namespace Table

/-- Adds an entry; a key that is there already is refused. -/
def insert (t : Table) (key : String) (v : Value) : Option Table :=
  if t.any (·.1 == key) then none else some (t ++ [(key, v)])

/-- Changes the value of a key in place, or adds the key at the end. -/
def update (key : String) (change : Option Value → Option Value) : Table → Option Table
  | [] => (change none).map fun v => [(key, v)]
  | (k, v) :: rest =>
    if k = key then (change (some v)).map fun w => (k, w) :: rest
    else (update key change rest).map ((k, v) :: ·)

/-- The origin of the table that `descend` ends in, and its entries, changed. -/
abbrev Change : Type := Origin → Table → Option Table

/-- Changes the table that a path leads to, where `origin` is that of the table
the path starts in. Missing tables on the way are added: `dotted` tells the path
of a dotted key from that of a header. A dotted key may not pass through a table
that was opened by a header; no path may pass through a value. -/
def descend (dotted : Bool) (change : Change) : List String → Origin → Table → Option Table
  | [], origin, t => change origin t
  | key :: path, _, t =>
    update key (fun
      | none =>
        let origin := if dotted then Origin.dotted else .path
        (descend dotted change path origin []).map (.table origin)
      | some (.table origin sub) =>
        if origin = .inline ∨ (dotted = true ∧ origin = .header) then none
        else (descend dotted change path origin sub).map (.table origin)
      -- A header in double brackets stands for the last of its tables.
      | some (.tables rows) =>
        match rows.getLast? with
        | none => none
        | some row =>
          (descend dotted change path .header row).map fun row' => .tables (rows.dropLast ++ [row'])
      | some _ => none) t

/-- Adds an entry under a dotted key. The table it lands in is the starting one,
or else one that dotted keys have made. -/
def insertDotted (path : List String) (key : String) (v : Value) (t : Table) : Option Table :=
  descend true
    (fun origin sub => if path ≠ [] ∧ origin ≠ .dotted then none else sub.insert key v)
    path .header t

/-- Opens the table of a header. A table that has so far only been mentioned on
the way to another moves to the end. -/
def openTable (path : List String) (key : String) (t : Table) : Option Table :=
  descend false
    (fun _ sub =>
      match sub.lookup key with
      | none => some (sub ++ [(key, .table .header [])])
      | some (.table .path entries) =>
        some (sub.filter (·.1 != key) ++ [(key, .table .header entries)])
      | some _ => none)
    path .header t

/-- Opens one more table under a header in double brackets. -/
def openRow (path : List String) (key : String) (t : Table) : Option Table :=
  descend false
    (fun _ sub =>
      update key (fun
        | none => some (.tables [[]])
        | some (.tables rows) => some (.tables (rows ++ [[]]))
        | some _ => none) sub)
    path .header t

/-- Adds an entry under a dotted key to the table that a header has opened. -/
def insertUnder (header path : List String) (key : String) (v : Value) (t : Table) :
    Option Table :=
  descend false (fun _ sub => insertDotted path key v sub) header .header t

end Table

end VoiceGateway.Toml
