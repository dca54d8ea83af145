namespace Routing

/-! # TOML values and tables

Values of a TOML document, and how assignments and headers build nested tables of them. A table
remembers how it was written, since that decides whether later parts of the document may add to it.
-/

/-! ## Values

Floats and dates keep their written form. -/

/-- How a table came to be. -/
inductive Toml.Origin
  /-- Named by a header, or the document itself. -/
  | header
  /-- Only on the way to a longer header. -/
  | implied
  /-- On the way to a dotted key. -/
  | dotted
  /-- Written between braces. -/
  | inline
  deriving DecidableEq, Repr

inductive Toml
  | string (text : String)
  | integer (value : Int)
  | float (written : String)
  | boolean (value : Bool)
  | dateTime (written : String)
  | array (items : List Toml)
  | table (origin : Toml.Origin) (entries : List (String × Toml))
  /-- The tables that headers in double brackets add one by one. -/
  | tables (elements : List Toml)

namespace Toml

/-- Keys and values in the order of the document. -/
abbrev Entries := List (String × Toml)

/-- Where a value is put: a path of keys, the last of them apart. -/
structure Address where
  path : List String
  key : String
  deriving DecidableEq, Repr

/-! ## Building tables

A key is assigned once, a table has one header, and dotted keys only add to tables that dotted keys
made. -/

/-- Puts a value under a key, in the place of an earlier one. -/
def Entries.put (entries : Entries) (key : String) (value : Toml) : Entries :=
  entries.filter (·.1 ≠ key) ++ [(key, value)]

/-- Changes the table at a path, given how it was made; tables that are missing on the way are made
as `made`. Refuses a way through values, through tables between braces, and, for dotted keys,
through tables with a header. Of the tables of a double header, the way leads through the last. -/
def change (made : Origin) (edit : Origin → Entries → Option Entries) :
    List String → Origin → Entries → Option Entries
  | [], origin, entries => edit origin entries
  | key :: path, _, entries =>
    match entries.lookup key with
    | none => do
      let inner ← change made edit path made []
      return entries.put key (.table made inner)
    | some (.table origin inner) =>
      if origin = .inline ∨ (made = .dotted ∧ origin = .header) then none
      else do
        let inner ← change made edit path origin inner
        return entries.put key (.table origin inner)
    | some (.tables elements) =>
      match elements.getLast? with
      | some (.table origin inner) => do
        let inner ← change made edit path origin inner
        return entries.put key (.tables (elements.dropLast ++ [.table origin inner]))
      | _ => none
    | some _ => none

/-- Assigns a value, unless the key is taken. -/
def assign (entries : Entries) (place : Address) (value : Toml) : Option Entries :=
  change .dotted
    (fun origin inner =>
      if place.path ≠ [] ∧ origin ≠ .dotted then none
      else if (inner.lookup place.key).isSome then none
      else some (inner.put place.key value))
    place.path .header entries

/-- Assigns values one by one. -/
def assignAll (entries : Entries) (assignments : List (Address × Toml)) : Option Entries :=
  assignments.foldlM (fun entries (place, value) => assign entries place value) entries

/-- The table between braces that holds these assignments. -/
def ofAssignments? (assignments : List (Address × Toml)) : Option Toml :=
  return .table .inline (← assignAll [] assignments)

/-- A header and the assignments below it. -/
structure Section where
  place : Address
  /-- The header stands in double brackets and adds one more table. -/
  repeated : Bool
  assignments : List (Address × Toml)

/-- What stands under the key of a section once it is added, given what stood there before. -/
def Section.join? (s : Section) (before : Option Toml) : Option Toml :=
  match before, s.repeated with
  | none, false => return .table .header (← assignAll [] s.assignments)
  | some (.table .implied entries), false =>
    return .table .header (← assignAll entries s.assignments)
  | none, true => return .tables [.table .header (← assignAll [] s.assignments)]
  | some (.tables elements), true =>
    return .tables (elements ++ [.table .header (← assignAll [] s.assignments)])
  | _, _ => none

/-- Adds the table of a section to a document. -/
def addSection (document : Entries) (s : Section) : Option Entries :=
  change .implied
    (fun _ inner => return inner.put s.place.key (← s.join? (inner.lookup s.place.key)))
    s.place.path .header document

/-- The document with these assignments at its top and these sections below. -/
def ofSections? (top : List (Address × Toml)) (sections : List Section) : Option Entries := do
  sections.foldlM addSection (← assignAll [] top)

end Toml

end Routing
