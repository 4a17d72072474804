import Stencil.Toml.Document

/-!
# Building tables

The lines of a TOML document put entries into a tree of tables.  Where an entry may go depends on
how the tables on its way came about: a table with a header of its own is closed to dotted keys
from elsewhere, a table that dotted keys made is closed to headers, and a table that only stands
in the path of some header can still get its own.  An array of tables is entered through its
latest element.

Entries stay in the order of the document.  A table that gets its own header after it was implied
moves to the end.
-/

namespace Stencil.Toml

/-- Names with something of type `α` under each, in the order in which they were given. -/
abbrev Listing (α : Type) := List (String × α)

namespace Listing

variable {α : Type}

def get? (name : String) (listing : Listing α) : Option α :=
  listing.lookup name

/-- The listing with `value` under `name`, in the place of what was there, else at the end. -/
def set (name : String) (value : α) : Listing α → Listing α
  | [] => [(name, value)]
  | (key, held) :: rest =>
    if key = name then (name, value) :: rest else (key, held) :: set name value rest

/-- The listing with `value` under `name` at the end. -/
def move (name : String) (value : α) (listing : Listing α) : Listing α :=
  listing.filter (·.1 ≠ name) ++ [(name, value)]

end Listing

inductive Origin where
  /-- By a header of its own. -/
  | header
  /-- In the path of another header. -/
  | implied
  /-- By a dotted key. -/
  | dotted
deriving DecidableEq, Repr

inductive Node where
  | leaf (value : Toml)
  | table (origin : Origin) (entries : List (String × Node))
  | tables (latest : List (String × Node)) (earlier : List (List (String × Node)))

instance : Inhabited Node := ⟨.leaf default⟩

/-- A key: its first part and those behind points. -/
structure Key where
  first : String
  rest : List String
deriving DecidableEq, Repr

namespace Node

mutual

/-- What a node holds, once the document is read. -/
def content : Node → Toml
  | .leaf value => value
  | .table _ entries => .table (contents entries)
  | .tables latest earlier => .array (elements earlier ++ [.table (contents latest)])

def contents : List (String × Node) → List (String × Toml)
  | [] => []
  | (name, node) :: rest => (name, content node) :: contents rest

/-- What the elements of an array of tables hold; they come latest first. -/
def elements : List (List (String × Node)) → List Toml
  | [] => []
  | entries :: rest => elements rest ++ [.table (contents entries)]

end

end Node

/-- Puts a value under a dotted key.  The table that receives it is the one at hand when the key
has one part, else one that dotted keys made; the tables on the way have no header of their own,
and no value stands yet under the key. -/
def putDotted (value : Toml) : String → List String → Listing Node → Option (Listing Node)
  | name, [], entries =>
    match entries.get? name with
    | some _ => none
    | none => some (entries.set name (.leaf value))
  | name, next :: rest, entries =>
    match entries.get? name with
    | none =>
      (putDotted value next rest []).map fun inner => entries.set name (.table .dotted inner)
    | some (.leaf _) => none
    | some (.table origin inner) =>
      if origin = .header || (origin = .implied && rest.isEmpty) then none
      else (putDotted value next rest inner).map fun inner => entries.set name (.table origin inner)
    | some (.tables latest earlier) =>
      if rest.isEmpty then none
      else (putDotted value next rest latest).map fun latest =>
        entries.set name (.tables latest earlier)

/-- Changes the entries among which the last part of a header's key stands; `change` also gets
that part.  Tables on the way that do not exist are made; anything but a table or an array of
tables is in the way. -/
def alterHeader (change : String → Listing Node → Option (Listing Node)) :
    String → List String → Listing Node → Option (Listing Node)
  | name, [], entries => change name entries
  | name, next :: rest, entries =>
    match entries.get? name with
    | none =>
      (alterHeader change next rest []).map fun inner => entries.set name (.table .implied inner)
    | some (.leaf _) => none
    | some (.table origin inner) =>
      (alterHeader change next rest inner).map fun inner => entries.set name (.table origin inner)
    | some (.tables latest earlier) =>
      (alterHeader change next rest latest).map fun latest =>
        entries.set name (.tables latest earlier)

/-- What stands under the key of a header; an error when something is in the way. -/
def findHeader : String → List String → Listing Node → Option (Option Node)
  | name, [], entries => some (entries.get? name)
  | name, next :: rest, entries =>
    match entries.get? name with
    | none => some none
    | some (.leaf _) => none
    | some (.table _ inner) => findHeader next rest inner
    | some (.tables latest _) => findHeader next rest latest

inductive Line where
  | entry (key : Key) (value : Toml)
  | tableHeader (key : Key)
  | elementHeader (key : Key)

inductive Target where
  | root
  | table (key : Key)
  | element (key : Key)

/-- A document up to some line: the finished tables, the table that entries go to, and its
entries. -/
structure Progress where
  root : Listing Node
  target : Target
  entries : Listing Node

namespace Progress

/-- Before the first line. -/
def start : Progress := ⟨[], .root, []⟩

/-- Adds the table that entries went to, or the element, to the finished ones. -/
def close (progress : Progress) : Option (Listing Node) :=
  match progress.target with
  | .root => some progress.entries
  | .table key =>
    let change (name : String) (entries : Listing Node) : Option (Listing Node) :=
      some (entries.move name (.table .header progress.entries))
    alterHeader change key.first key.rest progress.root
  | .element key =>
    let change (name : String) (entries : Listing Node) : Option (Listing Node) :=
      match entries.get? name with
      | none => some (entries.set name (.tables progress.entries []))
      | some (.tables latest earlier) =>
        some (entries.set name (.tables progress.entries (latest :: earlier)))
      | some _ => none
    alterHeader change key.first key.rest progress.root

/-- Takes in a line.  A table header may only name what does not exist or is implied, the header
of an element only what does not exist or is an array of tables. -/
def take (progress : Progress) : Line → Option Progress
  | .entry key value =>
    (putDotted value key.first key.rest progress.entries).map fun entries =>
      { progress with entries := entries }
  | .tableHeader key =>
    match progress.close with
    | none => none
    | some root =>
      match findHeader key.first key.rest root with
      | some none => some ⟨root, .table key, []⟩
      | some (some (.table .implied entries)) => some ⟨root, .table key, entries⟩
      | _ => none
  | .elementHeader key =>
    match progress.close with
    | none => none
    | some root =>
      match findHeader key.first key.rest root with
      | some none | some (some (.tables _ _)) => some ⟨root, .element key, []⟩
      | _ => none

/-- Takes in lines, up to the first fault. -/
def takeAll (progress : Progress) : List Line → Option Progress
  | [] => some progress
  | line :: rest =>
    match progress.take line with
    | none => none
    | some progress => takeAll progress rest

end Progress

def ofLines? (lines : List Line) : Option Toml :=
  ((Progress.start.takeAll lines).bind Progress.close).map fun entries =>
    .table (Node.contents entries)

def inlineTable? (pairs : List (Key × Toml)) : Option Toml :=
  (pairs.foldlM (fun entries (pair : Key × Toml) =>
    putDotted pair.2 pair.1.first pair.1.rest entries) []).map
    fun entries => .table (Node.contents entries)

end Stencil.Toml
