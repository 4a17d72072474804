import Stencil.Toml.Time
import Stencil.Value

/-!
# TOML documents

The content of a TOML document, and that content as data: moments become texts.  A moment can
also be given as a table whose first entry has a name of its own and holds the moment as a
string; such a table has no other content.
-/

namespace Stencil

/-- A value of a TOML document.  A document as a whole is a table; entries are in the order of the
document. -/
inductive Toml where
  | boolean (b : Bool)
  | integer (n : Int64)
  | float (x : Float)
  | string (s : String)
  | moment (instant : Toml.Moment)
  | array (items : List Toml)
  | table (entries : List (String × Toml))

namespace Toml

instance : Inhabited Toml := ⟨.table []⟩

def momentName : String := "$__toml_private_datetime"

def momentValue (instant : Moment) : Value :=
  .string (String.ofList instant.write)

def spelledMoment? : Toml → Option Value
  | .string s => (Moment.parse? s.toList).map momentValue
  | _ => none

mutual

/-- A document as data, unless a table in it should be a moment and is not. -/
def toValue? : Toml → Option Value
  | .boolean b => some (.boolean b)
  | .integer n => some (.integer n)
  | .float x => some (.float x)
  | .string s => some (.string s)
  | .moment instant => some (momentValue instant)
  | .array items => (itemValues? items).map .sequence
  | .table [] => some (.mapping [])
  | .table ((name, value) :: rest) =>
    if name = momentName then spelledMoment? value
    else
      match toValue? value, entryValues? rest with
      | some value, some values => some (.ofPairs ((name, value) :: values))
      | _, _ => none

def itemValues? : List Toml → Option (List Value)
  | [] => some []
  | item :: rest =>
    match toValue? item, itemValues? rest with
    | some value, some values => some (value :: values)
    | _, _ => none

def entryValues? : List (String × Toml) → Option (List (String × Value))
  | [] => some []
  | (name, value) :: rest =>
    match toValue? value, entryValues? rest with
    | some value, some values => some ((name, value) :: values)
    | _, _ => none

end

theorem ordered_spelledMoment? {document : Toml} {value : Value}
    (hvalue : spelledMoment? document = some value) : value.Ordered := by
  unfold spelledMoment? at hvalue
  split at hvalue
  · obtain ⟨instant, -, rfl⟩ := Option.map_eq_some_iff.mp hvalue
    trivial
  · contradiction

mutual

theorem ordered_toValue? {document : Toml} {value : Value}
    (hvalue : document.toValue? = some value) : value.Ordered := by
  match document with
  | .boolean _ | .integer _ | .float _ | .string _ | .moment _ =>
    obtain rfl := Option.some.inj hvalue
    trivial
  | .array items =>
    obtain ⟨values, hvalues, rfl⟩ := Option.map_eq_some_iff.mp hvalue
    exact ordered_itemValues? hvalues
  | .table [] =>
    obtain rfl := Option.some.inj hvalue
    exact ⟨.nil, trivial⟩
  | .table ((name, first) :: rest) =>
    rw [toValue?] at hvalue
    split at hvalue
    · exact ordered_spelledMoment? hvalue
    · split at hvalue
      next held values hheld hvalues =>
        obtain rfl := Option.some.inj hvalue
        exact Value.ordered_ofPairs ⟨ordered_toValue? hheld, ordered_entryValues? hvalues⟩
      next => contradiction

theorem ordered_itemValues? {items : List Toml} {values : List Value}
    (hvalues : itemValues? items = some values) : Value.OrderedItems values := by
  match items with
  | [] =>
    obtain rfl := Option.some.inj hvalues
    trivial
  | item :: rest =>
    rw [itemValues?] at hvalues
    split at hvalues
    next first others hfirst hothers =>
      obtain rfl := Option.some.inj hvalues
      exact ⟨ordered_toValue? hfirst, ordered_itemValues? hothers⟩
    next => contradiction

theorem ordered_entryValues? {entries : List (String × Toml)} {values : List (String × Value)}
    (hvalues : entryValues? entries = some values) : Value.OrderedEntries values := by
  match entries with
  | [] =>
    obtain rfl := Option.some.inj hvalues
    trivial
  | (name, entry) :: rest =>
    rw [entryValues?] at hvalues
    split at hvalues
    next first others hfirst hothers =>
      obtain rfl := Option.some.inj hvalues
      exact ⟨ordered_toValue? hfirst, ordered_entryValues? hothers⟩
    next => contradiction

end

def toData? (document : Toml) : Option Data :=
  document.toValue?.pmap Data.mk fun _ => ordered_toValue?

end Toml

end Stencil
