import Stencil.Entries

/-!
# Data values

A template is filled from a tree of values.  What a template does with a value depends on its
kind alone: only sequences can be repeated over, only mappings have names to look up, and a
section shows its main clause for the values that hold.

In the trees that are built from data every mapping is in order, with one entry under a name.
`Data` carries that along.
-/

namespace Stencil

/-- A value of the data tree. -/
inductive Value where
  | null
  | boolean (b : Bool)
  | integer (n : Int64)
  | float (x : Float)
  | string (s : String)
  | sequence (items : List Value)
  | mapping (entries : List (String × Value))

namespace Value

instance : Inhabited Value := ⟨.null⟩

def kind : Value → String
  | .null => "Null"
  | .boolean _ => "Bool"
  | .integer _ => "Integer"
  | .float _ => "Float"
  | .string _ => "String"
  | .sequence _ => "Sequence"
  | .mapping _ => "Mapping"

/-- Whether a value holds: null, false and the empty sequence do not, all else does. -/
def holds : Value → Bool
  | .null => false
  | .boolean b => b
  | .sequence items => !items.isEmpty
  | _ => true

/-- Whether a value is null. -/
def isNull : Value → Bool
  | .null => true
  | _ => false

def entries? : Value → Option (Entries Value)
  | .mapping entries => some entries
  | _ => none

def items? : Value → Option (List Value)
  | .sequence items => some items
  | _ => none

def string? : Value → Option String
  | .string s => some s
  | _ => none

/-- The items of a sequence; any other value has none. -/
def items (value : Value) : List Value :=
  value.items?.getD []

/-- What a mapping holds under a name; any other value holds nothing. -/
def get? (value : Value) (name : String) : Option Value :=
  value.entries?.bind (Entries.get? name)

/-- The mapping with the given pairs; of several with one name the last one stays. -/
def ofPairs (pairs : List (String × Value)) : Value :=
  .mapping (Entries.ofPairs pairs)

mutual

/-- Equality of values.  Numbers of different kinds differ, and doubles are compared as
numbers. -/
def same : Value → Value → Bool
  | .null, .null => true
  | .boolean a, .boolean b => a == b
  | .integer a, .integer b => a == b
  | .float a, .float b => a == b
  | .string a, .string b => a == b
  | .sequence a, .sequence b => sameItems a b
  | .mapping a, .mapping b => sameEntries a b
  | _, _ => false

def sameItems : List Value → List Value → Bool
  | [], [] => true
  | a :: as, b :: bs => same a b && sameItems as bs
  | _, _ => false

def sameEntries : Entries Value → Entries Value → Bool
  | [], [] => true
  | (k, a) :: as, (l, b) :: bs => k == l && same a b && sameEntries as bs
  | _, _ => false

end

instance : BEq Value := ⟨same⟩

mutual

/-- Every mapping in a value has its names in increasing order, each of them once. -/
def Ordered : Value → Prop
  | .sequence items => OrderedItems items
  | .mapping entries => Entries.Ordered entries ∧ OrderedEntries entries
  | _ => True

def OrderedItems : List Value → Prop
  | [] => True
  | item :: rest => item.Ordered ∧ OrderedItems rest

def OrderedEntries : Entries Value → Prop
  | [] => True
  | (_, value) :: rest => value.Ordered ∧ OrderedEntries rest

end

theorem orderedEntries_iff {entries : Entries Value} :
    OrderedEntries entries ↔ ∀ entry ∈ entries, entry.2.Ordered := by
  induction entries with
  | nil => simp [OrderedEntries]
  | cons entry rest ih => simp [OrderedEntries, ih]

theorem ordered_ofPairs {pairs : List (String × Value)} (hpairs : OrderedEntries pairs) :
    (ofPairs pairs).Ordered :=
  ⟨Entries.ordered_ofPairs pairs,
    orderedEntries_iff.mpr (Entries.forall_mem_ofPairs (orderedEntries_iff.mp hpairs))⟩

end Value

/-- A value as data is built. -/
structure Data where
  value : Value
  ordered : value.Ordered

/-- Types whose elements are data. -/
class ToValue (α : Type) where
  toValue : α → Value

export ToValue (toValue)

instance : ToValue Value := ⟨id⟩
instance : ToValue Bool := ⟨.boolean⟩
instance : ToValue Int64 := ⟨.integer⟩
instance : ToValue Int32 := ⟨fun n => .integer n.toInt64⟩
instance : ToValue Float := ⟨.float⟩
instance : ToValue String := ⟨.string⟩

instance {α : Type} [ToValue α] : ToValue (List α) := ⟨fun items => .sequence (items.map toValue)⟩

instance {α : Type} [ToValue α] : ToValue (Option α) :=
  ⟨fun
    | some a => toValue a
    | none => .null⟩

instance {α : Type} [ToValue α] : ToValue (Entries α) :=
  ⟨fun entries => .ofPairs (entries.map fun (name, a) => (name, toValue a))⟩

end Stencil
