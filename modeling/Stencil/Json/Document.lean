import Stencil.Decimal.Binary
import Stencil.Value

/-!
# JSON documents

What a JSON text says before it becomes data: objects are lists of members in the order of the
text, repeated names included, and numbers are told apart by how they are written.  There are
two ways from a document to a value.  `Json.toValue` looks at each node once and decides by its
form.  `Json.firstFit` tries the kinds of value in a fixed order and takes the first one that
the node fits.
-/

namespace Stencil

namespace Json

/-- A number of a JSON text.  Integer literals keep their exact value as long as it fits 64 bits,
without a sign or with one; every other number is a double. -/
inductive Number where
  | natural (n : UInt64)
  | negative (n : Int64)
  | float (x : Float)

namespace Number

def integer? : Number → Option Int64
  | .natural n => if n.toNat < Nat.pow 2 63 then some (Int64.ofInt n.toNat) else none
  | .negative n => some n
  | .float _ => none

def toFloat : Number → Float
  | .natural n => n.toFloat
  | .negative n => n.toFloat
  | .float x => x

end Number

end Json

inductive Json where
  | null
  | boolean (b : Bool)
  | number (n : Json.Number)
  | string (s : String)
  | array (items : List Json)
  | object (members : List (String × Json))

namespace Json

instance : Inhabited Json := ⟨.null⟩

/-- A number as data: an integer if it is one in range, else a double. -/
def Number.toValue (n : Number) : Value :=
  match n.integer? with
  | some i => .integer i
  | none => .float n.toFloat

mutual

/-- A document as data.  Of members with one name the last one counts. -/
def toValue : Json → Value
  | .null => .null
  | .boolean b => .boolean b
  | .number n => n.toValue
  | .string s => .string s
  | .array items => .sequence (itemValues items)
  | .object members => .ofPairs (memberValues members)

def itemValues : List Json → List Value
  | [] => []
  | item :: rest => toValue item :: itemValues rest

def memberValues : List (String × Json) → List (String × Value)
  | [] => []
  | (name, value) :: rest => (name, toValue value) :: memberValues rest

end

theorem Number.ordered_toValue (n : Number) : n.toValue.Ordered := by
  unfold toValue
  split <;> trivial

mutual

theorem ordered_toValue (document : Json) : document.toValue.Ordered := by
  match document with
  | .null | .boolean _ | .string _ => trivial
  | .number n => exact n.ordered_toValue
  | .array items => exact ordered_itemValues items
  | .object members => exact Value.ordered_ofPairs (ordered_memberValues members)

theorem ordered_itemValues (items : List Json) : Value.OrderedItems (itemValues items) := by
  match items with
  | [] => trivial
  | item :: rest => exact ⟨ordered_toValue item, ordered_itemValues rest⟩

theorem ordered_memberValues (members : List (String × Json)) :
    Value.OrderedEntries (memberValues members) := by
  match members with
  | [] => trivial
  | (_, member) :: rest => exact ⟨ordered_toValue member, ordered_memberValues rest⟩

end

def toData (document : Json) : Data :=
  ⟨document.toValue, document.ordered_toValue⟩

/-- The document as null. -/
def asNull? : Json → Option Value
  | .null => some .null
  | _ => none

def asBoolean? : Json → Option Value
  | .boolean b => some (.boolean b)
  | _ => none

def asInteger? : Json → Option Value
  | .number n => n.integer?.map .integer
  | _ => none

/-- The document as a double, which every number is. -/
def asFloat? : Json → Option Value
  | .number n => some (.float n.toFloat)
  | _ => none

def asString? : Json → Option Value
  | .string s => some (.string s)
  | _ => none

mutual

/-- The document as the first kind of value that it fits: null, boolean, integer, double, string,
sequence, mapping.  Items and members are taken in the same way. -/
def firstFit (document : Json) : Option Value :=
  asNull? document <|> asBoolean? document <|> asInteger? document <|> asFloat? document <|>
    asString? document <|>
    match document with
    | .array items => (fittingItems items).map .sequence
    | .object members => (fittingMembers members).map .ofPairs
    | _ => none

/-- Every item as the first kind that it fits, if each fits one. -/
def fittingItems : List Json → Option (List Value)
  | [] => some []
  | item :: rest =>
    match firstFit item, fittingItems rest with
    | some value, some values => some (value :: values)
    | _, _ => none

/-- Every member as the first kind that it fits, if each fits one. -/
def fittingMembers : List (String × Json) → Option (List (String × Value))
  | [] => some []
  | (name, member) :: rest =>
    match firstFit member, fittingMembers rest with
    | some value, some values => some ((name, value) :: values)
    | _, _ => none

end

/-- The member of an object with a given name; of several the last one. -/
def member? (name : String) : Json → Option Json
  | .object members => (members.reverse.find? (·.1 == name)).map (·.2)
  | _ => none

end Json

end Stencil
