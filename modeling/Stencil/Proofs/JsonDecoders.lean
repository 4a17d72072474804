import Stencil.Proofs.JsonRoundTrip
import Mathlib.Tactic

/-!
# Two decoders of JSON

A JSON text becomes data in two ways.  One reads it as a tree whose objects have
one member under each name, and converts that tree by looking at the form of each
node.  The other keeps all members and takes each node as the first kind of value
that it fits, in the order of the kinds.

What a document denotes is said here without either of them: a number is the
integer that was written if there is one in range and else a double, and an
object holds under each name what the last member of that name denotes.  There
is one such value, and both ways lead to it.
-/

namespace Stencil

/-! ## Entries from pairs -/

namespace Entries

variable {α β : Type}

/-- Of several pairs with one name the last one counts. -/
theorem get?_ofPairs (pairs : List (String × α)) (name : String) :
    get? name (ofPairs pairs) =
      (pairs.reverse.find? fun pair => pair.1 = name).map Prod.snd := by
  induction pairs using List.reverseRecOn with
  | nil => rfl
  | append_singleton front last ih =>
      rw [ofPairs_concat, get?_put, ih, List.reverse_append, List.reverse_singleton,
        List.singleton_append, List.find?_cons]
      by_cases hname : last.1 = name
      · rw [if_pos hname.symm]
        simp [hname]
      · rw [if_neg (Ne.symm hname)]
        simp [hname]

theorem put_map (change : α → β) (name : String) (value : α)
    (entries : Entries α) :
    put name (change value) (entries.map (Prod.map id change)) =
      (put name value entries).map (Prod.map id change) := by
  induction entries with
  | nil => rfl
  | cons entry rest ih =>
      rw [List.map_cons, put, put]
      simp only [Prod.map_fst, id_eq, ih]
      split
      · rfl
      · split <;> rfl

/-- What is under the names does not matter for the order and the last one. -/
theorem ofPairs_map (change : α → β) (pairs : List (String × α)) :
    ofPairs (pairs.map (Prod.map id change)) =
      (ofPairs pairs).map (Prod.map id change) := by
  induction pairs using List.reverseRecOn with
  | nil => rfl
  | append_singleton front last ih =>
      rw [List.map_append, List.map_singleton, ofPairs_concat, ofPairs_concat, ih,
        ← put_map]
      rfl

theorem get?_of_mem {entries : Entries α} (hordered : entries.Ordered)
    {name : String} {value : α} (hmem : (name, value) ∈ entries) :
    get? name entries = some value := by
  induction entries with
  | nil => exact absurd hmem List.not_mem_nil
  | cons entry rest ih =>
      obtain ⟨hbefore, hrest⟩ := List.pairwise_cons.mp hordered
      rcases List.mem_cons.mp hmem with rfl | hin
      · rw [get?, if_pos rfl]
      · have hlt : entry.1 < name := hbefore name (List.mem_map_of_mem hin)
        have hne : entry.1 ≠ name := String.ne_of_lt hlt
        rw [get?, if_neg hne, ih hrest hin]

/-- Entries in order are determined by what they hold under each name. -/
theorem eq_of_get?_eq {first second : Entries α} (hfirst : first.Ordered)
    (hsecond : second.Ordered)
    (hsame : ∀ name, get? name first = get? name second) : first = second := by
  have hmem : ∀ entry, entry ∈ first ↔ entry ∈ second := by
    intro entry
    constructor
    · intro hentry
      exact mem_of_get?_eq_some ((hsame _).symm.trans (get?_of_mem hfirst hentry))
    · intro hentry
      exact mem_of_get?_eq_some ((hsame _).trans (get?_of_mem hsecond hentry))
  have hbelow : Std.Irrefl fun entry other : String × α => entry.1 < other.1 :=
    ⟨fun entry => String.lt_irrefl entry.1⟩
  have hasymm : Std.Antisymm fun entry other : String × α => entry.1 < other.1 :=
    ⟨fun entry other hlt hgt => absurd hgt (String.lt_asymm hlt)⟩
  exact List.Pairwise.eq_of_mem_iff (List.pairwise_map.mp hfirst)
    (List.pairwise_map.mp hsecond) hmem

end Entries

namespace Json

/-! ## What documents denote -/

/-- The number that was written, as long as it is kept as a whole number. -/
def Number.whole? : Number → Option ℤ
  | .natural n => some n.toNat
  | .negative n => some n.toInt
  | .float _ => none

/-- A whole number in range denotes an integer, and every other number a
double. -/
def Number.Denotes (number : Number) (value : Value) : Prop :=
  (∃ i : Int64, number.whole? = some i.toInt ∧ value = .integer i) ∨
    (∀ i : Int64, number.whole? ≠ some i.toInt) ∧ value = .float number.toFloat

mutual

def Denotes : Json → Value → Prop
  | .null, value => value = .null
  | .boolean b, value => value = .boolean b
  | .number n, value => n.Denotes value
  | .string s, value => value = .string s
  | .array items, value =>
      ∃ values, value = .sequence values ∧ DenoteItems items values
  | .object members, value =>
      ∃ pairs entries, value = .mapping entries ∧ DenoteMembers members pairs ∧
        Entries.Ordered entries ∧
        ∀ name, Entries.get? name entries =
          (pairs.reverse.find? fun pair => pair.1 = name).map Prod.snd

def DenoteItems : List Json → List Value → Prop
  | [], values => values = []
  | item :: rest, values =>
      ∃ first others, values = first :: others ∧ item.Denotes first ∧
        DenoteItems rest others

/-- Each member in its place, with the name that it has. -/
def DenoteMembers : List (String × Json) → List (String × Value) → Prop
  | [], pairs => pairs = []
  | (name, member) :: rest, pairs =>
      ∃ first others, pairs = (name, first) :: others ∧ member.Denotes first ∧
        DenoteMembers rest others

end

/-- The integer of a number is the whole number, if it is in range. -/
theorem Number.integer?_eq_some_iff {number : Number} {i : Int64} :
    number.integer? = some i ↔ number.whole? = some i.toInt := by
  cases number with
  | natural n =>
      have hpow : Nat.pow 2 63 = 9223372036854775808 := rfl
      simp only [integer?, whole?, hpow]
      have hlower := i.le_toInt
      have hupper := i.toInt_lt
      split
      next hrange =>
        have hround : (Int64.ofInt n.toNat).toInt = n.toNat :=
          Int64.toInt_ofInt_of_le (by omega) (by omega)
        rw [Option.some_inj, Option.some_inj, ← Int64.toInt_inj, hround]
      next hbeyond =>
        simp only [reduceCtorEq, Option.some_inj, false_iff]
        omega
  | negative n =>
      rw [integer?, whole?, Option.some_inj, Option.some_inj, Int64.toInt_inj]
  | float x => simp [integer?, whole?]

theorem Number.denotes_iff {number : Number} {value : Value} :
    number.Denotes value ↔ number.toValue = value := by
  unfold Denotes toValue
  simp only [← integer?_eq_some_iff, ne_eq]
  cases number.integer? with
  | none => simp [eq_comm]
  | some i => simp [eq_comm]

mutual

theorem denotes_iff {document : Json} {value : Value} :
    document.Denotes value ↔ document.toValue = value := by
  match document with
  | .null | .boolean _ | .string _ => exact eq_comm
  | .number n => exact n.denotes_iff
  | .array items =>
      simp only [Denotes, toValue, denoteItems_iff]
      constructor
      · rintro ⟨values, rfl, rfl⟩
        rfl
      · rintro rfl
        exact ⟨_, rfl, rfl⟩
  | .object members =>
      simp only [Denotes, toValue, denoteMembers_iff]
      constructor
      · rintro ⟨pairs, entries, rfl, rfl, hordered, hheld⟩
        have hentries : Entries.ofPairs (memberValues members) = entries :=
          Entries.eq_of_get?_eq (Entries.ordered_ofPairs _) hordered fun name =>
            (Entries.get?_ofPairs _ name).trans (hheld name).symm
        rw [Value.ofPairs, hentries]
      · rintro rfl
        exact ⟨_, _, rfl, rfl, Entries.ordered_ofPairs _, Entries.get?_ofPairs _⟩

theorem denoteItems_iff {items : List Json} {values : List Value} :
    DenoteItems items values ↔ itemValues items = values := by
  match items with
  | [] => exact eq_comm
  | item :: rest =>
      simp only [DenoteItems, itemValues, denotes_iff, denoteItems_iff]
      constructor
      · rintro ⟨first, others, rfl, rfl, rfl⟩
        rfl
      · rintro rfl
        exact ⟨_, _, rfl, rfl, rfl⟩

theorem denoteMembers_iff {members : List (String × Json)}
    {pairs : List (String × Value)} :
    DenoteMembers members pairs ↔ memberValues members = pairs := by
  match members with
  | [] => exact eq_comm
  | (name, member) :: rest =>
      simp only [DenoteMembers, memberValues, denotes_iff, denoteMembers_iff]
      constructor
      · rintro ⟨first, others, rfl, rfl, rfl⟩
        rfl
      · rintro rfl
        exact ⟨_, _, rfl, rfl, rfl⟩

end

/-! ## One member under each name -/

mutual

/-- The document with one member under each name of an object: the last one that
the text has, in the order of the names. -/
def merged : Json → Json
  | .array items => .array (mergedItems items)
  | .object members => .object (Entries.ofPairs (mergedMembers members))
  | document => document

def mergedItems : List Json → List Json
  | [] => []
  | item :: rest => item.merged :: mergedItems rest

def mergedMembers : List (String × Json) → List (String × Json)
  | [] => []
  | (name, member) :: rest => (name, member.merged) :: mergedMembers rest

end

theorem memberValues_eq_map (members : List (String × Json)) :
    memberValues members = members.map (Prod.map id toValue) := by
  induction members with
  | nil => rfl
  | cons member rest ih =>
      rw [memberValues, ih]
      rfl

mutual

/-- Merging beforehand is nothing but merging behind. -/
theorem toValue_merged (document : Json) :
    document.merged.toValue = document.toValue := by
  match document with
  | .null | .boolean _ | .number _ | .string _ => rfl
  | .array items => rw [merged, toValue, toValue, itemValues_mergedItems]
  | .object members =>
      -- Merged members are in order, and entries in order stay as they are.
      rw [merged, toValue, toValue, Value.ofPairs, Value.ofPairs,
        memberValues_eq_map, ← Entries.ofPairs_map, ← memberValues_eq_map,
        memberValues_mergedMembers,
        Entries.ofPairs_of_ordered (Entries.ordered_ofPairs _)]

theorem itemValues_mergedItems (items : List Json) :
    itemValues (mergedItems items) = itemValues items := by
  match items with
  | [] => rfl
  | item :: rest =>
      rw [mergedItems, itemValues, itemValues, toValue_merged,
        itemValues_mergedItems]

theorem memberValues_mergedMembers (members : List (String × Json)) :
    memberValues (mergedMembers members) = memberValues members := by
  match members with
  | [] => rfl
  | (name, member) :: rest =>
      rw [mergedMembers, memberValues, memberValues, toValue_merged,
        memberValues_mergedMembers]

end

/-! ## The first kind that fits -/

mutual

/-- There is always a kind that fits, and it is the one that the form asks for. -/
theorem firstFit_eq_some (document : Json) :
    firstFit document = some document.toValue := by
  match document with
  | .null | .boolean _ | .string _ => rfl
  | .number n =>
      simp only [firstFit, toValue, asInteger?, asFloat?, Number.toValue]
      cases n.integer? <;> rfl
  | .array items =>
      rw [firstFit, fittingItems_eq_some]
      rfl
  | .object members =>
      rw [firstFit, fittingMembers_eq_some]
      rfl

theorem fittingItems_eq_some (items : List Json) :
    fittingItems items = some (itemValues items) := by
  match items with
  | [] => rfl
  | item :: rest =>
      rw [fittingItems, firstFit_eq_some, fittingItems_eq_some]
      rfl

theorem fittingMembers_eq_some (members : List (String × Json)) :
    fittingMembers members = some (memberValues members) := by
  match members with
  | [] => rfl
  | (name, member) :: rest =>
      rw [fittingMembers, firstFit_eq_some, fittingMembers_eq_some]
      rfl

end

/-- Both decoders accept the texts that the reader accepts, and give the value that
the document denotes: the one that takes each node as the first kind that it
fits, and the one that merges members and looks at the form of each node. -/
theorem decoders_agree (text : String) :
    (parse? text).bind firstFit =
        (parse? text).map (fun document => document.merged.toValue) ∧
      ∀ value, (parse? text).bind firstFit = some value ↔
        ∃ document, parse? text = some document ∧ document.Denotes value := by
  cases parse? text with
  | none => simp
  | some document => simp [firstFit_eq_some, toValue_merged, denotes_iff]

/-- The largest integer, the next number and a name that comes twice. -/
example :
    let document : Json := .object
      [("b", .array
          [.number (.natural 9223372036854775807),
            .number (.natural 9223372036854775808)]),
        ("a", .boolean true), ("a", .number (.negative (-1)))]
    let value := Value.mapping
      [("a", .integer (-1)),
        ("b", .sequence
          [.integer 9223372036854775807,
            .float (UInt64.toFloat 9223372036854775808)])]
    document.firstFit = some value ∧ document.merged.toValue = value :=
  ⟨rfl, rfl⟩

end Json

end Stencil
