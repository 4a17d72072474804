import Stencil.Value
import Mathlib.Tactic

/-!
# Parts of a value

A value and all values in it, at every depth, in one list.  What is said of the
parts of some data is said of every value that a program can come to by going
into mappings and sequences.
-/

namespace Stencil

theorem Entries.mem_of_get?_eq_some {α : Type} {name : String} {held : α}
    {entries : Entries α} (hheld : entries.get? name = some held) :
    (name, held) ∈ entries := by
  induction entries with
  | nil => simp [get?] at hheld
  | cons entry rest ih =>
      rcases entry with ⟨key, first⟩
      unfold get? at hheld
      split at hheld
      next hkey =>
        obtain rfl := Option.some.inj hheld
        rw [hkey]
        exact List.mem_cons_self
      next => exact List.mem_cons_of_mem _ (ih hheld)

namespace Value

mutual

def parts : Value → List Value
  | .sequence items => .sequence items :: partsOfItems items
  | .mapping entries => .mapping entries :: partsOfEntries entries
  | value => [value]

def partsOfItems : List Value → List Value
  | [] => []
  | item :: rest => item.parts ++ partsOfItems rest

def partsOfEntries : Entries Value → List Value
  | [] => []
  | (_, value) :: rest => value.parts ++ partsOfEntries rest

end

/-- The number of items of the longest sequence among the parts. -/
def longestSequence (value : Value) : ℕ :=
  (value.parts.map fun part => part.items.length).foldr max 0

theorem mem_parts_self (value : Value) : value ∈ value.parts := by
  cases value <;> simp [parts]

theorem mem_partsOfItems_iff {part : Value} {items : List Value} :
    part ∈ partsOfItems items ↔ ∃ item ∈ items, part ∈ item.parts := by
  induction items with
  | nil => simp [partsOfItems]
  | cons item rest ih => simp [partsOfItems, ih]

theorem mem_partsOfEntries_iff {part : Value} {entries : Entries Value} :
    part ∈ partsOfEntries entries ↔
      ∃ entry ∈ entries, part ∈ entry.2.parts := by
  induction entries with
  | nil => simp [partsOfEntries]
  | cons entry rest ih => simp [partsOfEntries, ih]

mutual

/-- The parts of a part are parts of the whole. -/
theorem parts_subset {part whole : Value} (hpart : part ∈ whole.parts) :
    part.parts ⊆ whole.parts := by
  match whole with
  | .null | .boolean _ | .integer _ | .float _ | .string _ =>
      obtain rfl := List.mem_singleton.mp hpart
      exact List.Subset.refl _
  | .sequence items =>
      rcases List.mem_cons.mp hpart with rfl | hinside
      · exact List.Subset.refl _
      · exact List.subset_cons_of_subset _ (parts_subset_items hinside)
  | .mapping entries =>
      rcases List.mem_cons.mp hpart with rfl | hinside
      · exact List.Subset.refl _
      · exact List.subset_cons_of_subset _ (parts_subset_entries hinside)

theorem parts_subset_items {part : Value} {items : List Value}
    (hpart : part ∈ partsOfItems items) : part.parts ⊆ partsOfItems items := by
  match items with
  | [] => simp [partsOfItems] at hpart
  | item :: rest =>
      rcases List.mem_append.mp hpart with hitem | hrest
      · exact List.subset_append_of_subset_left _ (parts_subset hitem)
      · exact List.subset_append_of_subset_right _ (parts_subset_items hrest)

theorem parts_subset_entries {part : Value} {entries : Entries Value}
    (hpart : part ∈ partsOfEntries entries) :
    part.parts ⊆ partsOfEntries entries := by
  match entries with
  | [] => simp [partsOfEntries] at hpart
  | (name, value) :: rest =>
      rcases List.mem_append.mp hpart with hvalue | hrest
      · exact List.subset_append_of_subset_left _ (parts_subset hvalue)
      · exact List.subset_append_of_subset_right _ (parts_subset_entries hrest)

end

theorem mem_parts_of_mem_items {item sequence whole : Value}
    (hitem : item ∈ sequence.items) (hsequence : sequence ∈ whole.parts) :
    item ∈ whole.parts := by
  apply parts_subset hsequence
  cases sequence with
  | sequence items =>
      exact List.mem_cons_of_mem _
        (mem_partsOfItems_iff.mpr ⟨item, hitem, item.mem_parts_self⟩)
  | _ => exact absurd hitem List.not_mem_nil

/-- What a part holds under a name, a mapping among the parts holds. -/
theorem exists_mapping_of_get? {part held whole : Value} {name : String}
    (hheld : part.get? name = some held) (hpart : part ∈ whole.parts) :
    held ∈ whole.parts ∧ ∃ entries, .mapping entries ∈ whole.parts ∧
      Entries.get? name entries = some held := by
  cases part with
  | mapping entries =>
      have hentry := Entries.mem_of_get?_eq_some hheld
      refine ⟨parts_subset hpart ?_, entries, hpart, hheld⟩
      exact List.mem_cons_of_mem _
        (mem_partsOfEntries_iff.mpr ⟨_, hentry, held.mem_parts_self⟩)
  | _ => simp [get?, entries?] at hheld

theorem length_items_le_longestSequence {part whole : Value}
    (hpart : part ∈ whole.parts) :
    part.items.length ≤ whole.longestSequence :=
  List.le_max_of_le (List.mem_map_of_mem hpart) le_rfl

end Value

end Stencil
