/-!
# Named entries

A list of names with something under each, kept in increasing order of the names, which is the
order of their code points.  Putting an entry under a name that is taken replaces what was there.
-/

namespace Stencil

/-- Names with something of type `α` under each. -/
abbrev Entries (α : Type) := List (String × α)

namespace Entries

variable {α : Type}

/-- The entries with `value` under `name`. -/
def put (name : String) (value : α) : Entries α → Entries α
  | [] => [(name, value)]
  | (key, held) :: rest =>
    if name < key then (name, value) :: (key, held) :: rest
    else if name = key then (name, value) :: rest
    else (key, held) :: put name value rest

/-- The entries of a list of pairs; of several pairs with one name the last one stays. -/
def ofPairs (pairs : List (String × α)) : Entries α :=
  pairs.foldl (fun entries (name, value) => put name value entries) []

def get? (name : String) : Entries α → Option α
  | [] => none
  | (key, held) :: rest => if key = name then some held else get? name rest

/-- The names, in order. -/
def names (entries : Entries α) : List String :=
  entries.map Prod.fst

/-- Every name comes strictly before the ones that follow it. -/
def Ordered (entries : Entries α) : Prop :=
  entries.names.Pairwise (· < ·)

theorem get?_put (name other : String) (value : α) (entries : Entries α) :
    get? other (put name value entries) =
      if other = name then some value else get? other entries := by
  induction entries with
  | nil => grind [put, get?]
  | cons entry rest ih => grind [put, get?]

theorem forall_mem_put {holds : String × α → Prop} {name : String} {value : α}
    {entries : Entries α} (hnew : holds (name, value)) (hentries : ∀ entry ∈ entries, holds entry) :
    ∀ entry ∈ put name value entries, holds entry := by
  induction entries with
  | nil => exact List.forall_mem_singleton.mpr hnew
  | cons entry rest ih =>
    obtain ⟨hfirst, hrest⟩ := List.forall_mem_cons.mp hentries
    rw [put]
    split
    · exact List.forall_mem_cons.mpr ⟨hnew, hentries⟩
    · split
      · exact List.forall_mem_cons.mpr ⟨hnew, hrest⟩
      · exact List.forall_mem_cons.mpr ⟨hfirst, ih hrest⟩

theorem ordered_cons_iff {entry : String × α} {rest : Entries α} :
    Ordered (entry :: rest) ↔ (∀ other ∈ rest, entry.1 < other.1) ∧ Ordered rest := by
  simp only [Ordered, names, List.map_cons, List.pairwise_cons, List.forall_mem_map]

theorem ordered_put {entries : Entries α} (hordered : entries.Ordered) (name : String) (value : α) :
    (put name value entries).Ordered := by
  induction entries with
  | nil => exact List.pairwise_singleton _ _
  | cons entry rest ih =>
    obtain ⟨hbefore, hrest⟩ := ordered_cons_iff.mp hordered
    rw [put]
    split
    next hlt =>
      have hall : ∀ other ∈ rest, name < other.1 := fun other hother =>
        String.lt_trans hlt (hbefore other hother)
      exact ordered_cons_iff.mpr ⟨List.forall_mem_cons.mpr ⟨hlt, hall⟩, hordered⟩
    next hnotLt =>
      split
      next hsame =>
        subst hsame
        exact ordered_cons_iff.mpr ⟨hbefore, hrest⟩
      next hother =>
        have hle : entry.1 ≤ name := String.not_lt.mp hnotLt
        have hlt : entry.1 < name := String.not_le.mp fun hge => hother (String.le_antisymm hge hle)
        exact ordered_cons_iff.mpr ⟨forall_mem_put hlt hbefore, ih hrest⟩

theorem ofPairs_concat (pairs : List (String × α)) (last : String × α) :
    ofPairs (pairs ++ [last]) = put last.1 last.2 (ofPairs pairs) := by
  simp only [ofPairs, List.foldl_append, List.foldl_cons, List.foldl_nil]

/-- What holds of the empty list, and still holds with one more entry put in, holds of the entries
of any pairs. -/
theorem ofPairs_induction {motive : Entries α → Prop} (hempty : motive [])
    (pairs : List (String × α))
    (hput : ∀ pair ∈ pairs, ∀ entries, motive entries → motive (put pair.1 pair.2 entries)) :
    motive (ofPairs pairs) :=
  List.foldlRecOn pairs _ hempty fun entries hentries pair hpair => hput pair hpair entries hentries

theorem ordered_ofPairs (pairs : List (String × α)) : (ofPairs pairs).Ordered :=
  ofPairs_induction .nil pairs fun _ _ _ hordered => ordered_put hordered _ _

theorem forall_mem_ofPairs {holds : String × α → Prop} {pairs : List (String × α)}
    (hpairs : ∀ pair ∈ pairs, holds pair) : ∀ entry ∈ ofPairs pairs, holds entry :=
  ofPairs_induction (motive := fun entries => ∀ entry ∈ entries, holds entry) (by simp) pairs
    fun pair hpair _ hentries => forall_mem_put (hpairs pair hpair) hentries

end Entries

end Stencil
