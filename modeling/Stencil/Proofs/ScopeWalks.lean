import Stencil.Proofs.ValueParts
import Stencil.Scope
import Mathlib.Tactic

/-!
# Scopes under calls in any order

Programs enter and leave values and iterations in a bracketed way, but a scope
can be called in any order.  A frame may then be taken away under an iteration,
another value may come to lie where its sequence lay, and the next item may even
replace the sequence that it was taken from.

Two things hold all the same.  The frames are parts of the data, or null.  And
every item that is taken was found in some sequence of the data at the number of
items taken before, so that the longest sequence bounds every iteration.

A walk counts for each iteration how often it was continued.  The invariant is
that the count of an iteration in progress is the number that its cursor keeps.
-/

namespace Stencil

inductive Scope.Move where
  | push (name : Option String)
  | pop
  | begin
  | next
  | lookup (name : String)
deriving DecidableEq, Repr

/-- A scope and the history of its iterations, each of which is known by the
number of those begun before it. -/
structure Walk where
  scope : Scope
  begun : ℕ
  /-- The iterations in progress, the latest first. -/
  active : List ℕ
  /-- The iterations that were continued, one entry for each time. -/
  continued : List ℕ

namespace Walk

def ofData (data : Value) : Walk :=
  ⟨.ofData data, 0, [], []⟩

/-- The walk after one more call, if that is possible. -/
def step? (walk : Walk) : Scope.Move → Option Walk
  | .push name => some { walk with scope := (walk.scope.push name).2 }
  | .pop => some { walk with scope := walk.scope.pop }
  | .begin =>
      walk.scope.begin?.map fun scope =>
        { walk with
          scope := scope
          begun := walk.begun + 1
          active := walk.begun :: walk.active }
  | .next =>
      walk.scope.next?.map fun (step, scope) =>
        match step with
        | .done => { walk with scope := scope, active := walk.active.tail }
        | .continued =>
            { walk with
              scope := scope
              continued := walk.active.head?.toList ++ walk.continued }
  | .lookup _ => some walk

/-- The walk after the calls, up to the first one that is impossible. -/
def run (walk : Walk) : List Scope.Move → Walk
  | [] => walk
  | move :: rest =>
      match walk.step? move with
      | none => walk
      | some next => next.run rest

end Walk

/-- A step of the latest iteration, if there is one, looks at one of the
frames. -/
theorem Scope.next?_cases {scope reached : Scope} {step : Step}
    (hnext : scope.next? = some (step, reached)) :
    (scope.cursors = [] ∧ step = .done ∧ reached = scope) ∨
      ∃ cursor cursors sequence, scope.cursors = cursor :: cursors ∧
        sequence ∈ scope.frames ∧
        ((step = .done ∧ reached = ⟨scope.frames.tail, cursors⟩) ∨
          ∃ item, sequence.items[cursor.taken]? = some item ∧
            step = .continued ∧
            reached = ⟨item :: scope.frames.tail,
              ⟨cursor.place, cursor.taken + 1⟩ :: cursors⟩) := by
  rcases scope with ⟨frames, _ | ⟨cursor, cursors⟩⟩
  · obtain ⟨rfl, rfl⟩ := Prod.mk.inj (Option.some.inj hnext)
    exact .inl ⟨rfl, rfl, rfl⟩
  · simp only [next?] at hnext
    split at hnext
    next => contradiction
    next sequence hframe =>
      unfold frameAt? at hframe
      split at hframe
      next =>
        have hsequence : sequence ∈ frames := List.mem_of_getElem? hframe
        refine .inr ⟨cursor, cursors, sequence, rfl, hsequence, ?_⟩
        split at hnext
        next =>
          obtain ⟨rfl, rfl⟩ := Prod.mk.inj (Option.some.inj hnext)
          exact .inl ⟨rfl, rfl⟩
        next item hitem =>
          obtain ⟨rfl, rfl⟩ := Prod.mk.inj (Option.some.inj hnext)
          obtain ⟨top, below, rfl⟩ :=
            List.exists_cons_of_ne_nil (List.ne_nil_of_mem hsequence)
          exact .inr ⟨item, hitem, rfl, rfl⟩
      next => contradiction

namespace Walk

/-! ## What every call keeps -/

structure Sound (data : Value) (walk : Walk) : Prop where
  frames : ∀ frame ∈ walk.scope.frames, frame = .null ∨ frame ∈ data.parts
  fresh : ∀ iteration ∈ walk.active ++ walk.continued, iteration < walk.begun
  distinct : walk.active.Nodup
  taken : List.Forall₂
    (fun iteration cursor => walk.continued.count iteration = cursor.taken)
    walk.active walk.scope.cursors
  bounded : ∀ iteration,
    walk.continued.count iteration ≤ data.longestSequence

theorem ofData_sound (data : Value) : (ofData data).Sound data where
  frames frame hframe := by
    obtain rfl := List.mem_singleton.mp hframe
    exact .inr frame.mem_parts_self
  fresh _ hmem := absurd hmem List.not_mem_nil
  distinct := List.nodup_nil
  taken := .nil
  bounded _ := Nat.zero_le _

namespace Sound

variable {data : Value} {walk : Walk}

theorem top (hsound : walk.Sound data) :
    walk.scope.top = .null ∨ walk.scope.top ∈ data.parts := by
  unfold Scope.top
  cases hframes : walk.scope.frames with
  | nil => exact .inl rfl
  | cons frame below => exact hsound.frames frame (by simp [hframes])

theorem push (hsound : walk.Sound data) (name : Option String) :
    Sound data { walk with scope := (walk.scope.push name).2 } := by
  cases name with
  | none => exact hsound
  | some name =>
      refine ⟨List.forall_mem_cons.mpr ⟨?_, hsound.frames⟩, hsound.fresh,
        hsound.distinct, hsound.taken, hsound.bounded⟩
      cases hheld : walk.scope.top.get? name with
      | none => exact .inl rfl
      | some held =>
          rcases hsound.top with htop | htop
          · rw [htop] at hheld
            contradiction
          · exact .inr (Value.exists_mapping_of_get? hheld htop).1

theorem pop (hsound : walk.Sound data) :
    Sound data { walk with scope := walk.scope.pop } where
  frames frame hframe := hsound.frames frame (List.mem_of_mem_tail hframe)
  fresh := hsound.fresh
  distinct := hsound.distinct
  taken := hsound.taken
  bounded := hsound.bounded

theorem begin (hsound : walk.Sound data) {scope : Scope}
    (hbegin : walk.scope.begin? = some scope) :
    Sound data { walk with
      scope := scope
      begun := walk.begun + 1
      active := walk.begun :: walk.active } := by
  have hunknown : walk.begun ∉ walk.active ++ walk.continued := fun hmem =>
    lt_irrefl _ (hsound.fresh _ hmem)
  rw [List.mem_append, not_or] at hunknown
  unfold Scope.begin? at hbegin
  split at hbegin
  next => contradiction
  next first below hframes =>
    obtain rfl := Option.some.inj hbegin
    constructor
    · exact List.forall_mem_cons.mpr ⟨.inl rfl, hsound.frames⟩
    · refine List.forall_mem_cons.mpr ⟨Nat.lt_succ_self _, fun iteration hmem => ?_⟩
      exact Nat.lt_succ_of_lt (hsound.fresh iteration hmem)
    · exact List.nodup_cons.mpr ⟨hunknown.1, hsound.distinct⟩
    · exact .cons (List.count_eq_zero.mpr hunknown.2) hsound.taken
    · exact hsound.bounded

/-- The latest iteration comes to its end, or there is none. -/
theorem next_done (hsound : walk.Sound data) {scope : Scope}
    (hnext : walk.scope.next? = some (.done, scope)) :
    Sound data { walk with scope := scope, active := walk.active.tail } := by
  have hfresh : ∀ iteration ∈ walk.active.tail ++ walk.continued,
      iteration < walk.begun := by
    intro iteration hmem
    apply hsound.fresh
    exact List.mem_append.mpr
      ((List.mem_append.mp hmem).imp_left List.mem_of_mem_tail)
  have htaken := hsound.taken
  rcases Scope.next?_cases hnext with
    ⟨hcursors, -, rfl⟩ | ⟨cursor, cursors, sequence, hcursors, -, hcase⟩
  · rw [hcursors, List.forall₂_nil_right_iff] at htaken
    refine ⟨hsound.frames, hfresh, hsound.distinct.tail, ?_, hsound.bounded⟩
    simp only [htaken, hcursors, List.tail_nil, List.Forall₂.nil]
  · rcases hcase with ⟨-, rfl⟩ | ⟨item, -, hstep, -⟩
    · rw [hcursors] at htaken
      obtain ⟨latest, earlier, -, hearlier, hactive⟩ :=
        List.forall₂_cons_right_iff.mp htaken
      refine ⟨fun frame hframe => hsound.frames frame (List.mem_of_mem_tail hframe),
        hfresh, hsound.distinct.tail, ?_, hsound.bounded⟩
      simp only [hactive, List.tail_cons]
      exact hearlier
    · contradiction

/-- The latest iteration goes on with one more item of the sequence that lies
in its place now, wherever the items before came from. -/
theorem next_continued (hsound : walk.Sound data) {scope : Scope}
    (hnext : walk.scope.next? = some (.continued, scope)) :
    Sound data { walk with
      scope := scope
      continued := walk.active.head?.toList ++ walk.continued } := by
  obtain ⟨hcursors, hstep, -⟩ |
    ⟨cursor, cursors, sequence, hcursors, hsequence, ⟨hstep, -⟩ |
      ⟨item, hitem, -, rfl⟩⟩ := Scope.next?_cases hnext
  · contradiction
  · contradiction
  · have htaken := hsound.taken
    rw [hcursors] at htaken
    obtain ⟨latest, earlier, hlatest, hearlier, hactive⟩ :=
      List.forall₂_cons_right_iff.mp htaken
    have hitems := List.mem_of_getElem? hitem
    have hpart : sequence ∈ data.parts := by
      rcases hsound.frames sequence hsequence with rfl | hpart
      · exact absurd hitems List.not_mem_nil
      · exact hpart
    have hlength : cursor.taken < sequence.items.length :=
      (List.getElem?_eq_some_iff.mp hitem).1
    have hlongest := Value.length_items_le_longestSequence hpart
    have hfresh := hsound.fresh
    have hdistinct := hsound.distinct
    rw [hactive] at hfresh hdistinct
    have hbehind : latest ∉ earlier := (List.nodup_cons.mp hdistinct).1
    simp only [hactive, List.head?_cons, Option.toList_some, List.singleton_append]
    constructor
    · refine List.forall_mem_cons.mpr
        ⟨.inr (Value.mem_parts_of_mem_items hitems hpart), fun frame hframe => ?_⟩
      exact hsound.frames frame (List.mem_of_mem_tail hframe)
    · intro iteration hmem
      apply hfresh
      simp only [List.mem_append, List.mem_cons] at hmem ⊢
      tauto
    · exact hdistinct
    · refine .cons (by simp [hlatest]) ?_
      have hsame : ∀ iteration ∈ earlier,
          (latest :: walk.continued).count iteration =
            walk.continued.count iteration := by
        intro iteration hmem
        exact List.count_cons_of_ne (ne_of_mem_of_not_mem hmem hbehind).symm
      exact ((List.forall₂_and_left _ _).mpr ⟨hsame, hearlier⟩).imp
        fun iteration cursor hboth => hboth.1.trans hboth.2
    · intro iteration
      by_cases hiteration : iteration = latest
      · rw [hiteration, List.count_cons_self, hlatest]
        omega
      · rw [List.count_cons_of_ne (Ne.symm hiteration)]
        exact hsound.bounded iteration

theorem step? (hsound : walk.Sound data) {move : Scope.Move} {next : Walk}
    (hstep : walk.step? move = some next) : next.Sound data := by
  cases move with
  | push name =>
      obtain rfl := Option.some.inj hstep
      exact hsound.push name
  | pop =>
      obtain rfl := Option.some.inj hstep
      exact hsound.pop
  | begin =>
      obtain ⟨scope, hbegin, rfl⟩ := Option.map_eq_some_iff.mp hstep
      exact hsound.begin hbegin
  | next =>
      obtain ⟨⟨_ | _, scope⟩, hnext, rfl⟩ := Option.map_eq_some_iff.mp hstep
      · exact hsound.next_continued hnext
      · exact hsound.next_done hnext
  | lookup name =>
      obtain rfl := Option.some.inj hstep
      exact hsound

theorem run (hsound : walk.Sound data) (moves : List Scope.Move) :
    (walk.run moves).Sound data := by
  induction moves generalizing walk with
  | nil => exact hsound
  | cons move rest ih =>
      unfold Walk.run
      split
      next => exact hsound
      next next hstep => exact ih (hsound.step? hstep)

theorem lookup (hsound : walk.Sound data) {name : String} {value : Value}
    (hfound : Scope.lookup? name walk.scope.frames = some value) :
    value ≠ .null ∧ ∃ entries, .mapping entries ∈ data.parts ∧
      Entries.get? name entries = some value := by
  have hframes := hsound.frames
  revert hfound hframes
  induction walk.scope.frames with
  | nil => exact fun hfound => nomatch hfound
  | cons frame below ih =>
      intro hfound hframes
      obtain ⟨hframe, hbelow⟩ := List.forall_mem_cons.mp hframes
      unfold Scope.lookup? at hfound
      split at hfound
      next => exact ih hfound hbelow
      next => exact ih hfound hbelow
      next held hnull hheld =>
        obtain rfl := Option.some.inj hfound
        rcases hframe with rfl | hpart
        · contradiction
        · exact ⟨hnull, (Value.exists_mapping_of_get? hheld hpart).2⟩

end Sound

/-! ## Walks that begin no iteration -/

/-- Only iterations in progress are continued, and none is added to them. -/
theorem step?_of_ne_begin {walk next : Walk} {move : Scope.Move}
    (hmove : move ≠ .begin) (hstep : walk.step? move = some next) :
    next.active ⊆ walk.active ∧
      ∃ new, next.continued = new ++ walk.continued ∧ new ⊆ walk.active := by
  cases move with
  | begin => contradiction
  | next =>
      obtain ⟨⟨_ | _, scope⟩, -, rfl⟩ := Option.map_eq_some_iff.mp hstep
      · refine ⟨List.Subset.refl _, _, rfl, fun iteration hmem => ?_⟩
        exact List.mem_of_mem_head? (Option.mem_toList.mp hmem)
      · exact ⟨List.tail_subset _, [], rfl, List.nil_subset _⟩
  | _ =>
      obtain rfl := Option.some.inj hstep
      exact ⟨List.Subset.refl _, [], rfl, List.nil_subset _⟩

theorem run_of_not_mem_begin {moves : List Scope.Move} (hmoves : .begin ∉ moves)
    (walk : Walk) :
    ∃ new, (walk.run moves).continued = new ++ walk.continued ∧
      new ⊆ walk.active := by
  induction moves generalizing walk with
  | nil => exact ⟨[], rfl, List.nil_subset _⟩
  | cons move rest ih =>
      rw [List.mem_cons, not_or] at hmoves
      obtain ⟨hmove, hrest⟩ := hmoves
      unfold run
      split
      next => exact ⟨[], rfl, List.nil_subset _⟩
      next next hstep =>
        obtain ⟨hactive, new, hnew, hold⟩ := step?_of_ne_begin (Ne.symm hmove) hstep
        obtain ⟨newer, hnewer, hlater⟩ := ih hrest next
        refine ⟨newer ++ new, ?_, List.append_subset.mpr ⟨?_, hold⟩⟩
        · rw [hnewer, hnew, List.append_assoc]
        · exact List.Subset.trans hlater hactive

theorem length_le_of_count_le {new active : List ℕ} {bound : ℕ}
    (hactive : new ⊆ active) (hbound : ∀ iteration, new.count iteration ≤ bound) :
    new.length ≤ active.length * bound := by
  calc new.length
      = ∑ iteration ∈ new.toFinset, new.count iteration :=
        (List.sum_toFinset_count_eq_length new).symm
    _ ≤ new.toFinset.card * bound :=
        Finset.sum_le_card_nsmul _ _ _ fun iteration _ => hbound iteration
    _ ≤ active.length * bound := by
        refine Nat.mul_le_mul_right bound ?_
        have hsubset : new.toFinset ⊆ active.toFinset := fun iteration hmem =>
          List.mem_toFinset.mpr (hactive (List.mem_toFinset.mp hmem))
        exact (Finset.card_le_card hsubset).trans active.toFinset_card_le

/-- However a scope is called, its frames are null or parts of the data, a name
that is found stands in a mapping of the data, and no iteration goes on more
often than the longest sequence has items.  Calls that begin no iteration
therefore come to an end of those in progress. -/
theorem run_bounded (data : Value) (moves : List Scope.Move) :
    let walk := (ofData data).run moves
    (∀ frame ∈ walk.scope.frames, frame = .null ∨ frame ∈ data.parts) ∧
    (∀ name value, Scope.lookup? name walk.scope.frames = some value →
      value ≠ .null ∧ ∃ entries, .mapping entries ∈ data.parts ∧
        Entries.get? name entries = some value) ∧
    walk.active.length = walk.scope.cursors.length ∧
    (∀ iteration, walk.continued.count iteration ≤ data.longestSequence) ∧
    ∀ more, .begin ∉ more →
      (walk.run more).continued.length ≤
        walk.continued.length + walk.active.length * data.longestSequence := by
  intro walk
  have hsound : walk.Sound data := (ofData_sound data).run moves
  refine ⟨hsound.frames, fun name value hfound => hsound.lookup hfound,
    hsound.taken.length_eq, hsound.bounded, fun more hmore => ?_⟩
  obtain ⟨new, hnew, hactive⟩ := run_of_not_mem_begin hmore walk
  have hcount : ∀ iteration, new.count iteration ≤ data.longestSequence := by
    intro iteration
    have hbounded := (hsound.run more).bounded iteration
    rw [hnew, List.count_append] at hbounded
    omega
  have hlength := length_le_of_count_le hactive hcount
  rw [hnew, List.length_append]
  omega

/-- A sequence of one item goes on twice: without the frame of the iteration, its
first item takes the place of the sequence. -/
theorem run_bounded_of_misplaced_pop :
    let rows := Value.sequence [.sequence [.boolean true, .boolean false]]
    let data := Value.mapping [("rows", rows)]
    let walk := (ofData data).run [.push (some "rows"), .begin, .pop]
    let reached := walk.run [.next, .next, .next]
    Scope.lookup? "rows" walk.scope.frames = some rows ∧
      (∃ entries, .mapping entries ∈ data.parts ∧
        Entries.get? "rows" entries = some rows) ∧
      reached.continued = [0, 0] ∧
      reached.continued.length ≤
        walk.continued.length + walk.active.length * data.longestSequence := by
  intro rows data walk reached
  have hfound : Scope.lookup? "rows" walk.scope.frames = some rows := rfl
  obtain ⟨-, hlookup, -, -, hends⟩ :=
    run_bounded data [.push (some "rows"), .begin, .pop]
  exact ⟨hfound, (hlookup "rows" rows hfound).2, rfl,
    hends [.next, .next, .next] (by decide)⟩

end Walk

end Stencil
