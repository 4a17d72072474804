import Stencil.Proofs.EnvironmentSimulation
import Stencil.Proofs.ProgramStatements
import Mathlib.Tactic

/-!
# Programs unrolled over data

Which clauses a program shows, how often and inside of which values, is settled
by the data alone, before anything is delivered.  A program over data therefore
comes down to a plain list of visits to its literals and substitutions, each
substitution with the value that it finds, if it finds one.

The rendering takes the visits in order, one chunk for each, up to the first
substitution that finds nothing.
-/

namespace Stencil

inductive Visit where
  | literal (text : String)
  | substituted (substitution : Substitution) (found : Option Value)

namespace Visit

def statement : Visit → Statement
  | .literal text => .literal text
  | .substituted substitution _ => .substitute substitution

/-- The value that is handed to the substitution visited. -/
def handed : Visit → Option Value
  | .literal _ => none
  | .substituted _ found => found

def chunk? : Visit → Option String
  | .literal text => some text
  | .substituted substitution found =>
      found.map (formatWith substitution.formatters)

def rendering : Visit → Rendering
  | .literal text => .chunk text
  | .substituted substitution (some value) =>
      .chunk (formatWith substitution.formatters value)
  | .substituted substitution none => .undefined substitution.name

end Visit

def Rendering.ofVisits (visits : List Visit) : Rendering :=
  visits.foldr (fun visit rest => visit.rendering.followedBy rest) .nothing

/-- The visits that deliver a chunk: those in front of the first one that finds
nothing. -/
def delivering (visits : List Visit) : List Visit :=
  visits.takeWhile fun visit => visit.chunk?.isSome

/-- The value that a substitution is about. -/
def Substitution.found? (substitution : Substitution)
    (environment : List Value) : Option Value :=
  if substitution.name = cursorName then some (environment.headD .null)
  else enclosing? substitution.name environment

def conditionalVisits (name : Option String)
    (main otherwise : List Value → List Visit) (environment : List Value) :
    List Visit :=
  match name with
  | none => otherwise environment
  | some name =>
      let value := innerField name environment
      if value.holds then main (value :: environment) else otherwise environment

def separatedVisits (body between : Value → List Visit) :
    List Value → List Visit
  | [] => []
  | [item] => body item
  | item :: next :: rest =>
      body item ++ (between item ++ separatedVisits body between (next :: rest))

def itemsVisits (main alternate otherwise : List Value → List Visit)
    (environment : List Value) : List Visit :=
  match (environment.headD .null).items with
  | [] => otherwise environment
  | item :: rest =>
      separatedVisits (fun item => main (item :: environment))
        (fun item => alternate (item :: environment)) (item :: rest)

def repeatedVisits (name : Option String)
    (main alternate otherwise : List Value → List Visit)
    (environment : List Value) : List Visit :=
  match name with
  | none => otherwise environment
  | some name =>
      itemsVisits main alternate otherwise
        (if name = cursorName then environment
        else innerField name environment :: environment)

mutual

def Statement.visits : Statement → List Value → List Visit
  | .literal text => fun _ => [.literal text]
  | .substitute substitution => fun environment =>
      [.substituted substitution (substitution.found? environment)]
  | .conditional ⟨name, main, _, otherwise⟩ =>
      conditionalVisits name (visitsAll main) (visitsAll otherwise)
  | .repeated ⟨name, main, alternate, otherwise⟩ =>
      repeatedVisits name (visitsAll main) (visitsAll alternate)
        (visitsAll otherwise)

def visitsAll : List Statement → List Value → List Visit
  | [], _ => []
  | statement :: rest, environment =>
      statement.visits environment ++ visitsAll rest environment

end

def Block.visits (program : Program) (data : Value) : List Visit :=
  visitsAll program.main [data]

/-! ## Visits and the rendering -/

theorem delivering_cons {visit : Visit} (hchunk : visit.chunk?.isSome = true)
    (rest : List Visit) :
    delivering (visit :: rest) = visit :: delivering rest := by
  unfold delivering
  rw [List.takeWhile_cons, if_pos hchunk]

namespace Rendering

theorem ofVisits_cons (visit : Visit) (rest : List Visit) :
    ofVisits (visit :: rest) = visit.rendering.followedBy (ofVisits rest) := rfl

theorem ofVisits_append (first second : List Visit) :
    ofVisits (first ++ second) = (ofVisits first).followedBy (ofVisits second) := by
  induction first with
  | nil => rfl
  | cons visit rest ih =>
      rw [List.cons_append, ofVisits_cons, ofVisits_cons, ih, followedBy_assoc]

theorem ofVisits_singleton (visit : Visit) : ofVisits [visit] = visit.rendering :=
  followedBy_nothing visit.rendering

theorem ofVisits_separatedVisits (body between : Value → List Visit)
    (items : List Value) :
    ofVisits (separatedVisits body between items) =
      separated (fun item => ofVisits (body item))
        (fun item => ofVisits (between item)) items := by
  induction items with
  | nil => rfl
  | cons item rest ih =>
      cases rest with
      | nil => rfl
      | cons next rest =>
          rw [separatedVisits, ofVisits_append, ofVisits_append, ih, separated]

end Rendering

theorem Substitution.rendering_eq_found? (substitution : Substitution)
    (environment : List Value) :
    substitution.rendering environment =
      Visit.rendering
        (.substituted substitution (substitution.found? environment)) := by
  unfold Substitution.rendering Substitution.found?
  by_cases hcursor : substitution.name = cursorName
  · simp only [hcursor, if_true, Visit.rendering, formatWith_eq_chainText]
  · simp only [hcursor, if_false]
    cases enclosing? substitution.name environment with
    | none => rfl
    | some value => simp only [Visit.rendering, formatWith_eq_chainText]

theorem ofVisits_conditionalVisits (name : Option String)
    (main otherwise : List Value → List Visit) (environment : List Value) :
    Rendering.ofVisits (conditionalVisits name main otherwise environment) =
      conditionalRendering name (fun values => .ofVisits (main values))
        (fun values => .ofVisits (otherwise values)) environment := by
  unfold conditionalVisits conditionalRendering
  cases name with
  | none => rfl
  | some name => exact apply_ite Rendering.ofVisits _ _ _

theorem ofVisits_repeatedVisits (name : Option String)
    (main alternate otherwise : List Value → List Visit)
    (environment : List Value) :
    Rendering.ofVisits
        (repeatedVisits name main alternate otherwise environment) =
      repeatedRendering name (fun values => .ofVisits (main values))
        (fun values => .ofVisits (alternate values))
        (fun values => .ofVisits (otherwise values)) environment := by
  have hitems : ∀ values,
      Rendering.ofVisits (itemsVisits main alternate otherwise values) =
        itemsRendering (fun values => .ofVisits (main values))
          (fun values => .ofVisits (alternate values))
          (fun values => .ofVisits (otherwise values)) values := by
    intro values
    cases hitems : (values.headD .null).items with
    | nil => simp only [itemsVisits, itemsRendering, hitems]
    | cons item rest =>
        simp only [itemsVisits, itemsRendering, hitems]
        exact Rendering.ofVisits_separatedVisits _ _ _
  cases name with
  | none => rfl
  | some name => exact hitems _

mutual

theorem Statement.ofVisits_visits (statement : Statement)
    (environment : List Value) :
    Rendering.ofVisits (statement.visits environment) =
      statement.rendering environment := by
  match statement with
  | .literal text => exact Rendering.ofVisits_singleton (.literal text)
  | .substitute substitution =>
      rw [Statement.visits, Rendering.ofVisits_singleton, Statement.rendering,
        substitution.rendering_eq_found?]
  | .conditional ⟨name, main, alternate, otherwise⟩ =>
      simp only [Statement.visits, Statement.rendering,
        ofVisits_conditionalVisits, ofVisits_visitsAll]
  | .repeated ⟨name, main, alternate, otherwise⟩ =>
      simp only [Statement.visits, Statement.rendering, ofVisits_repeatedVisits,
        ofVisits_visitsAll]

theorem ofVisits_visitsAll (statements : List Statement)
    (environment : List Value) :
    Rendering.ofVisits (visitsAll statements environment) =
      renderingAll statements environment := by
  match statements with
  | [] => rfl
  | statement :: rest =>
      rw [visitsAll, Rendering.ofVisits_append, statement.ofVisits_visits,
        ofVisits_visitsAll rest, renderingAll]

end

theorem Rendering.map_some_chunks_ofVisits (visits : List Visit) :
    (ofVisits visits).chunks.map some = (delivering visits).map Visit.chunk? := by
  induction visits with
  | nil => rfl
  | cons visit rest ih =>
      rw [ofVisits_cons]
      rcases visit with text | ⟨substitution, _ | value⟩
      · rw [delivering_cons rfl, List.map_cons, ← ih]
        rfl
      · rfl
      · rw [delivering_cons rfl, List.map_cons, ← ih]
        rfl

/-- The chunks of a rendering are those of the visits that deliver one. -/
theorem Block.map_some_chunks_rendering (program : Program) (data : Value) :
    (program.rendering data).chunks.map some =
      (delivering (program.visits data)).map Visit.chunk? := by
  rw [Block.rendering, Block.visits, ← ofVisits_visitsAll]
  exact Rendering.map_some_chunks_ofVisits _

/-! ## Visited statements -/

theorem mem_separatedVisits {visit : Visit} {body between : Value → List Visit}
    {items : List Value} (hvisit : visit ∈ separatedVisits body between items) :
    ∃ item, visit ∈ body item ∨ visit ∈ between item := by
  induction items with
  | nil => simp [separatedVisits] at hvisit
  | cons item rest ih =>
      cases rest with
      | nil => exact ⟨item, .inl hvisit⟩
      | cons next rest =>
          simp only [separatedVisits, List.mem_append] at hvisit
          rcases hvisit with hbody | hbetween | hrest
          · exact ⟨item, .inl hbody⟩
          · exact ⟨item, .inr hbetween⟩
          · exact ih hrest

theorem mem_conditionalVisits {visit : Visit} {name : Option String}
    {main otherwise : List Value → List Visit} {environment : List Value}
    (hvisit : visit ∈ conditionalVisits name main otherwise environment) :
    ∃ values, visit ∈ main values ∨ visit ∈ otherwise values := by
  cases name with
  | none => exact ⟨_, .inr hvisit⟩
  | some name =>
      simp only [conditionalVisits] at hvisit
      split at hvisit
      next => exact ⟨_, .inl hvisit⟩
      next => exact ⟨_, .inr hvisit⟩

theorem mem_repeatedVisits {visit : Visit} {name : Option String}
    {main alternate otherwise : List Value → List Visit}
    {environment : List Value}
    (hvisit : visit ∈ repeatedVisits name main alternate otherwise environment) :
    ∃ values, visit ∈ main values ∨ visit ∈ alternate values ∨
      visit ∈ otherwise values := by
  unfold repeatedVisits at hvisit
  split at hvisit
  next => exact ⟨_, .inr (.inr hvisit)⟩
  next =>
    unfold itemsVisits at hvisit
    split at hvisit
    next => exact ⟨_, .inr (.inr hvisit)⟩
    next =>
      obtain ⟨item, hbody | hbetween⟩ := mem_separatedVisits hvisit
      · exact ⟨_, .inl hbody⟩
      · exact ⟨_, .inr (.inl hbetween)⟩

mutual

theorem Statement.statement_mem_within {statement : Statement} {visit : Visit}
    {environment : List Value} (hvisit : visit ∈ statement.visits environment) :
    visit.statement ∈ statement.within := by
  match statement with
  | .literal text =>
      obtain rfl := List.mem_singleton.mp hvisit
      exact List.mem_singleton_self _
  | .substitute substitution =>
      obtain rfl := List.mem_singleton.mp hvisit
      exact List.mem_singleton_self _
  | .conditional ⟨name, main, alternate, otherwise⟩ =>
      obtain ⟨values, hmain | hotherwise⟩ := mem_conditionalVisits hvisit
      · simp [Statement.within, statement_mem_withinAll hmain]
      · simp [Statement.within, statement_mem_withinAll hotherwise]
  | .repeated ⟨name, main, alternate, otherwise⟩ =>
      obtain ⟨values, hmain | halternate | hotherwise⟩ := mem_repeatedVisits hvisit
      · simp [Statement.within, statement_mem_withinAll hmain]
      · simp [Statement.within, statement_mem_withinAll halternate]
      · simp [Statement.within, statement_mem_withinAll hotherwise]

theorem statement_mem_withinAll {statements : List Statement} {visit : Visit}
    {environment : List Value} (hvisit : visit ∈ visitsAll statements environment) :
    visit.statement ∈ withinAll statements := by
  match statements with
  | [] => simp [visitsAll] at hvisit
  | statement :: rest =>
      rw [visitsAll, List.mem_append] at hvisit
      rw [withinAll, List.mem_append]
      rcases hvisit with hfirst | hrest
      · exact .inl (statement.statement_mem_within hfirst)
      · exact .inr (statement_mem_withinAll hrest)

end

theorem Block.statement_mem_statements {program : Program} {data : Value}
    {visit : Visit} (hvisit : visit ∈ program.visits data) :
    visit.statement ∈ program.statements := by
  simp [Block.statements, statement_mem_withinAll hvisit]

end Stencil
