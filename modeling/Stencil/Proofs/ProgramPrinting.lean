import Stencil.Proofs.BlockReading
import Stencil.Proofs.DirectiveSpelling
import Mathlib.Tactic

/-!
# Programs written out as templates

A program can be written out as a template under any marker that leaves the
characters of keywords alone.  Literals are written as they are, substitutions
with all of their formatters, and sections between the directive that opens
them and the one that ends them, with a directive in front of each clause but
the main one.  Compiling the template gives the program back.
-/

namespace Stencil

/-! ## Writing out -/

def Keyword.piece (keyword : Keyword) : Piece :=
  .directive keyword.body

/-- The directive in front of a clause; an empty clause has none. -/
def Keyword.announce (keyword : Keyword) (clause : List Statement) : List Piece :=
  if clause = [] then [] else [keyword.piece]

mutual

def Statement.printed (separator : Char) : Statement → List Piece
  | .literal text => [.literal text.toList]
  | .substitute substitution => [.directive (substitution.body separator)]
  | .conditional block => block.printed separator false
  | .repeated block => block.printed separator true

def Block.printed (separator : Char) (repeats : Bool) :
    Block Statement → List Piece
  | ⟨name, main, alternate, otherwise⟩ =>
      (Keyword.opening repeats name).piece ::
        (printedAll separator main ++
          (Keyword.alternate.announce alternate ++
            (printedAll separator alternate ++
              (Keyword.otherwise.announce otherwise ++
                (printedAll separator otherwise ++ [Keyword.closing.piece])))))

def printedAll (separator : Char) : List Statement → List Piece
  | [] => []
  | statement :: rest => statement.printed separator ++ printedAll separator rest

end

def Block.print (options : Options) (delimiters : Delimiters)
    (program : Program) : String :=
  String.ofList
    (Piece.source delimiters (printedAll options.separator program.main))

/-! ## Programs that can be written out -/

structure Options.IsLiteral (options : Options) (text : String) : Prop where
  ne_empty : text ≠ ""
  no_lineFeed : text.toList.head? ≠ some '\n'
  avoid : options.Avoid text

def Statement.isLiteral : Statement → Bool
  | .literal _ => true
  | _ => false

mutual

def Statement.Printable (options : Options) : Statement → Prop
  | .literal text => options.IsLiteral text
  | .substitute substitution => substitution.Printable options
  | .conditional block => block.Printable options
  | .repeated block => block.Printable options

def Block.Printable (options : Options) : Block Statement → Prop
  | ⟨name, main, alternate, otherwise⟩ =>
      (∀ own ∈ name, IsWord own.toList ∧ options.Avoid own) ∧
        AllPrintable options main ∧ AllPrintable options alternate ∧
          AllPrintable options otherwise

/-- The statements of a clause can be written out; no two literals are
neighbours. -/
def AllPrintable (options : Options) : List Statement → Prop
  | [] => True
  | statement :: rest =>
      statement.Printable options ∧ AllPrintable options rest ∧
        (statement.isLiteral = true →
          ∀ next ∈ rest.head?, next.isLiteral = false)

end

structure Block.PrintableRoot (options : Options) (program : Program) : Prop where
  name_eq : program.name = none
  main_printable : AllPrintable options program.main
  alternate_eq : program.alternate = []
  otherwise_eq : program.otherwise = []

/-! ## Printed programs are readable -/

section

variable {options : Options} {delimiters : Delimiters}

/-- The pieces are readable, and also if literal text stands in front of
them. -/
structure Piece.ReadableBehindText (delimiters : Delimiters)
    (pieces : List Piece) : Prop where
  readable : Piece.Readable delimiters pieces
  apart : ∀ next ∈ pieces.head?, next.isLiteral = false

theorem Statement.exists_printed (separator : Char) (statement : Statement) :
    ∃ first more, statement.printed separator = first :: more ∧
      first.isLiteral = statement.isLiteral := by
  cases statement with
  | literal text => exact ⟨_, _, rfl, rfl⟩
  | substitute substitution => exact ⟨_, _, rfl, rfl⟩
  | conditional block =>
      rcases block with ⟨name, main, alternate, otherwise⟩
      exact ⟨_, _, rfl, rfl⟩
  | repeated block =>
      rcases block with ⟨name, main, alternate, otherwise⟩
      exact ⟨_, _, rfl, rfl⟩

section

variable (haccepted : options.delimiters = .ok delimiters)
    (hmarker : options.MarkerIsPlain)
include haccepted hmarker

theorem Keyword.Printable.readable {keyword : Keyword}
    (hprintable : keyword.Printable options) {rest : List Piece}
    (hrest : Piece.Readable delimiters rest) :
    Piece.ReadableBehindText delimiters (keyword.piece :: rest) := by
  have hbody := hprintable.isBody haccepted hmarker
  refine ⟨.directive hbody hrest, ?_⟩
  intro next hnext
  obtain rfl := Option.some.inj hnext
  rfl

theorem Keyword.Printable.readable_announce {keyword : Keyword}
    (hprintable : keyword.Printable options) {clause : List Statement}
    {rest : List Piece} (hrest : Piece.ReadableBehindText delimiters rest)
    (hclause : Piece.Readable delimiters
      (printedAll options.separator clause ++ rest)) :
    Piece.ReadableBehindText delimiters
      (keyword.announce clause ++
        (printedAll options.separator clause ++ rest)) := by
  unfold announce
  by_cases hempty : clause = []
  · simpa [hempty, printedAll] using hrest
  · rw [if_neg hempty]
    exact hprintable.readable haccepted hmarker hclause

end

mutual

theorem Statement.readable_printed (statement : Statement)
    (haccepted : options.delimiters = .ok delimiters)
    (hmarker : options.MarkerIsPlain)
    (hprintable : statement.Printable options) {rest : List Piece}
    (hrest : Piece.Readable delimiters rest)
    (hapart : statement.isLiteral = true →
      ∀ next ∈ rest.head?, next.isLiteral = false) :
    Piece.Readable delimiters (statement.printed options.separator ++ rest) := by
  cases statement with
  | literal text =>
      have hown : options.IsLiteral text := hprintable
      have hne : text.toList ≠ [] := by
        simpa using hown.ne_empty
      exact .literal ⟨hne, hown.no_lineFeed, hown.avoid.halves haccepted⟩
        (hapart rfl) hrest
  | substitute substitution =>
      have hown : substitution.Printable options := hprintable
      exact .directive (hown.isBody haccepted hmarker) hrest
  | conditional block =>
      exact block.readable_printed haccepted hmarker hprintable false hrest
  | repeated block =>
      exact block.readable_printed haccepted hmarker hprintable true hrest

theorem Block.readable_printed (block : Block Statement)
    (haccepted : options.delimiters = .ok delimiters)
    (hmarker : options.MarkerIsPlain)
    (hprintable : block.Printable options) (repeats : Bool) {rest : List Piece}
    (hrest : Piece.Readable delimiters rest) :
    Piece.Readable delimiters
      (block.printed options.separator repeats ++ rest) := by
  rcases block with ⟨name, main, alternate, otherwise⟩
  obtain ⟨hname, hmain, halternate, hotherwise⟩ := hprintable
  have hopening : (Keyword.opening repeats name).Printable options := hname
  have hswitch : Keyword.alternate.Printable options := trivial
  have hother : Keyword.otherwise.Printable options := trivial
  have hend : Keyword.closing.Printable options := trivial
  -- From the end backwards: a clause is readable in front of what follows it.
  have hclosing := hend.readable haccepted hmarker hrest
  have hlast := readable_printedAll otherwise haccepted hmarker hotherwise hclosing
  have hbehindAlternate :=
    hother.readable_announce haccepted hmarker hclosing hlast
  have hbetween := readable_printedAll alternate haccepted hmarker halternate
    hbehindAlternate
  have hbehindMain :=
    hswitch.readable_announce haccepted hmarker hbehindAlternate hbetween
  have hinside := readable_printedAll main haccepted hmarker hmain hbehindMain
  have hall := hopening.readable haccepted hmarker hinside
  simpa [Block.printed] using hall.readable

theorem readable_printedAll (statements : List Statement)
    (haccepted : options.delimiters = .ok delimiters)
    (hmarker : options.MarkerIsPlain)
    (hprintable : AllPrintable options statements) {rest : List Piece}
    (hrest : Piece.ReadableBehindText delimiters rest) :
    Piece.Readable delimiters
      (printedAll options.separator statements ++ rest) := by
  cases statements with
  | nil => exact hrest.readable
  | cons statement more =>
      obtain ⟨hstatement, hmore, hnext⟩ := hprintable
      have hbehind := readable_printedAll more haccepted hmarker hmore hrest
      rw [printedAll, List.append_assoc]
      apply statement.readable_printed haccepted hmarker hstatement hbehind
      intro hliteral
      cases more with
      | nil => exact hrest.apart
      | cons next others =>
          obtain ⟨first, own, hprinted, hfirst⟩ :=
            next.exists_printed options.separator
          have hother := hnext hliteral next rfl
          simp [printedAll, hprinted, hfirst, hother]

end

/-! ## Printed programs compile to themselves -/

/-- The switch in front of a clause; an empty clause has none. -/
def Item.announce (switch : Item) (clause : List Statement) : List Item :=
  if clause = [] then [] else [switch]

/-- Taking in the pieces does to the innermost block what the items do. -/
def Piece.Give (options : Options) (delimiters : Delimiters)
    (pieces : List Piece) (items : List Item) : Prop :=
  ∀ (position : ℕ) (assembly : Assembly),
    assembly.pieces options delimiters position pieces =
      .ok (assembly.modify (Draft.takeAll items))

namespace Piece

theorem Give.nil : Give options delimiters [] [] := by
  intro position assembly
  rfl

theorem Give.append {front back : List Piece} {first second : List Item}
    (hfront : Give options delimiters front first)
    (hback : Give options delimiters back second) :
    Give options delimiters (front ++ back) (first ++ second) := by
  intro position assembly
  rw [Assembly.pieces_append (hfront position assembly), hback,
    Assembly.modify_takeAll_append]

theorem Give.literal (text : List Char) :
    Give options delimiters [.literal text] [.literal text] := by
  intro position assembly
  rfl

theorem Give.substitution
    (hseparator : options.separator = '|' ∨ options.separator = ':')
    {substitution : Substitution}
    (hprintable : substitution.Printable options) :
    Give options delimiters [.directive (substitution.body options.separator)]
      [.add (.substitute substitution)] := by
  intro position assembly
  simp only [Assembly.pieces, Assembly.piece, hprintable.ofBody hseparator,
    Assembly.directive, hprintable.read]
  rfl

end Piece

/-- A keyword's piece is carried out as the keyword. -/
theorem Assembly.piece_keyword {keyword : Keyword}
    (hprintable : keyword.Printable options) (position : ℕ)
    (assembly : Assembly) :
    assembly.piece options delimiters position keyword.piece =
      assembly.keyword delimiters
        ⟨position, position + byteCount (keyword.piece.text delimiters)⟩
        keyword := by
  simp only [Keyword.piece, Assembly.piece, hprintable.ofBody,
    Assembly.directive]

/-- The pieces of a block add it, as one statement, to the block around it. -/
theorem Piece.Give.block {repeats : Bool} {name : Option String}
    (hopening : (Keyword.opening repeats name).Printable options)
    {inside : List Piece} {items : List Item}
    (hinside : Give options delimiters inside items) :
    Give options delimiters
      ((Keyword.opening repeats name).piece :: (inside ++ [Keyword.closing.piece]))
      [.add (.ofItems repeats name items)] := by
  intro position assembly
  have hclosing : Keyword.closing.Printable options := trivial
  rw [Assembly.pieces, Assembly.piece_keyword hopening]
  simp only [Assembly.keyword]
  rw [Assembly.pieces_append (hinside _ _), Assembly.pieces,
    Assembly.piece_keyword hclosing]
  simp only [Assembly.keyword, Assembly.pop?_push_takeAll]
  rfl

theorem Keyword.give_announce {keyword : Keyword} {switch : Item}
    (hkeyword : Piece.Give options delimiters [keyword.piece] [switch])
    (clause : List Statement) :
    Piece.Give options delimiters (keyword.announce clause)
      (switch.announce clause) := by
  unfold Keyword.announce Item.announce
  by_cases hclause : clause = []
  · rw [if_pos hclause, if_pos hclause]
    exact .nil
  · rw [if_neg hclause, if_neg hclause]
    exact hkeyword

theorem Keyword.give_alternate :
    Piece.Give options delimiters [Keyword.alternate.piece] [.alternate] := by
  intro position assembly
  have hprintable : Keyword.alternate.Printable options := trivial
  rw [Assembly.pieces, Assembly.piece_keyword hprintable]
  rfl

theorem Keyword.give_otherwise :
    Piece.Give options delimiters [Keyword.otherwise.piece] [.otherwise] := by
  intro position assembly
  have hprintable : Keyword.otherwise.Printable options := trivial
  rw [Assembly.pieces, Assembly.piece_keyword hprintable]
  rfl

def Block.items (block : Block Statement) : List Item :=
  block.main.map Item.add ++
    (Item.alternate.announce block.alternate ++
      (block.alternate.map Item.add ++
        (Item.otherwise.announce block.otherwise ++
          block.otherwise.map Item.add)))

theorem Item.leading_map_add (statements : List Statement) (rest : List Item) :
    leading (statements.map add ++ rest) = statements ++ leading rest := by
  induction statements with
  | nil => rfl
  | cons statement more ih => simp [leading, ih]

theorem Item.sinceLast?_map_add (clause : Clause) (statements : List Statement)
    (rest : List Item) :
    sinceLast? clause (statements.map add ++ rest) = sinceLast? clause rest := by
  induction statements with
  | nil => rfl
  | cons statement more ih => simp [sinceLast?, switch?, ih]

/-- A block is made up again from its clauses and the switches in front of
them. -/
theorem Block.ofItems_items (block : Block Statement) :
    Block.ofItems block.name block.items = block := by
  rcases block with ⟨name, main, alternate, otherwise⟩
  have hleading : ∀ statements : List Statement,
      Item.leading (statements.map Item.add) = statements := by
    intro statements
    have hall := Item.leading_map_add statements []
    simpa [Item.leading] using hall
  have hsince : ∀ clause (statements : List Statement),
      Item.sinceLast? clause (statements.map Item.add) = none := by
    intro clause statements
    have hall := Item.sinceLast?_map_add clause statements []
    simpa [Item.sinceLast?] using hall
  by_cases halternate : alternate = [] <;> by_cases hotherwise : otherwise = [] <;>
    simp [Block.ofItems, Block.items, Item.announce, halternate, hotherwise,
      Item.leading_map_add, Item.sinceLast?_map_add, hleading, hsince,
      Item.leading, Item.sinceLast?, Item.switch?]

mutual

theorem Statement.give_printed (statement : Statement)
    (haccepted : options.delimiters = .ok delimiters)
    (hprintable : statement.Printable options) :
    Piece.Give options delimiters (statement.printed options.separator)
      [.add statement] := by
  cases statement with
  | literal text =>
      have hgive : Piece.Give options delimiters [.literal text.toList]
          [.literal text.toList] := .literal text.toList
      rwa [Item.literal, String.ofList_toList] at hgive
  | substitute substitution =>
      exact .substitution (Options.separator_of_accepted haccepted) hprintable
  | conditional block => exact block.give_printed haccepted hprintable false
  | repeated block => exact block.give_printed haccepted hprintable true

theorem Block.give_printed (block : Block Statement)
    (haccepted : options.delimiters = .ok delimiters)
    (hprintable : block.Printable options) (repeats : Bool) :
    Piece.Give options delimiters (block.printed options.separator repeats)
      [.add (if repeats then .repeated block else .conditional block)] := by
  rcases block with ⟨name, main, alternate, otherwise⟩
  obtain ⟨hname, hmain, halternate, hotherwise⟩ := hprintable
  have hopening : (Keyword.opening repeats name).Printable options := hname
  have hlast := give_printedAll otherwise haccepted hotherwise
  have hbetween := give_printedAll alternate haccepted halternate
  have hfirst := give_printedAll main haccepted hmain
  have hinside := hfirst.append
    ((Keyword.give_announce Keyword.give_alternate alternate).append
      (hbetween.append
        ((Keyword.give_announce Keyword.give_otherwise otherwise).append hlast)))
  let block : Block Statement := ⟨name, main, alternate, otherwise⟩
  have hprinted : block.printed options.separator repeats =
      (Keyword.opening repeats name).piece ::
        (printedAll options.separator main ++
          (Keyword.alternate.announce alternate ++
            (printedAll options.separator alternate ++
              (Keyword.otherwise.announce otherwise ++
                printedAll options.separator otherwise))) ++
          [Keyword.closing.piece]) := by
    simp [block, Block.printed]
  have hitems : Block.ofItems name block.items = block := block.ofItems_items
  have hstatement : Statement.ofItems repeats name block.items =
      if repeats then .repeated block else .conditional block := by
    rw [Statement.ofItems, hitems]
  rw [hprinted, ← hstatement]
  exact .block hopening hinside

theorem give_printedAll (statements : List Statement)
    (haccepted : options.delimiters = .ok delimiters)
    (hprintable : AllPrintable options statements) :
    Piece.Give options delimiters (printedAll options.separator statements)
      (statements.map Item.add) := by
  cases statements with
  | nil => exact .nil
  | cons statement more =>
      obtain ⟨hstatement, hmore, -⟩ := hprintable
      have hfirst := statement.give_printed haccepted hstatement
      have hrest := give_printedAll more haccepted hmore
      exact hfirst.append hrest

end

/-- Statements that are added one by one to nothing make up a program. -/
theorem Assembly.finish_adds (main : List Statement) :
    (start.modify (Draft.takeAll (main.map Item.add))).finish =
      .ok ⟨none, main, [], []⟩ := by
  have hitems : Block.ofItems none (main.map Item.add) = ⟨none, main, [], []⟩ := by
    have hall := Block.ofItems_items ⟨none, main, [], []⟩
    simpa [Block.items, Item.announce] using hall
  have hblock := Draft.block_takeAll none (main.map Item.add)
  rw [hitems] at hblock
  exact congrArg Except.ok hblock

theorem Block.PrintableRoot.finish {program : Program}
    (hprintable : program.PrintableRoot options) :
    (Assembly.start.modify (Draft.takeAll (program.main.map Item.add))).finish =
      .ok program := by
  rcases program with ⟨name, main, alternate, otherwise⟩
  obtain ⟨hname, -, halternate, hotherwise⟩ := hprintable
  simp only at hname halternate hotherwise
  subst hname halternate hotherwise
  exact Assembly.finish_adds main

/-- Printing a program and compiling the template gives the program back, for
programs of any depth and under any plain marker. -/
theorem compile_print (haccepted : options.delimiters = .ok delimiters)
    (hmarker : options.MarkerIsPlain) {program : Program}
    (hprintable : program.PrintableRoot options) :
    compile options (program.print options delimiters) = .ok program := by
  have hmain := hprintable.main_printable
  have hnil : Piece.ReadableBehindText delimiters [] := ⟨.nil, by simp⟩
  have hreadable := readable_printedAll program.main haccepted hmarker hmain hnil
  rw [List.append_nil] at hreadable
  have hpending : ∀ next ∈ (printedAll options.separator program.main).head?,
      next.isLiteral = true → ([] : List Char) = [] := by
    intro next hnext hliteral
    rfl
  have hcut := Assembly.segments_of_readable options
    (hmarker.visible haccepted) hreadable hpending 0 0 Assembly.start
  have hgive := give_printedAll program.main haccepted hmain 0 Assembly.start
  have hrun : Assembly.start.segments options delimiters
      (delimiters.split (program.print options delimiters).toList) =
        .ok (Assembly.start.modify
          (Draft.takeAll (program.main.map Item.add))) := by
    rw [Block.print, String.toList_ofList, Delimiters.split, hcut]
    exact hgive
  unfold compile
  rw [haccepted]
  simp only [hrun]
  exact hprintable.finish

end

theorem compile_print_nested_sections :
    let options : Options := ⟨[], none, '|', "<%%>"⟩
    let html : NamedFormatter := ⟨"html", fun value => htmlEscape value.text⟩
    let program : Program := ⟨none, [
      .literal "Dear ",
      .substitute ⟨"name", [html]⟩,
      .repeated ⟨some "end",
        [.conditional ⟨none, [.literal "#"], [], []⟩,
          .substitute ⟨"@", [html, html]⟩],
        [.literal ", "],
        [.literal "none\n"]⟩], [], []⟩
    compile options ("Dear <%name|html%><%.repeated section end%>" ++
      "<%.section%>#<%.end%><%@|html|html%><%.alternates with%>, " ++
      "<%.or%>none\n<%.end%>") = .ok program := by
  intro options html program
  have haccepted : options.delimiters = .ok ⟨['<', '%'], ['%', '>']⟩ := by cbv
  have hmarker : options.MarkerIsPlain := by decide
  have hfind :
      NamedFormatter.find? options.formatters html.name = some html := rfl
  have hprintable : program.PrintableRoot options := by
    have hname : Substitution.Printable options ⟨"name", [html]⟩ :=
      ⟨by decide, by simpa using hfind, by decide, by simp⟩
    have hcursor : Substitution.Printable options ⟨"@", [html, html]⟩ :=
      ⟨by simp, by simpa using hfind, by decide, by simp⟩
    have hgreeting : options.IsLiteral "Dear " :=
      ⟨by decide, by decide, by decide⟩
    have hsign : options.IsLiteral "#" := ⟨by decide, by decide, by decide⟩
    have hcomma : options.IsLiteral ", " := ⟨by decide, by decide, by decide⟩
    have hnone : options.IsLiteral "none\n" := ⟨by decide, by decide, by decide⟩
    have hend : IsWord "end".toList ∧ options.Avoid "end" := by decide
    refine ⟨rfl, ?_, rfl, rfl⟩
    simpa [program, AllPrintable, Statement.Printable, Block.Printable,
      Statement.isLiteral, hname, hcursor, hgreeting, hsign, hcomma, hnone]
      using hend
  have hcompile := compile_print haccepted hmarker hprintable
  have hprint : program.print options ⟨['<', '%'], ['%', '>']⟩ =
      "Dear <%name|html%><%.repeated section end%>" ++
      "<%.section%>#<%.end%><%@|html|html%><%.alternates with%>, " ++
      "<%.or%>none\n<%.end%>" := by
    cbv
  rw [← hprint]
  exact hcompile

end Stencil
