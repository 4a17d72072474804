import Stencil.CompileError
import Stencil.Decimal.Layout
import Stencil.Text.Blank
import Stencil.Text.Width

/-!
# Error reports

A compile error with a place in the template is shown under the line it is about: the name of the
file with line and column, the line itself with the place in red, and below it an arrow with the
text of the error.  The places of a span are taken as numbers of characters; a span with a place
beyond the text has no picture.

The picture keeps columns: what stands below a character is as wide as the character itself.
-/

namespace Stencil.Report

/-! ## Lines -/

def endsLine (c : Char) : Bool :=
  let code := c.toNat
  (0x0A ≤ code && code ≤ 0x0D) || code = 0x85 || code = 0x2028 || code = 0x2029

/-- The lines of a text, each with what ends it; a carriage return and a line feed end a line
together.  `seen` are the characters of the first line so far, last one first. -/
def linesFrom (seen : List Char) : List Char → List (List Char)
  | [] => if seen.isEmpty then [] else [seen.reverse]
  | '\r' :: '\n' :: rest => ('\n' :: '\r' :: seen).reverse :: linesFrom [] rest
  | c :: rest =>
    if endsLine c then (c :: seen).reverse :: linesFrom [] rest else linesFrom (c :: seen) rest

def lines (source : List Char) : List (List Char) :=
  match linesFrom [] source with
  | [] => [[]]
  | found => found

structure Place where
  /-- The number of the line, from one. -/
  line : Nat
  /-- The number of characters before the place in its line. -/
  before : Nat
  text : List Char
deriving DecidableEq, Repr

/-- The place before character `index` of the given lines, the first of which has number `line`.
The last line reaches up to the place behind all characters. -/
def placeIn? (line index : Nat) : List (List Char) → Option Place
  | [] => none
  | [text] => if index ≤ text.length then some ⟨line, index, text⟩ else none
  | text :: rest =>
    if index < text.length then some ⟨line, index, text⟩
    else placeIn? (line + 1) (index - text.length) rest

/-- The place before character `index` of a text, or behind its last character; none farther
on. -/
def place? (source : List Char) (index : Nat) : Option Place :=
  placeIn? 1 index (lines source)

/-- A stretch of a line, from character `start` to before character `stop`. -/
structure Stretch where
  start : Nat
  stop : Nat
deriving DecidableEq, Repr

namespace Stretch

def has (stretch : Stretch) (index : Nat) : Bool :=
  stretch.start ≤ index && index < stretch.stop

/-- The character that an arrow points to. -/
def middle (stretch : Stretch) : Nat :=
  (stretch.start + stretch.stop) / 2

end Stretch

/-! ## Drawing -/

def paint (colour text : String) : String :=
  "\x1b[" ++ colour ++ "m" ++ text ++ "\x1b[0m"

/-- What an error is about. -/
def red : String := "31"

/-- The rest of a line. -/
def plain : String := "38;5;249"

/-- The frame. -/
def frame : String := "38;5;246"

/-- The frame beside an arrow. -/
def faint : String := "38;5;240"

def times (n : Nat) (text : String) : String :=
  String.join (List.replicate n text)

/-- The number of cells that a character at the given place of its line takes up: a tab reaches
to the next multiple of four, and other white space is one blank. -/
def width (index : Nat) (c : Char) : Nat :=
  if c = '\t' then 4 - index % 4
  else if isBlank c then 1
  else cellCount c

def paintChar (colour : String) (index : Nat) (c : Char) : String :=
  if isBlank c then times (width index c) (paint colour " ")
  else paint colour (String.ofList [c])

def paintLine (stretch : Stretch) (line : List Char) : String :=
  String.join <| line.zipIdx.map fun (c, index) =>
    paintChar (if stretch.has index then red else plain) index c

/-- The widths of `count` characters from the given place of a line on.  Behind the end of the
line there is one cell for each. -/
def widths (index : Nat) : Nat → List Char → List Nat
  | 0, _ => []
  | count + 1, [] => 1 :: widths (index + 1) count []
  | count + 1, c :: rest => width index c :: widths (index + 1) count rest

/-- Cells in red: the first one shows `head`, the others a bar. -/
def bar (head : String) : Nat → String
  | 0 => ""
  | more + 1 => paint red head ++ times more (paint red "─")

/-- What stands below a character of the given width: a bar below the stretch, with the foot of
an arrow in its middle. -/
def underline (stretch : Stretch) (width index : Nat) : String :=
  if stretch.has index then bar (if index = stretch.middle then "┬" else "─") width
  else times width " "

/-- What stands below the bar: an arrow from the middle of the stretch to the right. -/
def arrow (stretch : Stretch) (width index : Nat) : String :=
  if index < stretch.middle then times width " "
  else bar (if index = stretch.middle then "╰" else "─") width

/-- The start of a row below a line whose number has `digits` digits. -/
def side (digits : Nat) : String :=
  " " ++ paint faint (times digits " " ++ " │") ++ " "

/-- A line with a stretch of it marked, and an arrow from there to a text.  Bar and arrow go two
characters beyond the stretch. -/
def drawStretch (number message : String) (stretch : Stretch) (line : List Char) : String :=
  let columns := (widths 0 (stretch.stop + 2) line).zipIdx
  let row (draw : Nat → Nat → String) : String :=
    String.join (columns.map fun (width, index) => draw width index)
  " " ++ paint frame (number ++ " │") ++ " " ++ paintLine stretch line ++ "\n" ++
  side number.length ++ row (underline stretch) ++ "\n" ++
  side number.length ++ row (arrow stretch) ++ " " ++ message ++ "\n"

/-- The picture of a stretch of the given length that starts at the place `first` and whose last
character is at the place `last`.  A stretch that leaves its line is not marked, and the line is
left out. -/
def draw (filename message : String) (length : Nat) (first last : Place) : String :=
  let number := String.ofList (naturalDigits last.line)
  let margin := times (number.length + 2) " "
  let position := filename ++ ":" ++ String.ofList (naturalDigits first.line) ++ ":" ++
    String.ofList (naturalDigits (first.before + 1))
  let stretch : Stretch := ⟨first.before, first.before + length⟩
  margin ++ paint frame "╭" ++ paint frame "─" ++ paint frame "[" ++ position ++
    paint frame "]" ++ "\n" ++
  margin ++ paint frame "│" ++ "\n" ++
  (if first.line = last.line ∧ stretch.stop ≤ first.text.length then
    drawStretch number message stretch (trimEnd first.text)
  else side number.length ++ "\n") ++
  paint frame (times (number.length + 2) "─" ++ "╯") ++ "\n"

end Stencil.Report

namespace Stencil.CompileError

/-- The report of an error in a template from the given file.  Without a place in the template it
is one line, and so it is when the place is not within the text. -/
def report (error : CompileError) (source filename : String) : String :=
  match error.span? with
  | none => "Error: " ++ error.describe ++ "\n"
  | some span =>
    let place := Report.place? source.toList
    let picture := match place span.start, place (max span.start (span.stop - 1)) with
      | some first, some last => Report.draw filename error.message span.length first last
      | _, _ => ""
    Report.paint Report.red "Error:" ++ " " ++ error.describe ++ "\n" ++ picture

end Stencil.CompileError
