import Stencil.Directive
import Stencil.Options
import Stencil.Program

/-!
# Compiling templates

A template becomes a program in one pass over its segments.  The blocks that are open at a point
form a stack: an opening directive puts a new one on top, the directive that ends it takes it off
and adds it, as one statement, to the block below.  The lowest block is the program itself and is
never taken off.
-/

namespace Stencil

/-- A block that has been opened, how it is to be shown, and where it was opened. -/
structure OpenBlock where
  draft : Draft Statement
  repeats : Bool
  span : Span

/-- The blocks open at a point of a template: the innermost one and those around it, from the
inside out. -/
structure Assembly where
  inner : OpenBlock
  around : List OpenBlock

namespace OpenBlock

def root : OpenBlock := ⟨Draft.empty none, false, ⟨0, 0⟩⟩

def statement (block : OpenBlock) : Statement :=
  if block.repeats then .repeated block.draft.block else .conditional block.draft.block

end OpenBlock

namespace Assembly

def start : Assembly := ⟨.root, []⟩

def modify (assembly : Assembly) (change : Draft Statement → Draft Statement) : Assembly :=
  { assembly with inner := { assembly.inner with draft := change assembly.inner.draft } }

def append (assembly : Assembly) (statement : Statement) : Assembly :=
  assembly.modify (Draft.append statement)

def literal (assembly : Assembly) (text : List Char) : Assembly :=
  assembly.append (.literal (String.ofList text))

def push (assembly : Assembly) (repeats : Bool) (name : Option String) (span : Span) : Assembly :=
  ⟨⟨Draft.empty name, repeats, span⟩, assembly.inner :: assembly.around⟩

/-- Ends the innermost block, if it is not the lowest one. -/
def pop? (assembly : Assembly) : Option Assembly :=
  match assembly.around with
  | [] => none
  | outer :: around => some (append ⟨outer, around⟩ assembly.inner.statement)

end Assembly

/-- The pieces of a text between the occurrences of a character: the first one and the others. -/
def pieces (mark : Char) : List Char → List Char × List (List Char)
  | [] => ([], [])
  | c :: rest =>
    let (first, others) := pieces mark rest
    if c = mark then ([], first :: others) else (c :: first, others)

/-- The formatter of a given name, for the directive at `span`. -/
def resolveFormatter (options : Options) (span : Span) (name : String) :
    Except CompileError NamedFormatter :=
  match NamedFormatter.find? options.formatters name with
  | some formatter => .ok formatter
  | none => .error (.badFormatter name span)

/-- The formatters of given names; the first name that has none is at fault. -/
def resolveFormatters (options : Options) (span : Span) :
    List String → Except CompileError (List NamedFormatter)
  | [] => .ok []
  | name :: rest =>
    match resolveFormatter options span name with
    | .error error => .error error
    | .ok formatter =>
      match resolveFormatters options span rest with
      | .error error => .error error
      | .ok formatters => .ok (formatter :: formatters)

/-- The substitution that a text asks for: a name, and formatters behind separators. -/
def readSubstitution (options : Options) (span : Span) (text : List Char) :
    Except CompileError Substitution :=
  let (name, asked) := pieces options.separator text
  let formatters : Except CompileError (List NamedFormatter) :=
    match asked, options.defaultFormatter with
    | [], none => .error (.missingFormatter span)
    | [], some default => resolveFormatters options span [default]
    | _ :: _, _ => resolveFormatters options span (asked.map String.ofList)
  match formatters with
  | .error error => .error error
  | .ok formatters => .ok ⟨String.ofList name, formatters⟩

namespace Assembly

def keyword (delimiters : Delimiters) (span : Span) (assembly : Assembly) :
    Keyword → Except CompileError Assembly
  | .metaLeft => .ok (assembly.literal delimiters.left)
  | .metaRight => .ok (assembly.literal delimiters.right)
  | .space => .ok (assembly.literal [' '])
  | .opening repeats name => .ok (assembly.push repeats name span)
  | .alternate => .ok (assembly.modify (Draft.switch .alternate))
  | .otherwise => .ok (assembly.modify (Draft.switch .otherwise))
  | .closing =>
    match assembly.pop? with
    | some outer => .ok outer
    | none => .error (.tooManyEnds span)

/-- Carries out a directive.  The line feed behind a substitution is kept; behind any other
directive it is dropped. -/
def directive (options : Options) (delimiters : Delimiters) (span : Span) (assembly : Assembly) :
    Directive → Except CompileError Assembly
  | .comment => .ok assembly
  | .keyword word => assembly.keyword delimiters span word
  | .substitution text newline =>
    match readSubstitution options span text with
    | .error error => .error error
    | .ok substitution =>
      let added := assembly.append (.substitute substitution)
      .ok (if newline then added.literal ['\n'] else added)

/-- Takes in a segment; literal text that is empty adds nothing. -/
def segment (options : Options) (delimiters : Delimiters) (assembly : Assembly)
    (segment : Segment) : Except CompileError Assembly :=
  match segment.kind with
  | .literal => .ok (if segment.text.isEmpty then assembly else assembly.literal segment.text)
  | .directive =>
    assembly.directive options delimiters segment.span (Directive.read delimiters segment.text)

/-- Takes in segments from left to right, up to the first fault. -/
def segments (options : Options) (delimiters : Delimiters) (assembly : Assembly) :
    List Segment → Except CompileError Assembly
  | [] => .ok assembly
  | segment :: rest =>
    match assembly.segment options delimiters segment with
    | .error error => .error error
    | .ok assembly => segments options delimiters assembly rest

/-- The finished program, if only the lowest block is still open. -/
def finish (assembly : Assembly) : Except CompileError Program :=
  match assembly.around with
  | [] => .ok assembly.inner.draft.block
  | _ :: _ => .error (.tooFewEnds assembly.inner.span)

end Assembly

def compile (options : Options) (source : String) : Except CompileError Program :=
  match options.delimiters with
  | .error error => .error error
  | .ok delimiters =>
    match Assembly.start.segments options delimiters (delimiters.split source.toList) with
    | .error error => .error error
    | .ok assembly => assembly.finish

end Stencil
