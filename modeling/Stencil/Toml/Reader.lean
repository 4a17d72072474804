import Stencil.Toml.Numbers
import Stencil.Toml.Strings
import Stencil.Toml.Tables

/-!
# Reading TOML

The grammar of TOML documents: lines with keys and values, headers of tables, comments.  Arrays
may go over several lines and end with a comma, tables between braces may not.  Arrays, tables
between braces and dotted keys have a bound on how deep they go.
-/

namespace Stencil.Toml

/-- The depth that arrays, tables between braces and dotted keys do not reach. -/
def depthBound : Nat := 80

/-! ## White space and comments -/

/-- The text without white space, line breaks and comments at its front; `comment` says that a
comment is being dropped.  A comment that does not end with its line is left as it is. -/
def skipLayout (comment : Bool) : List Char → List Char
  | [] => []
  | c :: rest =>
    if c = '\n' then skipLayout false rest
    else if c = '\r' then
      match rest with
      | '\n' :: rest => skipLayout false rest
      | _ => c :: rest
    else if comment then if isTextChar c then skipLayout true rest else c :: rest
    else if isBlankChar c then skipLayout false rest
    else if c = '#' then skipLayout true rest
    else c :: rest

/-- What follows the end of a line, before which there may be white space and a comment. -/
def endLine (text : List Char) : Option (List Char) :=
  let text := match skipBlanks text with
    | '#' :: rest => rest.dropWhile isTextChar
    | text => text
  match text with
  | [] => some []
  | text => dropNewline? text

/-! ## Keys -/

/-- Whether a character may stand in a key without quotes. -/
def isKeyChar (c : Char) : Bool :=
  c.isAlphanum || c = '-' || c = '_'

def readPart : Reader String
  | [] => none
  | c :: rest =>
    if c = '"' then (readBasic [] rest).map fun (part, rest) => (String.ofList part, rest)
    else if c = '\x27' then (readLiteral [] rest).map fun (part, rest) => (String.ofList part, rest)
    else
      match (c :: rest).span isKeyChar with
      | ([], _) => none
      | (part, rest) => some (String.ofList part, rest)

/-- Further parts of a key, each after a point; at most `budget` of them. -/
def readParts : Nat → Reader (List String)
  | 0, _ => none
  | budget + 1, text =>
    match skipBlanks text with
    | '.' :: rest =>
      match readPart (skipBlanks rest) with
      | none => none
      | some (part, rest) =>
        (readParts budget rest).map fun (parts, rest) => (part :: parts, rest)
    | rest => some ([], rest)

def readKey (text : List Char) : Option (Key × List Char) :=
  match readPart (skipBlanks text) with
  | none => none
  | some (first, rest) =>
    (readParts (depthBound - 1) rest).map fun (parts, rest) => (⟨first, parts⟩, rest)

/-! ## Values -/

/-- What follows an element of an array: a comma and more elements, or the closing bracket, also
after a comma.  Each element takes at least one character, so `budget` need not exceed the length
of the text. -/
def readElements (value : Reader Toml) : Nat → List Toml → Reader (List Toml)
  | 0, _ => fun _ => none
  | budget + 1, seen => fun text =>
    match skipLayout false text with
    | ']' :: rest => some (seen.reverse, rest)
    | text =>
      match value text with
      | none => none
      | some (element, rest) =>
        match skipLayout false rest with
        | ',' :: rest => readElements value budget (element :: seen) rest
        | ']' :: rest => some ((element :: seen).reverse, rest)
        | _ => none

/-- A key, an equals sign and a value with white space before it. -/
def readPair (value : Reader Toml) (text : List Char) : Option ((Key × Toml) × List Char) :=
  match readKey text with
  | some (key, '=' :: rest) =>
    (value (skipBlanks rest)).map fun (value, rest) => ((key, value), rest)
  | _ => none

/-- The pairs of a table between braces after its first one. -/
def readPairs (value : Reader Toml) : Nat → List (Key × Toml) → Reader (List (Key × Toml))
  | 0, _ => fun _ => none
  | budget + 1, seen => fun text =>
    match readPair value text with
    | none => none
    | some (pair, rest) =>
      match skipBlanks rest with
      | ',' :: rest => readPairs value budget (pair :: seen) rest
      | '\x7d' :: rest => some ((pair :: seen).reverse, rest)
      | _ => none

/-- A value in which arrays and tables between braces nest at most `depth` deep. -/
def readValue (depth : Nat) : Reader Toml := fun text =>
  match text with
  | [] => none
  | c :: rest =>
    if c = '"' || c = '\x27' then
      (readString text).map fun (s, rest) => (.string (String.ofList s), rest)
    else if c = '[' then
      match depth with
      | 0 => none
      | depth + 1 =>
        (readElements (readValue depth) (rest.length + 1) [] rest).map
          fun (items, rest) => (.array items, rest)
    else if c = '\x7b' then
      match depth with
      | 0 => none
      | depth + 1 =>
        match skipBlanks rest with
        | '\x7d' :: rest => some (.table [], rest)
        | rest =>
          match readPairs (readValue depth) (rest.length + 1) [] rest with
          | none => none
          | some (pairs, rest) => (inlineTable? pairs).map fun table => (table, rest)
    else
      match text with
      | 't' :: 'r' :: 'u' :: 'e' :: rest => some (.boolean true, rest)
      | 'f' :: 'a' :: 'l' :: 's' :: 'e' :: rest => some (.boolean false, rest)
      | _ => readNumeric text

/-! ## Documents -/

/-- A header or an entry, without the end of its line. -/
def readLine (text : List Char) : Option (Line × List Char) :=
  match text with
  | '[' :: '[' :: rest =>
    match readKey rest with
    | some (key, ']' :: ']' :: rest) => some (.elementHeader key, rest)
    | _ => none
  | '[' :: rest =>
    match readKey rest with
    | some (key, ']' :: rest) => some (.tableHeader key, rest)
    | _ => none
  | text =>
    (readPair (readValue (depthBound - 1)) text).map fun ((key, value), rest) =>
      (.entry key value, rest)

/-- The lines of a document that say something.  Every line takes at least one character, so
`budget` need not exceed the length of the text. -/
def readLines : Nat → List Char → Option (List Line)
  | 0, _ => none
  | budget + 1, text =>
    match skipBlanks text with
    | [] => some []
    | text =>
      match endLine text with
      | some rest => readLines budget rest
      | none =>
        match readLine text with
        | none => none
        | some (line, rest) =>
          match endLine rest with
          | none => none
          | some rest => (readLines budget rest).map (line :: ·)

/-- A text without a byte order mark at its front. -/
def skipMark (text : List Char) : List Char :=
  match text with
  | c :: rest => if c.toNat = 0xFEFF then rest else text
  | [] => []

def parse? (text : String) : Option Toml :=
  let text := skipMark text.toList
  (readLines (text.length + 1) text).bind ofLines?

end Stencil.Toml
