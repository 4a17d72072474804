import Stencil.Json.Number

/-!
# Reading JSON

A strict reader: one document and nothing but white space around it, no raw control characters in
strings, no half of a surrogate pair, and a bound on how deep arrays and objects nest.
-/

namespace Stencil.Json

def isSpace (c : Char) : Bool :=
  c = ' ' || c = '\t' || c = '\n' || c = '\r'

/-- A text without the white space at its front. -/
def skipSpace (text : List Char) : List Char :=
  text.dropWhile isSpace

/-- The 16-bit unit written with four hexadecimal digits. -/
def unit? (a b c d : Char) : Option Nat := do
  let a ← hexValue? a
  let b ← hexValue? b
  let c ← hexValue? c
  let d ← hexValue? d
  return ((a * 16 + b) * 16 + c) * 16 + d

/-- Whether a unit is the first half of a surrogate pair. -/
def isHighHalf (unit : Nat) : Bool :=
  0xD800 ≤ unit && unit < 0xDC00

def isLowHalf (unit : Nat) : Bool :=
  0xDC00 ≤ unit && unit < 0xE000

def shortEscape? (c : Char) : Option Char :=
  if c = '"' || c = '\\' || c = '/' then some c
  else if c = 'b' then some (Char.ofNat 8)
  else if c = 'f' then some (Char.ofNat 12)
  else if c = 'n' then some '\n'
  else if c = 'r' then some '\r'
  else if c = 't' then some '\t'
  else none

/-- The rest of a string after its opening quote; `seen` are the characters read so far, last one
first. -/
def readString (seen : List Char) : Reader (List Char)
  | [] => none
  | c :: rest =>
    if c = '"' then some (seen.reverse, rest)
    else if c = '\\' then
      match rest with
      | [] => none
      | e :: rest =>
        if e = 'u' then
          match rest with
          | a :: b :: c :: d :: rest =>
            match unit? a b c d with
            | none => none
            | some unit =>
              if isLowHalf unit then none
              else if isHighHalf unit then
                match rest with
                | '\\' :: 'u' :: a :: b :: c :: d :: rest =>
                  match unit? a b c d with
                  | none => none
                  | some low =>
                    if isLowHalf low then
                      let code := 0x10000 + (unit - 0xD800) * 0x400 + (low - 0xDC00)
                      readString (Char.ofNat code :: seen) rest
                    else none
                | _ => none
              else readString (Char.ofNat unit :: seen) rest
          | _ => none
        else
          match shortEscape? e with
          | some meant => readString (meant :: seen) rest
          | none => none
    else if c.toNat < 32 then none
    else readString (c :: seen) rest

/-- The given characters at the front of a text, as the given document. -/
def readWord (word : List Char) (document : Json) : Reader Json := fun text =>
  (word.isPrefixOf? text).map fun rest => (document, rest)

def readScalar : Reader Json
  | [] => none
  | c :: rest =>
    if c = '"' then (readString [] rest).map fun (s, rest) => (.string (String.ofList s), rest)
    else if c = 'n' then readWord "ull".toList .null rest
    else if c = 't' then readWord "rue".toList (.boolean true) rest
    else if c = 'f' then readWord "alse".toList (.boolean false) rest
    else (readNumber (c :: rest)).map fun (n, rest) => (.number n, rest)

/-- What follows an item: a comma and more items, or the closing bracket.  Each item takes at
least one character, so `budget` need not exceed the length of the text. -/
def readMore {α : Type} (item : Reader α) (closing : Char) : Nat → List α → Reader (List α)
  | 0, _ => fun _ => none
  | budget + 1, seen => fun text =>
    match skipSpace text with
    | [] => none
    | c :: rest =>
      if c = closing then some (seen.reverse, rest)
      else if c = ',' then
        match item rest with
        | none => none
        | some (value, rest) => readMore item closing budget (value :: seen) rest
      else none

def readList {α : Type} (item : Reader α) (closing : Char) : Reader (List α) := fun text =>
  match skipSpace text with
  | [] => none
  | c :: rest =>
    if c = closing then some ([], rest)
    else
      match item (c :: rest) with
      | none => none
      | some (value, rest) => readMore item closing (rest.length + 1) [value] rest

def readMember (value : Reader Json) : Reader (String × Json) := fun text =>
  match skipSpace text with
  | '"' :: rest =>
    match readString [] rest with
    | none => none
    | some (name, rest) =>
      match skipSpace rest with
      | ':' :: rest =>
        (value rest).map fun (document, rest) => ((String.ofList name, document), rest)
      | _ => none
  | _ => none

/-- A document that nests arrays and objects at most `depth` deep. -/
def readDocument (depth : Nat) : Reader Json := fun text =>
  match skipSpace text with
  | [] => none
  | c :: rest =>
    if c = '[' then
      match depth with
      | 0 => none
      | depth + 1 =>
        (readList (readDocument depth) ']' rest).map fun (items, rest) => (.array items, rest)
    else if c = '\x7b' then
      match depth with
      | 0 => none
      | depth + 1 =>
        (readList (readMember (readDocument depth)) '\x7d' rest).map
          fun (members, rest) => (.object members, rest)
    else readScalar (c :: rest)

def nestingLimit : Nat := 127

/-- The document that a text consists of, with arrays and objects at most `depth` deep. -/
def parseWithin? (depth : Nat) (text : String) : Option Json :=
  match readDocument depth text.toList with
  | some (document, rest) => if (skipSpace rest).isEmpty then some document else none
  | none => none

def parse? (text : String) : Option Json :=
  parseWithin? nestingLimit text

end Stencil.Json
