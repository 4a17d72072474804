import Stencil.Text.Reader

/-!
# Strings in TOML documents

Basic strings have escapes, literal strings have none; both come on one line between single
delimiters, and on several lines between triple ones.  In a string on several lines a line break
right after the opening delimiter is dropped, any other line break is one line feed, and up to
two delimiter characters may stand right before the closing delimiter.
-/

namespace Stencil.Toml

def isBlankChar (c : Char) : Bool :=
  c = ' ' || c = '\t'

/-- What may stand in comments and strings: tab, and all characters but control characters. -/
def isTextChar (c : Char) : Bool :=
  c = '\t' || (32 ≤ c.toNat && c.toNat ≠ 127)

/-- A text without the spaces and tabs at its front. -/
def skipBlanks (text : List Char) : List Char :=
  text.dropWhile isBlankChar

def dropNewline? : List Char → Option (List Char)
  | '\n' :: rest => some rest
  | '\r' :: '\n' :: rest => some rest
  | _ => none

def charOfDigits? (digits : List Char) : Option Char := do
  let code ← spell? hexValue? 16 digits
  if h : code.isValidChar then some (Char.ofNatAux code h) else none

def letterEscape? (c : Char) : Option Char :=
  if c = '"' || c = '\\' then some c
  else if c = 'b' then some (Char.ofNat 8)
  else if c = 't' then some '\t'
  else if c = 'n' then some '\n'
  else if c = 'f' then some (Char.ofNat 12)
  else if c = 'r' then some '\r'
  else none

/-- The rest of a basic string after its opening quote; `seen` are the characters read so far,
last one first. -/
def readBasic (seen : List Char) : Reader (List Char)
  | [] => none
  | c :: rest =>
    if c = '"' then some (seen.reverse, rest)
    else if c = '\\' then
      match rest with
      | 'u' :: a :: b :: c :: d :: rest =>
        match charOfDigits? [a, b, c, d] with
        | some meant => readBasic (meant :: seen) rest
        | none => none
      | 'U' :: a :: b :: c :: d :: e :: f :: g :: h :: rest =>
        match charOfDigits? [a, b, c, d, e, f, g, h] with
        | some meant => readBasic (meant :: seen) rest
        | none => none
      | e :: rest =>
        match letterEscape? e with
        | some meant => readBasic (meant :: seen) rest
        | none => none
      | [] => none
    else if isTextChar c then readBasic (c :: seen) rest
    else none

/-- The rest of a literal string after its opening quote. -/
def readLiteral (seen : List Char) : Reader (List Char)
  | [] => none
  | c :: rest =>
    if c = '\x27' then some (seen.reverse, rest)
    else if isTextChar c then readLiteral (c :: seen) rest
    else none

/-- The end of a string on several lines, where three delimiter characters have just been read:
up to two more belong to the string. -/
def closeLong (quote : Char) (seen text : List Char) : List Char × List Char :=
  match text with
  | c :: d :: rest =>
    if c = quote then
      if d = quote then ((quote :: quote :: seen).reverse, rest)
      else ((quote :: seen).reverse, d :: rest)
    else (seen.reverse, text)
  | [c] => if c = quote then ((quote :: seen).reverse, []) else (seen.reverse, text)
  | [] => (seen.reverse, text)

/-- The rest of a basic string on several lines.  A backslash at the end of a line joins it to the
next text: `joining` says that white space and line breaks are being dropped. -/
def readLongBasic (seen : List Char) (joining : Bool) : Reader (List Char)
  | [] => none
  | c :: rest =>
    if joining && (isBlankChar c || c = '\n') then readLongBasic seen true rest
    else if c = '\r' then
      match rest with
      | '\n' :: rest => readLongBasic (if joining then seen else '\n' :: seen) joining rest
      | _ => none
    else if c = '"' then
      match rest with
      | '"' :: '"' :: rest => some (closeLong '"' seen rest)
      | _ => readLongBasic ('"' :: seen) false rest
    else if c = '\\' then
      if (dropNewline? (skipBlanks rest)).isSome then readLongBasic seen true rest
      else
        match rest with
        | 'u' :: a :: b :: c :: d :: rest =>
          match charOfDigits? [a, b, c, d] with
          | some meant => readLongBasic (meant :: seen) false rest
          | none => none
        | 'U' :: a :: b :: c :: d :: e :: f :: g :: h :: rest =>
          match charOfDigits? [a, b, c, d, e, f, g, h] with
          | some meant => readLongBasic (meant :: seen) false rest
          | none => none
        | e :: rest =>
          match letterEscape? e with
          | some meant => readLongBasic (meant :: seen) false rest
          | none => none
        | [] => none
    else if c = '\n' || isTextChar c then readLongBasic (c :: seen) false rest
    else none

def readLongLiteral (seen : List Char) : Reader (List Char)
  | [] => none
  | c :: rest =>
    if c = '\r' then
      match rest with
      | '\n' :: rest => readLongLiteral ('\n' :: seen) rest
      | _ => none
    else if c = '\x27' then
      match rest with
      | '\x27' :: '\x27' :: rest => some (closeLong '\x27' seen rest)
      | _ => readLongLiteral ('\x27' :: seen) rest
    else if c = '\n' || isTextChar c then readLongLiteral (c :: seen) rest
    else none

/-- A text without a line break at its front. -/
def skipNewline (text : List Char) : List Char :=
  (dropNewline? text).getD text

/-- A string of any of the four forms. -/
def readString : Reader (List Char)
  | '"' :: '"' :: '"' :: rest => readLongBasic [] false (skipNewline rest)
  | '\x27' :: '\x27' :: '\x27' :: rest => readLongLiteral [] (skipNewline rest)
  | '"' :: rest => readBasic [] rest
  | '\x27' :: rest => readLiteral [] rest
  | _ => none

end Stencil.Toml
