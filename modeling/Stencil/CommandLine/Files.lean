import Stencil.Entries

/-!
# Files

What a program sees of the files around it: a path leads to a file or to a reason why not.  A
working directory is given by the paths of its files.  Of the places outside of it only those are
known that every system has, so that a name from there is missing unless it is one of them.
-/

namespace Stencil.CommandLine

/-- The reasons why a path leads to no file. -/
inductive FileError where
  | notFound
  | isDirectory
  | notDirectory
  | nameTooLong
  | other (text : String)
deriving DecidableEq, Repr

def FileError.message : FileError → String
  | .notFound => "No such file or directory (os error 2)"
  | .isDirectory => "Is a directory (os error 21)"
  | .notDirectory => "Not a directory (os error 20)"
  | .nameTooLong => "File name too long (os error 36)"
  | .other text => text

inductive File where
  | stored (bytes : ByteArray)
  | standardInput

/-- The text of some bytes, or what is said of bytes that are no text. -/
def decodeText (bytes : ByteArray) : Except String String :=
  match String.fromUTF8? bytes with
  | some text => .ok text
  | none => .error "stream did not contain valid UTF-8"

def pathParts (path : List Char) : List (List Char) :=
  path.foldr (fun c parts =>
    match c, parts with
    | '/', _ => [] :: parts
    | c, part :: parts => (c :: part) :: parts
    | c, [] => [[c]]) [[]]

/-- The last part of a path that is a name; none when the path ends in the directory above. -/
def fileName? (path : String) : Option (List Char) :=
  let names := (pathParts path.toList).filter fun part => part ≠ [] && part ≠ ['.']
  names.getLast?.filter (· ≠ ['.', '.'])

/-- What follows the last point of a file's name, unless the name starts with that point. -/
def extension? (path : String) : Option String := do
  let name ← fileName? path
  let (reversed, rest) := name.reverse.span (· ≠ '.')
  match rest with
  | _ :: _ :: _ => some (String.ofList reversed.reverse)
  | _ => none

/-- What is known to stand in a directory and in those below it, each thing under its path: files,
and directories, which stand for themselves.  The directories on the way to a file are known with
it. -/
abbrev Directory := List (List String × Option File)

namespace Directory

def ofFiles (files : Entries ByteArray) : Directory :=
  files.map fun (path, bytes) =>
    let names := (pathParts path.toList).filter fun part => part ≠ [] && part ≠ ['.']
    (names.map String.ofList, some (.stored bytes))

/-- The directories that stand at the top of every system. -/
def topDirectories : List String :=
  ["bin", "boot", "dev", "etc", "home", "lib", "media", "mnt", "opt", "proc", "run", "sbin", "srv",
    "sys", "tmp", "usr", "var"]

/-- The top of a system, with the device that holds nothing and the one that is the standard
input. -/
def root : Directory :=
  (["dev", "null"], some (.stored .empty)) :: (["dev", "stdin"], some .standardInput) ::
    topDirectories.map fun name => ([name], none)

def nameLimit : Nat := 255

/-- Whether a place, given by the names that lead to it, is a directory. -/
def isDirectory (directory : Directory) (place : List String) : Bool :=
  directory.any fun (path, file) => place.isPrefixOf path && (file.isNone || place ≠ path)

/-- Follows the parts of a path from the directory `place`, which is given by the names that lead
to it.  From the top the way back leads to the directory `above`, and further back to `above`
again. -/
def follow (directory above : Directory) (place : List String) :
    List (List Char) → Except FileError File
  | [] => .error .isDirectory
  | part :: rest =>
    if part = [] ∨ part = ['.'] then follow directory above place rest
    else if part = ['.', '.'] then
      if place = [] then follow above above [] rest
      else follow directory above place.dropLast rest
    else
      let name := String.ofList part
      let place := place ++ [name]
      if nameLimit < name.utf8ByteSize then .error .nameTooLong
      else if directory.isDirectory place then follow directory above place rest
      else
        match directory.lookup place with
        | some (some file) => if rest = [] then .ok file else .error .notDirectory
        | _ => .error .notFound

def pathLimit : Nat := 4095

/-- The file that a path leads to.  A path that starts with a slash starts at the top of the
system; of the directories above the working directory no entries are known. -/
def read (directory : Directory) (path : String) : Except FileError File :=
  if pathLimit < path.utf8ByteSize then .error .nameTooLong
  else
    match path.toList with
    | '/' :: rest => root.follow root [] (pathParts rest)
    | parts => directory.follow [] [] (pathParts parts)

end Directory

end Stencil.CommandLine
