import DeskScript.Text.Basic

namespace DeskScript.Console

inductive PathError where
  | missing
  | isFolder
  | notFolder
  | tooLong
  | hasNull
deriving DecidableEq

abbrev Place := List Text

/-- Files with their texts, folders that may be empty, and the folder in which paths begin. A folder on the
way to one of these need not be listed. -/
structure FileTree where
  files : List (Place × Text)
  folders : List Place
  working : Place

namespace FileTree

def file? (t : FileTree) (p : Place) : Option Text := t.files.lookup p

def isFolder (t : FileTree) (p : Place) : Bool :=
  p.isPrefixOf t.working || t.folders.any p.isPrefixOf ||
    t.files.any fun f => p.isPrefixOf f.1 && p != f.1

def byteCount (t : Text) : Nat := (String.ofList t).utf8ByteSize

def maxNameBytes : Nat := 255

def maxPathBytes : Nat := 4095

/-- The place that the names lead to. An empty name or a dot stays where it is, and two dots go up; even so
they have to start from a folder. -/
def follow (t : FileTree) (p : Place) : List Text → Except PathError Place
  | [] => .ok p
  | name :: names =>
    if (t.file? p).isSome then .error .notFolder
    else if name = [] ∨ name = ['.'] then follow t p names
    else if name = ['.', '.'] then follow t p.dropLast names
    else if maxNameBytes < byteCount name then .error .tooLong
    else
      let next := p ++ [name]
      if (t.file? next).isSome || t.isFolder next then follow t next names else .error .missing

def read (t : FileTree) (path : Text) : Except PathError Text :=
  if path.elem '\x00' then .error .hasNull
  else if path.isEmpty then .error .missing
  else if maxPathBytes < byteCount path then .error .tooLong
  else
    let start := if Text.startsWith ['/'] path then [] else t.working
    match t.follow start (Text.splitOn '/' path) with
    | .error e => .error e
    | .ok p =>
      match t.file? p with
      | some content => .ok content
      | none => .error .isFolder

end FileTree

/-- A path without its empty names and dots, which changes where it leads only behind a file. -/
def tidyPath (path : Text) : Text :=
  let names := (Text.splitOn '/' path).filter fun name => name ≠ [] && name ≠ ['.']
  let tidy := Text.joinWith ['/'] names
  if Text.startsWith ['/'] path then '/' :: tidy
  else if names.isEmpty then ['.']
  else tidy

end DeskScript.Console
