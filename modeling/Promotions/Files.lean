import Promotions.Text.Quoted

/-! Files by path. A set of files is a function from paths, so that a program over it needs no
outside world. -/
namespace Promotions

inductive FileFault where
  | missing
  | throughFile
  | isDirectory
  | longName
  /-- A path with a null character names nothing and is not looked up. -/
  | nullInPath
  deriving DecidableEq, Repr

def FileFault.message (fault : FileFault) (path : String) : String :=
  match fault with
  | missing => "[Errno 2] No such file or directory: " ++ Text.quoted path
  | throughFile => "[Errno 20] Not a directory: " ++ Text.quoted path
  | isDirectory => "[Errno 21] Is a directory: " ++ Text.quoted path
  | longName => "[Errno 36] File name too long: " ++ Text.quoted path
  | nullInPath => "embedded null byte"

abbrev Files := String → Except FileFault String

namespace Path

def components (path : String) : List (List Char) := path.toList.splitOn '/'

/-- The slashes that a path starts with: one of them makes it absolute, two of them stay two. -/
def root (chars : List Char) : String :=
  match (chars.takeWhile (· = '/')).length with
  | 0 => ""
  | 2 => "//"
  | _ => "/"

def names (path : String) : List (List Char) :=
  (components path).filter fun part => part ≠ [] ∧ part ≠ ['.']

def simplify (path : String) : String :=
  let body := "/".intercalate ((names path).map String.ofList)
  let whole := root path.toList ++ body
  if whole = "" then "." else whole

end Path

abbrev Place := List (List Char)

/-- Files and directories. Every directory on the way to one of them is there too. -/
structure FileTree where
  start : Place
  directories : List Place
  files : List (Place × String)

namespace FileTree

inductive Node where
  | file (text : String)
  | directory
  | nothing

/-- Whether a place is a directory, or on the way to something that is there. -/
def isDirectory (tree : FileTree) (place : Place) : Bool :=
  (tree.start :: tree.directories ++ tree.files.map (·.1)).any place.isPrefixOf

def node (tree : FileTree) (place : Place) : Node :=
  match tree.files.lookup place with
  | some text => .file text
  | none => if tree.isDirectory place then .directory else .nothing

def nameLimit : Nat := 255

def pathLimit : Nat := 4095

def walk (tree : FileTree) (place : Place) : List (List Char) → Except FileFault String
  | [] =>
      match tree.node place with
      | .file text => .ok text
      | .directory => .error .isDirectory
      | .nothing => .error .missing
  | part :: rest =>
      match tree.node place with
      | .file _ => .error .throughFile
      | .nothing => .error .missing
      | .directory =>
          if part = [] ∨ part = ['.'] then tree.walk place rest
          else if part = ['.', '.'] then tree.walk place.dropLast rest
          else if nameLimit < (String.ofList part).utf8ByteSize then .error .longName
          else tree.walk (place ++ [part]) rest

def lookUp (tree : FileTree) : Files := fun path =>
  if path.toList.contains '\x00' then .error .nullInPath
  else if path = "" then .error .missing
  else if pathLimit < path.utf8ByteSize then .error .longName
  else tree.walk (if Path.root path.toList = "" then tree.start else []) (Path.components path)

end FileTree

namespace Text

def unifiedBreaks : List Char → List Char
  | [] => []
  | '\r' :: '\n' :: rest => '\n' :: unifiedBreaks rest
  | c :: rest => (if c = '\r' then '\n' else c) :: unifiedBreaks rest

def unifyBreaks (text : String) : String := String.ofList (unifiedBreaks text.toList)

end Text

end Promotions
