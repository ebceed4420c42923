import BrowserScript.Error
import BrowserScript.Path

/-!
# File trees

A finite tree of files, directories and symbolic links below some directory, and how a path leads
to a place in it.  Nothing is known of what lies outside but that directories lead there.
-/

namespace BrowserScript

inductive Node where
  /-- A file that holds a text. -/
  | file (text : String)
  /-- A file that holds no text; `start` is what stands before its first line that is none. -/
  | garbled (start : String)
  | folder
  /-- A symbolic link. -/
  | link (target : String)
  deriving DecidableEq, Repr

/-- The lines of bytes with their line feeds; `line` is held backwards. -/
def byteLines (line : List UInt8) : List UInt8 → List (List UInt8)
  | [] => if line.isEmpty then [] else [line.reverse]
  | b :: rest =>
    if b = 10 then (b :: line).reverse :: byteLines [] rest else byteLines (b :: line) rest

def textLines : List (List UInt8) → List String
  | [] => []
  | line :: rest =>
    match String.fromUTF8? (ByteArray.mk line.toArray) with
    | some text => text :: textLines rest
    | none => []

def Node.ofBytes (bytes : ByteArray) : Node :=
  match String.fromUTF8? bytes with
  | some text => .file text
  | none => .garbled (String.join (textLines (byteLines [] bytes.toList)))

/-- A place without links on the way to it: in the tree, or outside. -/
inductive Place where
  | inside (names : List String)
  | outside
  deriving DecidableEq, Repr

structure FileTree where
  /-- The absolute path of the directory; empty if it is the root. -/
  base : String
  entries : List (List String × Node)
  /-- The names that lead to the working directory. -/
  here : List String := []

namespace FileTree

def maxLinks : Nat := 40

def maxNameBytes : Nat := 255

def maxPathBytes : Nat := 4095

/-- What stands under a list of names; a directory need not be listed if something below it is. -/
def node? (tree : FileTree) (names : List String) : Option Node :=
  match tree.entries.find? (·.1 == names) with
  | some entry => some entry.2
  | none =>
    if names.isEmpty || tree.entries.any (fun e => names.isPrefixOf e.1) then some .folder else none

def isFolder (tree : FileTree) : Place → Bool
  | .outside => true
  | .inside names => tree.node? names == some .folder

/-- The directory above a place; nothing lies above the root. -/
def above (tree : FileTree) : Place → Place
  | .outside => .outside
  | .inside [] => if tree.base.isEmpty then .inside [] else .outside
  | .inside names => .inside names.dropLast

/-- Where a path starts, with the components that follow. -/
def start (tree : FileTree) (here : Place) (path : String) : Place × List String :=
  if path == tree.base then (.inside [], [])
  else if (tree.base.toList ++ ['/']).isPrefixOf path.toList then
    (.inside [], Path.components (String.ofList (path.toList.drop (tree.base.length + 1))))
  else if Path.isAbsolute path then (.outside, Path.components path)
  else (here, Path.components path)

def walk (tree : FileTree) (links : Nat) (here : Place) (names : List String) :
    Except FileFault Place :=
  match names with
  | [] => .ok here
  | name :: rest =>
    if !tree.isFolder here then .error .notDirectory
    else if name = "" ∨ name = "." then walk tree links here rest
    else if name = ".." then walk tree links (tree.above here) rest
    else if maxNameBytes < name.utf8ByteSize then .error .nameTooLong
    else match here with
      | .outside => .error .notFound
      | .inside upper =>
        match tree.node? (upper ++ [name]) with
        | none => .error .notFound
        | some (.link target) =>
          match links with
          | 0 => .error .tooManyLinks
          | links + 1 =>
            let (from_, more) := tree.start here target
            walk tree links from_ (more ++ rest)
        | some _ => walk tree links (.inside (upper ++ [name])) rest
termination_by (links, names.length)

def resolve (tree : FileTree) (path : String) : Except FileFault Place :=
  if path.toList.any (·.toNat == 0) then .error .nulByte
  else if path.isEmpty then .error .notFound
  else if maxPathBytes < path.utf8ByteSize then .error .nameTooLong
  else
    let (here, names) := tree.start (.inside tree.here) path
    tree.walk maxLinks here names

def textAt (tree : FileTree) : Place → Except FileFault String
  | .outside => .error .isDirectory
  | .inside names =>
    match tree.node? names with
    | some (.file text) => .ok text
    | some (.garbled _) => .error .notText
    | some _ => .error .isDirectory
    | none => .error .notFound

def read (tree : FileTree) (path : String) : Except FileFault String := do
  tree.textAt (← tree.resolve path)

def foldersUp (tree : FileTree) : List (List String) :=
  (List.range (tree.here.length + 1)).reverse.map tree.here.take

def linesAt? (tree : FileTree) : Place → Option String
  | .outside => none
  | .inside names =>
    match tree.node? names with
    | some (.file text) => some text
    | some (.garbled start) => some start
    | _ => none

/-- What can be read from the first file of a name in some directories.  A place that is no file is
passed over, a name that leads nowhere too; any other fault ends the search. -/
def firstIn? (tree : FileTree) (name : String) : List (List String) → Option String
  | [] => none
  | folder :: rest =>
    match tree.walk maxLinks (.inside folder) [name] with
    | .ok place => (tree.linesAt? place).or (firstIn? tree name rest)
    | .error .notFound => firstIn? tree name rest
    | .error _ => none

/-- What can be read from the file of a name that is nearest to the working directory, upwards. -/
def nearest? (tree : FileTree) (name : String) : Option String :=
  tree.firstIn? name tree.foldersUp

def pathOf (tree : FileTree) : Place → String
  | .outside => "/"
  | .inside names =>
    if tree.base.isEmpty && names.isEmpty then "/" else "/".intercalate (tree.base :: names)

def size (tree : FileTree) : Nat := tree.entries.length

end FileTree

end BrowserScript
