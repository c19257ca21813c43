import Workflow.Entries

/-!
# Folders of workflow files

Workflow files are the files of a folder whose names end in `.yaml` or `.yml`, in the order of their
names. A folder that does not exist has none.
-/

namespace Workflow

/-- A file with its bytes, or a folder with its entries. -/
inductive FileTree where
  | file (bytes : ByteArray)
  | folder (children : List (String × FileTree))

/-- Why a file or a folder cannot be read. -/
inductive ReadFault where
  | notAFolder
  | notText
  deriving DecidableEq, Repr

def ReadFault.message : ReadFault → String
  | notAFolder => "Not a directory (os error 20)"
  | notText => "stream did not contain valid UTF-8"

namespace FileTree

/-- The entry at the end of a path that goes on from a tree; `above` holds the folders
around it, the innermost first. Only folders have entries, and what is above the
outermost folder is that folder. -/
def walk (above : List FileTree) : FileTree → List String → Option FileTree
  | tree, [] => some tree
  | file _, _ :: _ => none
  | folder children, name :: rest =>
    if name = "" || name = "." then walk above (folder children) rest
    else if name = ".." then
      match above with
      | parent :: above => walk above parent rest
      | [] => walk [] (folder children) rest
    else
      match Entries.get? children name with
      | some tree => walk (folder children :: above) tree rest
      | none => none
termination_by _ path => path.length

def at? (tree : FileTree) (path : List String) : Option FileTree := walk [] tree path

def bytes? : FileTree → Option ByteArray
  | file bytes => some bytes
  | folder _ => none

end FileTree

namespace WorkflowFile

/-- What follows the last dot of a file name; a name with no dot but at its
beginning has no extension. -/
def extension? (name : String) : Option String :=
  let reversed := name.toList.reverse
  match reversed.dropWhile (· ≠ '.') with
  | '.' :: _ :: _ => some (String.ofList (reversed.takeWhile (· ≠ '.')).reverse)
  | _ => none

/-- Whether a name is one of a workflow file. -/
def isName (name : String) : Bool := extension? name = some "yaml" || extension? name = some "yml"

/-- The workflow files of a folder, sorted by their names. -/
def discover : Option FileTree → Except ReadFault (List (String × ByteArray))
  | none => .ok []
  | some (.file _) => .error .notAFolder
  | some (.folder children) =>
    let files := children.filterMap fun (name, tree) => if isName name then
      tree.bytes?.map (name, ·) else none
    .ok (files.mergeSort fun a b => a.1 ≤ b.1)

def read (bytes : ByteArray) : Except ReadFault String :=
  match String.fromUTF8? bytes with
  | some text => .ok text
  | none => .error .notText

end WorkflowFile

end Workflow
