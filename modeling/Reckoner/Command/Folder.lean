/-! File lookup by path, component by component. -/
namespace Reckoner.Command

inductive ReadFailure where
  | notFound
  | notFolder
  | isFolder
  | nameTooLong
  | other (text : String)
  deriving DecidableEq, Repr

def ReadFailure.message : ReadFailure → String
  | notFound => "No such file or directory (os error 2)"
  | notFolder => "Not a directory (os error 20)"
  | isFolder => "Is a directory (os error 21)"
  | nameTooLong => "File name too long (os error 36)"
  | other text => text

structure Folder where
  files : List (String × ByteArray)

namespace Folder

inductive Place where
  | here
  | elsewhere
  | root
  | devices
  | file (contents : ByteArray)

/-- Directories at the root of every system, devices excluded. -/
def rootFolders : List String :=
  ["bin", "boot", "etc", "home", "lib", "media", "mnt", "opt", "proc", "root", "run", "sbin", "srv",
    "sys", "tmp", "usr", "var"]

def maxName : Nat := 255

/-- Exclusive bound, in bytes. -/
def maxPath : Nat := 4096

/-- Lookup of a component. The only known device is the null device, which is empty. -/
def find? (f : Folder) (place : Place) (name : String) : Option Place :=
  match place with
  | .here => (f.files.lookup name).map .file
  | .root =>
    if name = "dev" then some .devices
    else if name ∈ rootFolders then some .elsewhere
    else none
  | .devices => if name = "null" then some (.file .empty) else none
  | _ => none

def parent : Place → Place
  | .root => .root
  | .devices => .root
  | _ => .elsewhere

def step (f : Folder) (place : Place) (part : String) : Except ReadFailure Place :=
  match place with
  | .file _ => .error .notFolder
  | place =>
    if part = "" ∨ part = "." then .ok place
    else if part = ".." then .ok (parent place)
    else if maxName < part.utf8ByteSize then .error .nameTooLong
    else
      match f.find? place part with
      | some place => .ok place
      | none => .error .notFound

def read (f : Folder) (path : String) : Except ReadFailure ByteArray := do
  if maxPath ≤ path.utf8ByteSize then throw .nameTooLong
  let start := if path.toList.head? = some '/' then Place.root else .here
  match ← (path.splitOn "/").foldlM f.step start with
  | .file contents => return contents
  | _ => throw .isFolder

end Folder

end Reckoner.Command
