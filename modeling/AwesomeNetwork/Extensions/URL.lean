import AwesomeNetwork.Foundation
import Mathlib.Logic.Function.Basic

/-! # Offline files

The place of a downloaded file is the last path component of its URL inside a
folder of the documents directory. The file system is a tree of files and
directories by resolved path; every operation on it may also fail for reasons
outside the tree, which the callers choose. Only the removal of a directory can
fail half-way.
-/

namespace AwesomeNetwork

/-- A file URL, by its path components below the container of the application. -/
abbrev FilePath := List String

/-- What is at a path: a file with its bytes, or a directory. -/
inductive FileNode where
  | file (contents : Data)
  | directory
deriving DecidableEq, Repr

/-- The files and directories, by their resolved paths. -/
structure FileSystem where
  nodes : FilePath → Option FileNode

/-- How a removal ends: it goes through, or it fails after it has removed the given items
below its own, each with everything below it. -/
inductive Removal where
  | succeeds
  | fails (removed : List FilePath)
deriving DecidableEq, Repr

/-- The removal of the item takes the path away. -/
def Removal.takes (item : FilePath) : Removal → FilePath → Bool
  | .succeeds, path => item.isPrefixOf path
  | .fails removed, path => removed.any fun below =>
      item.isPrefixOf below && item != below && below.isPrefixOf path

namespace FilePath

/-- `appendingPathComponent(_:)`; a component with slashes appends several. -/
def appendingPathComponent (path : FilePath) (component : String) : FilePath :=
  path ++ ((component.toList.splitOn '/').filter (· ≠ [])).map String.ofList

/-- The path without its `"."` and `".."`. -/
def resolved (path : FilePath) : FilePath :=
  path.foldl (fun parents component =>
    if component = "." then parents
    else if component = ".." then parents.dropLast
    else parents ++ [component]) []

end FilePath

namespace FileSystem

/-- The file system with an empty documents directory. -/
def empty : FileSystem where
  nodes path := if path = [] ∨ path = ["Documents"] then some .directory else none

/-- `fileExists(atPath:)`, which is true of a directory too. -/
def fileExists (files : FileSystem) (path : FilePath) : Bool := (files.nodes path.resolved).isSome

/-- `createDirectory(at:withIntermediateDirectories: true)`; nothing is created
through a file. -/
def createDirectory (files : FileSystem) (path : FilePath) : FileSystem :=
  if path.resolved.inits.any fun parents =>
      match files.nodes parents with
      | some (.file _) => true
      | _ => false then files
  else
    { nodes := fun other =>
        if other.isPrefixOf path.resolved then some .directory else files.nodes other }

/-- `moveItem(at:to:)` of a file outside the tree; it needs a directory to go to and
does not overwrite. -/
def moveItem (files : FileSystem) (contents : Data) (target : FilePath) : Option FileSystem :=
  if files.fileExists target = false ∧ files.nodes target.resolved.dropLast = some .directory then
    some { nodes := Function.update files.nodes target.resolved (some (.file contents)) }
  else none

/-- `removeItem(at:)`: the item goes with everything below it, or some of what is below it
is gone when the removal fails. -/
def removeItem (files : FileSystem) (path : FilePath) (removal : Removal) : FileSystem where
  nodes other := if removal.takes path.resolved other then none else files.nodes other

end FileSystem

namespace URL

/-- `documentsDirectory`. -/
def documentsDirectory : FilePath := ["Documents"]

/-- `URL.destination(for:)`. -/
def destination (folder : String) : FilePath := documentsDirectory.appendingPathComponent folder

/-- `url.offlineFileDestination(withFolder:)`; without a folder the file is in the documents
directory itself. -/
def offlineFileDestination (url : URL) (folder : Option String) : FilePath :=
  match folder with
  | some folder => (destination folder).appendingPathComponent url.lastPathComponent
  | none => documentsDirectory.appendingPathComponent url.lastPathComponent

/-- `createFolder()`, whose error is only printed. -/
def createFolder (path : FilePath) (files : FileSystem) : FileSystem := files.createDirectory path

/-- `url.offlineFileExists(withFolder:)`. -/
def offlineFileExists (url : URL) (files : FileSystem) (folder : Option String) : Bool :=
  files.fileExists (url.offlineFileDestination folder)

/-- The file when it is there, the URL itself otherwise. -/
def offlineURLIfAvailable (url : URL) (files : FileSystem) (folder : Option String) :
    URL ⊕ FilePath :=
  if url.offlineFileExists files folder then .inr (url.offlineFileDestination folder)
  else .inl url

/-- `deleteOfflineFile(withFolder:)`, with how the removal of an existing file ends. -/
def deleteOfflineFile (url : URL) (files : FileSystem) (folder : Option String)
    (removal : Removal) : Bool × FileSystem :=
  if url.offlineFileExists files folder then
    (removal = .succeeds, files.removeItem (url.offlineFileDestination folder) removal)
  else (false, files)

/-- `moveOfflineFile(to:completion:)` of a file with the given contents, where `moves`
says whether a possible move goes through; the flag is what the completion gets. -/
def moveOfflineFile (contents : Data) (target : FilePath) (files : FileSystem) (moves : Bool) :
    Bool × FileSystem :=
  match files.moveItem contents target with
  | some moved => if moves then (true, moved) else (false, files)
  | none => (false, files)

end URL

end AwesomeNetwork
