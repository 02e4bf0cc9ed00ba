import StorageTypes.Dictionary
import StorageTypes.Text.Lines
import StorageTypes.Text.Quoted

namespace StorageTypes.Cli

/-- Why a file cannot be read or written. -/
inductive FileFault where
  | absent (path : String)
  | noParent (path : String)
  | isDirectory (path : String)
  | notDirectory (path : String)
  | nameTooLong (path : String)
  | nullCharacter
  deriving DecidableEq, Repr

def FileFault.message : FileFault → String
  | .absent path => "File not found: " ++ path
  | .noParent path => "[Errno 2] No such file or directory: " ++ Text.quoted path
  | .isDirectory path => "[Errno 21] Is a directory: " ++ Text.quoted path
  | .notDirectory path => "[Errno 20] Not a directory: " ++ Text.quoted path
  | .nameTooLong path => "[Errno 36] File name too long: " ++ Text.quoted path
  | .nullCharacter => "embedded null byte"

def pathParts (path : String) : List String :=
  ((Text.pieces '/' path.toList).map String.ofList).filter fun part => part != "" && part != "."

/-- The slashes at the start of a path that count: one or none, but two if there are exactly two. -/
def rootSlashes (path : String) : String :=
  match (path.toList.takeWhile (· == '/')).length with
  | 0 => ""
  | 2 => "//"
  | _ => "/"

def plainPath (path : String) : String :=
  let plain := rootSlashes path ++ Text.join "/" (pathParts path)
  if plain = "" then "." else plain

def nameLimit : Nat := 255

def pathLimit : Nat := 4095

/-- A place among the files: below the working directory, or elsewhere, by its way from the root. -/
inductive Place where
  | inside (parts : List String)
  | outside (parts : List String)
  deriving DecidableEq, Repr

def parentDirectory : List String := ["tmp"]

/-- The place that a part of a path leads to. Two points lead up, and from the root to itself. -/
def Place.step (part : String) : Place → Place
  | .inside parts =>
    if part != ".." then .inside (parts ++ [part])
    else if parts.isEmpty then .outside parentDirectory
    else .inside parts.dropLast
  | .outside parts =>
    if part != ".." then .outside (parts ++ [part]) else .outside parts.dropLast

def startOf (path : String) : Place :=
  if rootSlashes path = "" then .inside [] else .outside []

def Place.path : Place → String
  | .inside parts => Text.join "/" parts
  | .outside parts => "/" ++ Text.join "/" parts

/-- What is at a place. A sink is empty and stays empty. -/
inductive Entry where
  | nothing
  | directory
  | file (text : String)
  | sink
  deriving DecidableEq, Repr

def systemDirectories : List String :=
  ["bin", "boot", "dev", "etc", "home", "lib", "media", "mnt", "opt", "proc", "root", "run", "sbin",
   "srv", "sys", "tmp", "usr", "var"]

def systemEntry : List String → Entry
  | [] => .directory
  | [name] => if systemDirectories.contains name then .directory else .nothing
  | parts => if parts = ["dev", "null"] then .sink else .nothing

inductive WalkFault where
  | missing
  | blocked
  | tooLong
  deriving DecidableEq, Repr

/-- The texts of files by their plain paths, below the working directory or elsewhere. -/
structure Disk where
  texts : Dictionary String := []
  deriving DecidableEq, Repr

namespace Disk

def files (disk : Disk) : Dictionary String :=
  disk.texts.filter fun entry => rootSlashes entry.1 = ""

def isDirectory (disk : Disk) (parts : List String) : Bool :=
  parts.isEmpty || (Dictionary.names disk.files).any fun name =>
    let other := pathParts name
    parts.isPrefixOf other && parts.length < other.length

def fileAt (disk : Disk) (place : Place) : Entry :=
  match Dictionary.find? place.path disk.texts with
  | some text => .file text
  | none => .nothing

def entry (disk : Disk) : Place → Entry
  | .inside parts =>
    if disk.isDirectory parts then .directory else disk.fileAt (.inside parts)
  | .outside parts =>
    if systemEntry parts = .nothing then disk.fileAt (.outside parts) else systemEntry parts

/-- The place that parts lead to from a place. The last part may lead to nothing. -/
def walk (disk : Disk) (place : Place) : List String → Except WalkFault Place
  | [] => .ok place
  | part :: rest =>
    match disk.entry place with
    | .nothing => .error .missing
    | .file _ => .error .blocked
    | .sink => .error .blocked
    | .directory =>
      if nameLimit < part.utf8ByteSize then .error .tooLong
      else disk.walk (place.step part) rest

def locate (disk : Disk) (path : String) : Except WalkFault Place :=
  if pathLimit < (plainPath path).utf8ByteSize then .error .tooLong
  else disk.walk (startOf path) (pathParts path)

def holdsNull (path : String) : Bool :=
  path.toList.contains '\x00'

/-- The text at a path. A path that leads nowhere and one with the null character are absent. -/
def read (disk : Disk) (path : String) : Except FileFault String :=
  if holdsNull path then .error (.absent path)
  else
    match disk.locate path with
    | .error .tooLong => .error (.nameTooLong (plainPath path))
    | .error _ => .error (.absent path)
    | .ok place =>
      match disk.entry place with
      | .nothing => .error (.absent path)
      | .directory => .error (.isDirectory (plainPath path))
      | .file text => .ok text
      | .sink => .ok ""

def put (disk : Disk) (place : Place) (text : String) : Disk :=
  ⟨Dictionary.put place.path text disk.texts⟩

def write (disk : Disk) (path text : String) : Except FileFault Disk :=
  let plain := plainPath path
  if holdsNull path then .error .nullCharacter
  else
    match disk.locate path with
    | .error .tooLong => .error (.nameTooLong plain)
    | .error .missing => .error (.noParent plain)
    | .error .blocked => .error (.notDirectory plain)
    | .ok place =>
      match disk.entry place with
      | .directory => .error (.isDirectory plain)
      | .sink => .ok disk
      | _ => .ok (disk.put place text)

end Disk

end StorageTypes.Cli
