import JsonClasses.Disk.Path

/-! # Files and directories

Every file and every directory has a location, the list of the names that lead to it from the root.
Paths are followed name by name. -/
namespace JsonClasses

inductive DiskError
  | notFound
  | alreadyExists
  | notDirectory
  | isDirectory
  | notUtf8
  /-- Anything else that a system may report, in its words. -/
  | other (report : String)
  deriving DecidableEq, Repr

def DiskError.message : DiskError → String
  | notFound => "No such file or directory (os error 2)"
  | alreadyExists => "File exists (os error 17)"
  | notDirectory => "Not a directory (os error 20)"
  | isDirectory => "Is a directory (os error 21)"
  | notUtf8 => "stream did not contain valid UTF-8"
  | other report => report

inductive Entry
  | directory
  | file (content : ByteArray)

abbrev Location := List String

structure Disk where
  entries : List (Location × Entry)
  /-- Where relative paths start. -/
  current : Location

namespace Disk

/-- What is at a location; the root is a directory. -/
def entry? (disk : Disk) (location : Location) : Option Entry :=
  if location = [] then some .directory else disk.entries.lookup location

def isDirectoryAt (disk : Disk) (location : Location) : Bool :=
  match disk.entry? location with
  | some .directory => true
  | _ => false

def putEntry (entries : List (Location × Entry)) (location : Location) (entry : Entry) :
    List (Location × Entry) :=
  match entries with
  | [] => [(location, entry)]
  | (l, e) :: rest =>
      if l = location then (l, entry) :: rest else (l, e) :: putEntry rest location entry

def put (disk : Disk) (location : Location) (entry : Entry) : Disk :=
  { disk with entries := putEntry disk.entries location entry }

/-! ## Following paths -/

/-- Follows the parts of a path. Each but the last has to lead to a directory; an empty part and
`.` stay there, `..` goes up. -/
def follow (disk : Disk) (start : Location) : List String → Except DiskError Location
  | [] => .ok start
  | part :: rest =>
      if !disk.isDirectoryAt start then .error .notDirectory
      else if part = "" ∨ part = "." then disk.follow start rest
      else if part = ".." then disk.follow start.dropLast rest
      else match disk.entry? (start ++ [part]) with
        | none => .error .notFound
        | some _ => disk.follow (start ++ [part]) rest

def startOf (disk : Disk) (path : String) : Location :=
  if Path.isAbsolute path then [] else disk.current

/-- The location that a path leads to, if there is something. -/
def locate (disk : Disk) (path : String) : Except DiskError Location :=
  if path.isEmpty then .error .notFound else disk.follow (disk.startOf path) (Path.parts path)

def pathExists (disk : Disk) (path : String) : Bool := (disk.locate path).isOk

/-- What a path leads to. -/
def find (disk : Disk) (path : String) : Except DiskError Entry :=
  match disk.locate path with
  | .error e => .error e
  | .ok location =>
      match disk.entry? location with
      | none => .error .notFound
      | some entry => .ok entry

def isFile (disk : Disk) (path : String) : Bool :=
  match disk.find path with
  | .ok (.file _) => true
  | _ => false

def isDirectory (disk : Disk) (path : String) : Bool :=
  match disk.find path with
  | .ok .directory => true
  | _ => false

def readFile (disk : Disk) (path : String) : Except DiskError ByteArray :=
  match disk.find path with
  | .error e => .error e
  | .ok .directory => .error .isDirectory
  | .ok (.file content) => .ok content

/-! ## Changes -/

/-- The directory that would hold what a path names, and the name; nothing for the name if the path
does not end in one. Slashes at the end do not count. -/
def place (disk : Disk) (path : String) : Except DiskError (Location × Option String) :=
  let parts := Path.namedParts path
  match disk.follow (disk.startOf path) parts.dropLast with
  | .error e => .error e
  | .ok directory =>
      if !disk.isDirectoryAt directory then .error .notDirectory
      else .ok (directory, parts.getLast?.filter fun name => name != "." && name != "..")

/-- Makes one directory. -/
def makeDirectory (disk : Disk) (path : String) : Except DiskError Disk :=
  if path.isEmpty then .error .notFound
  else match disk.place path with
    | .error e => .error e
    | .ok (_, none) => .error .alreadyExists
    | .ok (directory, some name) =>
        let location := directory ++ [name]
        if (disk.entry? location).isSome then .error .alreadyExists
        else .ok (disk.put location .directory)

/-- Makes the directories of a list, one after the other; those that exist are left alone. A
failure keeps what was made before it. -/
def makeEach (disk : Disk) : List String → Except (DiskError × Disk) Disk
  | [] => .ok disk
  | path :: rest =>
      match disk.makeDirectory path with
      | .ok disk => disk.makeEach rest
      | .error e =>
          if e = .alreadyExists ∧ disk.isDirectory path then disk.makeEach rest
          else .error (e, disk)

/-- Goes up the ancestors of a path until one can be made or is there, and makes those below it;
`missing` are the paths passed on the way, topmost first. -/
def makeUpwards (disk : Disk) (missing : List String) :
    List String → Except (DiskError × Disk) Disk
  | [] => disk.makeEach missing
  | path :: rest =>
      if path.isEmpty ∨ (Path.parent? path).isNone then disk.makeEach missing
      else match disk.makeDirectory path with
        | .ok disk => disk.makeEach missing
        -- its parent is missing too
        | .error .notFound => disk.makeUpwards (path :: missing) rest
        | .error e =>
            if e = .alreadyExists ∧ disk.isDirectory path then disk.makeEach missing
            else .error (e, disk)

/-- Makes a directory with all directories on the way to it. -/
def makeDirectories (disk : Disk) (path : String) : Except (DiskError × Disk) Disk :=
  disk.makeUpwards [] (Path.ancestors path)

/-- Writes a file, new or in place of an old one. A path with a slash at its end names none. -/
def writeFile (disk : Disk) (path : String) (content : ByteArray) : Except DiskError Disk :=
  if path.isEmpty then .error .notFound
  else match disk.place path with
    | .error e => .error e
    | .ok (_, none) => .error .isDirectory
    | .ok (directory, some name) =>
        let location := directory ++ [name]
        if Path.endsInSlash path ∨ disk.isDirectoryAt location then .error .isDirectory
        else .ok (disk.put location (.file content))

end Disk
end JsonClasses
