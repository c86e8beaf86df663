import RouteWrap.Files.Host
import RouteWrap.Files.Path

/-!
Files and directories held in memory. `Disk.host` runs programs on them from a working directory;
a write changes the content of one file at most, and one that is refused changes nothing. What is
printed is taken and leaves the disk as it is.
-/

namespace RouteWrap

inductive Stored
  | directory
  | file (content : ByteArray)
deriving Inhabited

/-- Items by the names that lead to them from the root, which is always there. -/
structure Disk where
  items : List (List String × Stored)
deriving Inhabited

namespace Disk

def empty : Disk := ⟨[]⟩

def item? (d : Disk) (place : List String) : Option Stored :=
  if place.isEmpty then some .directory
  else (d.items.find? fun i => i.1 == place).map Prod.snd

def put (d : Disk) (place : List String) (i : Stored) : Disk :=
  ⟨if d.items.any (·.1 == place) then
      d.items.map fun old => if old.1 == place then (place, i) else old
    else d.items ++ [(place, i)]⟩

/-- What a path names: a directory that is there, or a name in one. A path that ends in a slash
asks for a directory under the name. -/
inductive Target
  | directory (place : List String)
  | name (parent : List String) (name : String) (asDirectory : Bool)

def Target.place : Target → List String
  | directory place => place
  | name parent n _ => parent ++ [n]

def walk (d : Disk) : List String → List String → Except FileError (List String)
  | place, [] => .ok place
  | place, "." :: rest => d.walk place rest
  | place, ".." :: rest => d.walk place.dropLast rest
  | place, n :: rest =>
      if 255 < n.utf8ByteSize then .error .longName
      else
        match d.item? (place ++ [n]) with
        | some .directory => d.walk (place ++ [n]) rest
        | some (.file _) => .error .notDirectory
        | none => .error .notFound

def target (d : Disk) (working : List String) (path : String) : Except FileError Target :=
  if path.toList.any (· == '\x00') then .error .zeroInPath
  else if path.isEmpty then .error .notFound
  else
    let start := if Path.isAbsolute path then [] else working
    let names := Path.names path
    match names.getLast? with
    | none => .ok (.directory [])
    | some last => do
        let parent ← d.walk start names.dropLast
        if last == "." then return .directory parent
        else if last == ".." then return .directory parent.dropLast
        else if 255 < last.utf8ByteSize then .error .longName
        else return .name parent last (path.toList.getLast? == some '/')

def readBytes (d : Disk) (working : List String) (path : String) : Except FileError ByteArray := do
  match ← d.target working path with
  | .directory _ => .error .isDirectory
  | .name parent n asDirectory =>
      match d.item? (parent ++ [n]) with
      | some .directory => .error .isDirectory
      | some (.file content) => if asDirectory then .error .notDirectory else .ok content
      | none => .error .notFound

def read (d : Disk) (working : List String) (path : String) : Except FileError String :=
  (d.readBytes working path).bind decode

def isFile (d : Disk) (working : List String) (path : String) : Bool :=
  match d.readBytes working path with
  | .ok _ => true
  | .error _ => false

/-- The place that a write to a path goes to. -/
def writable (d : Disk) (working : List String) (path : String) : Except FileError (List String) := do
  match ← d.target working path with
  | .directory _ => .error .isDirectory
  | .name parent n asDirectory =>
      if asDirectory then .error .isDirectory
      else
        match d.item? (parent ++ [n]) with
        | some .directory => .error .isDirectory
        | _ => .ok (parent ++ [n])

def write (d : Disk) (working : List String) (path content : String) : Except FileError Disk :=
  (d.writable working path).map fun place => d.put place (.file content.toUTF8)

def addDirectory (d : Disk) (place : List String) : Disk :=
  (List.range place.length).foldl (fun d i =>
    let above := place.take (i + 1)
    if (d.item? above).isSome then d else d.put above .directory) d

def addFile (d : Disk) (place : List String) (content : ByteArray) : Disk :=
  (d.addDirectory place.dropLast).put place (.file content)

def host (working : List String) : Host String (StateM Disk) where
  read path := return (← get).readBytes working path
  write path content := do
    match (← get).write working path content with
    | .ok d =>
        set d
        return .ok ()
    | .error e => return .error e
  isFile path := return (← get).isFile working path
  workingDirectory := return Path.ofSteps working
  print _ := return .ok ()

end Disk

end RouteWrap
