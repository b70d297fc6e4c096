import Chronicle.File.Path
import Chronicle.Message

/-!
# File trees

The files and directories below the working directory, as far as a run touches them. Every operation
either says what is in the way or returns the tree that it leaves behind.
-/
namespace Chronicle

/-- What is in the way of a file operation. -/
inductive Obstacle where
  | absent | present | notDirectory | directory
  deriving DecidableEq, Repr, Inhabited

/-- The number and the words for an obstacle. -/
def Obstacle.reason : Obstacle → String
  | .absent => "[Errno 2] No such file or directory"
  | .present => "[Errno 17] File exists"
  | .notDirectory => "[Errno 20] Not a directory"
  | .directory => "[Errno 21] Is a directory"

/-- A file operation that failed. -/
structure FileError where
  obstacle : Obstacle
  path : Path
  deriving DecidableEq, Repr, Inhabited

/-- The text of a failed file operation. -/
def FileError.message (e : FileError) : String :=
  e.obstacle.reason ++ ": " ++ Text.quote e.path.text

/-- What is at a place of a tree. -/
inductive FileNode where
  | file (content : Bytes)
  | directory
  deriving DecidableEq, Repr, Inhabited

/-- Files and directories by the names on the way to them, the last change first. The working
directory itself is always there. -/
structure FileTree where
  entries : List (List String × FileNode) := []
  deriving DecidableEq, Repr, Inhabited

namespace FileTree

/-- What is at a place. -/
def find? (t : FileTree) (steps : List String) : Option FileNode :=
  if steps.isEmpty then some .directory else t.entries.lookup steps

/-- Puts something at a place. -/
def put (t : FileTree) (steps : List String) (node : FileNode) : FileTree :=
  ⟨(steps, node) :: t.entries.filter (·.1 != steps)⟩

/-- What is at a place, or why the place cannot be reached, once `done` has been reached. -/
def walk (t : FileTree) (done : List String) : List String → Except Obstacle FileNode
  | [] =>
    match t.find? done with
    | some node => .ok node
    | none => .error .absent
  | name :: rest =>
    match t.find? done with
    | some .directory => t.walk (done ++ [name]) rest
    | some (.file _) => .error .notDirectory
    | none => .error .absent

/-- What is at a place, or why the place cannot be reached. -/
def status (t : FileTree) (steps : List String) : Except Obstacle FileNode :=
  t.walk [] steps

/-- Whether something can be created at a place where nothing is. -/
def hasRoom (t : FileTree) (steps : List String) : Bool :=
  match t.status steps.dropLast with
  | .ok .directory => true
  | _ => false

/-- The content of a file. -/
def read (t : FileTree) (steps : List String) : Except Obstacle Bytes :=
  match t.status steps with
  | .ok (.file content) => .ok content
  | .ok .directory => .error .directory
  | .error o => .error o

/-- The content of the file at a path. A name that goes up can be followed from a directory only. -/
def readPath (t : FileTree) (p : Path) : Except Obstacle Bytes := do
  let climb (done : List String) (name : String) : Except Obstacle (List String) := do
    if name = ".." then
      match ← t.status done with
      | .directory => return Path.step done name
      | .file _ => throw .notDirectory
    else return Path.step done name
  t.read (← p.names.foldlM climb p.start)

/-- Replaces the content of a file by what `change` makes of it; a new file starts empty. -/
def edit (t : FileTree) (steps : List String) (change : Bytes → Bytes) :
    Except Obstacle FileTree :=
  match t.status steps with
  | .ok (.file content) => .ok (t.put steps (.file (change content)))
  | .ok .directory => .error .directory
  | .error .absent =>
    if t.hasRoom steps then .ok (t.put steps (.file (change []))) else .error .absent
  | .error o => .error o

/-- Writes a file anew. -/
def write (t : FileTree) (steps : List String) (content : Bytes) : Except Obstacle FileTree :=
  t.edit steps fun _ => content

/-- Adds to the end of a file. -/
def append (t : FileTree) (steps : List String) (content : Bytes) : Except Obstacle FileTree :=
  t.edit steps (· ++ content)

/-- The places on the way to a place, itself included. -/
def waypoints (steps : List String) : List (List String) :=
  (List.range steps.length).map fun n => steps.take (n + 1)

/-- Makes directories wherever there is nothing on the way to a place. -/
def fill (t : FileTree) (steps : List String) : FileTree :=
  (waypoints steps).foldl
    (fun t place => if (t.find? place).isNone then t.put place .directory else t) t

/-- Makes a directory with all directories on the way to it. A directory that is there already is
left alone. -/
def makeDirectories (t : FileTree) (steps : List String) : Except Obstacle FileTree :=
  match t.status steps with
  | .ok .directory => .ok t
  | .ok (.file _) => .error .present
  | .error .absent => .ok (t.fill steps)
  | .error o => .error o

/-- The tree of some files, with the directories that they are in. -/
def ofFiles (files : List (Path × Bytes)) : FileTree :=
  files.foldl (fun t f =>
    (t.fill f.1.steps.dropLast).put f.1.steps (.file f.2)) {}

/-- The files of a tree with the texts of their paths. -/
def files (t : FileTree) : List (String × Bytes) :=
  t.entries.filterMap fun e =>
    match e.2 with
    | .file content => some (Path.text ⟨"", e.1⟩, content)
    | .directory => none

/-- What has been put into a tree since an earlier state of it, the first change first. -/
def changesSince (t before : FileTree) : List (List String × FileNode) :=
  (t.entries.filter fun e => before.find? e.1 != some e.2).reverse

end FileTree

end Chronicle
