import TapPort.Io
import TapPort.Text.Columns
import TapPort.Text.Utf8

namespace TapPort

-- What a path leads to, as far as opening it for reading and writing shows.
inductive FileNode where
  | file
  | directory (entries : List (String × FileNode))

namespace FileNode

def pathLimit : Nat := 4095

def entryLimit : Nat := 255

def emptyDirectory : FileNode := directory []

-- Files such as most systems have, with no TUN device among them.
def ordinary : FileNode :=
  let devices := directory
    [("null", file), ("zero", file), ("full", file), ("random", file), ("urandom", file),
      ("pts", emptyDirectory), ("shm", emptyDirectory)]
  let settings := directory
    [("passwd", file), ("group", file), ("hosts", file), ("hostname", file),
      ("resolv.conf", file)]
  directory
    ([("dev", devices), ("etc", settings)]
      ++ ["bin", "boot", "home", "lib", "media", "mnt", "opt", "proc", "root", "run", "sbin", "srv",
        "sys", "tmp", "usr", "var"].map fun name => (name, emptyDirectory))

-- Follows the names of a path. `above` holds the directories on the way back to the root, the
-- nearest first.
def walk (above : List FileNode) : FileNode → List String → Except Errno FileNode
  | node, [] => .ok node
  | file, _ :: _ => .error .notDirectory
  | directory entries, name :: rest =>
    if name = "" ∨ name = "." then walk above (directory entries) rest
    else if name = ".." then
      match above with
      | [] => walk [] (directory entries) rest
      | parent :: above => walk above parent rest
    else if entryLimit < (Text.utf8 name).length then .error .nameTooLong
    else match entries.lookup name with
      | none => .error .noEntry
      | some node => walk (directory entries :: above) node rest
termination_by structural _ names => names

-- Whether a text can be a path at all: a NUL would end it early.
def isPath (path : String) : Bool := !path.toList.contains '\x00'

-- Opens a path for reading and writing. A path that does not begin at the root begins in a
-- directory without entries.
def openPath (root : FileNode) (path : String) : Except IoError Unit :=
  if !isPath path then
    .error (.custom .invalidInput "file name contained an unexpected NUL byte")
  else if path = "" then .error (.os .noEntry)
  else if pathLimit < (Text.utf8 path).length then .error (.os .nameTooLong)
  else
    let names := (Text.splitAt '/' path.toList).map String.ofList
    let found := if path.toList.head? = some '/' then walk [] root names
      else walk [root] emptyDirectory names
    match found with
    | .error e => .error (.os e)
    | .ok (directory _) => .error (.os .isDirectory)
    | .ok file => .ok ()

end FileNode

end TapPort
