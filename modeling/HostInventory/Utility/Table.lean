import HostInventory.Process.Image
import HostInventory.Utility.Condition
import HostInventory.Utility.Print
import HostInventory.Utility.Stream

/-!
# The utilities by name

The utilities that a machine always has, and the directory where their files stand.
-/

namespace HostInventory.Utility

/-- Shows the size of the terminal that it reads. -/
def stty (c : Call) : Work :=
  if !c.terminals.contains 0 then
    c.complains "'standard input': Inappropriate ioctl for device" 1
  else if c.args = ["size"] then
    c.prints (Decimal.text c.rows ++ " " ++ Decimal.text c.columns ++ "\n")
  else c.ends 0

def tty (c : Call) : Work :=
  if c.terminals.contains 0 then c.prints "/dev/pts/0\n"
  else c.writes (Utf8.encode "not a tty\n") 1

def placeText (place : Place) : String :=
  "/" ++ "/".intercalate place

def pwd (c : Call) : Work :=
  c.prints (placeText c.tree.cwd ++ "\n")

/-- The utilities that are programs of their own, shells apart. -/
def table : List (String × (Call → Work)) := [
  ("[", bracket), ("cat", cat), ("echo", plainEcho), ("false", fun c => c.ends 1), ("head", head),
  ("printf", printf), ("pwd", pwd), ("seq", seq), ("sleep", sleep), ("stty", stty), ("test", test),
  ("true", fun c => c.ends 0), ("tty", tty), ("wc", wc), ("yes", yes)]

def shellNames : List String :=
  ["dash", "sh"]

def builtIn? : String → Option (Call → Work)
  | "echo" => some shellEcho
  | ":" => some fun c => c.ends 0
  | name => if ["[", "false", "printf", "pwd", "test", "true"].contains name then table.lookup name
    else none

/-- What every machine has beside the files of its utilities. -/
def furniture : List (Place × Entry) := [
  (["usr"], .directory 0o755), (["usr", "bin"], .directory 0o755), (["bin"], .link "usr/bin"),
  (["tmp"], .directory 0o1777), (["dev"], .directory 0o755), (["dev", "null"], .file 0o666 []),
  (["dev", "zero"], .file 0o666 [])]

/-- A tree with the files of all utilities in it. -/
def install (t : FileTree) : FileTree :=
  let utilities := (table.map (·.1) ++ shellNames).map fun name =>
    (["usr", "bin", name], Entry.file 0o755 Image.magic)
  (furniture ++ utilities).foldl (fun t (place, entry) => t.put place entry) t

end HostInventory.Utility
