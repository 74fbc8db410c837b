import HostInventory.Toml.Basic

/-!
# Tables under construction

A document defines its tables bit by bit: by headers, by the names in front of the last dot of a
key, and whole in one value. Who may add to a table depends on how it came about, so a table under
construction remembers that. A value is closed: nothing is ever added to a table or an array that
stands in a value.
-/

namespace HostInventory.Toml

inductive Origin where
  /-- On the way to a table with a header. -/
  | implied
  /-- By the names in front of the last dot of a key. -/
  | dotted
  /-- By a header of its own. -/
  | declared
deriving Repr, DecidableEq

/-- What a name stands for while a document is read. -/
inductive Node where
  /-- A value that nothing is added to. -/
  | closed (value : Toml)
  | table (origin : Origin) (members : List (String × Node))
  /-- Tables with one header, the last of which is still open. -/
  | tables (before : List (List (String × Node))) (last : List (String × Node))
deriving Repr

/-- The members of a table under construction. -/
abbrev Members := List (String × Node)

/-- Sets a member, in its old position if it is there. -/
def Members.set (name : String) (node : Node) : Members → Members
  | [] => [(name, node)]
  | (n, old) :: rest =>
    if n = name then (n, node) :: rest else (n, old) :: Members.set name node rest

/-- Changes the table that names lead to. Missing tables on the way come about as `origin` says; a
table with a header of its own is passed through only when `origin` is not `dotted`. -/
def descend (origin : Origin) (change : Origin → Members → Option Members) :
    List String → Origin → Members → Option Members
  | [], own, members => change own members
  | name :: path, _, members =>
    match members.lookup name with
    | none => do
      let inner ← descend origin change path origin []
      return members.set name (.table origin inner)
    | some (.table own inner) =>
      if origin = .dotted ∧ own = .declared then none
      else do
        let inner ← descend origin change path own inner
        return members.set name (.table own inner)
    | some (.tables before last) => do
      let last ← descend origin change path .declared last
      return members.set name (.tables before last)
    | some (.closed _) => none

/-- Adds a value under a key. A table that came about by dots takes names only by dots, and no
other table does. -/
def addValue (path : List String) (name : String) (value : Toml) (own : Origin)
    (members : Members) : Option Members :=
  descend .dotted (fun own members =>
    if (own = .dotted) = path.isEmpty then none
    else if (members.lookup name).isSome then none
    else some (members.set name (.closed value))) path own members

def openTable (path : List String) (name : String) (members : Members) : Option Members :=
  descend .implied (fun _ members =>
    match members.lookup name with
    | none => some (members.set name (.table .declared []))
    | some (.table .implied inner) => some (members.set name (.table .declared inner))
    | some _ => none) path .declared members

/-- Opens one more table of a header that stands for several. -/
def openNext (path : List String) (name : String) (members : Members) : Option Members :=
  descend .implied (fun _ members =>
    match members.lookup name with
    | none => some (members.set name (.tables [] []))
    | some (.tables before last) => some (members.set name (.tables (before ++ [last]) []))
    | some _ => none) path .declared members

/-- Changes the table that the last header opened. -/
def inOpened (change : Origin → Members → Option Members) :
    List String → Origin → Members → Option Members
  | [], own, members => change own members
  | name :: path, _, members =>
    match members.lookup name with
    | some (.table own inner) => do
      return members.set name (.table own (← inOpened change path own inner))
    | some (.tables before last) => do
      return members.set name (.tables before (← inOpened change path .declared last))
    | _ => none

mutual

def Node.close : Node → Toml
  | .closed value => value
  | .table _ members => .table (closeMembers members)
  | .tables before last => .array (closeTables before ++ [.table (closeMembers last)])

def closeMembers : List (String × Node) → List (String × Toml)
  | [] => []
  | (name, node) :: rest => (name, node.close) :: closeMembers rest

def closeTables : List (List (String × Node)) → List Toml
  | [] => []
  | members :: rest => .table (closeMembers members) :: closeTables rest

end

end HostInventory.Toml
