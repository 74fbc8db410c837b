import HostInventory.Provider.Basic
import HostInventory.Text.Blank
import HostInventory.Text.Cut

/-!
# Updates of yum

`yum check-update` tells by its status whether anything is pending. If so, a dry run on a terminal
prints the transaction as a table of sections, each under a heading that ends in a colon. Records
are taken from the sections that install or upgrade; the summary ends the table.
-/

namespace HostInventory.Yum

def program : String :=
  "/usr/bin/yum"

/-- The status of `check-update` when updates are pending. -/
def updatesAvailable : Int :=
  100

/-- The status of the dry run after it has printed the transaction. -/
def dryRunAborted : Int :=
  1

/-- Whether a line is a heading: at most three words, the last of them ending in a colon. -/
def isHeading (line : List Char) : Bool :=
  line.getLast? == some ':' && (Text.words line).length ≤ 3

/-- Whether the section under a heading lists what will be installed. -/
def isWanted (heading : List Char) : Bool :=
  Text.hasPrefix "Installing".toList heading || Text.hasPrefix "Upgrading".toList heading ||
    Text.hasPrefix "Updating".toList heading

/-- Whether a line starts the summary that ends the table. -/
def isSummary (line : List Char) : Bool :=
  Text.hasPrefix "Transaction Summary".toList line

/-- The record of a row: its first three of at least five words. -/
def rowPackage? (line : List Char) : Option Package :=
  match Text.words line with
  | name :: arch :: version :: _ :: _ :: _ =>
    if name = "replacing".toList then none
    else some (.ofFields (String.ofList name) (String.ofList arch) (String.ofList version))
  | _ => none

/-- The records of trimmed lines, standing inside a wanted section or not. -/
def collect (wanted : Bool) : List (List Char) → List Package
  | [] => []
  | line :: rest =>
    if line.isEmpty then collect wanted rest
    else if isSummary line then []
    else if isHeading line then collect (isWanted line) rest
    else if wanted then (rowPackage? line).toList ++ collect wanted rest
    else collect wanted rest

def parseUpdates (data : Octets) : List Package :=
  collect false ((Text.lines (Utf8.lossyChars data)).map Text.trim)

structure Options where
  security : Bool
  minimal : Bool
deriving Repr, DecidableEq

/-- The command that tells whether updates are pending. -/
def checkCommand (timeout : Option Duration) : Command :=
  .bounded timeout program ["check-update", "--assumeyes"]

def dryRunCommand (options : Options) (timeout : Option Duration) : Command :=
  .bounded timeout program
    ([if options.minimal then "update-minimal" else "update", "--assumeno", "--cacheonly",
      "--color=never"] ++ if options.security then ["--security"] else [])

/-- Whether updates are pending, by the result of `check-update`. -/
def pending (c : Command) : Except CommandError CommandOutput → Except QueryError Bool
  | .ok _ => .ok false
  | .error e => if e.exitCode? = some updatesAvailable then .ok true else .error (.ofCommand c e)

/-- What the dry run printed, by its result. -/
def transcript (c : Command) : Except CommandError CommandOutput → Except QueryError Octets
  | .ok output => .ok output.stdout
  | .error e =>
    if e.exitCode? = some dryRunAborted then .ok ((e.output?.map (·.stdout)).getD [])
    else .error (.ofCommand c e)

/-- Asks for the updates; the dry run goes through the runner with a terminal. -/
def updates {m : Type → Type} [Monad m] [MonadLog m] (runner terminalRunner : Runner m)
    (options : Options) (timeout : Option Duration) : m (Except QueryError (List Package)) := do
  let check := checkCommand timeout
  match pending check (← runner.run check) with
  | .error e => return .error e
  | .ok false =>
    report ⟨.debug, "no updates available", []⟩
    return .ok []
  | .ok true =>
    let dryRun := dryRunCommand options timeout
    match transcript dryRun (← terminalRunner.run dryRun) with
    | .error e => return .error e
    | .ok stdout =>
      let packages := parseUpdates stdout
      report (countEvent "yum updates parsed" packages)
      return .ok packages

def provider {m : Type → Type} [Monad m] [MonadLog m] (reader : FileReader m)
    (runner terminalRunner : Runner m) (options : Options)
    (timeout : Option Duration) : Provider m where
  manager := .yum
  isAvailable := reader.has program
  packages := updates runner terminalRunner options timeout

end HostInventory.Yum
