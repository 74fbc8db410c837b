import HostInventory.Text.Decimal

/-!
# Log events

What the library says while it works: a level, a message, and named fields in the order in which
they are given. Events are values; who listens decides where they go.
-/

namespace HostInventory

inductive Level where
  | trace
  | debug
  | info
  | warn
  | error
deriving Repr, DecidableEq, Inhabited

namespace Level

/-- The name of a level in capital letters. -/
def name : Level → String
  | trace => "TRACE"
  | debug => "DEBUG"
  | info => "INFO"
  | warn => "WARN"
  | error => "ERROR"

/-- Levels by weight, the least important first. -/
def weight : Level → Nat
  | trace => 0
  | debug => 1
  | info => 2
  | warn => 3
  | error => 4

end Level

inductive FieldValue where
  | text (s : String)
  | count (n : Nat)
  | flag (b : Bool)
deriving Repr, DecidableEq

namespace FieldValue

def plain : FieldValue → String
  | text s => s
  | count n => Decimal.text n
  | flag true => "true"
  | flag false => "false"

end FieldValue

structure Event where
  level : Level
  message : String
  fields : List (String × FieldValue)
deriving Repr, DecidableEq

class MonadLog (m : Type → Type) where
  report : Event → m Unit

export MonadLog (report)

def reportAll {m : Type → Type} [Monad m] [MonadLog m] : List Event → m Unit
  | [] => pure ()
  | e :: rest => do
    report e
    reportAll rest

end HostInventory
