import HostInventory.Provider.Error

/-!
# Why an inventory is incomplete
-/

namespace HostInventory

/-- Why an inventory could not be taken, or an item of it not be used. -/
inductive InventoryError where
  /-- A scan found nothing usable. -/
  | scanFailed (reason : String)
  /-- A package of a kind that is not understood. -/
  | unsupported (name kind : String)
  /-- A file could not be read. -/
  | unreadable (path message : String)
  /-- A query for packages failed. -/
  | query (cause : QueryError)
  /-- The parts of a collector do not go together. -/
  | configuration (message : String)
deriving Repr, DecidableEq

namespace InventoryError

def message : InventoryError → String
  | scanFailed reason => "scan failed, failure reason: " ++ reason
  | unsupported name kind =>
    "unsupported inventory item " ++ Text.quoted name ++ ": metadata kind " ++ Text.quoted kind
  | unreadable path message => "failed to read " ++ path ++ ": " ++ message
  | query cause => cause.message
  | configuration message => "invalid configuration: " ++ message

def isPerItem : InventoryError → Bool
  | unsupported _ _ => true
  | _ => false

def isNotFound : InventoryError → Bool
  | query cause => cause.isNotFound
  | _ => false

end InventoryError

end HostInventory
