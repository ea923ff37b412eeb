import PodInventory.Worker.Error

namespace PodInventory

inductive StoreError
  | notFound (detail : String)
  | conflict (detail : String)
  | internal (detail : String)
  deriving DecidableEq, Inhabited

def StoreError.text : StoreError → String
  | .notFound detail => "not found: " ++ detail
  | .conflict detail => "conflict: " ++ detail
  | .internal detail => "internal: " ++ detail

/-- Why a discovery or a sync came to nothing. -/
inductive SyncError
  | noViableWorker (causes : Dict WorkerError)
  | invalidTarget (detail : String)
  | persistenceConflict (detail : String)
  | persistence (detail : String)
  deriving DecidableEq, Inhabited

namespace SyncError

def ofStore : StoreError → SyncError
  | .notFound detail | .conflict detail => .persistenceConflict detail
  | .internal detail => .persistence detail

/-- The failure that speaks for all of them, that of the lowest worker id. -/
def representative? : SyncError → Option (WorkerId × WorkerError)
  | .noViableWorker causes => causes.first?
  | _ => none

def text : SyncError → String
  | .noViableWorker causes =>
    match causes.first? with
    | some (_, e) => e.text
    | none => "no workers available to discover the target"
  | .invalidTarget detail => "invalid target: " ++ detail
  | .persistenceConflict detail => "persistence conflict: " ++ detail
  | .persistence detail => "persistence error: " ++ detail

def isDiscoveryFailure : SyncError → Bool
  | .noViableWorker _ => true
  | _ => false

def isPersistenceFailure : SyncError → Bool
  | .persistenceConflict _ | .persistence _ => true
  | _ => false

end SyncError

end PodInventory
