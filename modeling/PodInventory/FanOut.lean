import PodInventory.Note
import PodInventory.Partition
import PodInventory.Worker.Call

namespace PodInventory.FanOut

/-- The first handle of every id. -/
def dispatched : List Worker → List Worker
  | [] => []
  | w :: ws => w :: (dispatched ws).filter (fun v ↦ v.id != w.id)

/-- The handles that are passed over because an earlier one has the same id. -/
def repeated (seen : List WorkerId) : List Worker → List Worker
  | [] => []
  | w :: ws => if seen.contains w.id then w :: repeated seen ws else repeated (w.id :: seen) ws

/-- A worker that acts exactly at its deadline still counts. Deadlines are taken to be moments that
the clock gets to: see `Instant.after?`. -/
def inTime (timeout : Duration) (w : Worker) : Bool :=
  match w.action with
  | .hang => false
  | _ => w.delay ≤ timeout.ticks

def outcome (timeout : Duration) (w : Worker) : Outcome Json :=
  if inTime timeout w then
    match w.action with
    | .reply value => .ok value
    | .fail e => .error e
    | .panic message => .error (.ofPanic message)
    | .hang => .error (.cancelled timeout)
  else .error (.cancelled timeout)

/-- The milliseconds until a worker's call is over. -/
def spent (timeout : Duration) (w : Worker) : Nat :=
  if inTime timeout w then w.delay else timeout.ticks

/-- The calls in the order in which they end. -/
def joined (timeout : Duration) (workers : List Worker) : List Worker :=
  (dispatched workers).mergeSort (fun v w ↦ spent timeout v ≤ spent timeout w)

def result (timeout : Duration) (workers : List Worker) : Partition Json :=
  .ofOutcomes ((joined timeout workers).map (fun w ↦ (w.id, outcome timeout w)))

def elapsed (timeout : Duration) (workers : List Worker) : Nat :=
  (dispatched workers).foldl (fun t w ↦ max t (spent timeout w)) 0

/-- What became of each handle: nothing for one that was not called, else whether its call was
cancelled. -/
def cancellations (timeout : Duration) (seen : List WorkerId) :
    List Worker → List (WorkerId × Option Bool)
  | [] => []
  | w :: ws =>
    if seen.contains w.id then (w.id, none) :: cancellations timeout seen ws
    else (w.id, some !inTime timeout w) :: cancellations timeout (w.id :: seen) ws

def callNotes (call : Call) (timeout : Duration) (w : Worker) : List Note :=
  (if inTime timeout w then [] else [⟨.warn, "Worker " ++ w.id ++ " did not answer " ++ call.method
      ++ " within " ++ timeout.text ++ ", cancelled"⟩])
    ++ match outcome timeout w with
      | .ok _ => []
      | .error e => [⟨.debug, "Worker " ++ w.id ++ " failed " ++ call.method ++ ": " ++ e.text⟩]

def notes (call : Call) (timeout : Duration) (workers : List Worker) : List Note :=
  if workers.isEmpty then [⟨.debug, "No workers to call for " ++ call.method⟩]
  else
    (repeated [] workers).map (fun w ↦
        ⟨.warn, "Worker " ++ w.id ++ " passed more than once, calling it once"⟩)
      ++ [⟨.debug, "Dispatched " ++ call.method ++ " to " ++ shown (dispatched workers).length
        ++ " workers"⟩]
      ++ (joined timeout workers).flatMap (callNotes call timeout)

end PodInventory.FanOut
