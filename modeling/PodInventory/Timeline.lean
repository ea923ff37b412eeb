import PodInventory.Service

namespace PodInventory

/-- A step with the millisecond at which it starts. -/
structure Timed where
  time : Nat
  step : Step
  deriving Inhabited

namespace Timeline

/-- A sync under way: when it writes, and at which position its answer stands. -/
structure Pending where
  time : Nat
  position : Nat
  sync : Sync
  audited : Bool
  deriving Inhabited

def Pending.insert (p : Pending) : List Pending → List Pending
  | [] => [p]
  | q :: rest => if p.time < q.time then p :: q :: rest else q :: p.insert rest

/-- A service on its way through a timeline, with the replies so far and their positions. -/
structure Progress where
  service : Service
  pending : List Pending
  replies : List (Nat × Reply)

namespace Progress

def reply (p : Progress) (position : Nat) (r : Reply × Service) : Progress :=
  { p with service := r.2, replies := (position, r.1) :: p.replies }

def commit (p : Progress) (q : Pending) : Progress :=
  p.reply q.position (p.service.commit q.sync q.audited)

/-- Lets every sync write that is due before a moment. -/
def advance (p : Progress) (time : Nat) : Progress :=
  (p.pending.takeWhile (fun q ↦ q.time < time)).foldl commit
    { p with pending := p.pending.dropWhile (fun q ↦ q.time < time) }

def finish (p : Progress) : Progress := p.pending.foldl commit { p with pending := [] }

/-- A sync that waits for workers only begins, all other steps take effect at once. -/
def start (p : Progress) (position : Nat) (t : Timed) : Progress :=
  match t.step with
  | .sync pod workers timeout audited =>
    match p.service.latest? pod with
    | none => p.reply position (.unknown, p.service)
    | some record =>
      let sync := Sync.start record workers timeout
      let pending := ⟨t.time + sync.elapsed, position, sync, audited⟩
      let p := { p with service := p.service.begin sync }
      if sync.waits then { p with pending := pending.insert p.pending } else p.commit pending
  | step => p.reply position (p.service.step step)

end Progress

def positioned (steps : List Timed) : List (Nat × Timed) := (List.range steps.length).zip steps

/-- Runs steps that overlap. Steps take effect in the order of their times, the write of a sync as
long after its start as its discovery takes. The replies keep the order of the steps. -/
def run (s : Service) (steps : List Timed) : List Reply × Service :=
  let ordered := (positioned steps).mergeSort (fun a b ↦ a.2.time ≤ b.2.time)
  let p := (ordered.foldl (fun (p : Progress) e ↦ (p.advance e.2.time).start e.1 e.2)
    ⟨s, [], []⟩).finish
  ((p.replies.mergeSort (fun a b ↦ a.1 ≤ b.1)).map Prod.snd, p.service)

end Timeline

end PodInventory
