import PodInventory.Feed
import PodInventory.Store.Backing
import PodInventory.Store.Operation

namespace PodInventory

/-- A store with its subscribers. Ids and times are handed out in the order of the writes that use
them. -/
structure Service where
  store : Outage Backing
  created : Nat
  changed : Nat
  /-- The record of every pod as it was handed out last. -/
  latest : Dict PodRecord
  subscribers : Dict Mailbox
  notes : List Note
  trail : List AuditEntry

instance : Inhabited Service := ⟨⟨⟨default, none⟩, 0, 0, ∅, ∅, [], []⟩⟩

/-- A step of a service. A pod is named by its id, or by `#n` as the n-th pod that was created. -/
inductive Step
  | create (pod : NewPod)
  | createMany (count : Nat) (pod : NewPod)
  | apply (pod : String) (update : Update)
  | reconcile (pod : String) (result : Partition Snapshot)
  | sync (pod : String) (workers : List Worker) (timeout : Duration) (audited : Bool)
  | delete (pod : String)
  | find (pod : String)
  | findNamed (name : String)
  | list
  | subscribe (name : String)
  | events (name : String)
  | outage (error : StoreError)
  | repair
  | reopen
  | guard (guard : TableStore.Guard)
  | unguard
  | overwrite (pod column : String) (cell : Cell)
  deriving Inhabited

inductive Reply
  | answer (answer : Answer)
  | synced (sync : Sync) (result : Except SyncError PodRecord)
  | count (count : Nat)
  | deliveries (deliveries : List Delivery)
  | done
  /-- The step asks for something that is not there. -/
  | unknown

instance : Inhabited Reply := ⟨.done⟩

namespace Service

/-- The n-th id. -/
def idOf (n : Nat) : PodId := "00000000-0000-4000-8000-" ++ .ofList (Text.padded 10 12 n)

/-- The n-th time. -/
def timeOf (n : Nat) : String := "t" ++ shown n

def start (backing : Backing) : Service where
  store := { store := backing }
  created := 0
  changed := 0
  latest := ∅
  subscribers := ∅
  notes := backing.openingNotes
  trail := []

/-- The number of a pod that is named by the order of creation. -/
def ordinal? (pod : String) : Option Nat :=
  match pod.toList with
  | '#' :: rest =>
    let (digits, rest) := Text.takeDigits Text.digit? rest
    if digits.isEmpty || !rest.isEmpty then none else some (Text.ofDigits 10 digits)
  | _ => none

/-- Any other text is an id itself. -/
def resolve (s : Service) (pod : String) : PodId :=
  match ordinal? pod with
  | some n => if 0 < n ∧ n ≤ s.created then idOf n else pod
  | none => pod

def latest? (s : Service) (pod : String) : Option PodRecord := s.latest.get? (s.resolve pod)

def nextId (s : Service) : PodId := idOf (s.created + 1)

def nextTime (s : Service) : String := timeOf (s.changed + 1)

def creations (events : List Event) : Nat :=
  events.countP (fun e ↦ match e with | .created _ => true | _ => false)

def changes (events : List Event) : Nat :=
  events.countP (fun e ↦ match e with | .deleted _ => false | _ => true)

def remember (latest : Dict PodRecord) : Option PodRecord → Dict PodRecord
  | none => latest
  | some r => latest.insert r.id r

/-- Performs an operation and tells the subscribers. -/
def perform (s : Service) (o : Operation) : Answer × Service :=
  let p := o.perform s.store
  (p.answer,
    { s with
      store := p.store
      created := s.created + creations p.events
      changed := s.changed + changes p.events
      latest := remember s.latest p.answer.record?
      subscribers := s.subscribers.map (fun m ↦ m.postAll p.events)
      notes := s.notes ++ p.notes })

def create (s : Service) (pod : NewPod) : Answer × Service :=
  s.perform (.create s.nextId s.nextTime pod)

/-- Creates pods that differ in a number behind the name, up to the first that fails. -/
def createMany (s : Service) (pod : NewPod) (first : Nat) : Nat → Reply × Service
  | 0 => (.count first, s)
  | more + 1 =>
    match s.create { pod with name := pod.name ++ shown first } with
    | (.record (.ok _), s) => s.createMany pod (first + 1) more
    | (answer, s) => (.answer answer, s)

def begin (s : Service) (sync : Sync) : Service := { s with notes := s.notes ++ sync.notes }

/-- The write of a sync that began earlier. -/
def commit (s : Service) (sync : Sync) (audited : Bool) : Reply × Service :=
  match s.perform (.commit s.nextTime sync) with
  | (.reconciled result, s) =>
    (.synced sync result, { s with trail := s.trail ++ Sync.audit audited sync.pod result })
  | (answer, s) => (.answer answer, s)

def drain (s : Service) (name : String) : Reply × Service :=
  match s.subscribers.get? name with
  | none => (.unknown, s)
  | some mailbox =>
    let (deliveries, mailbox) := mailbox.drain
    (.deliveries deliveries, { s with subscribers := s.subscribers.insert name mailbox })

/-- Closes the store and opens it again. -/
def reopen (s : Service) : Service :=
  let backing := s.store.store.reopened
  { s with
    store := { store := backing, error := s.store.error }
    subscribers := s.subscribers.map Mailbox.close
    notes := s.notes ++ backing.openingNotes }

def replace (s : Service) : Option Backing → Reply × Service
  | some backing => (.done, { s with store := { s.store with store := backing } })
  | none => (.unknown, s)

def answered (r : Answer × Service) : Reply × Service := (.answer r.1, r.2)

def step (s : Service) : Step → Reply × Service
  | .create pod => answered (s.create pod)
  | .createMany count pod => s.createMany pod 0 count
  | .apply pod update => answered (s.perform (.apply s.nextTime (s.resolve pod) update))
  | .reconcile pod result =>
    match s.latest? pod with
    | none => (.unknown, s)
    | some record => answered (s.perform (.reconcile s.nextTime record result))
  | .sync pod workers timeout audited =>
    match s.latest? pod with
    | none => (.unknown, s)
    | some record =>
      let sync := Sync.start record workers timeout
      (s.begin sync).commit sync audited
  | .delete pod => answered (s.perform (.delete (s.resolve pod)))
  | .find pod => answered (s.perform (.find (s.resolve pod)))
  | .findNamed name => answered (s.perform (.findNamed name))
  | .list => answered (s.perform .list)
  | .subscribe name => (.done, { s with subscribers := s.subscribers.insert name .fresh })
  | .events name => s.drain name
  | .outage error => (.done, { s with store := { s.store with error := some error } })
  | .repair => (.done, { s with store := { s.store with error := none } })
  | .reopen => (.done, s.reopen)
  | .guard g => s.replace (s.store.store.withGuards? (· ++ [g]))
  | .unguard => s.replace (s.store.store.withGuards? (fun _ ↦ []))
  | .overwrite pod column cell => s.replace (s.store.store.overwrite? (s.resolve pod) column cell)

end Service

end PodInventory
