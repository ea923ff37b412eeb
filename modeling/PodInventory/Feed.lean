import PodInventory.Store.Basic

namespace PodInventory

/-- What a subscriber gets to see. -/
inductive Delivery
  | lagged (count : Nat)
  | event (event : Event)
  | closed
  deriving DecidableEq, Inhabited

/-- The unread events of one subscriber, oldest first, behind a count of those that were lost. -/
structure Mailbox where
  lost : Nat
  waiting : List Event
  isOpen : Bool
  deriving DecidableEq, Inhabited

namespace Mailbox

def capacity : Nat := 256

def fresh : Mailbox := ⟨0, [], true⟩

/-- A full mailbox loses its oldest event, a closed one takes nothing more. -/
def post (m : Mailbox) (e : Event) : Mailbox :=
  if !m.isOpen then m
  else if m.waiting.length < capacity then { m with waiting := m.waiting ++ [e] }
  else { m with lost := m.lost + 1, waiting := m.waiting.drop 1 ++ [e] }

def postAll (m : Mailbox) (events : List Event) : Mailbox := events.foldl post m

/-- What waits can still be read. -/
def close (m : Mailbox) : Mailbox := { m with isOpen := false }

def lag (m : Mailbox) : List Delivery := if m.lost = 0 then [] else [.lagged m.lost]

def ending (m : Mailbox) : List Delivery := if m.isOpen then [] else [.closed]

def drain (m : Mailbox) : List Delivery × Mailbox :=
  (m.lag ++ m.waiting.map .event ++ m.ending, { m with lost := 0, waiting := [] })

end Mailbox

end PodInventory
