import HardwareWallet.Notice
import HardwareWallet.Value.Access
import HardwareWallet.Waiting

/-!
A channel that delivers every published event to all its subscribers. Each subscription has a queue of
bounded length. Publishing never waits: a subscriber whose queue is full is dropped.
-/

namespace HardwareWallet

structure Subscription where
  capacity : Number
  queue : List Event := []
  overflowed : Bool := false
  closed : Bool := false
  deriving DecidableEq

namespace Subscription

def isFull (s : Subscription) : Bool :=
  s.capacity.le (.whole s.queue.length)

def refuses (s : Subscription) : Bool :=
  s.closed || s.isFull

def offer (s : Subscription) (e : Event) : Subscription :=
  if s.closed then s
  else if s.isFull then { s with overflowed := true, closed := true }
  else { s with queue := s.queue ++ [e] }

end Subscription

abbrev Handle := Nat

structure Channel where
  defaultCapacity : Value := .int 64
  subscriptions : List Subscription := []
  subscribers : List Handle := []
  deriving DecidableEq

namespace Channel

def subscription? (c : Channel) (h : Handle) : Option Subscription :=
  c.subscriptions[h]?

def update (c : Channel) (h : Handle) (f : Subscription → Subscription) : Channel :=
  { c with subscriptions := c.subscriptions.modify h f }

def subscribe (c : Channel) (capacity : Value) : Except Error (Handle × Channel) := do
  let n ← (if capacity = .null then c.defaultCapacity else capacity).comparable "<="
  if n.le (.whole 0) then throw .unboundedQueue
  let h := c.subscriptions.length
  return (h, { c with
    subscriptions := c.subscriptions ++ [{ capacity := n }]
    subscribers := c.subscribers ++ [h] })

def refuses (c : Channel) (h : Handle) : Bool :=
  match c.subscription? h with
  | some s => s.refuses
  | none => true

def overflows (c : Channel) (h : Handle) : Bool :=
  match c.subscription? h with
  | some s => !s.closed && s.isFull
  | none => false

def publish (c : Channel) (e : Event) : Channel × List Notice :=
  ({ c with
      subscriptions := c.subscribers.foldl (fun subs h => subs.modify h (·.offer e)) c.subscriptions
      subscribers := c.subscribers.filter fun h => !c.refuses h },
    (c.subscribers.filter c.overflows).map fun _ => .subscriberDropped)

def close (c : Channel) (h : Handle) : Channel :=
  { c.update h fun s => { s with closed := true } with subscribers := c.subscribers.erase h }

def next (c : Channel) (h : Handle) : Option Event × Channel :=
  match c.subscription? h with
  | some s => (s.queue.head?, c.update h fun s => { s with queue := s.queue.tail })
  | none => (none, c)

def drain (c : Channel) (h : Handle) : List Event × Channel :=
  match c.subscription? h with
  | some s => (s.queue, c.update h fun s => { s with queue := [] })
  | none => ([], c)

def await (c : Channel) (h : Handle) (timeout : Timeout) : Except Error Event × Channel :=
  match timeout.await (c.next h).1 with
  | .ok (some e) => (.ok e, (c.next h).2)
  | .ok none => (.error .queueEmpty, c)
  | .error e => (.error e, c)

def subscriberCount (c : Channel) : Nat :=
  c.subscribers.length

end Channel

end HardwareWallet
