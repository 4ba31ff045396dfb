import ZoneKeeper.Watch.Change

/-!
# The channel of events

Events go through a channel of bounded capacity to a receiver.  A sender that finds the channel full
waits until the receiver has taken what is there.  A receiver may hang up after a number of events;
then nothing can be sent any more.
-/

namespace ZoneKeeper

structure Channel where
  capacity : Nat
  pending : List WatchEvent := []
  received : List WatchEvent := []
  /-- How many events the receiver still takes before it hangs up, if it ever does. -/
  patience : Option Nat := none
  deriving DecidableEq, Repr

namespace Channel

/-- The most events that a channel can hold. -/
def largestCapacity : Nat := 0x1FFFFFFFFFFFFFFF

/-- Whether there is a channel of this capacity: it has to hold an event. -/
def isPossible (capacity : Nat) : Bool :=
  0 < capacity && capacity ≤ largestCapacity

def isOpen (channel : Channel) : Bool :=
  channel.patience ≠ some 0

/-- Lets the receiver take what is under way; when it hangs up the rest is lost. -/
def drain (channel : Channel) : Channel :=
  match channel.patience with
  | none =>
      { channel with
        pending := []
        received := channel.received ++ channel.pending }
  | some patience =>
      { channel with
        pending := []
        received := channel.received ++ channel.pending.take patience
        patience := some (patience - channel.pending.length) }

/-- The channel as a sender finds it that has waited for room. -/
def makeRoom (channel : Channel) : Channel :=
  if channel.pending.length < channel.capacity then channel else channel.drain

/-- Sends an event; the answer is whether there was somebody to receive it. -/
def send (channel : Channel) (event : WatchEvent) : Bool × Channel :=
  let channel := channel.makeRoom
  if channel.isOpen then (true, { channel with pending := channel.pending ++ [event] })
  else (false, channel)

end Channel

end ZoneKeeper
