import ValidatorAlarm.Delivery.Channel

/-!
# Fanouts

A fanout, the `NotificationFanout`, delivers a batch through all its channels.  Every channel gets
the batch once, in order; then the channels that failed, and only they, get it again after a delay,
up to a number of retries.
-/
namespace ValidatorAlarm

structure Fanout where
  channels : List Channel
  retries : Nat
  delay : Duration
deriving DecidableEq, Repr

namespace Fanout

def leastDelay : Duration := .ofMilliseconds 10

/-- A fanout whose delay is long enough. -/
def make (channels : List Channel) (retries : Nat) (delay : Duration) : Except Fault Fanout :=
  if delay < leastDelay then .error (.invalidRetryDelay delay leastDelay)
  else .ok ⟨channels, retries, delay⟩

/-- The channels with their positions, counted from the given one. -/
def numbered : Nat → List Channel → List (Nat × Channel)
  | _, [] => []
  | n, channel :: rest => (n, channel) :: numbered (n + 1) rest

/-- One pass over some channels; results in those that failed. -/
def pass (messages : List Message) (retry : Option Nat) :
    List (Nat × Channel) → Work (List (Nat × Channel))
  | [] => pure []
  | (index, channel) :: rest => do
    match ← channel.send index messages with
    | .ok () => pass messages retry rest
    | .error _ =>
      Work.note (.sendFailed (channel.label index) retry)
      return (index, channel) :: (← pass messages retry rest)

/-- Up to `left` more passes over the channels that failed, numbered from `retry`. -/
def retryFrom (delay : Nat) (messages : List Message) (retry : Nat) :
    Nat → List (Nat × Channel) → Work (List (Nat × Channel))
  | 0, failed => pure failed
  | left + 1, failed =>
    if failed.isEmpty then pure []
    else do
      Task.sleep delay
      let failed ← pass messages (some retry) failed
      retryFrom delay messages (retry + 1) left failed

/-- Delivers a batch; fails if some channel has failed to the last. -/
def notify (fanout : Fanout) (messages : List Message) : Work (Except Fault Unit) :=
  if messages.isEmpty then pure (.ok ())
  else do
    let failed ← pass messages none (numbered 0 fanout.channels)
    let failed ← retryFrom fanout.delay.milliseconds messages 0 fanout.retries failed
    return if failed.isEmpty then .ok () else .error (.undelivered failed.length)

end Fanout

end ValidatorAlarm
