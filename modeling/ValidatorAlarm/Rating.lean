import ValidatorAlarm.Fault
import ValidatorAlarm.Table

/-!
# Ratings

The network rates every validator twice: a temporary rating that moves with each round, and the
rating settled at the end of the last epoch.  A key raises an alarm when its temporary rating is so
low that its node is about to be jailed, or when it has dropped below the settled rating by at least
a configured tolerance.

`ratingsCheck` is the `RatingsChecker`, one way to be a `RatingsCheck`; `tolerance?` is the
condition on what it is made from.
-/
namespace ValidatorAlarm

/-- The two ratings of a key. -/
structure Rating where
  temporary : Single
  settled : Single
deriving DecidableEq, Repr

/-- The ratings of all keys of the network. -/
abbrev Snapshot := Table Rating

/-- A reason to raise an alarm about a rating. -/
inductive Alarm where
  | jail (rating : Rating)
  | drop (rating : Rating)
deriving DecidableEq, Repr

namespace Alarm

def text : Alarm → String
  | .jail r => "Imminent jail: temp rating: " ++ r.temporary.fixed 2 ++ ", rating: " ++ r.settled.fixed 2
  | .drop r =>
    "Rating drop detected: temp rating: " ++ r.temporary.fixed 2 ++ ", rating: " ++ r.settled.fixed 2

end Alarm

/-- Below this temporary rating a node is about to be jailed. -/
def jailRating : Single := .ofNat .single false 10

def maxTolerance : Double := .ofNat .double false 100

/-- A tolerance as configured, kept as a 32-bit number. -/
def tolerance? (configured : Double) : Except Fault Single :=
  if Binary.zero.le configured && configured.le maxTolerance then .ok (configured.narrow .single)
  else .error (.invalidTolerance configured)

/-- The alarm that a rating raises.  A temporary rating that has not dropped, or by less than the
tolerance, raises none; a comparison with what is no number does not count as one of these. -/
def Rating.alarm? (tolerance : Single) (r : Rating) : Option Alarm :=
  if r.temporary.lt jailRating then some (.jail r)
  else if r.settled.le r.temporary then none
  else if r.settled.lt (r.temporary.add tolerance) then none
  else some (.drop r)

/-- A key with the reason to raise an alarm about it. -/
structure Problem where
  key : String
  alarm : Alarm
deriving DecidableEq, Repr

/-- The problem with a key, if there is one.  An empty key names nothing, and a key that the network
does not rate raises no alarm. -/
def problem? (tolerance : Single) (snapshot : Snapshot) (key : String) : Option Problem :=
  if key = "" then none
  else ((snapshot.get? key).bind (Rating.alarm? tolerance)).map (⟨key, ·⟩)

/-- The problems of the configured keys and then of the extra ones, in their order. -/
def findProblems (tolerance : Single) (configured : List String) (snapshot : Snapshot)
    (extra : List String) : List Problem :=
  (configured ++ extra).filterMap (problem? tolerance snapshot)

/-- A check of ratings: the problems in a snapshot with some extra keys, or why there is no telling. -/
abbrev RatingsCheck := Snapshot → List String → Except Fault (List Problem)

/-- The check by the rules above, which always succeeds. -/
def ratingsCheck (tolerance : Single) (configured : List String) : RatingsCheck :=
  fun snapshot extra => .ok (findProblems tolerance configured snapshot extra)

end ValidatorAlarm
