import ValidatorAlarm.Fault

/-!
# Responses

What a server answers to a request (`HttpResponse`), and how long it takes.  A status from 200 to
299 is a success.
-/
namespace ValidatorAlarm

structure Response where
  status : Nat
  body : List UInt8

namespace Response

def isSuccess (status : Nat) : Bool := 200 ≤ status && status < 300

/-- A response with a status of success, or the fault of having another one. -/
def successful (r : Response) : Except Fault Response :=
  if isSuccess r.status then .ok r else .error (.status r.status)

end Response

/-- The outcome of a request and the milliseconds it takes. -/
structure Reply where
  latency : Nat
  result : Except Fault Response

end ValidatorAlarm
