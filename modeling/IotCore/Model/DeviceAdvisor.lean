import IotCore.Library.Dict

/-! # `DATestRun.py`

For each test a thing and a certificate are created, a sample is run while the service tests it,
and both are deleted again. The calls of other programs and services return or raise; a call that
raises, for example because its answer was lost, may have taken effect all the same. -/

namespace IotCore.DeviceAdvisor

/-- `DATestConfig.json`. -/
structure Config where
  tests : List String
  testSuiteIds : List (String × String)
  testExePath : List (String × String)

/-! ## Calls -/

/-- The calls of `delete_thing_with_certi`, in order. -/
inductive Cleanup where
  | detachThingPrincipal
  | updateCertificate
  | deleteCertificate
  | deleteThing
  | removeCertificate
  | removeKey
  deriving DecidableEq, Repr

def Cleanup.next : Cleanup → Option Cleanup
  | .detachThingPrincipal => some .updateCertificate
  | .updateCertificate => some .deleteCertificate
  | .deleteCertificate => some .deleteThing
  | .deleteThing => some .removeCertificate
  | .removeCertificate => some .removeKey
  | .removeKey => none

/-- Where `delete_thing_with_certi` is called. -/
inductive Site where
  /-- the `except` clause of `attach_thing_principal` -/
  | attachFailed
  /-- the end of a test, inside of the last `try` statement -/
  | tested
  /-- the `except` clause of that statement -/
  | testFailed
  deriving DecidableEq, Repr

inductive Call where
  | createThing
  | createKeysAndCertificate
  | writeCertificate
  | writeKey
  /-- in the `except` clause of the three before -/
  | deleteThing
  | attachThingPrincipal
  | updateThingShadow
  | getThingShadow
  | startSuiteRun
  | getEndpoint
  | getSuiteRun
  | runTest
  /-- from the search in `logUrl` to the end of `process_logs` -/
  | processLogs
  | cleanup (call : Cleanup) (site : Site)
  deriving DecidableEq, Repr

inductive Outcome where
  | exit (code : Int)
  /-- `certificate_id` has no value yet -/
  | nameError
  /-- the message of the last `except` clause adds an exception to a string -/
  | typeError
  /-- an exception of a call in an `except` clause -/
  | raised
  deriving DecidableEq, Repr

inductive Pc where
  /-- the head of the loop over the tests -/
  | nextTest
  | calling (call : Call)
  | ended (outcome : Outcome)
  deriving DecidableEq, Repr

/-! ## The program -/

/-- What `get_suite_run` returns: its status, and those of the tests of each group. -/
structure SuiteRun where
  status : String
  groups : List (List String)

structure State where
  pc : Pc := .nextTest
  /-- the tests that the loop has not come to -/
  remaining : List String
  testName : String := ""
  /-- the number of the test, and of the thing and the certificate that are made for it -/
  round : Nat := 0
  /-- `certificate_id` and `certificate_arn` -/
  certificate : Option Nat := none
  testResult : Dict String String := []
  /-- the things and certificates that exist -/
  things : List Nat := []
  certificates : List Nat := []
  /-- history: the tests with their results -/
  finished : List (String × String) := []
  /-- history: the calls that raised -/
  raised : List Call := []
  deriving Repr

def init (cfg : Config) : State := { remaining := cfg.tests }

def State.call (s : State) (call : Call) : State := { s with pc := .calling call }

def State.stop (s : State) (outcome : Outcome) : State := { s with pc := .ended outcome }

def passed (status : String) : Bool := status = "PASS" || status = "PASS_WITH_WARNINGS"

/-- The head of the loop, and what follows the loop. -/
def nextTest (s : State) : State :=
  match s.remaining with
  | testName :: remaining =>
      { s with remaining, testName, round := s.round + 1 }.call .createThing
  | [] => s.stop (.exit (if s.testResult.all fun entry => passed entry.2 then 0 else -1))

/-- What a call of `delete_thing_with_certi` removes from the account. -/
def delete (s : State) : Cleanup → State
  | .deleteCertificate => { s with certificates := s.certificates.filter (some · ≠ s.certificate) }
  | .deleteThing => { s with things := s.things.filter (· ≠ s.round) }
  | _ => s

/-- What a call that takes effect makes of the account. -/
def affect (s : State) : Call → State
  | .createThing => { s with things := s.things ++ [s.round] }
  | .createKeysAndCertificate => { s with certificates := s.certificates ++ [s.round] }
  | .deleteThing => delete s .deleteThing
  | .cleanup call _ => delete s call
  | _ => s

/-- A call raises, after its effect if it has had one. -/
def throws (s : State) : Call → State
  | .createThing => s.stop (.exit (-1))
  | .createKeysAndCertificate | .writeCertificate | .writeKey => s.call .deleteThing
  | .deleteThing | .cleanup _ .attachFailed | .cleanup _ .testFailed => s.stop .raised
  | .attachThingPrincipal =>
      match s.certificate with
      | none => s.stop .nameError
      | some _ => s.call (.cleanup .detachThingPrincipal .attachFailed)
  | .updateThingShadow | .getThingShadow | .startSuiteRun | .getEndpoint | .getSuiteRun | .runTest
  | .processLogs | .cleanup _ .tested => s.call (.cleanup .detachThingPrincipal .testFailed)

/-- After `delete_thing_with_certi`. -/
def cleanedUp (s : State) : Site → State
  | .attachFailed => s.stop (.exit (-1))
  | .tested => { s with pc := .nextTest }
  | .testFailed => s.stop .typeError

/-- A call returns, after its effect; `get_thing_shadow` with a response, and `get_suite_run` is
apart. -/
def returns (cfg : Config) (s : State) : Call → Option State
  | .createThing => some (s.call .createKeysAndCertificate)
  | .createKeysAndCertificate => some (s.call .writeCertificate)
  | .writeCertificate => some (s.call .writeKey)
  | .writeKey => some (s.call .attachThingPrincipal)
  | .deleteThing => some (s.stop (.exit (-1)))
  | .attachThingPrincipal => some ({ s with certificate := some s.round }.call .updateThingShadow)
  | .updateThingShadow => some (s.call .getThingShadow)
  | .getThingShadow => some (s.call .startSuiteRun)
  | .startSuiteRun =>
      -- a KeyError if the name is missing
      if (cfg.testSuiteIds.lookup s.testName).isSome then some (s.call .getEndpoint) else none
  | .getEndpoint => some (s.call .getSuiteRun)
  | .getSuiteRun => none
  | .runTest =>
      if (cfg.testExePath.lookup s.testName).isSome then some (s.call .getSuiteRun) else none
  | .processLogs => some (s.call (.cleanup .detachThingPrincipal .tested))
  | .cleanup call site =>
      match call.next with
      | some next => some (s.call (.cleanup next site))
      | none => some (cleanedUp s site)

/-- The branches on what `get_suite_run` returned. -/
def suiteRun (s : State) (run : SuiteRun) : State :=
  match run.groups with
  | (first :: _) :: _ =>
      if run.status = "PENDING" ∨ first = "PENDING" then s.call .getSuiteRun
      else if run.status = "RUNNING" then
        if first = "RUNNING" then s.call .runTest else s.call .getSuiteRun
      else
        let s :=
          { s with
            testResult := s.testResult.set s.testName run.status
            finished := s.finished ++ [(s.testName, run.status)] }
        if run.status ≠ "PASS" then s.call .processLogs
        else s.call (.cleanup .detachThingPrincipal .tested)
  | _ => s.call .getSuiteRun

inductive Action where
  | nextTest
  | returns
  /-- with or without the effect of the call -/
  | raises (effect : Bool)
  /-- `get_thing_shadow` returns None -/
  | noShadow
  | suiteRun (run : SuiteRun)

def step (cfg : Config) (s : State) : Action → Option State
  | .nextTest => if s.pc = .nextTest then some (nextTest s) else none
  | .returns =>
      match s.pc with
      | .calling call => returns cfg (affect s call) call
      | _ => none
  | .raises effect =>
      match s.pc with
      | .calling call =>
          let s := if effect then affect s call else s
          some (throws { s with raised := s.raised ++ [call] } call)
      | _ => none
  | .noShadow => if s.pc = .calling .getThingShadow then some (s.call .getThingShadow) else none
  | .suiteRun run => if s.pc = .calling .getSuiteRun then some (suiteRun s run) else none

end IotCore.DeviceAdvisor
