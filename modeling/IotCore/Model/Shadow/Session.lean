import Mathlib.Logic.Function.Basic
import IotCore.Library.Future
import IotCore.Model.Shadow.Device

/-! # `shadow.py`: the threads of a session

The input thread, the event loop and the main thread share `locked_data`. A thread waits at
each `with locked_data.lock`, and the lock is not reentrant: a thread that waits for it
inside of a block never goes on. -/

namespace IotCore.Shadow

/-- What a thread does next under the lock. -/
inductive Block where
  /-- the token checks of the four response handlers; `none` is a payload that could not be
  decoded -/
  | checkGetAccepted (response : Option GetShadowResponse)
  | checkGetRejected (error : Option ErrorResponse)
  | checkUpdateAccepted (response : Option UpdateShadowResponse)
  | checkUpdateRejected (error : Option ErrorResponse)
  /-- `change_shadow_value`; `initial` tells a call that answers the initial query -/
  | change (value : Json) (initial : Bool)
  /-- `set_local_value_due_to_initial_query` -/
  | setLocal (value : Json)
  | exit
  /-- the initial get request of the main thread -/
  | query
  deriving Repr

/-- Where a thread is. Futures are named by their publish. -/
inductive Pc where
  | idle
  | waiting (block : Block)
  /-- inside the block, before its body -/
  | inside (block : Block)
  /-- inside `change_shadow_value`, after the publish -/
  | addToken (token : String) (future : Nat)
  | addCallback (future : Nat)
  /-- inside the get request of the main thread, after the publish -/
  | addGetToken (token : String) (future : Nat)
  /-- inside `change_shadow_value`, in the done-callback, at the `with` statement of `exit` -/
  | reentering
  /-- before the release of the lock -/
  | leaving (next : Pc)
  /-- the main thread, waiting for the result of its publish -/
  | awaiting (future : Nat)
  deriving Repr

structure State where
  lock : Option Nat := none
  data : LockedData := {}
  pc : Nat → Pc := fun _ => .idle
  future : Nat → Future Unit Exn := fun _ => .pending
  /-- `on_publish_update_shadow` waits for the future -/
  registered : Nat → Bool := fun _ => false
  /-- calls of the two publish methods -/
  publishes : Nat := 0
  /-- the main thread has made its get request -/
  queried : Bool := false
  /-- the main thread has launched the input thread -/
  launched : Bool := false
  /-- history: the tokens of the requests that were published -/
  issued : Finset String := ∅
  /-- history: the tokens of the responses whose token check has run -/
  seen : Finset String := ∅
  /-- history: the values passed to `change_shadow_value` with the updates they published -/
  updates : List (Json × Publish) := []
  /-- history: the get requests that were published -/
  queries : List Publish := []
  /-- history: the reported value taken over from the response to the initial query -/
  adopted : Option Json := none
  /-- history: calls of `mqtt_connection.disconnect` -/
  disconnects : Nat := 0

def init : State := {}

def State.goto (s : State) (t : Nat) (pc : Pc) : State :=
  { s with pc := Function.update s.pc t pc }

/-! ## The bodies of the blocks -/

/-- The end of a block; an exception leads to `exit` once the lock is released. -/
def State.leave (s : State) (t : Nat) (next : Except Exn (Option Block)) : State :=
  s.goto t (.leaving (match next with
    | .ok none => .idle
    | .ok (some block) => .waiting block
    | .error _ => .waiting .exit))

def State.see (s : State) : Json → State
  | .str token => { s with seen := insert token s.seen }
  | _ => s

/-- The token check of a response handler. `next` is what the handler does when its session
has asked for the response. -/
def State.check (s : State) (t : Nat) (clientToken : Option Json)
    (next : State → Except Exn (Option Block)) : State :=
  match clientToken with
  | none => s.leave t (.error .attributeError)
  | some clientToken =>
      match removeToken s.data.requestTokens clientToken with
      | .ok tokens =>
          let s := { s with data := { s.data with requestTokens := tokens } }
          (s.see clientToken).leave t (next s)
      | .error .keyError => (s.see clientToken).leave t (.ok none)
      | .error e => (s.see clientToken).leave t (.error e)

/-- After the token check of `on_get_shadow_accepted`. -/
def afterGetAccepted (cfg : Config) (response : GetShadowResponse) (s : State) :
    Except Exn (Option Block) :=
  match s.data.shadowValue with
  | .null =>
      (decideGetAccepted cfg response).map fun
        | .change value => some (.change value true)
        | .setLocal value => some (.setLocal value)
  | _ => .ok none

/-- After the token check of `on_get_shadow_rejected`. -/
def afterGetRejected (error : ErrorResponse) : Block :=
  if error.code.pyEq (.int 404) then .change shadowValueDefault false else .exit

/-- A publish: `_publish_operation` returns a new future, done or not. -/
def State.publish (s : State) (token : String) (outcome : Option (Except Exn Unit)) : State :=
  { s with
    future := Function.update s.future s.publishes ⟨outcome, if outcome.isSome then 1 else 0⟩
    publishes := s.publishes + 1
    issued := insert token s.issued }

/-- The body of a block. `token` is the token that `uuid4` gives it, `outcome` that of the
future of its publish when the publish call returns. -/
def body (cfg : Config) (s : State) (t : Nat) (token : String)
    (outcome : Option (Except Exn Unit)) : Block → State
  | .checkGetAccepted response =>
      s.check t (response.map (·.clientToken)) fun s =>
        match response with
        | none => .ok none
        | some response => afterGetAccepted cfg response s
  | .checkGetRejected error =>
      s.check t (error.map (·.clientToken)) fun _ => .ok (error.map afterGetRejected)
  | .checkUpdateAccepted response =>
      s.check t (response.map (·.clientToken)) fun _ =>
        match response with
        | none => .ok none
        | some response => (decideUpdateAccepted cfg response).map fun _ => none
  | .checkUpdateRejected error =>
      s.check t (error.map (·.clientToken)) fun _ => .ok (some .exit)
  | .change value _ =>
      match changeShadowValue cfg s.data value token with
      | (data, none) => { s with data := data }.leave t (.ok none)
      | (data, some (.error e)) => { s with data := data }.leave t (.error e)
      | (data, some (.ok publish)) =>
          ({ s with data := data, updates := s.updates ++ [(value, publish)] }.publish token
            outcome).goto t (.addToken token s.publishes)
  | .setLocal value =>
      { s with data := { s.data with shadowValue := value }, adopted := some value }.leave t (.ok none)
  | .exit =>
      if s.data.disconnectCalled then s.leave t (.ok none)
      else
        { s with
          data := { s.data with disconnectCalled := true }
          disconnects := s.disconnects + 1 }.leave t (.ok none)
  | .query =>
      match publishGetShadow { thingName := cfg.shadowThingName, clientToken := some token } with
      | .error e => s.leave t (.error e)
      | .ok publish =>
          ({ s with queries := s.queries ++ [publish] }.publish token outcome).goto t
            (.addGetToken token s.publishes)

/-- The block publishes a request with a new token. -/
def willPublish (cfg : Config) (s : State) (token : String) : Block → Bool
  | .change value _ => (changeShadowValue cfg s.data value token).2.isSome
  | .query => true
  | _ => false

/-! ## What makes a thread start -/

inductive Task where
  /-- a line of input -/
  | typed (value : String)
  | delta (event : Option ShadowDeltaUpdatedEvent)
  | getAccepted (response : Option GetShadowResponse)
  | getRejected (error : Option ErrorResponse)
  | updateAccepted (response : Option UpdateShadowResponse)
  | updateRejected (error : Option ErrorResponse)
  | query
  deriving Repr

/-- The first block that a thread comes to. -/
def firstBlock (cfg : Config) : Task → Option Block
  | .typed value =>
      if value = "exit" ∨ value = "quit" then some .exit else some (.change (.str value) false)
  | .delta none => some .exit
  | .delta (some event) =>
      match decideDelta cfg event with
      | .ok none => none
      | .ok (some value) => some (.change value false)
      | .error _ => some .exit
  | .getAccepted response => some (.checkGetAccepted response)
  | .getRejected error => some (.checkGetRejected error)
  | .updateAccepted response => some (.checkUpdateAccepted response)
  | .updateRejected error => some (.checkUpdateRejected error)
  | .query => some .query

/-! ## The system -/

inductive Action where
  | start (t : Nat) (task : Task)
  | acquire (t : Nat)
  /-- the body of a block -/
  | body (t : Nat) (token : String) (outcome : Option (Except Exn Unit))
  /-- the next statement after the publish, or the end of the wait for its result -/
  | advance (t : Nat)
  | release (t : Nat)
  /-- the publish is acknowledged or fails, in thread `t` -/
  | puback (t : Nat) (future : Nat) (outcome : Except Exn Unit)

def isQuery : Task → Bool
  | .query => true
  | _ => false

/-- There is one get request, and there is no input before its publish has succeeded. -/
def State.mayStart (s : State) : Task → Bool
  | .query => !s.queried
  | .typed _ => s.launched
  | _ => true

def step (cfg : Config) (s : State) : Action → Option State
  | .start t task =>
      match s.pc t with
      | .idle =>
          if !s.mayStart task then none
          else
            let s := { s with queried := s.queried || isQuery task }
            match firstBlock cfg task with
            | none => some s
            | some block => some (s.goto t (.waiting block))
      | _ => none
  | .acquire t =>
      match s.lock, s.pc t with
      | none, .waiting block => some ({ s with lock := some t }.goto t (.inside block))
      | _, _ => none
  | .body t token outcome =>
      match s.pc t with
      | .inside block =>
          -- `uuid4` never repeats
          if willPublish cfg s token block && decide (token ∈ s.issued ∪ s.seen) then none
          else some (body cfg s t token outcome block)
      | _ => none
  | .advance t =>
      match s.pc t with
      | .addToken token f =>
          some ({ s with data :=
            { s.data with requestTokens := insert token s.data.requestTokens } }.goto t
              (.addCallback f))
      | .addGetToken token f =>
          some ({ s with data :=
            { s.data with requestTokens := insert token s.data.requestTokens } }.goto t
              (.leaving (.awaiting f)))
      | .addCallback f =>
          -- a future that is done runs the callback at once
          match (s.future f).outcome with
          | none => some ({ s with registered := Function.update s.registered f true }.leave t (.ok none))
          | some (.ok ()) => some (s.leave t (.ok none))
          | some (.error _) => some (s.goto t .reentering)
      | .awaiting f =>
          match (s.future f).outcome with
          | none => none
          | some (.ok ()) => some ({ s with launched := true }.goto t .idle)
          | some (.error _) => some (s.goto t (.waiting .exit))
      | _ => none
  | .release t =>
      match s.pc t with
      | .leaving next => some ({ s with lock := none }.goto t next)
      | _ => none
  | .puback t f outcome =>
      match s.pc t with
      | .idle =>
          if f < s.publishes ∧ (s.future f).done = false then
            let s := { s with future := Function.update s.future f ((s.future f).set outcome) }
            match s.registered f, outcome with
            | true, .error _ => some (s.goto t (.waiting .exit))
            | _, _ => some s
          else none
      | _ => none

end IotCore.Shadow
