import IotCore.Model.Json

/-! # `pubsub.py`

The program of the workshop and the sample of the SDK that it was made from. The main thread
publishes and then waits for an event, which the callback of the subscription sets on the
thread of the connection. -/

namespace IotCore.Pubsub

/-! ## The programs -/

/-- The arguments of the command line that decide the run. -/
structure Args where
  count : Int := 10
  topic : String := "test/topic"
  message : String := "Hello World!"

/-- What the loop reads from the clock and from the random number generator. -/
structure Reading where
  timeInSeconds : Int
  value : Rat

/-- Where the two programs differ. -/
structure Program where
  /-- whether the lines that subscribe are code -/
  subscribes : Bool
  /-- the message that is published, from the string and the count -/
  message : String → Nat → Reading → Json

/-- `workshop/src/pubsub.py`, where the lines that subscribe are comments. -/
def workshop : Program where
  subscribes := false
  message := fun _ _ r =>
    .obj [("SensorId", .int 0), ("SensorName", .str "UltraSonic"),
      ("TimeStamp", .int r.timeInSeconds), ("Value", .float r.value)]

/-- `samples/pubsub.py`. -/
def sample : Program where
  subscribes := true
  message := fun messageString publishCount _ =>
    .str (messageString ++ " [" ++ toString publishCount ++ "]")

/-! ## State -/

/-- Where the main thread is. -/
inductive Pc where
  /-- in `connect_future.result()` -/
  | connecting
  /-- in `subscribe_future.result()` -/
  | subscribing
  /-- at the condition of the loop -/
  | publishing (publishCount : Nat)
  /-- in `received_all_event.wait()` -/
  | waiting
  /-- in `disconnect_future.result()` -/
  | disconnecting
  | finished
  deriving DecidableEq, Repr

structure State where
  pc : Pc := .connecting
  /-- the topics that were subscribed to, with `on_message_received` as the callback -/
  subscriptions : List String := []
  published : List Json := []
  receivedCount : Nat := 0
  receivedAllEvent : Bool := false
  /-- history: the deliveries, each a subscription and the number of a publish -/
  received : List (Nat × Nat) := []

def init : State := {}

/-! ## Steps -/

/-- Where the main thread goes to from the lines that subscribe. -/
def start (args : Args) : Pc := if args.message ≠ "" then .publishing 1 else .waiting

/-- The condition of the loop. -/
def loops (args : Args) (publishCount : Nat) : Bool := publishCount ≤ args.count || args.count = 0

def onMessageReceived (args : Args) (s : State) : State :=
  let receivedCount := s.receivedCount + 1
  { s with
    receivedCount := receivedCount
    receivedAllEvent := s.receivedAllEvent || receivedCount = args.count }

inductive Action where
  /-- a future is completed and the main thread goes on -/
  | connected
  | subscribed
  | disconnected
  /-- one pass of the loop -/
  | publish (r : Reading)
  /-- the condition of the loop is false -/
  | leave
  /-- `received_all_event.wait()` returns -/
  | wake
  /-- the broker delivers a published message to a subscription, once more or for the first time -/
  | deliver (subscription publish : Nat)

def step (p : Program) (args : Args) (s : State) : Action → Option State
  | .connected =>
      if s.pc = .connecting then
        some { s with pc := if p.subscribes then .subscribing else start args }
      else none
  | .subscribed =>
      if s.pc = .subscribing then
        some { s with subscriptions := s.subscriptions ++ [args.topic], pc := start args }
      else none
  | .publish r =>
      match s.pc with
      | .publishing n =>
          if loops args n then
            some { s with
              published := s.published ++ [p.message args.message n r], pc := .publishing (n + 1) }
          else none
      | _ => none
  | .leave =>
      match s.pc with
      | .publishing n => if loops args n then none else some { s with pc := .waiting }
      | _ => none
  | .wake =>
      if s.pc = .waiting ∧ s.receivedAllEvent then some { s with pc := .disconnecting } else none
  | .disconnected =>
      if s.pc = .disconnecting then some { s with pc := .finished } else none
  | .deliver k i =>
      if s.pc ≠ .finished ∧ s.subscriptions[k]? = some args.topic ∧ i < s.published.length then
        some (onMessageReceived args { s with received := s.received ++ [(k, i)] })
      else none

end IotCore.Pubsub
