import IotCore.Model.EventStream.AuthToken

/-! # `awsiot.greengrasscoreipc.connect`

The caller of `connect` and the connection that it makes. Until `connect` returns, nobody else
has the connection. -/

namespace IotCore.Greengrass.Connect

open JsonText (Str)
open EventStream
open EventStream.Connection (Exn)

/-- `ipc_socket` and `authtoken`, and the variables of the environment. -/
structure Args where
  ipcSocket : Option Str := none
  authtoken : Option Str := none
  environ : String → Option Str

/-- An argument, or a variable if it is None or empty; `none` is a KeyError. -/
def argOrVariable (environ : String → Option Str) (arg : Option Str) (variable_ : String) :
    Option Str :=
  match arg with
  | none | some [] => environ variable_
  | some value => some value

def Args.socket (args : Args) : Option Str :=
  argOrVariable args.environ args.ipcSocket
    "AWS_GG_NUCLEUS_DOMAIN_SOCKET_FILEPATH_FOR_COMPONENT"

def Args.token (args : Args) : Option Str :=
  argOrVariable args.environ args.authtoken "SVCUID"

inductive Error where
  | keyError
  /-- by `connection.connect` or by the future -/
  | connection (e : Exn)
  | timeoutError
  deriving DecidableEq, Repr

inductive Caller where
  | starting
  /-- in `connect_future.result(timeout)` -/
  | waiting
  /-- with a client of the connection -/
  | returned
  | raised (e : Error)
  deriving DecidableEq, Repr

structure State where
  caller : Caller := .starting
  connection : Connection.State := Connection.init

/-- What a step of the connection needs of the rest: its methods are called by the owner of the
client, and an amendment is the one for the token. -/
def allowed (token : Str) (s : State) : Connection.Action → Bool
  | .connect _ => false
  | .close _ | .sendProtocolMessage _ _ _ | .newStream _ => s.caller = .returned
  | .amended _ amendment => createStaticAuthtokenAmender token = some amendment
  | .raised n _ =>
      (s.connection.attempt n).pc ≠ .amending ∨ createStaticAuthtokenAmender token = none
  | _ => true

inductive Action where
  /-- `connect` up to the wait; `native` is what the native connect raises, if it raises -/
  | call (native : Option Exn)
  /-- the future is done -/
  | result
  | timeout
  | connection (a : Connection.Action)
  deriving DecidableEq, Repr

def step (args : Args) (s : State) : Action → Option State
  | .call native =>
      match s.caller, args.socket, args.token with
      | .starting, some _, some _ =>
          match Connection.connect s.connection native with
          | (connection, .ok _) => some { connection, caller := .waiting }
          | (connection, .error e) => some { connection, caller := .raised (.connection e) }
      | .starting, _, _ => some { s with caller := .raised .keyError }
      | _, _, _ => none
  | .result =>
      match s.caller, (s.connection.future (.connect 1)).outcome with
      | .waiting, some (.ok ()) => some { s with caller := .returned }
      | .waiting, some (.error e) => some { s with caller := .raised (.connection e) }
      | _, _ => none
  | .timeout =>
      match s.caller, (s.connection.future (.connect 1)).outcome with
      | .waiting, none => some { s with caller := .raised .timeoutError }
      | _, _ => none
  | .connection a =>
      match args.token with
      | none => none
      | some token =>
          if allowed token s a then
            (Connection.step true s.connection a).map fun connection => { s with connection }
          else none

end IotCore.Greengrass.Connect
