import Mathlib.Data.Finset.Basic
import IotCore.Model.Shadow.Messages

/-! # `shadow.py`: the functions of the device

What each handler decides on the data it is given, and what the bodies of the
`with locked_data.lock` blocks do to the shared data. -/

namespace IotCore.Shadow

/-! ## Configuration and shared data -/

/-- The command line. The program subscribes before it does anything modelled here, and the
subscriptions raise on an empty thing name. -/
structure Config where
  shadowThingName : String
  shadowThingName_ne : shadowThingName ≠ ""
  shadowProperty : String := "color"

def shadowValueDefault : Json := .str "off"

/-- `LockedData`, less its lock; the `None` of `shadow_value` is `Json.null`. -/
structure LockedData where
  shadowValue : Json := .null
  disconnectCalled : Bool := false
  requestTokens : Finset String := ∅

/-! ## Publishing a new value -/

/-- The request that `change_shadow_value` builds. -/
def updateRequest (cfg : Config) (value : Json) (token : String) : UpdateShadowRequest :=
  if value.pyEq (.str "clear_shadow") then
    { thingName := cfg.shadowThingName
      state := some
        { reported := .null, desired := .null, reportedIsNullable := true, desiredIsNullable := true }
      clientToken := some token }
  else
    let value := if value.pyEq (.str "none") then .null else value
    { thingName := cfg.shadowThingName
      state := some { reported := .obj [(cfg.shadowProperty, value)] }
      clientToken := some token }

/-- `change_shadow_value` up to the return of the publish call: nothing, if the value is
already there. -/
def changeShadowValue (cfg : Config) (data : LockedData) (value : Json) (token : String) :
    LockedData × Option (Except Exn Publish) :=
  if data.shadowValue.pyEq value then (data, none)
  else
    ({ data with shadowValue := value },
      some (publishUpdateShadow (updateRequest cfg value token)))

/-! ## Tokens -/

/-- `request_tokens.remove(client_token)`; a `list` or a `dict` cannot be hashed. -/
def removeToken (tokens : Finset String) (clientToken : Json) : Except Exn (Finset String) :=
  match clientToken with
  | .str token => if token ∈ tokens then .ok (tokens.erase token) else .error .keyError
  | .arr _ | .obj _ => .error .typeError
  | _ => .error .keyError

/-! ## What the handlers decide -/

/-- `d.get(key)` of an object that should be a `dict`, if it is there. -/
def getMember (d : Json) (key : String) : Except Exn Json :=
  if d.truthy then
    match d with
    | .obj fields => .ok ((fields.lookup key).getD .null)
    | _ => .error .attributeError
  else .ok .null

/-- What `on_get_shadow_accepted` does with the document: `change_shadow_value` or
`set_local_value_due_to_initial_query`. -/
inductive Decision where
  | change (value : Json)
  | setLocal (value : Json)
  deriving Repr

def decideGetAccepted (cfg : Config) (response : GetShadowResponse) : Except Exn Decision :=
  match response.state with
  | none => .ok (.change shadowValueDefault)
  | some state =>
      match getMember state.delta cfg.shadowProperty with
      | .error e => .error e
      | .ok delta =>
          if delta.truthy then .ok (.change delta)
          else
            match getMember state.reported cfg.shadowProperty with
            | .error e => .error e
            | .ok reported =>
                if reported.truthy then .ok (.setLocal reported)
                else .ok (.change shadowValueDefault)

/-- `shadow_property in state`, and then `state[shadow_property]`. -/
def deltaMember (cfg : Config) (state : Json) : Except Exn (Option Json) :=
  match state with
  | .obj fields => .ok (fields.lookup cfg.shadowProperty)
  | .arr values =>
      if values.any fun v => v.pyEq (.str cfg.shadowProperty) then .error .typeError else .ok none
  | .str s =>
      if cfg.shadowProperty.toList <:+: s.toList then .error .typeError else .ok none
  | _ => .error .typeError

/-- The value that `on_shadow_delta_updated` passes to `change_shadow_value`, if it does. -/
def decideDelta (cfg : Config) (delta : ShadowDeltaUpdatedEvent) : Except Exn (Option Json) :=
  if !delta.state.truthy then .ok none
  else
    match deltaMember cfg delta.state with
    | .error e => .error e
    | .ok none => .ok none
    | .ok (some .null) => .ok (some shadowValueDefault)
    | .ok (some value) =>
        -- a client token that is not a string cannot be printed
        match delta.clientToken with
        | .null | .str _ => .ok (some value)
        | _ => .error .typeError

/-- Whether `on_update_shadow_accepted` finds what it prints. -/
def decideUpdateAccepted (cfg : Config) (response : UpdateShadowResponse) : Except Exn Unit :=
  match response.state with
  | none => .error .attributeError
  | some state =>
      match state.reported with
      | .null => .ok ()
      | reported => (deltaMember cfg reported).map fun _ => ()

end IotCore.Shadow
