import IotCore.Model.Shadow.Device

/-! # `shadow.py`: handlers without interleaving

What a handler has done when it returns, if no other thread runs in between and no publish
fails at once. -/

namespace IotCore.Shadow

structure Outcome where
  data : LockedData
  /-- the updates that were published -/
  updates : List Publish := []
  /-- what was passed to `exit` -/
  exception : Option Exn := none

def exit (data : LockedData) (e : Exn) : Outcome where
  data := { data with disconnectCalled := true }
  exception := some e

/-- A call of `change_shadow_value` from a handler; `token` is what `uuid4` returns. -/
def handleChange (cfg : Config) (data : LockedData) (value : Json) (token : String) : Outcome :=
  match changeShadowValue cfg data value token with
  | (data, none) => { data := data }
  | (data, some (.error e)) => exit data e
  | (data, some (.ok publish)) =>
      { data := { data with requestTokens := insert token data.requestTokens }
        updates := [publish] }

/-- The event is None if its payload could not be read. -/
def onShadowDeltaUpdated (cfg : Config) (data : LockedData)
    (delta : Option ShadowDeltaUpdatedEvent) (token : String) : Outcome :=
  match delta with
  | none => exit data .attributeError
  | some delta =>
      match decideDelta cfg delta with
      | .error e => exit data e
      | .ok none => { data := data }
      | .ok (some value) => handleChange cfg data value token

def onGetShadowAccepted (cfg : Config) (data : LockedData) (response : GetShadowResponse)
    (token : String) : Outcome :=
  match removeToken data.requestTokens response.clientToken with
  | .error .keyError => { data := data }
  | .error e => exit data e
  | .ok tokens =>
      let data := { data with requestTokens := tokens }
      match data.shadowValue with
      | .null =>
          match decideGetAccepted cfg response with
          | .error e => exit data e
          | .ok (.change value) => handleChange cfg data value token
          | .ok (.setLocal value) => { data := { data with shadowValue := value } }
      | _ => { data := data }

end IotCore.Shadow
