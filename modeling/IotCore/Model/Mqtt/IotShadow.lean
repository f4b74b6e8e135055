import IotCore.Model.Mqtt.ServiceClient

/-! # `awsiot.iotshadow`

The classes and the client of the device shadow service. -/

namespace IotCore.Mqtt.IotShadow

/-! ## Responses and events -/

def deleteShadowResponse : ModeledClass :=
  ⟨"DeleteShadowResponse", [⟨"client_token", "clientToken", .plain⟩,
    ⟨"timestamp", "timestamp", .datetime⟩, ⟨"version", "version", .plain⟩]⟩

def errorResponse : ModeledClass :=
  ⟨"ErrorResponse", [⟨"client_token", "clientToken", .plain⟩, ⟨"code", "code", .plain⟩,
    ⟨"message", "message", .plain⟩, ⟨"timestamp", "timestamp", .datetime⟩]⟩

def shadowDeltaUpdatedEvent : ModeledClass :=
  ⟨"ShadowDeltaUpdatedEvent", [⟨"client_token", "clientToken", .plain⟩,
    ⟨"metadata", "metadata", .plain⟩, ⟨"state", "state", .plain⟩,
    ⟨"timestamp", "timestamp", .datetime⟩, ⟨"version", "version", .plain⟩]⟩

def shadowMetadata : ModeledClass :=
  ⟨"ShadowMetadata", [⟨"desired", "desired", .plain⟩, ⟨"reported", "reported", .plain⟩]⟩

def shadowStateWithDelta : ModeledClass :=
  ⟨"ShadowStateWithDelta", [⟨"delta", "delta", .plain⟩, ⟨"desired", "desired", .plain⟩,
    ⟨"reported", "reported", .plain⟩]⟩

def getShadowResponse : ModeledClass :=
  ⟨"GetShadowResponse", [⟨"client_token", "clientToken", .plain⟩,
    ⟨"metadata", "metadata", .instance shadowMetadata⟩,
    ⟨"state", "state", .instance shadowStateWithDelta⟩, ⟨"timestamp", "timestamp", .datetime⟩,
    ⟨"version", "version", .plain⟩]⟩

def shadowUpdatedSnapshot : ModeledClass :=
  ⟨"ShadowUpdatedSnapshot", [⟨"metadata", "metadata", .instance shadowMetadata⟩,
    ⟨"state", "state", .state⟩, ⟨"version", "version", .plain⟩]⟩

def shadowUpdatedEvent : ModeledClass :=
  ⟨"ShadowUpdatedEvent", [⟨"current", "current", .instance shadowUpdatedSnapshot⟩,
    ⟨"previous", "previous", .instance shadowUpdatedSnapshot⟩,
    ⟨"timestamp", "timestamp", .datetime⟩]⟩

def updateShadowResponse : ModeledClass :=
  ⟨"UpdateShadowResponse", [⟨"client_token", "clientToken", .plain⟩,
    ⟨"metadata", "metadata", .instance shadowMetadata⟩, ⟨"state", "state", .state⟩,
    ⟨"timestamp", "timestamp", .datetime⟩, ⟨"version", "version", .plain⟩]⟩

/-! ## Requests -/

def deleteNamedShadowRequest : RequestClass :=
  ⟨"DeleteNamedShadowRequest", [("client_token", .plain "clientToken"), ("shadow_name", .topic),
    ("thing_name", .topic)]⟩

def deleteNamedShadowSubscriptionRequest : RequestClass :=
  ⟨"DeleteNamedShadowSubscriptionRequest", [("shadow_name", .topic), ("thing_name", .topic)]⟩

def deleteShadowRequest : RequestClass :=
  ⟨"DeleteShadowRequest", [("client_token", .plain "clientToken"), ("thing_name", .topic)]⟩

def deleteShadowSubscriptionRequest : RequestClass :=
  ⟨"DeleteShadowSubscriptionRequest", [("thing_name", .topic)]⟩

def getNamedShadowRequest : RequestClass :=
  ⟨"GetNamedShadowRequest", [("client_token", .plain "clientToken"), ("shadow_name", .topic),
    ("thing_name", .topic)]⟩

def getNamedShadowSubscriptionRequest : RequestClass :=
  ⟨"GetNamedShadowSubscriptionRequest", [("shadow_name", .topic), ("thing_name", .topic)]⟩

def getShadowRequest : RequestClass :=
  ⟨"GetShadowRequest", [("client_token", .plain "clientToken"), ("thing_name", .topic)]⟩

def getShadowSubscriptionRequest : RequestClass :=
  ⟨"GetShadowSubscriptionRequest", [("thing_name", .topic)]⟩

def namedShadowDeltaUpdatedSubscriptionRequest : RequestClass :=
  ⟨"NamedShadowDeltaUpdatedSubscriptionRequest", [("shadow_name", .topic), ("thing_name", .topic)]⟩

def namedShadowUpdatedSubscriptionRequest : RequestClass :=
  ⟨"NamedShadowUpdatedSubscriptionRequest", [("shadow_name", .topic), ("thing_name", .topic)]⟩

def shadowDeltaUpdatedSubscriptionRequest : RequestClass :=
  ⟨"ShadowDeltaUpdatedSubscriptionRequest", [("thing_name", .topic)]⟩

def shadowUpdatedSubscriptionRequest : RequestClass :=
  ⟨"ShadowUpdatedSubscriptionRequest", [("thing_name", .topic)]⟩

def updateNamedShadowRequest : RequestClass :=
  ⟨"UpdateNamedShadowRequest", [("client_token", .plain "clientToken"), ("shadow_name", .topic),
    ("state", .payload "state"), ("thing_name", .topic), ("version", .plain "version")]⟩

def updateNamedShadowSubscriptionRequest : RequestClass :=
  ⟨"UpdateNamedShadowSubscriptionRequest", [("shadow_name", .topic), ("thing_name", .topic)]⟩

def updateShadowRequest : RequestClass :=
  ⟨"UpdateShadowRequest", [("client_token", .plain "clientToken"), ("state", .payload "state"),
    ("thing_name", .topic), ("version", .plain "version")]⟩

def updateShadowSubscriptionRequest : RequestClass :=
  ⟨"UpdateShadowSubscriptionRequest", [("thing_name", .topic)]⟩

/-! ## The client -/

def publishDeleteNamedShadow : PublishOperation where
  name := "publish_delete_named_shadow"
  request := deleteNamedShadowRequest
  required := ["shadow_name", "thing_name"]
  topic := [.text "$aws/things/", .attr "thing_name", .text "/shadow/name/", .attr "shadow_name",
    .text "/delete"]

def publishDeleteShadow : PublishOperation where
  name := "publish_delete_shadow"
  request := deleteShadowRequest
  required := ["thing_name"]
  topic := [.text "$aws/things/", .attr "thing_name", .text "/shadow/delete"]

def publishGetNamedShadow : PublishOperation where
  name := "publish_get_named_shadow"
  request := getNamedShadowRequest
  required := ["shadow_name", "thing_name"]
  topic := [.text "$aws/things/", .attr "thing_name", .text "/shadow/name/", .attr "shadow_name",
    .text "/get"]

def publishGetShadow : PublishOperation where
  name := "publish_get_shadow"
  request := getShadowRequest
  required := ["thing_name"]
  topic := [.text "$aws/things/", .attr "thing_name", .text "/shadow/get"]

def publishUpdateNamedShadow : PublishOperation where
  name := "publish_update_named_shadow"
  request := updateNamedShadowRequest
  required := ["shadow_name", "thing_name"]
  topic := [.text "$aws/things/", .attr "thing_name", .text "/shadow/name/", .attr "shadow_name",
    .text "/update"]

def publishUpdateShadow : PublishOperation where
  name := "publish_update_shadow"
  request := updateShadowRequest
  required := ["thing_name"]
  topic := [.text "$aws/things/", .attr "thing_name", .text "/shadow/update"]

def subscribeToDeleteNamedShadowAccepted : SubscribeOperation where
  name := "subscribe_to_delete_named_shadow_accepted"
  request := deleteNamedShadowSubscriptionRequest
  required := ["thing_name", "shadow_name"]
  topic := [.text "$aws/things/", .attr "thing_name", .text "/shadow/name/", .attr "shadow_name",
    .text "/delete/accepted"]
  response := deleteShadowResponse

def subscribeToDeleteNamedShadowRejected : SubscribeOperation where
  name := "subscribe_to_delete_named_shadow_rejected"
  request := deleteNamedShadowSubscriptionRequest
  required := ["thing_name", "shadow_name"]
  topic := [.text "$aws/things/", .attr "thing_name", .text "/shadow/name/", .attr "shadow_name",
    .text "/delete/rejected"]
  response := errorResponse

def subscribeToDeleteShadowAccepted : SubscribeOperation where
  name := "subscribe_to_delete_shadow_accepted"
  request := deleteShadowSubscriptionRequest
  required := ["thing_name"]
  topic := [.text "$aws/things/", .attr "thing_name", .text "/shadow/delete/accepted"]
  response := deleteShadowResponse

def subscribeToDeleteShadowRejected : SubscribeOperation where
  name := "subscribe_to_delete_shadow_rejected"
  request := deleteShadowSubscriptionRequest
  required := ["thing_name"]
  topic := [.text "$aws/things/", .attr "thing_name", .text "/shadow/delete/rejected"]
  response := errorResponse

def subscribeToGetNamedShadowAccepted : SubscribeOperation where
  name := "subscribe_to_get_named_shadow_accepted"
  request := getNamedShadowSubscriptionRequest
  required := ["thing_name", "shadow_name"]
  topic := [.text "$aws/things/", .attr "thing_name", .text "/shadow/name/", .attr "shadow_name",
    .text "/get/accepted"]
  response := getShadowResponse

def subscribeToGetNamedShadowRejected : SubscribeOperation where
  name := "subscribe_to_get_named_shadow_rejected"
  request := getNamedShadowSubscriptionRequest
  required := ["thing_name", "shadow_name"]
  topic := [.text "$aws/things/", .attr "thing_name", .text "/shadow/name/", .attr "shadow_name",
    .text "/get/rejected"]
  response := errorResponse

def subscribeToGetShadowAccepted : SubscribeOperation where
  name := "subscribe_to_get_shadow_accepted"
  request := getShadowSubscriptionRequest
  required := ["thing_name"]
  topic := [.text "$aws/things/", .attr "thing_name", .text "/shadow/get/accepted"]
  response := getShadowResponse

def subscribeToGetShadowRejected : SubscribeOperation where
  name := "subscribe_to_get_shadow_rejected"
  request := getShadowSubscriptionRequest
  required := ["thing_name"]
  topic := [.text "$aws/things/", .attr "thing_name", .text "/shadow/get/rejected"]
  response := errorResponse

def subscribeToNamedShadowDeltaUpdatedEvents : SubscribeOperation where
  name := "subscribe_to_named_shadow_delta_updated_events"
  request := namedShadowDeltaUpdatedSubscriptionRequest
  required := ["thing_name", "shadow_name"]
  topic := [.text "$aws/things/", .attr "thing_name", .text "/shadow/name/", .attr "shadow_name",
    .text "/update/delta"]
  response := shadowDeltaUpdatedEvent

def subscribeToNamedShadowUpdatedEvents : SubscribeOperation where
  name := "subscribe_to_named_shadow_updated_events"
  request := namedShadowUpdatedSubscriptionRequest
  required := ["shadow_name", "thing_name"]
  topic := [.text "$aws/things/", .attr "thing_name", .text "/shadow/name/", .attr "shadow_name",
    .text "/update/documents"]
  response := shadowUpdatedEvent

def subscribeToShadowDeltaUpdatedEvents : SubscribeOperation where
  name := "subscribe_to_shadow_delta_updated_events"
  request := shadowDeltaUpdatedSubscriptionRequest
  required := ["thing_name"]
  topic := [.text "$aws/things/", .attr "thing_name", .text "/shadow/update/delta"]
  response := shadowDeltaUpdatedEvent

def subscribeToShadowUpdatedEvents : SubscribeOperation where
  name := "subscribe_to_shadow_updated_events"
  request := shadowUpdatedSubscriptionRequest
  required := ["thing_name"]
  topic := [.text "$aws/things/", .attr "thing_name", .text "/shadow/update/documents"]
  response := shadowUpdatedEvent

def subscribeToUpdateNamedShadowAccepted : SubscribeOperation where
  name := "subscribe_to_update_named_shadow_accepted"
  request := updateNamedShadowSubscriptionRequest
  required := ["thing_name", "shadow_name"]
  topic := [.text "$aws/things/", .attr "thing_name", .text "/shadow/name/", .attr "shadow_name",
    .text "/update/accepted"]
  response := updateShadowResponse

def subscribeToUpdateNamedShadowRejected : SubscribeOperation where
  name := "subscribe_to_update_named_shadow_rejected"
  request := updateNamedShadowSubscriptionRequest
  required := ["thing_name", "shadow_name"]
  topic := [.text "$aws/things/", .attr "thing_name", .text "/shadow/name/", .attr "shadow_name",
    .text "/update/rejected"]
  response := errorResponse

def subscribeToUpdateShadowAccepted : SubscribeOperation where
  name := "subscribe_to_update_shadow_accepted"
  request := updateShadowSubscriptionRequest
  required := ["thing_name"]
  topic := [.text "$aws/things/", .attr "thing_name", .text "/shadow/update/accepted"]
  response := updateShadowResponse

def subscribeToUpdateShadowRejected : SubscribeOperation where
  name := "subscribe_to_update_shadow_rejected"
  request := updateShadowSubscriptionRequest
  required := ["thing_name"]
  topic := [.text "$aws/things/", .attr "thing_name", .text "/shadow/update/rejected"]
  response := errorResponse

def publishes : List PublishOperation :=
  [publishDeleteNamedShadow, publishDeleteShadow, publishGetNamedShadow, publishGetShadow,
    publishUpdateNamedShadow, publishUpdateShadow]

def subscribes : List SubscribeOperation :=
  [subscribeToDeleteNamedShadowAccepted, subscribeToDeleteNamedShadowRejected,
    subscribeToDeleteShadowAccepted, subscribeToDeleteShadowRejected,
    subscribeToGetNamedShadowAccepted, subscribeToGetNamedShadowRejected,
    subscribeToGetShadowAccepted, subscribeToGetShadowRejected,
    subscribeToNamedShadowDeltaUpdatedEvents, subscribeToNamedShadowUpdatedEvents,
    subscribeToShadowDeltaUpdatedEvents, subscribeToShadowUpdatedEvents,
    subscribeToUpdateNamedShadowAccepted, subscribeToUpdateNamedShadowRejected,
    subscribeToUpdateShadowAccepted, subscribeToUpdateShadowRejected]

end IotCore.Mqtt.IotShadow
