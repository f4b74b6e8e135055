import IotCore.Model.Mqtt.ServiceClient

/-! # `awsiot.iotidentity`

The classes and the client of the fleet provisioning service. -/

namespace IotCore.Mqtt.IotIdentity

/-! ## Responses and events -/

def createCertificateFromCsrResponse : ModeledClass :=
  ⟨"CreateCertificateFromCsrResponse", [⟨"certificate_id", "certificateId", .plain⟩,
    ⟨"certificate_ownership_token", "certificateOwnershipToken", .plain⟩,
    ⟨"certificate_pem", "certificatePem", .plain⟩]⟩

def createKeysAndCertificateResponse : ModeledClass :=
  ⟨"CreateKeysAndCertificateResponse", [⟨"certificate_id", "certificateId", .plain⟩,
    ⟨"certificate_ownership_token", "certificateOwnershipToken", .plain⟩,
    ⟨"certificate_pem", "certificatePem", .plain⟩, ⟨"private_key", "privateKey", .plain⟩]⟩

def errorResponse : ModeledClass :=
  ⟨"ErrorResponse", [⟨"error_code", "errorCode", .plain⟩, ⟨"error_message", "errorMessage", .plain⟩,
    ⟨"status_code", "statusCode", .plain⟩]⟩

def registerThingResponse : ModeledClass :=
  ⟨"RegisterThingResponse", [⟨"device_configuration", "deviceConfiguration", .plain⟩,
    ⟨"thing_name", "thingName", .plain⟩]⟩

/-! ## Requests -/

def createCertificateFromCsrRequest : RequestClass :=
  ⟨"CreateCertificateFromCsrRequest", [
    ("certificate_signing_request", .plain "certificateSigningRequest")]⟩

def createCertificateFromCsrSubscriptionRequest : RequestClass :=
  ⟨"CreateCertificateFromCsrSubscriptionRequest", []⟩

def createKeysAndCertificateRequest : RequestClass :=
  ⟨"CreateKeysAndCertificateRequest", []⟩

def createKeysAndCertificateSubscriptionRequest : RequestClass :=
  ⟨"CreateKeysAndCertificateSubscriptionRequest", []⟩

def registerThingRequest : RequestClass :=
  ⟨"RegisterThingRequest", [("certificate_ownership_token", .plain "certificateOwnershipToken"),
    ("parameters", .plain "parameters"), ("template_name", .topic)]⟩

def registerThingSubscriptionRequest : RequestClass :=
  ⟨"RegisterThingSubscriptionRequest", [("template_name", .topic)]⟩

/-! ## The client -/

def publishCreateCertificateFromCsr : PublishOperation where
  name := "publish_create_certificate_from_csr"
  request := createCertificateFromCsrRequest
  required := []
  topic := [.text "$aws/certificates/create-from-csr/json"]

def publishCreateKeysAndCertificate : PublishOperation where
  name := "publish_create_keys_and_certificate"
  request := createKeysAndCertificateRequest
  required := []
  topic := [.text "$aws/certificates/create/json"]
  hasPayload := false

def publishRegisterThing : PublishOperation where
  name := "publish_register_thing"
  request := registerThingRequest
  required := ["template_name"]
  topic := [.text "$aws/provisioning-templates/", .attr "template_name", .text "/provision/json"]

def subscribeToCreateCertificateFromCsrAccepted : SubscribeOperation where
  name := "subscribe_to_create_certificate_from_csr_accepted"
  request := createCertificateFromCsrSubscriptionRequest
  required := []
  topic := [.text "$aws/certificates/create-from-csr/json/accepted"]
  response := createCertificateFromCsrResponse

def subscribeToCreateCertificateFromCsrRejected : SubscribeOperation where
  name := "subscribe_to_create_certificate_from_csr_rejected"
  request := createCertificateFromCsrSubscriptionRequest
  required := []
  topic := [.text "$aws/certificates/create-from-csr/json/rejected"]
  response := errorResponse

def subscribeToCreateKeysAndCertificateAccepted : SubscribeOperation where
  name := "subscribe_to_create_keys_and_certificate_accepted"
  request := createKeysAndCertificateSubscriptionRequest
  required := []
  topic := [.text "$aws/certificates/create/json/accepted"]
  response := createKeysAndCertificateResponse

def subscribeToCreateKeysAndCertificateRejected : SubscribeOperation where
  name := "subscribe_to_create_keys_and_certificate_rejected"
  request := createKeysAndCertificateSubscriptionRequest
  required := []
  topic := [.text "$aws/certificates/create/json/rejected"]
  response := errorResponse

def subscribeToRegisterThingAccepted : SubscribeOperation where
  name := "subscribe_to_register_thing_accepted"
  request := registerThingSubscriptionRequest
  required := ["template_name"]
  topic := [.text "$aws/provisioning-templates/", .attr "template_name",
    .text "/provision/json/accepted"]
  response := registerThingResponse

def subscribeToRegisterThingRejected : SubscribeOperation where
  name := "subscribe_to_register_thing_rejected"
  request := registerThingSubscriptionRequest
  required := ["template_name"]
  topic := [.text "$aws/provisioning-templates/", .attr "template_name",
    .text "/provision/json/rejected"]
  response := errorResponse

def publishes : List PublishOperation :=
  [publishCreateCertificateFromCsr, publishCreateKeysAndCertificate, publishRegisterThing]

def subscribes : List SubscribeOperation :=
  [subscribeToCreateCertificateFromCsrAccepted, subscribeToCreateCertificateFromCsrRejected,
    subscribeToCreateKeysAndCertificateAccepted, subscribeToCreateKeysAndCertificateRejected,
    subscribeToRegisterThingAccepted, subscribeToRegisterThingRejected]

end IotCore.Mqtt.IotIdentity
