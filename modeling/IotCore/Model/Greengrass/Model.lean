import IotCore.Model.Greengrass.Shapes

/-! # `awsiot.greengrasscoreipc.model`

The shapes of the service and its operations, in the order of the source. -/

namespace IotCore.Greengrass

/-- A subclass of `rpc.Shape`. -/
def shape (name : String) (members : List Member) : ShapeClass :=
  ⟨"aws.greengrass#" ++ name, false, members⟩

/-- A subclass of `GreengrassCoreIPCError`. -/
def error (name : String) (members : List Member) : ShapeClass :=
  ⟨"aws.greengrass#" ++ name, true, members⟩

/-! ## Shapes -/

def systemResourceLimits : ShapeClass :=
  shape "SystemResourceLimits" [⟨"memory", "memory", .int⟩, ⟨"cpus", "cpus", .float⟩]

def messageContext : ShapeClass := shape "MessageContext" [⟨"topic", "topic", .plain⟩]

def validateConfigurationUpdateEvent : ShapeClass :=
  shape "ValidateConfigurationUpdateEvent" [⟨"configuration", "configuration", .plain⟩,
    ⟨"deployment_id", "deploymentId", .plain⟩]

def runWithInfo : ShapeClass :=
  shape "RunWithInfo" [⟨"posix_user", "posixUser", .plain⟩, ⟨"windows_user", "windowsUser", .plain⟩,
    ⟨"system_resource_limits", "systemResourceLimits", .shape systemResourceLimits⟩]

def preComponentUpdateEvent : ShapeClass :=
  shape "PreComponentUpdateEvent" [⟨"deployment_id", "deploymentId", .plain⟩,
    ⟨"is_ggc_restarting", "isGgcRestarting", .plain⟩]

def postComponentUpdateEvent : ShapeClass :=
  shape "PostComponentUpdateEvent" [⟨"deployment_id", "deploymentId", .plain⟩]

def mqttMessage : ShapeClass :=
  shape "MQTTMessage" [⟨"topic_name", "topicName", .plain⟩, ⟨"payload", "payload", .blob⟩]

def mqttCredential : ShapeClass :=
  shape "MQTTCredential" [⟨"client_id", "clientId", .plain⟩,
    ⟨"certificate_pem", "certificatePem", .plain⟩, ⟨"username", "username", .plain⟩,
    ⟨"password", "password", .plain⟩]

def metric : ShapeClass :=
  shape "Metric" [⟨"name", "name", .plain⟩, ⟨"unit", "unit", .plain⟩, ⟨"value", "value", .float⟩]

def jsonMessage : ShapeClass :=
  shape "JsonMessage" [⟨"message", "message", .plain⟩,
    ⟨"context", "context", .shape messageContext⟩]

def configurationUpdateEvent : ShapeClass :=
  shape "ConfigurationUpdateEvent" [⟨"component_name", "componentName", .plain⟩,
    ⟨"key_path", "keyPath", .plain⟩]

def certificateUpdate : ShapeClass :=
  shape "CertificateUpdate" [⟨"private_key", "privateKey", .plain⟩,
    ⟨"public_key", "publicKey", .plain⟩, ⟨"certificate", "certificate", .plain⟩,
    ⟨"ca_certificates", "caCertificates", .plain⟩]

def binaryMessage : ShapeClass :=
  shape "BinaryMessage" [⟨"message", "message", .blob⟩,
    ⟨"context", "context", .shape messageContext⟩]

def validateConfigurationUpdateEvents : ShapeClass :=
  shape "ValidateConfigurationUpdateEvents" [
    ⟨"validate_configuration_update_event", "validateConfigurationUpdateEvent",
      .shape validateConfigurationUpdateEvent⟩]

def subscriptionResponseMessage : ShapeClass :=
  shape "SubscriptionResponseMessage" [⟨"json_message", "jsonMessage", .shape jsonMessage⟩,
    ⟨"binary_message", "binaryMessage", .shape binaryMessage⟩]

def secretValue : ShapeClass :=
  shape "SecretValue" [⟨"secret_string", "secretString", .plain⟩,
    ⟨"secret_binary", "secretBinary", .blob⟩]

def publishMessage : ShapeClass :=
  shape "PublishMessage" [⟨"json_message", "jsonMessage", .shape jsonMessage⟩,
    ⟨"binary_message", "binaryMessage", .shape binaryMessage⟩]

def localDeployment : ShapeClass :=
  shape "LocalDeployment" [⟨"deployment_id", "deploymentId", .plain⟩, ⟨"status", "status", .plain⟩]

def iotCoreMessage : ShapeClass :=
  shape "IoTCoreMessage" [⟨"message", "message", .shape mqttMessage⟩]

def credentialDocument : ShapeClass :=
  shape "CredentialDocument" [⟨"mqtt_credential", "mqttCredential", .shape mqttCredential⟩]

def configurationValidityReport : ShapeClass :=
  shape "ConfigurationValidityReport" [⟨"status", "status", .plain⟩,
    ⟨"deployment_id", "deploymentId", .plain⟩, ⟨"message", "message", .plain⟩]

def configurationUpdateEvents : ShapeClass :=
  shape "ConfigurationUpdateEvents" [
    ⟨"configuration_update_event", "configurationUpdateEvent", .shape configurationUpdateEvent⟩]

def componentUpdatePolicyEvents : ShapeClass :=
  shape "ComponentUpdatePolicyEvents" [
    ⟨"pre_update_event", "preUpdateEvent", .shape preComponentUpdateEvent⟩,
    ⟨"post_update_event", "postUpdateEvent", .shape postComponentUpdateEvent⟩]

def componentDetails : ShapeClass :=
  shape "ComponentDetails" [⟨"component_name", "componentName", .plain⟩,
    ⟨"version", "version", .plain⟩, ⟨"state", "state", .plain⟩,
    ⟨"configuration", "configuration", .plain⟩]

def clientDeviceCredential : ShapeClass :=
  shape "ClientDeviceCredential" [⟨"client_device_certificate", "clientDeviceCertificate", .plain⟩]

def certificateUpdateEvent : ShapeClass :=
  shape "CertificateUpdateEvent" [
    ⟨"certificate_update", "certificateUpdate", .shape certificateUpdate⟩]

def certificateOptions : ShapeClass :=
  shape "CertificateOptions" [⟨"certificate_type", "certificateType", .plain⟩]

def invalidArtifactsDirectoryPathError : ShapeClass :=
  error "InvalidArtifactsDirectoryPathError" [⟨"message", "message", .plain⟩]

def invalidRecipeDirectoryPathError : ShapeClass :=
  error "InvalidRecipeDirectoryPathError" [⟨"message", "message", .plain⟩]

def createLocalDeploymentResponse : ShapeClass :=
  shape "CreateLocalDeploymentResponse" [⟨"deployment_id", "deploymentId", .plain⟩]

def createLocalDeploymentRequest : ShapeClass :=
  shape "CreateLocalDeploymentRequest" [⟨"group_name", "groupName", .plain⟩,
    ⟨"root_component_versions_to_add", "rootComponentVersionsToAdd", .plain⟩,
    ⟨"root_components_to_remove", "rootComponentsToRemove", .plain⟩,
    ⟨"component_to_configuration", "componentToConfiguration", .plain⟩,
    ⟨"component_to_run_with_info", "componentToRunWithInfo", .map runWithInfo⟩,
    ⟨"recipe_directory_path", "recipeDirectoryPath", .plain⟩,
    ⟨"artifacts_directory_path", "artifactsDirectoryPath", .plain⟩]

def pauseComponentResponse : ShapeClass := shape "PauseComponentResponse" []

def pauseComponentRequest : ShapeClass :=
  shape "PauseComponentRequest" [⟨"component_name", "componentName", .plain⟩]

def stopComponentResponse : ShapeClass :=
  shape "StopComponentResponse" [⟨"stop_status", "stopStatus", .plain⟩,
    ⟨"message", "message", .plain⟩]

def stopComponentRequest : ShapeClass :=
  shape "StopComponentRequest" [⟨"component_name", "componentName", .plain⟩]

def listLocalDeploymentsResponse : ShapeClass :=
  shape "ListLocalDeploymentsResponse" [
    ⟨"local_deployments", "localDeployments", .list localDeployment⟩]

def listLocalDeploymentsRequest : ShapeClass := shape "ListLocalDeploymentsRequest" []

def subscribeToComponentUpdatesResponse : ShapeClass :=
  shape "SubscribeToComponentUpdatesResponse" []

def subscribeToComponentUpdatesRequest : ShapeClass := shape "SubscribeToComponentUpdatesRequest" []

def listNamedShadowsForThingResponse : ShapeClass :=
  shape "ListNamedShadowsForThingResponse" [⟨"results", "results", .plain⟩,
    ⟨"timestamp", "timestamp", .timestamp⟩, ⟨"next_token", "nextToken", .plain⟩]

def listNamedShadowsForThingRequest : ShapeClass :=
  shape "ListNamedShadowsForThingRequest" [⟨"thing_name", "thingName", .plain⟩,
    ⟨"next_token", "nextToken", .plain⟩, ⟨"page_size", "pageSize", .int⟩]

def updateStateResponse : ShapeClass := shape "UpdateStateResponse" []

def updateStateRequest : ShapeClass := shape "UpdateStateRequest" [⟨"state", "state", .plain⟩]

def getSecretValueResponse : ShapeClass :=
  shape "GetSecretValueResponse" [⟨"secret_id", "secretId", .plain⟩,
    ⟨"version_id", "versionId", .plain⟩, ⟨"version_stage", "versionStage", .plain⟩,
    ⟨"secret_value", "secretValue", .shape secretValue⟩]

def getSecretValueRequest : ShapeClass :=
  shape "GetSecretValueRequest" [⟨"secret_id", "secretId", .plain⟩,
    ⟨"version_id", "versionId", .plain⟩, ⟨"version_stage", "versionStage", .plain⟩]

def getLocalDeploymentStatusResponse : ShapeClass :=
  shape "GetLocalDeploymentStatusResponse" [⟨"deployment", "deployment", .shape localDeployment⟩]

def getLocalDeploymentStatusRequest : ShapeClass :=
  shape "GetLocalDeploymentStatusRequest" [⟨"deployment_id", "deploymentId", .plain⟩]

def componentNotFoundError : ShapeClass :=
  error "ComponentNotFoundError" [⟨"message", "message", .plain⟩]

def restartComponentResponse : ShapeClass :=
  shape "RestartComponentResponse" [⟨"restart_status", "restartStatus", .plain⟩,
    ⟨"message", "message", .plain⟩]

def restartComponentRequest : ShapeClass :=
  shape "RestartComponentRequest" [⟨"component_name", "componentName", .plain⟩]

def invalidTokenError : ShapeClass := error "InvalidTokenError" [⟨"message", "message", .plain⟩]

def validateAuthorizationTokenResponse : ShapeClass :=
  shape "ValidateAuthorizationTokenResponse" [⟨"is_valid", "isValid", .plain⟩]

def validateAuthorizationTokenRequest : ShapeClass :=
  shape "ValidateAuthorizationTokenRequest" [⟨"token", "token", .plain⟩]

def failedUpdateConditionCheckError : ShapeClass :=
  error "FailedUpdateConditionCheckError" [⟨"message", "message", .plain⟩]

def updateConfigurationResponse : ShapeClass := shape "UpdateConfigurationResponse" []

def updateConfigurationRequest : ShapeClass :=
  shape "UpdateConfigurationRequest" [⟨"key_path", "keyPath", .plain⟩,
    ⟨"timestamp", "timestamp", .timestamp⟩, ⟨"value_to_merge", "valueToMerge", .plain⟩]

def conflictError : ShapeClass := error "ConflictError" [⟨"message", "message", .plain⟩]

def updateThingShadowResponse : ShapeClass :=
  shape "UpdateThingShadowResponse" [⟨"payload", "payload", .blob⟩]

def updateThingShadowRequest : ShapeClass :=
  shape "UpdateThingShadowRequest" [⟨"thing_name", "thingName", .plain⟩,
    ⟨"shadow_name", "shadowName", .plain⟩, ⟨"payload", "payload", .blob⟩]

def sendConfigurationValidityReportResponse : ShapeClass :=
  shape "SendConfigurationValidityReportResponse" []

def sendConfigurationValidityReportRequest : ShapeClass :=
  shape "SendConfigurationValidityReportRequest" [
    ⟨"configuration_validity_report", "configurationValidityReport",
      .shape configurationValidityReport⟩]

def getThingShadowResponse : ShapeClass :=
  shape "GetThingShadowResponse" [⟨"payload", "payload", .blob⟩]

def getThingShadowRequest : ShapeClass :=
  shape "GetThingShadowRequest" [⟨"thing_name", "thingName", .plain⟩,
    ⟨"shadow_name", "shadowName", .plain⟩]

def createDebugPasswordResponse : ShapeClass :=
  shape "CreateDebugPasswordResponse" [⟨"password", "password", .plain⟩,
    ⟨"username", "username", .plain⟩, ⟨"password_expiration", "passwordExpiration", .timestamp⟩,
    ⟨"certificate_sha256_hash", "certificateSHA256Hash", .plain⟩,
    ⟨"certificate_sha1_hash", "certificateSHA1Hash", .plain⟩]

def createDebugPasswordRequest : ShapeClass := shape "CreateDebugPasswordRequest" []

def listComponentsResponse : ShapeClass :=
  shape "ListComponentsResponse" [⟨"components", "components", .list componentDetails⟩]

def listComponentsRequest : ShapeClass := shape "ListComponentsRequest" []

def invalidClientDeviceAuthTokenError : ShapeClass :=
  error "InvalidClientDeviceAuthTokenError" [⟨"message", "message", .plain⟩]

def authorizeClientDeviceActionResponse : ShapeClass :=
  shape "AuthorizeClientDeviceActionResponse" [⟨"is_authorized", "isAuthorized", .plain⟩]

def authorizeClientDeviceActionRequest : ShapeClass :=
  shape "AuthorizeClientDeviceActionRequest" [
    ⟨"client_device_auth_token", "clientDeviceAuthToken", .plain⟩,
    ⟨"operation", "operation", .plain⟩, ⟨"resource", "resource", .plain⟩]

def verifyClientDeviceIdentityResponse : ShapeClass :=
  shape "VerifyClientDeviceIdentityResponse" [
    ⟨"is_valid_client_device", "isValidClientDevice", .plain⟩]

def verifyClientDeviceIdentityRequest : ShapeClass :=
  shape "VerifyClientDeviceIdentityRequest" [
    ⟨"credential", "credential", .shape clientDeviceCredential⟩]

def subscribeToCertificateUpdatesResponse : ShapeClass :=
  shape "SubscribeToCertificateUpdatesResponse" []

def subscribeToCertificateUpdatesRequest : ShapeClass :=
  shape "SubscribeToCertificateUpdatesRequest" [
    ⟨"certificate_options", "certificateOptions", .shape certificateOptions⟩]

def publishToTopicResponse : ShapeClass := shape "PublishToTopicResponse" []

def publishToTopicRequest : ShapeClass :=
  shape "PublishToTopicRequest" [⟨"topic", "topic", .plain⟩,
    ⟨"publish_message", "publishMessage", .shape publishMessage⟩]

def invalidCredentialError : ShapeClass :=
  error "InvalidCredentialError" [⟨"message", "message", .plain⟩]

def getClientDeviceAuthTokenResponse : ShapeClass :=
  shape "GetClientDeviceAuthTokenResponse" [
    ⟨"client_device_auth_token", "clientDeviceAuthToken", .plain⟩]

def getClientDeviceAuthTokenRequest : ShapeClass :=
  shape "GetClientDeviceAuthTokenRequest" [⟨"credential", "credential", .shape credentialDocument⟩]

def getComponentDetailsResponse : ShapeClass :=
  shape "GetComponentDetailsResponse" [
    ⟨"component_details", "componentDetails", .shape componentDetails⟩]

def getComponentDetailsRequest : ShapeClass :=
  shape "GetComponentDetailsRequest" [⟨"component_name", "componentName", .plain⟩]

def subscribeToTopicResponse : ShapeClass :=
  shape "SubscribeToTopicResponse" [⟨"topic_name", "topicName", .plain⟩]

def subscribeToTopicRequest : ShapeClass :=
  shape "SubscribeToTopicRequest" [⟨"topic", "topic", .plain⟩,
    ⟨"receive_mode", "receiveMode", .plain⟩]

def getConfigurationResponse : ShapeClass :=
  shape "GetConfigurationResponse" [⟨"component_name", "componentName", .plain⟩,
    ⟨"value", "value", .plain⟩]

def getConfigurationRequest : ShapeClass :=
  shape "GetConfigurationRequest" [⟨"component_name", "componentName", .plain⟩,
    ⟨"key_path", "keyPath", .plain⟩]

def subscribeToValidateConfigurationUpdatesResponse : ShapeClass :=
  shape "SubscribeToValidateConfigurationUpdatesResponse" []

def subscribeToValidateConfigurationUpdatesRequest : ShapeClass :=
  shape "SubscribeToValidateConfigurationUpdatesRequest" []

def deferComponentUpdateResponse : ShapeClass := shape "DeferComponentUpdateResponse" []

def deferComponentUpdateRequest : ShapeClass :=
  shape "DeferComponentUpdateRequest" [⟨"deployment_id", "deploymentId", .plain⟩,
    ⟨"message", "message", .plain⟩, ⟨"recheck_after_ms", "recheckAfterMs", .int⟩]

def putComponentMetricResponse : ShapeClass := shape "PutComponentMetricResponse" []

def putComponentMetricRequest : ShapeClass :=
  shape "PutComponentMetricRequest" [⟨"metrics", "metrics", .list metric⟩]

def invalidArgumentsError : ShapeClass :=
  error "InvalidArgumentsError" [⟨"message", "message", .plain⟩]

def deleteThingShadowResponse : ShapeClass :=
  shape "DeleteThingShadowResponse" [⟨"payload", "payload", .blob⟩]

def deleteThingShadowRequest : ShapeClass :=
  shape "DeleteThingShadowRequest" [⟨"thing_name", "thingName", .plain⟩,
    ⟨"shadow_name", "shadowName", .plain⟩]

def subscribeToConfigurationUpdateResponse : ShapeClass :=
  shape "SubscribeToConfigurationUpdateResponse" []

def subscribeToConfigurationUpdateRequest : ShapeClass :=
  shape "SubscribeToConfigurationUpdateRequest" [⟨"component_name", "componentName", .plain⟩,
    ⟨"key_path", "keyPath", .plain⟩]

def publishToIoTCoreResponse : ShapeClass := shape "PublishToIoTCoreResponse" []

def publishToIoTCoreRequest : ShapeClass :=
  shape "PublishToIoTCoreRequest" [⟨"topic_name", "topicName", .plain⟩, ⟨"qos", "qos", .plain⟩,
    ⟨"payload", "payload", .blob⟩]

def resourceNotFoundError : ShapeClass :=
  error "ResourceNotFoundError" [⟨"message", "message", .plain⟩,
    ⟨"resource_type", "resourceType", .plain⟩, ⟨"resource_name", "resourceName", .plain⟩]

def resumeComponentResponse : ShapeClass := shape "ResumeComponentResponse" []

def resumeComponentRequest : ShapeClass :=
  shape "ResumeComponentRequest" [⟨"component_name", "componentName", .plain⟩]

def unauthorizedError : ShapeClass := error "UnauthorizedError" [⟨"message", "message", .plain⟩]

def serviceError : ShapeClass := error "ServiceError" [⟨"message", "message", .plain⟩]

def subscribeToIoTCoreResponse : ShapeClass := shape "SubscribeToIoTCoreResponse" []

def subscribeToIoTCoreRequest : ShapeClass :=
  shape "SubscribeToIoTCoreRequest" [⟨"topic_name", "topicName", .plain⟩, ⟨"qos", "qos", .plain⟩]

/-! ## The catalog -/

/-- The generated classes. -/
def shapes : List ShapeClass :=
  [
    systemResourceLimits, messageContext, validateConfigurationUpdateEvent, runWithInfo,
    preComponentUpdateEvent, postComponentUpdateEvent, mqttMessage, mqttCredential, metric,
    jsonMessage, configurationUpdateEvent, certificateUpdate, binaryMessage,
    validateConfigurationUpdateEvents, subscriptionResponseMessage, secretValue, publishMessage,
    localDeployment, iotCoreMessage, credentialDocument, configurationValidityReport,
    configurationUpdateEvents, componentUpdatePolicyEvents, componentDetails,
    clientDeviceCredential, certificateUpdateEvent, certificateOptions,
    invalidArtifactsDirectoryPathError, invalidRecipeDirectoryPathError,
    createLocalDeploymentResponse, createLocalDeploymentRequest, pauseComponentResponse,
    pauseComponentRequest, stopComponentResponse, stopComponentRequest,
    listLocalDeploymentsResponse, listLocalDeploymentsRequest,
    subscribeToComponentUpdatesResponse, subscribeToComponentUpdatesRequest,
    listNamedShadowsForThingResponse, listNamedShadowsForThingRequest, updateStateResponse,
    updateStateRequest, getSecretValueResponse, getSecretValueRequest,
    getLocalDeploymentStatusResponse, getLocalDeploymentStatusRequest, componentNotFoundError,
    restartComponentResponse, restartComponentRequest, invalidTokenError,
    validateAuthorizationTokenResponse, validateAuthorizationTokenRequest,
    failedUpdateConditionCheckError, updateConfigurationResponse, updateConfigurationRequest,
    conflictError, updateThingShadowResponse, updateThingShadowRequest,
    sendConfigurationValidityReportResponse, sendConfigurationValidityReportRequest,
    getThingShadowResponse, getThingShadowRequest, createDebugPasswordResponse,
    createDebugPasswordRequest, listComponentsResponse, listComponentsRequest,
    invalidClientDeviceAuthTokenError, authorizeClientDeviceActionResponse,
    authorizeClientDeviceActionRequest, verifyClientDeviceIdentityResponse,
    verifyClientDeviceIdentityRequest, subscribeToCertificateUpdatesResponse,
    subscribeToCertificateUpdatesRequest, publishToTopicResponse, publishToTopicRequest,
    invalidCredentialError, getClientDeviceAuthTokenResponse, getClientDeviceAuthTokenRequest,
    getComponentDetailsResponse, getComponentDetailsRequest, subscribeToTopicResponse,
    subscribeToTopicRequest, getConfigurationResponse, getConfigurationRequest,
    subscribeToValidateConfigurationUpdatesResponse,
    subscribeToValidateConfigurationUpdatesRequest, deferComponentUpdateResponse,
    deferComponentUpdateRequest, putComponentMetricResponse, putComponentMetricRequest,
    invalidArgumentsError, deleteThingShadowResponse, deleteThingShadowRequest,
    subscribeToConfigurationUpdateResponse, subscribeToConfigurationUpdateRequest,
    publishToIoTCoreResponse, publishToIoTCoreRequest, resourceNotFoundError,
    resumeComponentResponse, resumeComponentRequest, unauthorizedError, serviceError,
    subscribeToIoTCoreResponse, subscribeToIoTCoreRequest
  ]

/-- `SHAPE_INDEX`. -/
def shapeIndex : List ShapeClass :=
  [
    systemResourceLimits, messageContext, validateConfigurationUpdateEvent, runWithInfo,
    preComponentUpdateEvent, postComponentUpdateEvent, mqttMessage, mqttCredential, metric,
    jsonMessage, configurationUpdateEvent, certificateUpdate, binaryMessage, localDeployment,
    configurationValidityReport, componentDetails, certificateOptions,
    invalidArtifactsDirectoryPathError, invalidRecipeDirectoryPathError,
    createLocalDeploymentResponse, createLocalDeploymentRequest, pauseComponentResponse,
    pauseComponentRequest, stopComponentResponse, stopComponentRequest,
    listLocalDeploymentsResponse, listLocalDeploymentsRequest,
    subscribeToComponentUpdatesResponse, subscribeToComponentUpdatesRequest,
    listNamedShadowsForThingResponse, listNamedShadowsForThingRequest, updateStateResponse,
    updateStateRequest, getSecretValueResponse, getSecretValueRequest,
    getLocalDeploymentStatusResponse, getLocalDeploymentStatusRequest, componentNotFoundError,
    restartComponentResponse, restartComponentRequest, invalidTokenError,
    validateAuthorizationTokenResponse, validateAuthorizationTokenRequest,
    failedUpdateConditionCheckError, updateConfigurationResponse, updateConfigurationRequest,
    conflictError, updateThingShadowResponse, updateThingShadowRequest,
    sendConfigurationValidityReportResponse, sendConfigurationValidityReportRequest,
    getThingShadowResponse, getThingShadowRequest, createDebugPasswordResponse,
    createDebugPasswordRequest, listComponentsResponse, listComponentsRequest,
    invalidClientDeviceAuthTokenError, authorizeClientDeviceActionResponse,
    authorizeClientDeviceActionRequest, verifyClientDeviceIdentityResponse,
    verifyClientDeviceIdentityRequest, subscribeToCertificateUpdatesResponse,
    subscribeToCertificateUpdatesRequest, publishToTopicResponse, publishToTopicRequest,
    invalidCredentialError, getClientDeviceAuthTokenResponse, getClientDeviceAuthTokenRequest,
    getComponentDetailsResponse, getComponentDetailsRequest, subscribeToTopicResponse,
    subscribeToTopicRequest, getConfigurationResponse, getConfigurationRequest,
    subscribeToValidateConfigurationUpdatesResponse,
    subscribeToValidateConfigurationUpdatesRequest, deferComponentUpdateResponse,
    deferComponentUpdateRequest, putComponentMetricResponse, putComponentMetricRequest,
    invalidArgumentsError, deleteThingShadowResponse, deleteThingShadowRequest,
    subscribeToConfigurationUpdateResponse, subscribeToConfigurationUpdateRequest,
    publishToIoTCoreResponse, publishToIoTCoreRequest, resourceNotFoundError,
    resumeComponentResponse, resumeComponentRequest, unauthorizedError, serviceError,
    subscribeToIoTCoreResponse, subscribeToIoTCoreRequest
  ]

/-! ## Operations -/

/-- A generated subclass of `ClientOperation`; no request stream has a type. -/
structure OperationType where
  modelName : String
  requestType : ShapeClass
  responseType : ShapeClass
  responseStreamType : Option ShapeClass

def operation (name : String) (requestType responseType : ShapeClass)
    (responseStreamType : Option ShapeClass) : OperationType :=
  ⟨"aws.greengrass#" ++ name, requestType, responseType, responseStreamType⟩

def authorizeClientDeviceAction : OperationType :=
  operation "AuthorizeClientDeviceAction" authorizeClientDeviceActionRequest
    authorizeClientDeviceActionResponse none

def createDebugPassword : OperationType :=
  operation "CreateDebugPassword" createDebugPasswordRequest createDebugPasswordResponse none

def createLocalDeployment : OperationType :=
  operation "CreateLocalDeployment" createLocalDeploymentRequest createLocalDeploymentResponse none

def deferComponentUpdate : OperationType :=
  operation "DeferComponentUpdate" deferComponentUpdateRequest deferComponentUpdateResponse none

def deleteThingShadow : OperationType :=
  operation "DeleteThingShadow" deleteThingShadowRequest deleteThingShadowResponse none

def getClientDeviceAuthToken : OperationType :=
  operation "GetClientDeviceAuthToken" getClientDeviceAuthTokenRequest
    getClientDeviceAuthTokenResponse none

def getComponentDetails : OperationType :=
  operation "GetComponentDetails" getComponentDetailsRequest getComponentDetailsResponse none

def getConfiguration : OperationType :=
  operation "GetConfiguration" getConfigurationRequest getConfigurationResponse none

def getLocalDeploymentStatus : OperationType :=
  operation "GetLocalDeploymentStatus" getLocalDeploymentStatusRequest
    getLocalDeploymentStatusResponse none

def getSecretValue : OperationType :=
  operation "GetSecretValue" getSecretValueRequest getSecretValueResponse none

def getThingShadow : OperationType :=
  operation "GetThingShadow" getThingShadowRequest getThingShadowResponse none

def listComponents : OperationType :=
  operation "ListComponents" listComponentsRequest listComponentsResponse none

def listLocalDeployments : OperationType :=
  operation "ListLocalDeployments" listLocalDeploymentsRequest listLocalDeploymentsResponse none

def listNamedShadowsForThing : OperationType :=
  operation "ListNamedShadowsForThing" listNamedShadowsForThingRequest
    listNamedShadowsForThingResponse none

def pauseComponent : OperationType :=
  operation "PauseComponent" pauseComponentRequest pauseComponentResponse none

def publishToIoTCore : OperationType :=
  operation "PublishToIoTCore" publishToIoTCoreRequest publishToIoTCoreResponse none

def publishToTopic : OperationType :=
  operation "PublishToTopic" publishToTopicRequest publishToTopicResponse none

def putComponentMetric : OperationType :=
  operation "PutComponentMetric" putComponentMetricRequest putComponentMetricResponse none

def restartComponent : OperationType :=
  operation "RestartComponent" restartComponentRequest restartComponentResponse none

def resumeComponent : OperationType :=
  operation "ResumeComponent" resumeComponentRequest resumeComponentResponse none

def sendConfigurationValidityReport : OperationType :=
  operation "SendConfigurationValidityReport" sendConfigurationValidityReportRequest
    sendConfigurationValidityReportResponse none

def stopComponent : OperationType :=
  operation "StopComponent" stopComponentRequest stopComponentResponse none

def subscribeToCertificateUpdates : OperationType :=
  operation "SubscribeToCertificateUpdates" subscribeToCertificateUpdatesRequest
    subscribeToCertificateUpdatesResponse (some certificateUpdateEvent)

def subscribeToComponentUpdates : OperationType :=
  operation "SubscribeToComponentUpdates" subscribeToComponentUpdatesRequest
    subscribeToComponentUpdatesResponse (some componentUpdatePolicyEvents)

def subscribeToConfigurationUpdate : OperationType :=
  operation "SubscribeToConfigurationUpdate" subscribeToConfigurationUpdateRequest
    subscribeToConfigurationUpdateResponse (some configurationUpdateEvents)

def subscribeToIoTCore : OperationType :=
  operation "SubscribeToIoTCore" subscribeToIoTCoreRequest
    subscribeToIoTCoreResponse (some iotCoreMessage)

def subscribeToTopic : OperationType :=
  operation "SubscribeToTopic" subscribeToTopicRequest
    subscribeToTopicResponse (some subscriptionResponseMessage)

def subscribeToValidateConfigurationUpdates : OperationType :=
  operation "SubscribeToValidateConfigurationUpdates" subscribeToValidateConfigurationUpdatesRequest
    subscribeToValidateConfigurationUpdatesResponse (some validateConfigurationUpdateEvents)

def updateConfiguration : OperationType :=
  operation "UpdateConfiguration" updateConfigurationRequest updateConfigurationResponse none

def updateState : OperationType :=
  operation "UpdateState" updateStateRequest updateStateResponse none

def updateThingShadow : OperationType :=
  operation "UpdateThingShadow" updateThingShadowRequest updateThingShadowResponse none

def validateAuthorizationToken : OperationType :=
  operation "ValidateAuthorizationToken" validateAuthorizationTokenRequest
    validateAuthorizationTokenResponse none

def verifyClientDeviceIdentity : OperationType :=
  operation "VerifyClientDeviceIdentity" verifyClientDeviceIdentityRequest
    verifyClientDeviceIdentityResponse none

def operations : List OperationType :=
  [
    authorizeClientDeviceAction, createDebugPassword, createLocalDeployment, deferComponentUpdate,
    deleteThingShadow, getClientDeviceAuthToken, getComponentDetails, getConfiguration,
    getLocalDeploymentStatus, getSecretValue, getThingShadow, listComponents,
    listLocalDeployments, listNamedShadowsForThing, pauseComponent, publishToIoTCore,
    publishToTopic, putComponentMetric, restartComponent, resumeComponent,
    sendConfigurationValidityReport, stopComponent, subscribeToCertificateUpdates,
    subscribeToComponentUpdates, subscribeToConfigurationUpdate, subscribeToIoTCore,
    subscribeToTopic, subscribeToValidateConfigurationUpdates, updateConfiguration, updateState,
    updateThingShadow, validateAuthorizationToken, verifyClientDeviceIdentity
  ]

end IotCore.Greengrass
