import IotCore.Verification.EventStream.CloseReason
import IotCore.Verification.EventStream.Lifecycle
import IotCore.Verification.EventStream.StreamErrors
import IotCore.Verification.EventStream.Sending
import IotCore.Verification.EventStream.FailedConnect
import IotCore.Verification.EventStream.AuthToken
import IotCore.Verification.Shadow.Locking
import IotCore.Verification.Shadow.Correlation
import IotCore.Verification.Shadow.InitialQuery
import IotCore.Verification.Shadow.Convergence
import IotCore.Verification.Shadow.Handlers
import IotCore.Verification.Shadow.DeltaEvents
import IotCore.Verification.Shadow.QueryAgreement
import IotCore.Verification.Jobs.Exclusion
import IotCore.Verification.Jobs.WakeUp
import IotCore.Verification.MqttConnectionBuilder.NoneArguments
import IotCore.Verification.MqttConnectionBuilder.Username
import IotCore.Verification.Pubsub
import IotCore.Library.Base64
import IotCore.Library.JsonReader
import IotCore.Library.JsonWriter
import IotCore.Model.Greengrass.Client
import IotCore.Verification.Greengrass.RoundTrip
import IotCore.Verification.Greengrass.Wire
import IotCore.Library.Executor
import IotCore.Model.Greengrass.ClientV2
import IotCore.Verification.Greengrass.CombinedFuture
import IotCore.Verification.Greengrass.Dispatch
import IotCore.Library.MqttTopic
import IotCore.Verification.Mqtt.Topics
import IotCore.Verification.Mqtt.ServiceClient
import IotCore.Verification.Mqtt.Events
import IotCore.Verification.Mqtt.Requests
import IotCore.Verification.FleetProvisioning
import IotCore.Verification.Discovery
import IotCore.Verification.BasicDiscovery
import IotCore.Verification.Greengrass.Connect
import IotCore.Verification.Shadow.Wire
import IotCore.Verification.DeviceAdvisor
