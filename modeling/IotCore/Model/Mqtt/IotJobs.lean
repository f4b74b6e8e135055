import IotCore.Model.Mqtt.ServiceClient

/-! # `awsiot.iotjobs`

The classes and the client of the jobs service. -/

namespace IotCore.Mqtt.IotJobs

/-! ## Responses and events -/

def jobExecutionData : ModeledClass :=
  ⟨"JobExecutionData", [⟨"execution_number", "executionNumber", .plain⟩,
    ⟨"job_document", "jobDocument", .plain⟩, ⟨"job_id", "jobId", .plain⟩,
    ⟨"last_updated_at", "lastUpdatedAt", .datetime⟩, ⟨"queued_at", "queuedAt", .datetime⟩,
    ⟨"started_at", "startedAt", .datetime⟩, ⟨"status", "status", .plain⟩,
    ⟨"status_details", "statusDetails", .plain⟩, ⟨"thing_name", "thingName", .plain⟩,
    ⟨"version_number", "versionNumber", .plain⟩]⟩

def describeJobExecutionResponse : ModeledClass :=
  ⟨"DescribeJobExecutionResponse", [⟨"client_token", "clientToken", .plain⟩,
    ⟨"execution", "execution", .instance jobExecutionData⟩, ⟨"timestamp", "timestamp", .datetime⟩]⟩

def jobExecutionState : ModeledClass :=
  ⟨"JobExecutionState", [⟨"status", "status", .plain⟩, ⟨"status_details", "statusDetails", .plain⟩,
    ⟨"version_number", "versionNumber", .plain⟩]⟩

def jobExecutionSummary : ModeledClass :=
  ⟨"JobExecutionSummary", [⟨"execution_number", "executionNumber", .plain⟩,
    ⟨"job_id", "jobId", .plain⟩, ⟨"last_updated_at", "lastUpdatedAt", .datetime⟩,
    ⟨"queued_at", "queuedAt", .datetime⟩, ⟨"started_at", "startedAt", .datetime⟩,
    ⟨"version_number", "versionNumber", .plain⟩]⟩

def getPendingJobExecutionsResponse : ModeledClass :=
  ⟨"GetPendingJobExecutionsResponse", [⟨"client_token", "clientToken", .plain⟩,
    ⟨"in_progress_jobs", "inProgressJobs", .list jobExecutionSummary⟩,
    ⟨"queued_jobs", "queuedJobs", .list jobExecutionSummary⟩,
    ⟨"timestamp", "timestamp", .datetime⟩]⟩

def jobExecutionsChangedEvent : ModeledClass :=
  ⟨"JobExecutionsChangedEvent", [⟨"jobs", "jobs", .dict jobExecutionSummary⟩,
    ⟨"timestamp", "timestamp", .datetime⟩]⟩

def nextJobExecutionChangedEvent : ModeledClass :=
  ⟨"NextJobExecutionChangedEvent", [⟨"execution", "execution", .instance jobExecutionData⟩,
    ⟨"timestamp", "timestamp", .datetime⟩]⟩

def rejectedError : ModeledClass :=
  ⟨"RejectedError", [⟨"client_token", "clientToken", .plain⟩, ⟨"code", "code", .plain⟩,
    ⟨"execution_state", "executionState", .instance jobExecutionState⟩,
    ⟨"message", "message", .plain⟩, ⟨"timestamp", "timestamp", .datetime⟩]⟩

def startNextJobExecutionResponse : ModeledClass :=
  ⟨"StartNextJobExecutionResponse", [⟨"client_token", "clientToken", .plain⟩,
    ⟨"execution", "execution", .instance jobExecutionData⟩, ⟨"timestamp", "timestamp", .datetime⟩]⟩

def updateJobExecutionResponse : ModeledClass :=
  ⟨"UpdateJobExecutionResponse", [⟨"client_token", "clientToken", .plain⟩,
    ⟨"execution_state", "executionState", .instance jobExecutionState⟩,
    ⟨"job_document", "jobDocument", .plain⟩, ⟨"timestamp", "timestamp", .datetime⟩]⟩

/-! ## Requests -/

def describeJobExecutionRequest : RequestClass :=
  ⟨"DescribeJobExecutionRequest", [("client_token", .plain "clientToken"),
    ("execution_number", .plain "executionNumber"),
    ("include_job_document", .plain "includeJobDocument"), ("job_id", .topic),
    ("thing_name", .topic)]⟩

def describeJobExecutionSubscriptionRequest : RequestClass :=
  ⟨"DescribeJobExecutionSubscriptionRequest", [("job_id", .topic), ("thing_name", .topic)]⟩

def getPendingJobExecutionsRequest : RequestClass :=
  ⟨"GetPendingJobExecutionsRequest", [("client_token", .plain "clientToken"),
    ("thing_name", .topic)]⟩

def getPendingJobExecutionsSubscriptionRequest : RequestClass :=
  ⟨"GetPendingJobExecutionsSubscriptionRequest", [("thing_name", .topic)]⟩

def jobExecutionsChangedSubscriptionRequest : RequestClass :=
  ⟨"JobExecutionsChangedSubscriptionRequest", [("thing_name", .topic)]⟩

def nextJobExecutionChangedSubscriptionRequest : RequestClass :=
  ⟨"NextJobExecutionChangedSubscriptionRequest", [("thing_name", .topic)]⟩

def startNextPendingJobExecutionRequest : RequestClass :=
  ⟨"StartNextPendingJobExecutionRequest", [("client_token", .plain "clientToken"),
    ("status_details", .plain "statusDetails"),
    ("step_timeout_in_minutes", .plain "stepTimeoutInMinutes"), ("thing_name", .topic)]⟩

def startNextPendingJobExecutionSubscriptionRequest : RequestClass :=
  ⟨"StartNextPendingJobExecutionSubscriptionRequest", [("thing_name", .topic)]⟩

def updateJobExecutionRequest : RequestClass :=
  ⟨"UpdateJobExecutionRequest", [("client_token", .plain "clientToken"),
    ("execution_number", .plain "executionNumber"), ("expected_version", .plain "expectedVersion"),
    ("include_job_document", .plain "includeJobDocument"),
    ("include_job_execution_state", .plain "includeJobExecutionState"), ("job_id", .topic),
    ("status", .plain "status"), ("status_details", .plain "statusDetails"),
    ("step_timeout_in_minutes", .plain "stepTimeoutInMinutes"), ("thing_name", .topic)]⟩

def updateJobExecutionSubscriptionRequest : RequestClass :=
  ⟨"UpdateJobExecutionSubscriptionRequest", [("job_id", .topic), ("thing_name", .topic)]⟩

/-! ## The client -/

def publishDescribeJobExecution : PublishOperation where
  name := "publish_describe_job_execution"
  request := describeJobExecutionRequest
  required := ["thing_name", "job_id"]
  topic := [.text "$aws/things/", .attr "thing_name", .text "/jobs/", .attr "job_id", .text "/get"]

def publishGetPendingJobExecutions : PublishOperation where
  name := "publish_get_pending_job_executions"
  request := getPendingJobExecutionsRequest
  required := ["thing_name"]
  topic := [.text "$aws/things/", .attr "thing_name", .text "/jobs/get"]

def publishStartNextPendingJobExecution : PublishOperation where
  name := "publish_start_next_pending_job_execution"
  request := startNextPendingJobExecutionRequest
  required := ["thing_name"]
  topic := [.text "$aws/things/", .attr "thing_name", .text "/jobs/start-next"]

def publishUpdateJobExecution : PublishOperation where
  name := "publish_update_job_execution"
  request := updateJobExecutionRequest
  required := ["thing_name", "job_id"]
  topic := [.text "$aws/things/", .attr "thing_name", .text "/jobs/", .attr "job_id",
    .text "/update"]

def subscribeToDescribeJobExecutionAccepted : SubscribeOperation where
  name := "subscribe_to_describe_job_execution_accepted"
  request := describeJobExecutionSubscriptionRequest
  required := ["thing_name", "job_id"]
  topic := [.text "$aws/things/", .attr "thing_name", .text "/jobs/", .attr "job_id",
    .text "/get/accepted"]
  response := describeJobExecutionResponse

def subscribeToDescribeJobExecutionRejected : SubscribeOperation where
  name := "subscribe_to_describe_job_execution_rejected"
  request := describeJobExecutionSubscriptionRequest
  required := ["thing_name", "job_id"]
  topic := [.text "$aws/things/", .attr "thing_name", .text "/jobs/", .attr "job_id",
    .text "/get/rejected"]
  response := rejectedError

def subscribeToGetPendingJobExecutionsAccepted : SubscribeOperation where
  name := "subscribe_to_get_pending_job_executions_accepted"
  request := getPendingJobExecutionsSubscriptionRequest
  required := ["thing_name"]
  topic := [.text "$aws/things/", .attr "thing_name", .text "/jobs/get/accepted"]
  response := getPendingJobExecutionsResponse

def subscribeToGetPendingJobExecutionsRejected : SubscribeOperation where
  name := "subscribe_to_get_pending_job_executions_rejected"
  request := getPendingJobExecutionsSubscriptionRequest
  required := ["thing_name"]
  topic := [.text "$aws/things/", .attr "thing_name", .text "/jobs/get/rejected"]
  response := rejectedError

def subscribeToJobExecutionsChangedEvents : SubscribeOperation where
  name := "subscribe_to_job_executions_changed_events"
  request := jobExecutionsChangedSubscriptionRequest
  required := ["thing_name"]
  topic := [.text "$aws/things/", .attr "thing_name", .text "/jobs/notify"]
  response := jobExecutionsChangedEvent

def subscribeToNextJobExecutionChangedEvents : SubscribeOperation where
  name := "subscribe_to_next_job_execution_changed_events"
  request := nextJobExecutionChangedSubscriptionRequest
  required := ["thing_name"]
  topic := [.text "$aws/things/", .attr "thing_name", .text "/jobs/notify-next"]
  response := nextJobExecutionChangedEvent

def subscribeToStartNextPendingJobExecutionAccepted : SubscribeOperation where
  name := "subscribe_to_start_next_pending_job_execution_accepted"
  request := startNextPendingJobExecutionSubscriptionRequest
  required := ["thing_name"]
  topic := [.text "$aws/things/", .attr "thing_name", .text "/jobs/start-next/accepted"]
  response := startNextJobExecutionResponse

def subscribeToStartNextPendingJobExecutionRejected : SubscribeOperation where
  name := "subscribe_to_start_next_pending_job_execution_rejected"
  request := startNextPendingJobExecutionSubscriptionRequest
  required := ["thing_name"]
  topic := [.text "$aws/things/", .attr "thing_name", .text "/jobs/start-next/rejected"]
  response := rejectedError

def subscribeToUpdateJobExecutionAccepted : SubscribeOperation where
  name := "subscribe_to_update_job_execution_accepted"
  request := updateJobExecutionSubscriptionRequest
  required := ["job_id", "thing_name"]
  topic := [.text "$aws/things/", .attr "thing_name", .text "/jobs/", .attr "job_id",
    .text "/update/accepted"]
  response := updateJobExecutionResponse

def subscribeToUpdateJobExecutionRejected : SubscribeOperation where
  name := "subscribe_to_update_job_execution_rejected"
  request := updateJobExecutionSubscriptionRequest
  required := ["job_id", "thing_name"]
  topic := [.text "$aws/things/", .attr "thing_name", .text "/jobs/", .attr "job_id",
    .text "/update/rejected"]
  response := rejectedError

def publishes : List PublishOperation :=
  [publishDescribeJobExecution, publishGetPendingJobExecutions, publishStartNextPendingJobExecution,
    publishUpdateJobExecution]

def subscribes : List SubscribeOperation :=
  [subscribeToDescribeJobExecutionAccepted, subscribeToDescribeJobExecutionRejected,
    subscribeToGetPendingJobExecutionsAccepted, subscribeToGetPendingJobExecutionsRejected,
    subscribeToJobExecutionsChangedEvents, subscribeToNextJobExecutionChangedEvents,
    subscribeToStartNextPendingJobExecutionAccepted,
    subscribeToStartNextPendingJobExecutionRejected, subscribeToUpdateJobExecutionAccepted,
    subscribeToUpdateJobExecutionRejected]

end IotCore.Mqtt.IotJobs
