import AwesomeNetwork.Library.Transition
import AwesomeNetwork.Library.SerialQueue
import AwesomeNetwork.Library.Table
import AwesomeNetwork.Library.KeyValue
import AwesomeNetwork.Library.Concatenation
import AwesomeNetwork.Library.FieldList
import AwesomeNetwork.Library.Broadcast
import AwesomeNetwork.Library.Subscribers
import AwesomeNetwork.Library.Retry
import AwesomeNetwork.Library.Settling
import AwesomeNetwork.Foundation
import AwesomeNetwork.Networking.AwesomeError
import AwesomeNetwork.Extensions.String
import AwesomeNetwork.Extensions.URLRequest
import AwesomeNetwork.Extensions.HeaderFields
import AwesomeNetwork.Extensions.UrlCacheKey
import AwesomeNetwork.Extensions.URL
import AwesomeNetwork.Extensions.FileOperations
import AwesomeNetwork.Extensions.OfflineDestination
import AwesomeNetwork.Caching.AwesomeRealmCache
import AwesomeNetwork.Caching.AwesomeCacheManager
import AwesomeNetwork.Networking.AwesomeRequestProtocol
import AwesomeNetwork.Caching.History
import AwesomeNetwork.Caching.Isolation
import AwesomeNetwork.Caching.LastSaved
import AwesomeNetwork.Caching.ForeignObjects
import AwesomeNetwork.Caching.BodyIsolation
import AwesomeNetwork.Networking.AwesomeRequester
import AwesomeNetwork.Networking.RetryLaw
import AwesomeNetwork.Networking.RequestData
import AwesomeNetwork.Networking.RequestGeneric
import AwesomeNetwork.Caching.FailedFetch
import AwesomeNetwork.Networking.AwesomeRequestManager
import AwesomeNetwork.Networking.Registration
import AwesomeNetwork.Networking.CancelAllRequests
import AwesomeNetwork.Networking.CancelPrevious
import AwesomeNetwork.Networking.StaleEntries
import AwesomeNetwork.Networking.Restarts
import AwesomeNetwork.Networking.RequestRemoval
import AwesomeNetwork.Uploading.AwesomeUpload
import AwesomeNetwork.Uploading.UploadAnswers
import AwesomeNetwork.Networking.AwesomeDispatcher
import AwesomeNetwork.Networking.WaitingBlocks
import AwesomeNetwork.Networking.PermitConservation
import AwesomeNetwork.Networking.Session
import AwesomeNetwork.Networking.SessionTrace
import AwesomeNetwork.Networking.Answers
import AwesomeNetwork.Networking.RuleChanges
import AwesomeNetwork.Networking.CancelledCalls
import AwesomeNetwork.Networking.GreenLight
import AwesomeNetwork.Networking.Provenance
import AwesomeNetwork.Networking.Ownership
import AwesomeNetwork.Networking.Settlement
import AwesomeNetwork.Networking.OwnReplies
import AwesomeNetwork.Caching.SessionHistory
import AwesomeNetwork.Networking.RestartedSession
import AwesomeNetwork.Networking.RestartedOwnership
import AwesomeNetwork.Networking.RestartedAnswers
import AwesomeNetwork.Networking.RestartedSettlement
import AwesomeNetwork.Networking.AwesomeReachability
import AwesomeNetwork.Networking.PolledReachability
import AwesomeNetwork.Networking.NetworkEvents
import AwesomeNetwork.Networking.Notifier
import AwesomeNetwork.Networking.NotifierReports
import AwesomeNetwork.Networking.NotifierEvents
import AwesomeNetwork.Downloading.AwesomeDownload
import AwesomeNetwork.Downloading.Moves
import AwesomeNetwork.Downloading.FileSteps
import AwesomeNetwork.Downloading.Attribution
import AwesomeNetwork.Downloading.InvalidatedSessions
import AwesomeNetwork.Downloading.Completion
import AwesomeNetwork.Downloading.Deletion
import AwesomeNetwork.Downloading.OfflineFiles
import AwesomeNetwork.Downloading.FileFrame
import AwesomeNetwork.Downloading.FileIntegrity
import AwesomeNetwork.Downloading.SuccessiveDownloads
import AwesomeNetwork.Downloading.CallSteps
import AwesomeNetwork.Downloading.FileAgreement
import AwesomeNetwork.Downloading.AwesomeDownloadManager
import AwesomeNetwork.Downloading.CallFrames
import AwesomeNetwork.Downloading.SupersededBatches
import AwesomeNetwork.Downloading.Notifications
import AwesomeNetwork.Networking.NetworkObservers
import AwesomeNetwork.Downloading.BatchDeletion
import AwesomeNetwork.Downloading.BatchEvents
import AwesomeNetwork.Downloading.BatchPhases
import AwesomeNetwork.Downloading.SoleDownload
import AwesomeNetwork.Downloading.DownloadWork
import AwesomeNetwork.Downloading.BatchSequencing
import AwesomeNetwork.Downloading.ProgressValues
import AwesomeNetwork.Downloading.BatchMessages
import AwesomeNetwork.Downloading.BatchProgress
