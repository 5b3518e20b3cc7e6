import Graftcode.LinkIsolation
import Graftcode.RelaxedJson
import Graftcode.AckAfterSuccess
import Graftcode.KafkaCommit
import Graftcode.RequestSettled
import Graftcode.PubSubRpc
import Graftcode.PoisonedBatch
import Graftcode.ResponseCap
import Graftcode.PubSubHttp
import Graftcode.BodyJson
import Graftcode.BodySecrets
import Graftcode.BodyBudget
import Graftcode.CallSpanFailures
import Graftcode.AppTraceParent
import Graftcode.PubSubBase64Language
import Graftcode.PluginConfigNodes
import Graftcode.RabbitMqChunking
import Graftcode.PubSubToken
import Graftcode.KafkaServerWorker
import Graftcode.RabbitMqSockets
import Graftcode.SqsPubSubLifecycle
import Graftcode.KafkaIsolation
import Graftcode.SqsPayload
import Graftcode.PubSubJwt
import Graftcode.TraceState
import Graftcode.PubSubSettings
import Graftcode.RpcTimeouts
import Graftcode.ReplySenderCache
import Graftcode.IncomingTrace
import Graftcode.BodyTruncation
import Graftcode.LibraryCatalog
import Graftcode.NodeOperation
import Graftcode.MessageTemplate
import Graftcode.RateBound
import Graftcode.ExceptionHooks
import Graftcode.RequestLength
import Graftcode.Numerals
import Graftcode.CorrelationIds
import Graftcode.PendingWaits
import Graftcode.ProgRuns
import Graftcode.TicketScope
import Graftcode.SqsClient
import Graftcode.SqsCalls
import Graftcode.SqsRpc
import Graftcode.KafkaRpc
import Graftcode.ServiceBusClient
import Graftcode.ServiceBusRpc
import Graftcode.RabbitMqClient
import Graftcode.RabbitMqRpc
import Graftcode.Instrumentation
import Graftcode.Tracks
import Graftcode.LinkThreads
import Graftcode.LinkDispatchers
import Graftcode.Monitor
import Graftcode.SocketSends
import Graftcode.PipelineGate
import Graftcode.Pace
import Graftcode.PromptStops
import Graftcode.PromptLoops
import Graftcode.DistributedTrace
import Graftcode.Erasure
import Graftcode.Leases
import Graftcode.PubSubSessions
