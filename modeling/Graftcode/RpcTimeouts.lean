import Mathlib
import Graftcode.KafkaClient
import Graftcode.PubSubSettings
import Graftcode.RequestSettled
import Graftcode.SqsUtil
/-!
# RpcTimeouts — how long the five clients wait for a reply

From the parsed document to the `Wait` of a call: `parseClientConfig` and `ensureStarted` of Kafka, `ApplyRabbitMqConfig`,
`ApplyServiceBusConfig`, and what SQS and Pub/Sub parse and validate.  librdkafka is the function `setConf`, its
`Conf::set`; the handles it creates from the settings do not read the timeout again.
-/
namespace Graftcode

open PluginSettings PluginConfig

/-- `std::to_string` of an integer. -/
def toText (n : Int) : Text := n.repr.toList

/-! ## Kafka -/

namespace Kafka

/-- `KafkaClient::Config`. -/
structure KafkaClientSettings where
  brokers : Text := "localhost:9092".toList
  requestTopic : Text := "graft.requests".toList
  replyTopic : Text := "graft.replies".toList
  groupId : Text := "graft-client".toList
  rpcTimeoutMs : Int := 30000
  securityProtocol : Text := []
  saslMechanism : Text := []
  saslUsername : Text := []
  saslPassword : Text := []
  sslCaLocation : Text := []

/-- `j` is what parsing the text gives, if it parses. -/
def parseClientConfig (j : Option Json) : KafkaClientSettings :=
  let c : KafkaClientSettings := {}
  match j with
  | some (.object members) =>
    let j := Json.object members
    { brokers := readString j "brokers".toList (readString j "host".toList c.brokers)
      requestTopic := readString j "requestTopic".toList (readString j "queue".toList c.requestTopic)
      replyTopic := readString j "replyTopic".toList (readString j "replyQueue".toList c.replyTopic)
      groupId := readString j "groupId".toList c.groupId
      rpcTimeoutMs := match j.find? "rpcTimeoutMs".toList with
        | some (.number n) => getInt n
        | _                => c.rpcTimeoutMs
      securityProtocol := readString j "securityProtocol".toList c.securityProtocol
      saslMechanism := readString j "saslMechanism".toList c.saslMechanism
      saslUsername := readString j "saslUsername".toList c.saslUsername
      saslPassword := readString j "saslPassword".toList c.saslPassword
      sslCaLocation := readString j "sslCaLocation".toList c.sslCaLocation }
  | _ => c

/-- What `applySecurity` sets: the settings that are not empty. -/
def securityConf (cfg : KafkaClientSettings) : List (Text × Text) :=
  [("security.protocol".toList, cfg.securityProtocol), ("sasl.mechanism".toList, cfg.saslMechanism),
    ("sasl.username".toList, cfg.saslUsername), ("sasl.password".toList, cfg.saslPassword),
    ("ssl.ca.location".toList, cfg.sslCaLocation)].filter fun entry => !entry.2.isEmpty

def producerConf (cfg : KafkaClientSettings) (instanceId : Text) : List (Text × Text) :=
  [("bootstrap.servers".toList, cfg.brokers), ("client.id".toList, "graft-kafka-client-producer-".toList ++ instanceId),
    ("message.timeout.ms".toList, toText cfg.rpcTimeoutMs)] ++ securityConf cfg

def consumerGroupId (cfg : KafkaClientSettings) (instanceId : Text) : Text :=
  if cfg.groupId.isEmpty then "graft-client-".toList ++ instanceId else cfg.groupId ++ "-".toList ++ instanceId

def consumerConf (cfg : KafkaClientSettings) (instanceId : Text) : List (Text × Text) :=
  [("bootstrap.servers".toList, cfg.brokers), ("group.id".toList, consumerGroupId cfg instanceId),
    ("client.id".toList, "graft-kafka-client-consumer-".toList ++ instanceId),
    ("enable.auto.commit".toList, "true".toList), ("auto.offset.reset".toList, "latest".toList),
    ("allow.auto.create.topics".toList, "true".toList)] ++ securityConf cfg

section Start

variable (setConf : Text → Text → Except Text Unit)

def setConfOrThrow (key value : Text) : Except Text Unit :=
  match setConf key value with
  | .ok ()        => .ok ()
  | .error errstr => .error ("librdkafka conf set '".toList ++ key ++ "' failed: ".toList ++ errstr)

def setAll : List (Text × Text) → Except Text Unit
  | []                    => .ok ()
  | (key, value) :: conf => do
    setConfOrThrow setConf key value
    setAll conf

/-- What `ensureStarted` sets before the handles it creates from it. -/
def configureHandles (cfg : KafkaClientSettings) (instanceId : Text) : Except Text Unit := do
  setAll setConf (producerConf cfg instanceId)
  setAll setConf (consumerConf cfg instanceId)

/-- What a call waits for its reply. -/
def replyTimeout (cfg : KafkaClientSettings) (instanceId : Text) : Except Text Int := do
  configureHandles setConf cfg instanceId
  .ok cfg.rpcTimeoutMs

end Start

end Kafka

/-! ## RabbitMQ and Service Bus -/

/-- The timeout that both read: one that is not positive or takes more than 32 bits is left out. -/
def readTimeout (node : Json) (target : Nat) : Nat :=
  match node.find? "rpcTimeoutMs".toList with
  | some (.number n) =>
    let parsedTimeout := getInt64 n
    if 0 < parsedTimeout ∧ parsedTimeout ≤ maxUint32 then parsedTimeout.toNat else target
  | _ => target

/-- `node["type"] == "plugin"`. -/
def isPluginChannel (node : Json) : Bool := node.findString? "type".toList == some "plugin".toList

/-- The search for the settings, in which only the root may be taken by weaker signs. -/
def findNodeFromRoot (wrapper : String) (accepts : Bool → Json → Bool) : Json → Option Json
  | .object members =>
    match atObject wrapper (accepts true) (.object members) with
    | some found => some found
    | none       => findInMembers wrapper (accepts false) members
  | node => findNode wrapper (accepts false) node

namespace RabbitMq

structure RabbitMqClientConfig where
  host : Text := []
  port : Nat := 0
  queue : Text := []
  user : Text := []
  password : Text := []
  vhost : Text := []
  rpcTimeoutMs : Nat := 30000

def acceptsRabbitMq (isRoot : Bool) (node : Json) : Bool :=
  let hasDedicatedRabbitKeys := node.contains "queue" || node.contains "user" || node.contains "password" ||
    node.contains "vhost" || node.contains "rpcTimeoutMs"
  let hasHostAndPort := node.contains "host" && node.contains "port"
  hasDedicatedRabbitKeys || (hasHostAndPort && (isPluginChannel node || isRoot))

def findRabbitMqNode (node : Json) : Option Json := findNodeFromRoot "rabbitmq" acceptsRabbitMq node

def readPort (node : Json) (target : Nat) : Nat :=
  match node.find? "port".toList with
  | some (.number n) =>
    let parsedPort := getInt64 n
    if 0 < parsedPort ∧ parsedPort ≤ 2 ^ 16 - 1 then parsedPort.toNat else target
  | _ => target

def applyRabbitMqConfig (rabbitNode : Json) (config : RabbitMqClientConfig) : RabbitMqClientConfig where
  host := readString rabbitNode "host".toList config.host
  port := readPort rabbitNode config.port
  queue := readString rabbitNode "queue".toList config.queue
  user := readString rabbitNode "user".toList config.user
  password := readString rabbitNode "password".toList config.password
  vhost := readString rabbitNode "vhost".toList config.vhost
  rpcTimeoutMs := readTimeout rabbitNode config.rpcTimeoutMs

def applyConfigSource (parsedSource : Option Json) (config : RabbitMqClientConfig) : RabbitMqClientConfig :=
  match parsedSource.bind findRabbitMqNode with
  | none            => config
  | some rabbitNode => applyRabbitMqConfig rabbitNode config

/-- The settings of a transport. -/
def transportConfig (host : Text) (port : Nat) (parsedSource : Option Json) : RabbitMqClientConfig :=
  applyConfigSource parsedSource { host, port }

/-- What a call waits for its reply. -/
def replyTimeout (config : RabbitMqClientConfig) : Except Text Nat :=
  if config.queue.isEmpty then .error "RabbitMQ queue is not configured".toList
  else .ok (if config.rpcTimeoutMs = 0 then 30000 else config.rpcTimeoutMs)

end RabbitMq

namespace ServiceBus

/-- All of `ServiceBusClientConfig`. -/
structure ServiceBusSettings extends ServiceBusClientConfig where
  connectionString : Text := []
  host : Text := []
  sharedAccessKeyName : Text := []
  sharedAccessKey : Text := []
  useDevelopmentEmulator : Bool := false
  rpcTimeoutMs : Nat := 30000

def acceptsServiceBus (isRoot : Bool) (node : Json) : Bool :=
  let hasDedicatedKeys := node.contains "connectionString" || node.contains "queue" || node.contains "replyQueue" ||
    node.contains "sharedAccessKeyName" || node.contains "sharedAccessKey"
  hasDedicatedKeys || ((isPluginChannel node || isRoot) && node.contains "connectionString")

def findServiceBusNode (node : Json) : Option Json := findNodeFromRoot "servicebus" acceptsServiceBus node

def applyServiceBusConfig (node : Json) (config : ServiceBusSettings) : ServiceBusSettings where
  connectionString := readString node "connectionString".toList config.connectionString
  host := readString node "host".toList config.host
  sharedAccessKeyName := readString node "sharedAccessKeyName".toList config.sharedAccessKeyName
  sharedAccessKey := readString node "sharedAccessKey".toList config.sharedAccessKey
  queue := readString node "queue".toList config.queue
  replyQueue := readString node "replyQueue".toList config.replyQueue
  topic := readString node "topic".toList config.topic
  useDevelopmentEmulator := boolOr config.useDevelopmentEmulator (node.find? "useDevelopmentEmulator".toList)
  rpcTimeoutMs := readTimeout node config.rpcTimeoutMs

def applyConfigSource (parsedSource : Option Json) (config : ServiceBusSettings) : ServiceBusSettings :=
  match parsedSource.bind findServiceBusNode with
  | none      => config
  | some node => applyServiceBusConfig node config

/-- The settings of a transport; the port is not read. -/
def transportConfig (host : Text) (parsedSource : Option Json) : ServiceBusSettings :=
  applyConfigSource parsedSource { host }

def buildConnectionString (config : ServiceBusSettings) : Text :=
  if !config.connectionString.isEmpty then config.connectionString
  else if config.host.isEmpty || config.sharedAccessKeyName.isEmpty || config.sharedAccessKey.isEmpty then []
  else
    let host := if "sb://".toList.isPrefixOf config.host then config.host else "sb://".toList ++ config.host
    let host := if host.getLast? == some '/' then host else host ++ "/".toList
    "Endpoint=".toList ++ host ++ ";SharedAccessKeyName=".toList ++ config.sharedAccessKeyName ++
      ";SharedAccessKey=".toList ++ config.sharedAccessKey ++
      if config.useDevelopmentEmulator then ";UseDevelopmentEmulator=true".toList else []

/-- What a call waits for its reply; one to a topic does not wait. -/
def replyTimeout (config : ServiceBusSettings) : Except Text (Option Nat) :=
  if (buildConnectionString config).isEmpty then .error "Service Bus connection string is not configured".toList
  else if config.oneWay then .ok none
  else if config.queue.isEmpty || config.replyQueue.isEmpty then
    .error "Service Bus queue and replyQueue must be configured".toList
  else .ok (some (if config.rpcTimeoutMs = 0 then 30000 else config.rpcTimeoutMs))

end ServiceBus

/-! ## SQS and Pub/Sub -/

namespace Sqs

def pluginName : Text := "SQS".toList

/-- All of `SqsConfig`. -/
structure SqsSettings extends SqsConfig where
  name : Text := []
  region : Text := "us-east-1".toList
  endpointOverride : Text := []
  accessKeyId : Text := []
  secretAccessKey : Text := []
  sessionToken : Text := []
  verifySsl : Bool := true

/-- The first of the fields that is not empty. -/
def readFirst (node : Json) : List Text → Text
  | []          => []
  | key :: keys =>
    let value := readString node key []
    if value.isEmpty then readFirst node keys else value

def parseSqsNode (node : Json) : Except Text SqsSettings := do
  let rpcTimeoutMs ← readPositiveUint pluginName node "rpcTimeoutMs".toList 30000
  let waitTimeSeconds ← readPositiveUint pluginName node "waitTimeSeconds".toList 1
  let visibilityTimeoutSeconds ← readPositiveUint pluginName node "visibilityTimeoutSeconds".toList 30
  let oneWay ← readBool pluginName node "oneWay".toList false
  let verifySsl ← readBool pluginName node "verifySsl".toList true
  let config : SqsSettings := {
    name := readString node "name".toList []
    region := readString node "region".toList "us-east-1".toList
    endpointOverride := readString node "endpointOverride".toList []
    accessKeyId := readString node "accessKeyId".toList []
    secretAccessKey := readString node "secretAccessKey".toList []
    sessionToken := readString node "sessionToken".toList []
    requestQueueUrl := readFirst node ["requestQueueUrl".toList, "queueUrl".toList, "queue".toList]
    replyQueueUrl := readFirst node ["replyQueueUrl".toList, "replyQueue".toList]
    messageGroupId := readString node "messageGroupId".toList "graftcode".toList
    rpcTimeoutMs, waitTimeSeconds, visibilityTimeoutSeconds, oneWay, verifySsl }
  if 20 < config.waitTimeSeconds then .error "SQS plugin: 'waitTimeSeconds' cannot exceed 20".toList
  else if 43200 < config.visibilityTimeoutSeconds then
    .error "SQS plugin: 'visibilityTimeoutSeconds' cannot exceed 43200".toList
  else if config.region.isEmpty then .error "SQS plugin: 'region' cannot be empty".toList
  else if 128 < config.messageGroupId.length then
    .error "SQS plugin: 'messageGroupId' cannot exceed 128 characters".toList
  else if config.accessKeyId.isEmpty != config.secretAccessKey.isEmpty then
    .error "SQS plugin: 'accessKeyId' and 'secretAccessKey' must be provided together".toList
  else .ok config

def parseSqsConfig (root : Json) : Except Text SqsSettings :=
  match PluginConfig.findSqsNode root with
  | some (.object members) => parseSqsNode (.object members)
  | _                      => .error "SQS plugin: configuration does not contain SQS settings".toList

def validateClientConfig (config : SqsConfig) : Except Text Unit :=
  if config.requestQueueUrl.isEmpty then .error "SQS client: missing required field 'requestQueueUrl'".toList
  else if !config.oneWay && config.replyQueueUrl.isEmpty then
    .error "SQS client: missing required field 'replyQueueUrl'".toList
  else .ok ()

/-- What a call waits for its reply; a one-way call does not wait. -/
def replyTimeout (root : Json) : Except Text (Option Nat) := do
  let config ← parseSqsConfig root
  validateClientConfig config.toSqsConfig
  .ok (if config.oneWay then none else some config.rpcTimeoutMs)

end Sqs

namespace PubSub

/-- The emulator of the environment, when the settings name none; `environment` is `std::getenv`. -/
def applyEmulatorHost (environment : Text → Option Text) (config : PubSubConfig) : Except Text PubSubConfig :=
  match config.emulatorHost, environment "PUBSUB_EMULATOR_HOST".toList with
  | [], some host => normalizeEmulatorHost { config with emulatorHost := host }
  | _, _          => .ok config

def applyRuntimeEnvironment (environment : Text → Option Text) (config : PubSubSettings) : Except Text PubSubSettings := do
  let normalized ← applyEmulatorHost environment config.toPubSubConfig
  .ok { config with toPubSubConfig := { normalized with
          accessToken := if normalized.accessToken.isEmpty then
            (environment "PUBSUB_ACCESS_TOKEN".toList).getD [] else normalized.accessToken
          credentialsFile := if normalized.credentialsFile.isEmpty then
            (environment "GOOGLE_APPLICATION_CREDENTIALS".toList).getD [] else normalized.credentialsFile
          autoCreate := if config.autoCreateSpecified then normalized.autoCreate
            else !normalized.emulatorHost.isEmpty } }

/-- What a call waits for its reply; a one-way call does not wait. -/
def replyTimeout (environment : Text → Option Text) (root : Json) : Except Text (Option Nat) := do
  let parsed ← parsePubSubConfig root
  let config ← applyRuntimeEnvironment environment parsed
  validateClientConfig config.toPubSubConfig
  .ok (if config.oneWay then none else some config.rpcTimeoutMs)

end PubSub

/-! ## The timeout that is used -/

/-- The object a client reads its settings from. -/
def settingsObject : Transport → Json → Option Json
  | .kafka      => fun root => if root.isObject then some root else none
  | .rabbitMq   => RabbitMq.findRabbitMqNode
  | .serviceBus => ServiceBus.findServiceBusNode
  | .sqs        => findSqsNode
  | .pubSub     => findPubSubNode

/-- What a transport is made with beside its settings: the gateway's endpoint, the instance, and the outside. -/
structure Surroundings where
  host : Text
  port : Nat
  instanceId : Text
  environment : Text → Option Text
  setConf : Text → Text → Except Text Unit

def replyTimeout (s : Surroundings) : Transport → Json → Except Text (Option Int)
  | .kafka, root      => some <$> Kafka.replyTimeout s.setConf (Kafka.parseClientConfig (some root)) s.instanceId
  | .rabbitMq, root   => (some ∘ Nat.cast) <$> RabbitMq.replyTimeout (RabbitMq.transportConfig s.host s.port (some root))
  | .serviceBus, root => Option.map Nat.cast <$> ServiceBus.replyTimeout (ServiceBus.transportConfig s.host (some root))
  | .sqs, root        => Option.map Nat.cast <$> Sqs.replyTimeout root
  | .pubSub, root     => Option.map Nat.cast <$> PubSub.replyTimeout s.environment root

/-- A call that waits, waits the positive number that was given, or the default. -/
def UsedExactly (n : Int) (timeout : Except Text (Option Int)) : Prop :=
  ∀ ms, timeout = .ok (some ms) → ms = n ∧ 0 < ms ∨ ms = 30000

/-- Every client uses the integer exactly, whatever else its document holds, or refuses or ignores it. -/
def TimeoutExact (s : Surroundings) (n : Int) : Prop :=
  ∀ t root node, settingsObject t root = some node → node.find? "rpcTimeoutMs".toList = some (.number n) →
    UsedExactly n (replyTimeout s t root)

/-- What librdkafka documents of the settings the client gives it: the range of the timeout, and that the others are
texts, or as they are given. -/
structure Librdkafka (setConf : Text → Text → Except Text Unit) : Prop where
  timeout : ∀ n : Int, setConf "message.timeout.ms".toList (toText n) = .ok () ↔ 0 ≤ n ∧ n ≤ 2147483647
  text : ∀ key ∈ ["bootstrap.servers".toList, "client.id".toList, "group.id".toList], ∀ value, setConf key value = .ok ()
  switch : ∀ key ∈ ["enable.auto.commit".toList, "allow.auto.create.topics".toList],
    setConf key "true".toList = .ok ()
  offset : setConf "auto.offset.reset".toList "latest".toList = .ok ()

theorem map_eq_ok {ε α β : Type} {f : α → β} {x : Except ε α} {b : β} : f <$> x = .ok b ↔ ∃ a, x = .ok a ∧ f a = b := by
  cases x with
  | ok a    => exact ⟨fun h => ⟨a, rfl, Except.ok.inj h⟩, fun ⟨_, ha, h⟩ => Except.ok.inj ha ▸ congrArg Except.ok h⟩
  | error e => exact ⟨fun h => (by cases h), fun ⟨_, ha, _⟩ => (by cases ha)⟩

theorem map_cast_eq_some {ε : Type} {x : Except ε (Option Nat)} {ms : Int} (h : Option.map Nat.cast <$> x = .ok (some ms)) :
    ∃ timeout : Nat, x = .ok (some timeout) ∧ timeout = ms := by
  obtain ⟨given, hx, hcast⟩ := map_eq_ok.1 h
  obtain ⟨timeout, hgiven, heq⟩ := Option.map_eq_some_iff.1 hcast
  exact ⟨timeout, hgiven ▸ hx, heq⟩

theorem readTimeout_exact {node : Json} {n : Int} {target : Nat} (hn : IsInteger64 n)
    (hfind : node.find? "rpcTimeoutMs".toList = some (.number n)) :
    ((readTimeout node target : Nat) : Int) = n ∧ 0 < n ∨ readTimeout node target = target := by
  obtain ⟨hpositive, hsame⟩ := getInt64_positive_iff hn
  unfold readTimeout
  simp only [hfind]
  split
  · rename_i hrange
    obtain ⟨hpos, hmax⟩ := hpositive.1 (by omega)
    rw [hsame hpos hmax]
    omega
  · exact Or.inr rfl

theorem readPositiveUint_exact {plugin : Text} {node : Json} {n : Int} {target value : Nat} (hn : IsInteger64 n)
    (hfind : node.find? "rpcTimeoutMs".toList = some (.number n))
    (hread : readPositiveUint plugin node "rpcTimeoutMs".toList target = .ok value) : (value : Int) = n ∧ 0 < n := by
  obtain ⟨heq, hpos, -⟩ := (readPositiveUint_number hn hfind).1 hread
  exact ⟨heq.symm, hpos⟩

/-- The timeouts that are not taken as they were read: the one that is zero is the default. -/
theorem default_of_zero {n : Int} {timeout : Nat} (h : (timeout : Int) = n ∧ 0 < n ∨ timeout = 30000) :
    (((if timeout = 0 then 30000 else timeout : Nat)) : Int) = n ∧
        0 < ((if timeout = 0 then 30000 else timeout : Nat) : Int) ∨
      (((if timeout = 0 then 30000 else timeout : Nat)) : Int) = 30000 := by
  split <;> omega

theorem RabbitMq.replyTimeout_ok {config : RabbitMqClientConfig} {ms : Nat} (h : replyTimeout config = .ok ms) :
    ms = if config.rpcTimeoutMs = 0 then 30000 else config.rpcTimeoutMs := by
  unfold replyTimeout at h
  split at h
  · cases h
  · exact (Except.ok.inj h).symm

theorem ServiceBus.replyTimeout_some {config : ServiceBusSettings} {ms : Nat}
    (h : replyTimeout config = .ok (some ms)) :
    ms = if config.rpcTimeoutMs = 0 then 30000 else config.rpcTimeoutMs := by
  unfold replyTimeout at h
  repeat (split at h; · cases h)
  exact (Option.some.inj (Except.ok.inj h)).symm

/-- A call that waits is not one-way, and waits for the timeout. -/
theorem timeout_of_waits {oneWay : Bool} {timeout ms : Nat}
    (h : (.ok (if oneWay then none else some timeout) : Except Text (Option Nat)) = .ok (some ms)) : timeout = ms := by
  split at h
  · cases h
  · exact Option.some.inj (Except.ok.inj h)

/-- What a call of SQS waits is what was read, whichever checks come after it. -/
theorem Sqs.replyTimeout_some {root : Json} {ms : Nat} (h : replyTimeout root = .ok (some ms)) :
    ∃ node, PluginConfig.findSqsNode root = some node ∧
      readPositiveUint pluginName node "rpcTimeoutMs".toList 30000 = .ok ms := by
  obtain ⟨config, hparse, h⟩ := bind_eq_ok.1 h
  obtain ⟨-, h⟩ := check_eq_ok.1 h
  have hms := timeout_of_waits h
  unfold parseSqsConfig at hparse
  split at hparse
  · rename_i members hfind
    refine ⟨_, hfind, ?_⟩
    simp only [parseSqsNode, bind_eq_ok] at hparse
    obtain ⟨rpc, hread, _, -, _, -, _, -, _, -, hparse⟩ := hparse
    repeat (split at hparse; · cases hparse)
    cases hparse
    exact hms ▸ hread
  · cases hparse

theorem PubSub.replyTimeout_some {environment : Text → Option Text} {root : Json} {ms : Nat}
    (h : replyTimeout environment root = .ok (some ms)) :
    ∃ node, PluginConfig.findPubSubNode root = some node ∧
      readPositiveUint pluginName node "rpcTimeoutMs".toList 30000 = .ok ms := by
  obtain ⟨parsed, hparse, h⟩ := bind_eq_ok.1 h
  obtain ⟨config, henvironment, h⟩ := bind_eq_ok.1 h
  obtain ⟨-, h⟩ := check_eq_ok.1 h
  have hms := timeout_of_waits h
  have hsame : config.rpcTimeoutMs = parsed.rpcTimeoutMs := by
    obtain ⟨normalized, hnormal, h⟩ := bind_eq_ok.1 henvironment
    have hframe : normalized.rpcTimeoutMs = parsed.rpcTimeoutMs := by
      unfold applyEmulatorHost at hnormal
      split at hnormal
      · rw [(normalizeEmulatorHost_frame hnormal).1]
      · rw [← Except.ok.inj hnormal]
    rw [← Except.ok.inj h]
    exact hframe
  unfold parsePubSubConfig at hparse
  split at hparse
  · rename_i members hfind
    refine ⟨_, hfind, ?_⟩
    simp only [parsePubSubNode, bind_eq_ok] at hparse
    obtain ⟨rpc, hread, _, -, _, -, _, -, _, -, _, -, hparse⟩ := hparse
    repeat (split at hparse; · cases hparse)
    obtain ⟨normalized, hnormal, hparse⟩ := bind_eq_ok.1 hparse
    cases hparse
    rw [← hms, hsame, (normalizeEmulatorHost_frame hnormal).1]
    exact hread
  · cases hparse

section Clients

variable {s : Surroundings} {n : Int} {root node : Json}

theorem rabbitMq_exact (hn : IsInteger64 n) (hnode : RabbitMq.findRabbitMqNode root = some node)
    (hfind : node.find? "rpcTimeoutMs".toList = some (.number n)) : UsedExactly n (replyTimeout s .rabbitMq root) := by
  intro ms hms
  obtain ⟨timeout, hcall, hcast⟩ := map_eq_ok.1 hms
  have hread : (RabbitMq.transportConfig s.host s.port (some root)).rpcTimeoutMs = readTimeout node 30000 := by
    rw [RabbitMq.transportConfig, RabbitMq.applyConfigSource, Option.bind_some, hnode]
    rfl
  have htimeout := RabbitMq.replyTimeout_ok hcall
  rw [hread] at htimeout
  cases hcast
  rw [htimeout]
  exact default_of_zero (readTimeout_exact hn hfind)

theorem serviceBus_exact (hn : IsInteger64 n) (hnode : ServiceBus.findServiceBusNode root = some node)
    (hfind : node.find? "rpcTimeoutMs".toList = some (.number n)) :
    UsedExactly n (replyTimeout s .serviceBus root) := by
  intro ms hms
  obtain ⟨timeout, hcall, hcast⟩ := map_cast_eq_some hms
  have hread : (ServiceBus.transportConfig s.host (some root)).rpcTimeoutMs = readTimeout node 30000 := by
    rw [ServiceBus.transportConfig, ServiceBus.applyConfigSource, Option.bind_some, hnode]
    rfl
  have htimeout := ServiceBus.replyTimeout_some hcall
  rw [hread] at htimeout
  rw [← hcast, htimeout]
  exact default_of_zero (readTimeout_exact hn hfind)

/-- What SQS and Pub/Sub share: what a call waits was read as a positive number. -/
theorem usedExactly_of_read {plugin : Text} {findSettings : Json → Option Json} {timeout : Except Text (Option Nat)}
    (hn : IsInteger64 n) (hnode : findSettings root = some node)
    (hfind : node.find? "rpcTimeoutMs".toList = some (.number n))
    (hread : ∀ ms, timeout = .ok (some ms) → ∃ node, findSettings root = some node ∧
      readPositiveUint plugin node "rpcTimeoutMs".toList 30000 = .ok ms) :
    UsedExactly n (Option.map Nat.cast <$> timeout) := by
  intro ms hms
  obtain ⟨waited, hcall, hcast⟩ := map_cast_eq_some hms
  obtain ⟨node', hnode', hread'⟩ := hread waited hcall
  rw [hnode, Option.some.injEq] at hnode'
  subst hnode'
  obtain ⟨heq, hpos⟩ := readPositiveUint_exact hn hfind hread'
  omega

theorem sqs_exact (hn : IsInteger64 n) (hnode : findSqsNode root = some node)
    (hfind : node.find? "rpcTimeoutMs".toList = some (.number n)) : UsedExactly n (replyTimeout s .sqs root) :=
  usedExactly_of_read hn hnode hfind fun _ => Sqs.replyTimeout_some

theorem pubSub_exact (hn : IsInteger64 n) (hnode : findPubSubNode root = some node)
    (hfind : node.find? "rpcTimeoutMs".toList = some (.number n)) : UsedExactly n (replyTimeout s .pubSub root) :=
  usedExactly_of_read hn hnode hfind fun _ => PubSub.replyTimeout_some

/-! ### Kafka -/

/-- The integers that an `int` holds as they are and positive, that it makes negative, or the default. -/
def UsedByInt (n : Int) : Prop := 0 < n ∧ n < 2 ^ 31 ∨ 2 ^ 31 ≤ n % 2 ^ 32 ∨ n % 2 ^ 32 = 30000

theorem usedByInt_iff : UsedByInt n ↔ (0 ≤ getInt n → getInt n = n ∧ 0 < getInt n ∨ getInt n = 30000) := by
  unfold UsedByInt getInt
  rw [Int.bmod_def]
  split <;> omega

theorem setAll_ok {setConf : Text → Text → Except Text Unit} : ∀ {conf : List (Text × Text)},
    Kafka.setAll setConf conf = .ok () ↔ ∀ entry ∈ conf, setConf entry.1 entry.2 = .ok ()
  | [] => by simp [Kafka.setAll]
  | (key, value) :: conf => by
    have hset : Kafka.setConfOrThrow setConf key value = .ok () ↔ setConf key value = .ok () := by
      unfold Kafka.setConfOrThrow
      split <;> simp_all
    rw [Kafka.setAll, check_eq_ok, hset, setAll_ok, List.forall_mem_cons]

theorem kafka_replyTimeout_ok {setConf : Text → Text → Except Text Unit} {cfg : Kafka.KafkaClientSettings}
    {instanceId : Text} {ms : Int} :
    Kafka.replyTimeout setConf cfg instanceId = .ok ms ↔
      (∀ entry ∈ Kafka.producerConf cfg instanceId ++ Kafka.consumerConf cfg instanceId,
        setConf entry.1 entry.2 = .ok ()) ∧ cfg.rpcTimeoutMs = ms := by
  rw [Kafka.replyTimeout, Kafka.configureHandles, check_eq_ok, check_eq_ok, setAll_ok, setAll_ok, List.forall_mem_append,
    Except.ok.injEq]

theorem kafka_exact (hconf : Librdkafka s.setConf) (hn : UsedByInt n)
    (hnode : settingsObject .kafka root = some node)
    (hfind : node.find? "rpcTimeoutMs".toList = some (.number n)) : UsedExactly n (replyTimeout s .kafka root) := by
  intro ms hms
  obtain ⟨timeout, hcall, hcast⟩ := map_eq_ok.1 hms
  obtain ⟨haccepted, htimeout⟩ := kafka_replyTimeout_ok.1 hcall
  have hread : (Kafka.parseClientConfig (some root)).rpcTimeoutMs = getInt n := by
    cases root with
    | object members =>
      cases hnode
      simp only [Kafka.parseClientConfig, hfind]
    | null | bool b | number m | string t | array items => cases hnode
  have hrange := haccepted ("message.timeout.ms".toList, toText (Kafka.parseClientConfig (some root)).rpcTimeoutMs)
    (by simp [Kafka.producerConf])
  rw [hconf.timeout, hread] at hrange
  rw [hread] at htimeout
  cases hcast
  rw [← htimeout]
  exact usedByInt_iff.1 hn hrange.1

/-- With nothing but its timeout, a client of Kafka starts and waits for what is left of it. -/
theorem kafka_waits (hconf : Librdkafka s.setConf) (hn : 0 ≤ getInt n) :
    replyTimeout s .kafka (.object [("rpcTimeoutMs".toList, .number n)]) = .ok (some (getInt n)) := by
  refine map_eq_ok.2 ⟨getInt n, kafka_replyTimeout_ok.2 ⟨?_, rfl⟩, rfl⟩
  have hmax : getInt n ≤ 2147483647 := by
    have hlt := Int.bmod_lt (x := n) (m := 2 ^ 32) (by decide)
    unfold getInt
    omega
  have hsecurity : Kafka.securityConf (Kafka.parseClientConfig
      (some (.object [("rpcTimeoutMs".toList, .number n)]))) = [] := rfl
  simp only [Kafka.producerConf, Kafka.consumerConf, hsecurity, List.append_nil, List.forall_mem_append,
    List.forall_mem_cons]
  refine ⟨⟨hconf.text _ (by simp) _, hconf.text _ (by simp) _, (hconf.timeout _).2 ⟨hn, hmax⟩, nofun⟩,
    hconf.text _ (by simp) _, hconf.text _ (by simp) _, hconf.text _ (by simp) _, hconf.switch _ (by simp),
    hconf.offset, hconf.switch _ (by simp), nofun⟩

end Clients

/-- **The timeout is used exactly, refused or ignored** by all five clients unless what an `int` keeps of it is another
number that is not negative, which Kafka waits for. -/
theorem timeoutExact_iff {s : Surroundings} (hconf : Librdkafka s.setConf) {n : Int} (hn : IsInteger64 n) :
    TimeoutExact s n ↔ UsedByInt n := by
  constructor
  · intro h
    rw [usedByInt_iff]
    intro hnonneg
    exact h .kafka _ _ rfl rfl _ (kafka_waits hconf hnonneg)
  · intro hused t root node hnode hfind
    cases t with
    | kafka => exact kafka_exact hconf hused hnode hfind
    | rabbitMq => exact rabbitMq_exact hn hnode hfind
    | serviceBus => exact serviceBus_exact hn hnode hfind
    | sqs => exact sqs_exact hn hnode hfind
    | pubSub => exact pubSub_exact hn hnode hfind

/-- A `Conf::set` with the range of the timeout, which takes every other setting as it is. -/
def setConfOfDocs (key value : Text) : Except Text Unit :=
  if key = "message.timeout.ms".toList then
    match (String.ofList value).toInt? with
    | some n => if 0 ≤ n ∧ n ≤ 2147483647 then .ok ()
      else .error "Configuration property \"message.timeout.ms\" is outside allowed range 0..2147483647".toList
    | none   => .error "Invalid value for configuration property \"message.timeout.ms\"".toList
  else .ok ()

theorem librdkafka_setConfOfDocs : Librdkafka setConfOfDocs where
  timeout := by
    intro n
    have hparse : (String.ofList (toText n)).toInt? = some n := by
      rw [toText, String.ofList_toList, Int.toInt?_repr]
    rw [setConfOfDocs, if_pos rfl]
    simp only [hparse]
    split
    · exact iff_of_true rfl ‹_›
    · exact iff_of_false nofun ‹_›
  text := by
    intro key hkey value
    rw [setConfOfDocs, if_neg]
    rintro rfl
    exact absurd hkey (by decide)
  switch := by
    intro key hkey
    rw [setConfOfDocs, if_neg]
    rintro rfl
    exact absurd hkey (by decide)
  offset := if_neg (by decide)

def localSurroundings : Surroundings where
  host := "localhost".toList
  port := 5672
  instanceId := "a".toList
  environment := fun _ => none
  setConf := setConfOfDocs

theorem timeoutExact_iff_minute : IsInteger64 60000 ∧ TimeoutExact localSurroundings 60000 :=
  ⟨⟨by decide, by decide⟩,
    (timeoutExact_iff librdkafka_setConfOfDocs ⟨by decide, by decide⟩).2 (Or.inl ⟨by decide, by decide⟩)⟩

/-- Kafka waits one millisecond for a timeout of 2^32 + 1. -/
theorem not_timeoutExact_wrapped : ¬ TimeoutExact localSurroundings 4294967297 := by
  intro h
  have hwait : replyTimeout localSurroundings .kafka (.object [("rpcTimeoutMs".toList, .number 4294967297)]) =
      .ok (some 1) := kafka_waits librdkafka_setConfOfDocs (by decide)
  rcases h .kafka _ _ rfl rfl _ hwait with ⟨hsame, -⟩ | hdefault
  · cases hsame
  · cases hdefault

end Graftcode
