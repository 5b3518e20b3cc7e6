import Mathlib.Data.Bool.AllAny
import Graftcode.Endpoints
import Graftcode.PluginConfigNodes
import Graftcode.PluginSettings
/-!
# PubSubSettings — from a settings object to a validated configuration

`ParsePubSubConfigSource` of `PubSubConfig.cpp`, from the parsed document on, and what the two roles accept.  A
subscription that is not given is derived from its topic, which makes it four characters longer than the topic, and then
checked like one that was given.
-/
namespace Graftcode
namespace PubSub

open PluginSettings

/-- All of `PubSubConfig`. -/
structure PubSubSettings extends PubSubConfig where
  name : Text := []
  verifySsl : Bool := true
  autoCreateSpecified : Bool := false

def pluginName : Text := "Pub/Sub".toList

def subscriptionSuffix : Text := "-sub".toList

def defaultSubscription (subscription topic : Text) : Text :=
  if !subscription.isEmpty || topic.isEmpty then subscription else topic ++ subscriptionSuffix

/-- A field, or its alias when it is empty. -/
def readAliased (node : Json) (key aliasKey : Text) : Text :=
  let value := readString node key []
  if value.isEmpty then readString node aliasKey value else value

def requestTopicOf (node : Json) : Text := readAliased node "requestTopic".toList "queue".toList

def replyTopicOf (node : Json) : Text := readAliased node "replyTopic".toList "replyQueue".toList

def requestSubscriptionOf (node : Json) : Text := readAliased node "requestSubscription".toList "subscription".toList

def replySubscriptionOf (node : Json) : Text := readString node "replySubscription".toList []

def parsePubSubNode (node : Json) : Except Text PubSubSettings := do
  let rpcTimeoutMs ← readPositiveUint pluginName node "rpcTimeoutMs".toList 30000
  let ackDeadlineSeconds ← readPositiveUint pluginName node "ackDeadlineSeconds".toList 60
  let maxMessages ← readPositiveUint pluginName node "maxMessages".toList 10
  let oneWay ← readBool pluginName node "oneWay".toList false
  let autoCreate ← readBool pluginName node "autoCreate".toList false
  let verifySsl ← readBool pluginName node "verifySsl".toList true
  if ackDeadlineSeconds < 10 ∨ 600 < ackDeadlineSeconds then
    .error "Pub/Sub plugin: 'ackDeadlineSeconds' must be between 10 and 600".toList
  else if maxMessages < 1 ∨ 100 < maxMessages then
    .error "Pub/Sub plugin: 'maxMessages' must be between 1 and 100".toList
  else if 3600000 < rpcTimeoutMs then .error "Pub/Sub plugin: 'rpcTimeoutMs' cannot exceed 3600000".toList
  else do
    let config ← normalizeEmulatorHost {
      projectId := readString node "projectId".toList []
      requestTopic := requestTopicOf node
      requestSubscription := requestSubscriptionOf node
      replyTopic := replyTopicOf node
      replySubscription := replySubscriptionOf node
      emulatorHost := readString node "emulatorHost".toList []
      credentialsFile := readString node "credentialsFile".toList []
      accessToken := readString node "accessToken".toList []
      rpcTimeoutMs, ackDeadlineSeconds, maxMessages, oneWay, autoCreate }
    .ok { config with
      requestSubscription := defaultSubscription config.requestSubscription config.requestTopic
      replySubscription := defaultSubscription config.replySubscription config.replyTopic
      name := readString node "name".toList []
      verifySsl
      autoCreateSpecified := (node.find? "autoCreate".toList).isSome }

def parsePubSubConfig (root : Json) : Except Text PubSubSettings :=
  match PluginConfig.findPubSubNode root with
  | some (.object members) => parsePubSubNode (.object members)
  | _                      => .error "Pub/Sub plugin: configuration does not contain Pub/Sub settings".toList

/-! ## Settings that are documented -/

inductive Role where
  | client
  | server

def Role.validate : Role → PubSubConfig → Except Text Unit
  | client => validateClientConfig
  | server => validateServerConfig

def ProjectIdForm (value : Text) : Prop :=
  1 ≤ value.length ∧ value.length ≤ 128 ∧ ∀ c ∈ value, c.isAlphanum = true ∨ c = '-' ∨ c = '_'

def ResourceIdForm (value : Text) : Prop :=
  (3 ≤ value.length ∧ value.length ≤ 255) ∧ (∃ c, value.head? = some c ∧ c.isAlpha = true) ∧
    ∀ c ∈ value, c.isAlphanum = true ∨ c = '-' ∨ c = '_' ∨ c = '.'

/-- A flat settings object: an object that names its project, with the integers of a parser. -/
structure Flat (root : Json) : Prop where
  unwrapped : root.findObject? "pubsub".toList = none
  project : (root.find? "projectId".toList).isSome = true
  integers : Integers64 root

def oneWayOf (root : Json) : Bool := boolOr false (root.find? "oneWay".toList)

/-- The ids the role uses, as far as they are given; an empty text is none. -/
def ValidIds (root : Json) : Role → Prop
  | .client => ResourceIdForm (requestTopicOf root) ∧ (oneWayOf root = false →
      ResourceIdForm (replyTopicOf root) ∧
        (replySubscriptionOf root ≠ [] → ResourceIdForm (replySubscriptionOf root)))
  | .server => ResourceIdForm (requestTopicOf root) ∧
      (requestSubscriptionOf root ≠ [] → ResourceIdForm (requestSubscriptionOf root))

structure Valid (role : Role) (root : Json) : Prop where
  project : ProjectIdForm (readString root "projectId".toList [])
  ids : ValidIds root role
  rpcTimeoutMs : InRange 1 3600000 (root.find? "rpcTimeoutMs".toList)
  ackDeadlineSeconds : InRange 10 600 (root.find? "ackDeadlineSeconds".toList)
  maxMessages : InRange 1 100 (root.find? "maxMessages".toList)

/-- Parsed, and validated for the role. -/
def Accepts (role : Role) (root : Json) (settings : PubSubSettings) : Prop :=
  parsePubSubConfig root = .ok settings ∧ role.validate settings.toPubSubConfig = .ok ()

/-- A subscription that was not given is `<topic>-sub`. -/
def Subscribes (given topic subscription : Text) : Prop :=
  (given ≠ [] → subscription = given) ∧ (given = [] → topic ≠ [] → subscription = topic ++ subscriptionSuffix)

/-- The host in the text that is given for one, with HTTPS if its scheme says so. -/
def HoldsHost (given : Text) (settings : PubSubSettings) : Prop :=
  (Trimming.trim isSpace given = [] ∧ settings.emulatorHost = []) ∨
    ∃ scheme, Spelled isSpace given scheme settings.emulatorHost ∧ settings.emulatorUseHttps = scheme.getD false

/-- The configuration holds what the object gives, and the documented defaults for the rest. -/
structure Holds (root : Json) (settings : PubSubSettings) : Prop where
  name : settings.name = readString root "name".toList []
  projectId : settings.projectId = readString root "projectId".toList []
  requestTopic : settings.requestTopic = requestTopicOf root
  requestSubscription :
    Subscribes (requestSubscriptionOf root) (requestTopicOf root) settings.requestSubscription
  replyTopic : settings.replyTopic = replyTopicOf root
  replySubscription : Subscribes (replySubscriptionOf root) (replyTopicOf root) settings.replySubscription
  emulatorHost : HoldsHost (readString root "emulatorHost".toList []) settings
  credentialsFile : settings.credentialsFile = readString root "credentialsFile".toList []
  accessToken : settings.accessToken = readString root "accessToken".toList []
  rpcTimeoutMs : settings.rpcTimeoutMs = numberOr 30000 (root.find? "rpcTimeoutMs".toList)
  ackDeadlineSeconds : settings.ackDeadlineSeconds = numberOr 60 (root.find? "ackDeadlineSeconds".toList)
  maxMessages : settings.maxMessages = numberOr 10 (root.find? "maxMessages".toList)
  oneWay : settings.oneWay = oneWayOf root
  autoCreate : settings.autoCreate = boolOr false (root.find? "autoCreate".toList)
  autoCreateSpecified : settings.autoCreateSpecified = (root.find? "autoCreate".toList).isSome
  verifySsl : settings.verifySsl = boolOr true (root.find? "verifySsl".toList)

/-- The role accepts the object exactly when it is valid, and with the values it gives. -/
def AcceptsDocumented (role : Role) (root : Json) : Prop :=
  ((∃ settings, Accepts role root settings) ↔ Valid role root) ∧
    ∀ settings, Accepts role root settings → Holds root settings

/-- The subscription the role uses is not given, and derived from a topic that leaves no room for the suffix. -/
def DerivesTooLong (root : Json) : Role → Prop
  | .client => oneWayOf root = false ∧ replySubscriptionOf root = [] ∧ 251 < (replyTopicOf root).length
  | .server => requestSubscriptionOf root = [] ∧ 251 < (requestTopicOf root).length

/-- The switches, as far as they are given, are booleans. -/
structure Switches (root : Json) : Prop where
  oneWay : IsSwitch (root.find? "oneWay".toList)
  autoCreate : IsSwitch (root.find? "autoCreate".toList)
  verifySsl : IsSwitch (root.find? "verifySsl".toList)

/-- The emulator host, if one is given, is a host or a host with a port, with a scheme or without. -/
def HostAccepted (root : Json) : Prop :=
  Trimming.trim isSpace (readString root "emulatorHost".toList []) = [] ∨
    ∃ scheme host, Spelled isSpace (readString root "emulatorHost".toList []) scheme host ∧ '/' ∉ host ∧ ' ' ∉ host

/-! ## Ids -/

theorem isValidProjectId_iff {value : Text} : isValidProjectId value = true ↔ ProjectIdForm value := by
  unfold isValidProjectId ProjectIdForm
  simp only [Bool.and_eq_true, Bool.not_eq_true', Bool.or_eq_false_iff, decide_eq_false_iff_not, List.all_eq_true,
    Bool.or_eq_true, beq_iff_eq, or_assoc, and_assoc]
  refine and_congr ?_ (and_congr (by omega) Iff.rfl)
  cases value <;> simp

theorem isValidResourceId_iff {value : Text} : isValidResourceId value = true ↔ ResourceIdForm value := by
  unfold ResourceIdForm
  cases value with
  | nil => simp [isValidResourceId]
  | cons front rest =>
    simp only [isValidResourceId, Bool.and_eq_true, Bool.not_eq_true', Bool.or_eq_false_iff, decide_eq_false_iff_not,
      List.all_eq_true, Bool.or_eq_true, beq_iff_eq, or_assoc, and_assoc, List.head?_cons, Option.some.injEq,
      exists_eq_left', not_lt]

/-- A derived subscription is an id as long as there is room for its suffix. -/
theorem derived_form_iff {topic : Text} (h : ResourceIdForm topic) :
    ResourceIdForm (topic ++ subscriptionSuffix) ↔ topic.length ≤ 251 := by
  obtain ⟨hlength, ⟨c, hhead, hletter⟩, hall⟩ := h
  have hsuffix : subscriptionSuffix.length = 4 := rfl
  constructor
  · rintro ⟨hlength', -⟩
    rw [List.length_append, hsuffix] at hlength'
    omega
  · intro hroom
    refine ⟨?_, ⟨c, ?_, hletter⟩, ?_⟩
    · rw [List.length_append, hsuffix]
      omega
    · rw [List.head?_append, hhead]
      rfl
    · intro d hd
      rcases List.mem_append.1 hd with hd | hd
      · exact hall d hd
      · have hchars : ∀ d ∈ subscriptionSuffix, d.isAlphanum = true ∨ d = '-' ∨ d = '_' ∨ d = '.' :=
          List.all_iff_forall_prop.1 (by decide)
        exact hchars d hd

theorem ResourceIdForm.ne_nil {value : Text} (h : ResourceIdForm value) : value ≠ [] := by
  rintro rfl
  exact absurd h.1.1 (by decide)

theorem defaultSubscription_form_iff {given topic : Text} (h : ResourceIdForm topic) :
    ResourceIdForm (defaultSubscription given topic) ↔
      (given ≠ [] → ResourceIdForm given) ∧ ¬ (given = [] ∧ 251 < topic.length) := by
  have htopic := h.ne_nil
  unfold defaultSubscription
  by_cases hgiven : given = []
  · subst hgiven
    rw [if_neg (by simpa using htopic), derived_form_iff h]
    simp
  · rw [if_pos (by simp [hgiven])]
    simp [hgiven]

theorem defaultSubscription_subscribes (given topic : Text) : Subscribes given topic (defaultSubscription given topic) := by
  unfold defaultSubscription
  constructor
  · intro hgiven
    rw [if_pos (by simp [hgiven])]
  · rintro rfl htopic
    rw [if_neg (by simpa using htopic)]

/-! ## Parsing -/

theorem findPubSubNode_flat {root : Json} (h : Flat root) :
    ∃ members, root = .object members ∧ PluginConfig.findPubSubNode root = some root := by
  have hproject := h.project
  have hwrapper := h.unwrapped
  cases root with
  | object members =>
    have hcontains : (Json.object members).contains "projectId" = true := hproject
    have haccepts : (PluginConfig.hasSpecificPubSubKeys (.object members) ||
        PluginConfig.isFlatPubSubAlias (.object members)) = true := by
      simp only [PluginConfig.hasSpecificPubSubKeys, hcontains, Bool.true_or]
    have hat : PluginConfig.atObject "pubsub"
        (fun node => PluginConfig.hasSpecificPubSubKeys node || PluginConfig.isFlatPubSubAlias node) (.object members) =
          some (.object members) := by
      unfold PluginConfig.atObject
      split
      · rename_i inner hinner
        simp only [Json.findObject?, hinner, reduceCtorEq] at hwrapper
      · exact if_pos haccepts
    refine ⟨members, rfl, ?_⟩
    rw [PluginConfig.findPubSubNode, PluginConfig.findNode, hat]
  | null | bool b | number n | string s | array items => cases hproject

/-- The configuration before the emulator host is normalized. -/
def givenConfig (root : Json) : PubSubConfig where
  projectId := readString root "projectId".toList []
  requestTopic := requestTopicOf root
  requestSubscription := requestSubscriptionOf root
  replyTopic := replyTopicOf root
  replySubscription := replySubscriptionOf root
  emulatorHost := readString root "emulatorHost".toList []
  credentialsFile := readString root "credentialsFile".toList []
  accessToken := readString root "accessToken".toList []
  rpcTimeoutMs := numberOr 30000 (root.find? "rpcTimeoutMs".toList)
  ackDeadlineSeconds := numberOr 60 (root.find? "ackDeadlineSeconds".toList)
  maxMessages := numberOr 10 (root.find? "maxMessages".toList)
  oneWay := oneWayOf root
  autoCreate := boolOr false (root.find? "autoCreate".toList)

/-- What parsing makes of it, with what the normalization leaves. -/
def settingsOf (root : Json) (emulatorHost : Text) (emulatorUseHttps : Bool) : PubSubSettings :=
  { givenConfig root with
    emulatorHost, emulatorUseHttps
    requestSubscription := defaultSubscription (requestSubscriptionOf root) (requestTopicOf root)
    replySubscription := defaultSubscription (replySubscriptionOf root) (replyTopicOf root)
    name := readString root "name".toList []
    verifySsl := boolOr true (root.find? "verifySsl".toList)
    autoCreateSpecified := (root.find? "autoCreate".toList).isSome }

structure Ranges (root : Json) : Prop where
  rpcTimeoutMs : InRange 1 3600000 (root.find? "rpcTimeoutMs".toList)
  ackDeadlineSeconds : InRange 10 600 (root.find? "ackDeadlineSeconds".toList)
  maxMessages : InRange 1 100 (root.find? "maxMessages".toList)

theorem hostAccepted_iff {root : Json} :
    HostAccepted root ↔ ∃ config, normalizeEmulatorHost (givenConfig root) = .ok config := by
  simp only [normalizeEmulatorHost_iff]
  constructor
  · rintro (hblank | ⟨scheme, host, hspelled, hslash, hspace⟩)
    · exact ⟨_, Or.inl ⟨hblank, rfl⟩⟩
    · exact ⟨_, Or.inr ⟨scheme, host, hspelled, hslash, hspace, rfl⟩⟩
  · rintro ⟨config, ⟨hblank, -⟩ | ⟨scheme, host, hspelled, hslash, hspace, -⟩⟩
    · exact Or.inl hblank
    · exact Or.inr ⟨scheme, host, hspelled, hslash, hspace⟩

theorem readPositiveUint_pos {plugin key : Text} {node : Json} {target value : Nat} (ht : 0 < target)
    (h : readPositiveUint plugin node key target = .ok value) : 0 < value := by
  unfold readPositiveUint at h
  split at h
  · cases h
    exact ht
  · dsimp only at h
    split at h
    · cases h
    · cases h
      omega
  · cases h

theorem parsePubSubConfig_ok {root : Json} (h : Flat root) {settings : PubSubSettings} :
    parsePubSubConfig root = .ok settings ↔
      Ranges root ∧ Switches root ∧ ∃ config, normalizeEmulatorHost (givenConfig root) = .ok config ∧
        settings = settingsOf root config.emulatorHost config.emulatorUseHttps := by
  obtain ⟨members, rfl, hfind⟩ := findPubSubNode_flat h
  have hnode : parsePubSubConfig (.object members) = parsePubSubNode (.object members) := by
    rw [parsePubSubConfig, hfind]
  have hrpc (value : Nat) :
      (readPositiveUint pluginName (.object members) "rpcTimeoutMs".toList 30000 = .ok value ∧
        1 ≤ value ∧ value ≤ 3600000) ↔ InRange 1 3600000 (Json.find? "rpcTimeoutMs".toList (.object members)) ∧
          value = numberOr 30000 (Json.find? "rpcTimeoutMs".toList (.object members)) :=
    readPositiveUint_inRange h.integers (by decide) (by decide) (by decide)
  have hack (value : Nat) :
      (readPositiveUint pluginName (.object members) "ackDeadlineSeconds".toList 60 = .ok value ∧
        10 ≤ value ∧ value ≤ 600) ↔ InRange 10 600 (Json.find? "ackDeadlineSeconds".toList (.object members)) ∧
          value = numberOr 60 (Json.find? "ackDeadlineSeconds".toList (.object members)) :=
    readPositiveUint_inRange h.integers (by decide) (by decide) (by decide)
  have hmax (value : Nat) :
      (readPositiveUint pluginName (.object members) "maxMessages".toList 10 = .ok value ∧
        1 ≤ value ∧ value ≤ 100) ↔ InRange 1 100 (Json.find? "maxMessages".toList (.object members)) ∧
          value = numberOr 10 (Json.find? "maxMessages".toList (.object members)) :=
    readPositiveUint_inRange h.integers (by decide) (by decide) (by decide)
  rw [hnode, parsePubSubNode]
  simp only [bind_eq_ok, readBool_ok]
  constructor
  · rintro ⟨rpc, hreadRpc, ack, hreadAck, max, hreadMax, _, ⟨honeWay, rfl⟩, _, ⟨hauto, rfl⟩, _, ⟨hverify, rfl⟩, hparse⟩
    repeat (split at hparse; · cases hparse)
    rename_i hackRange hmaxRange hrpcRange
    obtain ⟨hinRpc, rfl⟩ := (hrpc rpc).1 ⟨hreadRpc, readPositiveUint_pos (by decide) hreadRpc, by omega⟩
    obtain ⟨hinAck, rfl⟩ := (hack ack).1 ⟨hreadAck, by omega, by omega⟩
    obtain ⟨hinMax, rfl⟩ := (hmax max).1 ⟨hreadMax, by omega, by omega⟩
    obtain ⟨config, hnormal, hsettings⟩ := bind_eq_ok.1 hparse
    refine ⟨⟨hinRpc, hinAck, hinMax⟩, ⟨honeWay, hauto, hverify⟩, config, hnormal, ?_⟩
    cases hsettings
    rw [(normalizeEmulatorHost_frame hnormal).1]
    rfl
  · rintro ⟨⟨hinRpc, hinAck, hinMax⟩, ⟨honeWay, hauto, hverify⟩, config, hnormal, rfl⟩
    obtain ⟨hreadRpc, hrpcRange⟩ := (hrpc _).2 ⟨hinRpc, rfl⟩
    obtain ⟨hreadAck, hackRange⟩ := (hack _).2 ⟨hinAck, rfl⟩
    obtain ⟨hreadMax, hmaxRange⟩ := (hmax _).2 ⟨hinMax, rfl⟩
    refine ⟨_, hreadRpc, _, hreadAck, _, hreadMax, _, ⟨honeWay, rfl⟩, _, ⟨hauto, rfl⟩, _, ⟨hverify, rfl⟩, ?_⟩
    rw [if_neg (by omega), if_neg (by omega), if_neg (by omega), bind_eq_ok]
    refine ⟨config, hnormal, ?_⟩
    rw [(normalizeEmulatorHost_frame hnormal).1]
    rfl

/-! ## What is accepted -/

theorem inRange_numberOr {low high default : Nat} {given : Option Json} (hdefault : low ≤ default ∧ default ≤ high)
    (h : InRange low high given) : low ≤ numberOr default given ∧ numberOr default given ≤ high := by
  unfold numberOr
  split
  · rename_i n
    obtain ⟨m, hm, hlow, hhigh⟩ := h _ rfl
    cases hm
    omega
  · exact hdefault

/-- A subscription as the role's validation sees it: given or derived. -/
def IdsAccepted (root : Json) : Role → Prop
  | .client => ResourceIdForm (requestTopicOf root) ∧ (oneWayOf root = false →
      ResourceIdForm (replyTopicOf root) ∧
        ResourceIdForm (defaultSubscription (replySubscriptionOf root) (replyTopicOf root)))
  | .server => ResourceIdForm (requestTopicOf root) ∧
      ResourceIdForm (defaultSubscription (requestSubscriptionOf root) (requestTopicOf root))

theorem idsAccepted_iff {root : Json} : ∀ {role : Role},
    IdsAccepted root role ↔ ValidIds root role ∧ ¬ DerivesTooLong root role
  | .client => by
    unfold IdsAccepted ValidIds DerivesTooLong
    by_cases hreply : ResourceIdForm (replyTopicOf root)
    · rw [defaultSubscription_form_iff hreply]
      tauto
    · tauto
  | .server => by
    unfold IdsAccepted ValidIds DerivesTooLong
    by_cases htopic : ResourceIdForm (requestTopicOf root)
    · rw [defaultSubscription_form_iff htopic]
      tauto
    · tauto

theorem validate_ok {root : Json} {emulatorHost : Text} {emulatorUseHttps : Bool} (hranges : Ranges root)
    (hslash : '/' ∉ emulatorHost) (hblank : ' ' ∉ emulatorHost) (role : Role) :
    role.validate (settingsOf root emulatorHost emulatorUseHttps).toPubSubConfig = .ok () ↔
      ProjectIdForm (readString root "projectId".toList []) ∧ IdsAccepted root role := by
  have hcommon (role : Text) : validateCommon (settingsOf root emulatorHost emulatorUseHttps).toPubSubConfig role = .ok () ↔
      ProjectIdForm (readString root "projectId".toList []) := by
    rw [validateCommon_ok, ← isValidProjectId_iff]
    refine and_iff_left ⟨?_, ?_, ?_, hslash, hblank⟩
    · exact inRange_numberOr (by decide) hranges.ackDeadlineSeconds
    · exact inRange_numberOr (by decide) hranges.maxMessages
    · exact inRange_numberOr (by decide) hranges.rpcTimeoutMs
  cases role with
  | client =>
    simp only [Role.validate, validateClientConfig_ok, hcommon, isValidResourceId_iff]
    rfl
  | server =>
    simp only [Role.validate, validateServerConfig_ok, hcommon, isValidResourceId_iff]
    rfl

theorem accepts_iff {role : Role} {root : Json} (h : Flat root) :
    (∃ settings, Accepts role root settings) ↔
      Valid role root ∧ ¬ DerivesTooLong root role ∧ HostAccepted root ∧ Switches root := by
  unfold Accepts
  simp only [parsePubSubConfig_ok h, hostAccepted_iff]
  constructor
  · rintro ⟨settings, ⟨hranges, hswitches, config, hnormal, rfl⟩, hvalid⟩
    obtain ⟨-, hslash, hblank⟩ := normalizeEmulatorHost_frame hnormal
    obtain ⟨hproject, hids⟩ := (validate_ok hranges hslash hblank role).1 hvalid
    obtain ⟨hgiven, hroom⟩ := idsAccepted_iff.1 hids
    exact ⟨⟨hproject, hgiven, hranges.1, hranges.2, hranges.3⟩, hroom, ⟨config, hnormal⟩, hswitches⟩
  · rintro ⟨hvalid, hroom, ⟨config, hnormal⟩, hswitches⟩
    obtain ⟨-, hslash, hblank⟩ := normalizeEmulatorHost_frame hnormal
    have hranges : Ranges root := ⟨hvalid.rpcTimeoutMs, hvalid.ackDeadlineSeconds, hvalid.maxMessages⟩
    exact ⟨_, ⟨hranges, hswitches, config, hnormal, rfl⟩,
      (validate_ok hranges hslash hblank role).2 ⟨hvalid.project, idsAccepted_iff.2 ⟨hvalid.ids, hroom⟩⟩⟩

theorem holds_of_parsed {root : Json} (h : Flat root) {settings : PubSubSettings}
    (hparse : parsePubSubConfig root = .ok settings) : Holds root settings := by
  obtain ⟨-, -, config, hnormal, rfl⟩ := (parsePubSubConfig_ok h).1 hparse
  have hhost : HoldsHost (readString root "emulatorHost".toList [])
      (settingsOf root config.emulatorHost config.emulatorUseHttps) := by
    rcases normalizeEmulatorHost_iff.1 hnormal with ⟨hblank, rfl⟩ | ⟨scheme, host, hspelled, -, -, rfl⟩
    · exact Or.inl ⟨hblank, rfl⟩
    · exact Or.inr ⟨scheme, hspelled, rfl⟩
  exact {
    name := rfl, projectId := rfl, requestTopic := rfl, replyTopic := rfl, credentialsFile := rfl, accessToken := rfl
    rpcTimeoutMs := rfl, ackDeadlineSeconds := rfl, maxMessages := rfl, oneWay := rfl, autoCreate := rfl, verifySsl := rfl
    autoCreateSpecified := rfl, emulatorHost := hhost
    requestSubscription := defaultSubscription_subscribes _ _
    replySubscription := defaultSubscription_subscribes _ _ }

/-- **Exactly the documented settings** are accepted, but for valid ones that leave the subscription to a topic without
room for its suffix, name an emulator host that is none, or give a switch that is no boolean. -/
theorem acceptsDocumented_iff {root : Json} (h : Flat root) (role : Role) :
    AcceptsDocumented role root ↔
      ¬ (Valid role root ∧ (DerivesTooLong root role ∨ ¬ HostAccepted root ∨ ¬ Switches root)) := by
  unfold AcceptsDocumented
  rw [and_iff_left fun settings haccepts => holds_of_parsed h haccepts.1, accepts_iff h]
  by_cases hroom : DerivesTooLong root role <;> by_cases hhost : HostAccepted root <;>
    by_cases hswitches : Switches root <;> simp [hroom, hhost, hswitches]

/-- The settings of a server that leaves its subscription to the topic. -/
def serverRoot (topic : Text) : Json :=
  .object [("projectId".toList, .string "orders-eu".toList), ("requestTopic".toList, .string topic)]

theorem serverRoot_flat (topic : Text) : Flat (serverRoot topic) where
  unwrapped := rfl
  project := rfl
  integers := by
    intro key n hfind
    simp only [serverRoot, Json.find?, List.lookup_cons, List.lookup_nil] at hfind
    split at hfind
    · cases hfind
    · split at hfind <;> cases hfind

theorem requestTopicOf_serverRoot {topic : Text} (h : topic ≠ []) : requestTopicOf (serverRoot topic) = topic := by
  have hread : readString (serverRoot topic) "requestTopic".toList [] = topic := rfl
  rw [requestTopicOf, readAliased, hread]
  exact if_neg (by simpa using h)

theorem serverRoot_valid {topic : Text} (h : ResourceIdForm topic) : Valid .server (serverRoot topic) where
  project := by
    have hproject : ProjectIdForm "orders-eu".toList :=
      ⟨by decide, by decide, List.all_iff_forall_prop.1 (by decide)⟩
    exact hproject
  ids := ⟨(requestTopicOf_serverRoot h.ne_nil).symm ▸ h, fun hgiven => absurd rfl hgiven⟩
  rpcTimeoutMs := nofun
  ackDeadlineSeconds := nofun
  maxMessages := nofun

theorem acceptsDocumented_iff_serverRoot : AcceptsDocumented .server (serverRoot "orders".toList) := by
  apply (acceptsDocumented_iff (serverRoot_flat _) .server).2
  rintro ⟨-, hroom | hhost | hswitches⟩
  · exact absurd hroom.2 (by decide)
  · exact hhost (Or.inl rfl)
  · exact hswitches ⟨nofun, nofun, nofun⟩

/-- A topic of 252 letters is an id, the subscription derived from it is none. -/
theorem not_acceptsDocumented_long_topic : ¬ AcceptsDocumented .server (serverRoot (List.replicate 252 'a')) := by
  have hletters : ∀ c ∈ List.replicate 252 'a', c = 'a' := fun c hc => List.eq_of_mem_replicate hc
  have htopic : ResourceIdForm (List.replicate 252 'a') := by
    refine ⟨?_, ⟨'a', rfl, by decide⟩, ?_⟩
    · rw [List.length_replicate]
      decide
    · intro c hc
      rw [hletters c hc]
      exact Or.inl (by decide)
  intro h
  have haccepted := (accepts_iff (serverRoot_flat _)).1 (h.1.2 (serverRoot_valid htopic))
  apply haccepted.2.1
  refine ⟨rfl, ?_⟩
  rw [requestTopicOf_serverRoot htopic.ne_nil, List.length_replicate]
  decide

end PubSub
end Graftcode
