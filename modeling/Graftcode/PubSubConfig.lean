import Graftcode.Cpp
/-!
# PubSubConfig — the settings of the Pub/Sub plugin and their validation

`PubSubConfig.cpp`, from a parsed configuration on.
-/
namespace Graftcode
namespace PubSub

structure PubSubConfig where
  projectId : Text
  requestTopic : Text
  requestSubscription : Text := []
  replyTopic : Text := []
  replySubscription : Text := []
  emulatorHost : Text := []
  credentialsFile : Text := []
  accessToken : Text := []
  rpcTimeoutMs : Nat := 30000
  ackDeadlineSeconds : Nat := 60
  maxMessages : Nat := 10
  oneWay : Bool := false
  autoCreate : Bool := false
  emulatorUseHttps : Bool := false

def isValidProjectId (value : Text) : Bool :=
  !(value.isEmpty || decide (128 < value.length)) &&
    value.all fun character => character.isAlphanum || character == '-' || character == '_'

def isValidResourceId : Text → Bool
  | []            => false
  | front :: rest =>
    !(decide ((front :: rest).length < 3) || decide (255 < (front :: rest).length)) && front.isAlpha &&
      (front :: rest).all fun character =>
        character.isAlphanum || character == '-' || character == '_' || character == '.'

theorem isValidResourceId_ne_nil {value : Text} (h : isValidResourceId value = true) : value ≠ [] := by
  rintro rfl
  cases h

/-- `role` is `client` or `server`. -/
def validateCommon (config : PubSubConfig) (role : Text) : Except Text Unit :=
  let fail (message : String) : Except Text Unit := .error ("Pub/Sub ".toList ++ role ++ ": ".toList ++ message.toList)
  if config.projectId.isEmpty then fail "missing required field 'projectId'"
  else if !isValidProjectId config.projectId then fail "'projectId' must be 1-128 letters, digits, '-' or '_'"
  else if config.ackDeadlineSeconds < 10 ∨ 600 < config.ackDeadlineSeconds then
    fail "'ackDeadlineSeconds' must be between 10 and 600"
  else if config.maxMessages < 1 ∨ 100 < config.maxMessages then fail "'maxMessages' must be between 1 and 100"
  else if config.rpcTimeoutMs = 0 ∨ 3600000 < config.rpcTimeoutMs then
    fail "'rpcTimeoutMs' must be between 1 and 3600000"
  else if '/' ∈ config.emulatorHost ∨ ' ' ∈ config.emulatorHost then fail "'emulatorHost' must be host or host:port"
  else .ok ()

def validateResource (value role field : Text) (required : Bool) : Except Text Unit :=
  if value.isEmpty then
    if required then
      .error ("Pub/Sub ".toList ++ role ++ ": missing required field '".toList ++ field ++ "'".toList)
    else .ok ()
  else if !isValidResourceId value then
    .error ("Pub/Sub ".toList ++ role ++ ": '".toList ++ field ++
      "' must be 3-255 characters, start with a letter, and contain only letters, digits, '-', '_' or '.'".toList)
  else .ok ()

def validateClientConfig (config : PubSubConfig) : Except Text Unit := do
  let role := "client".toList
  validateCommon config role
  validateResource config.requestTopic role "requestTopic".toList true
  if config.oneWay then .ok ()
  else do
    validateResource config.replyTopic role "replyTopic".toList true
    validateResource config.replySubscription role "replySubscription".toList true

def validateServerConfig (config : PubSubConfig) : Except Text Unit := do
  let role := "server".toList
  validateCommon config role
  validateResource config.requestTopic role "requestTopic".toList true
  validateResource config.requestSubscription role "requestSubscription".toList true

/-! ## What a configuration is checked for -/

theorem validateCommon_ok {config : PubSubConfig} {role : Text} :
    validateCommon config role = .ok () ↔
      isValidProjectId config.projectId = true ∧
        (10 ≤ config.ackDeadlineSeconds ∧ config.ackDeadlineSeconds ≤ 600) ∧
        (1 ≤ config.maxMessages ∧ config.maxMessages ≤ 100) ∧
        (1 ≤ config.rpcTimeoutMs ∧ config.rpcTimeoutMs ≤ 3600000) ∧
        '/' ∉ config.emulatorHost ∧ ' ' ∉ config.emulatorHost := by
  have hempty : isValidProjectId [] = false := rfl
  unfold validateCommon
  constructor
  · intro h
    repeat (split at h; · cases h)
    rename_i hproject hack hmax hrpc hhost
    simp only [not_or] at hack hmax hrpc hhost
    exact ⟨by simpa using hproject, by omega, by omega, by omega, hhost.1, hhost.2⟩
  · rintro ⟨hproject, hack, hmax, hrpc, hslash, hblank⟩
    have hne : ¬ config.projectId.isEmpty = true := by
      intro he
      rw [List.isEmpty_iff.1 he, hempty] at hproject
      cases hproject
    rw [if_neg hne, if_neg (by simpa using hproject), if_neg (by omega), if_neg (by omega), if_neg (by omega), if_neg]
    rintro (h | h)
    · exact hslash h
    · exact hblank h

theorem validateResource_ok {value role field : Text} :
    validateResource value role field true = .ok () ↔ isValidResourceId value = true := by
  unfold validateResource
  constructor
  · intro h
    split at h
    · cases h
    split at h
    · cases h
    · rename_i hv
      simpa using hv
  · intro h
    have hne : ¬ value.isEmpty = true := fun he => isValidResourceId_ne_nil h (List.isEmpty_iff.1 he)
    rw [if_neg hne, if_neg (by simpa using h)]

theorem validateClientConfig_ok {config : PubSubConfig} :
    validateClientConfig config = .ok () ↔
      validateCommon config "client".toList = .ok () ∧ isValidResourceId config.requestTopic = true ∧
        (config.oneWay = false →
          isValidResourceId config.replyTopic = true ∧ isValidResourceId config.replySubscription = true) := by
  unfold validateClientConfig
  cases config.oneWay <;>
    simp only [check_eq_ok, validateResource_ok, Bool.false_eq_true, if_false, if_true, and_true, forall_true_left,
      reduceCtorEq, false_implies]

theorem validateServerConfig_ok {config : PubSubConfig} :
    validateServerConfig config = .ok () ↔
      validateCommon config "server".toList = .ok () ∧ isValidResourceId config.requestTopic = true ∧
        isValidResourceId config.requestSubscription = true := by
  unfold validateServerConfig
  simp only [check_eq_ok, validateResource_ok]

def endpointBase (config : PubSubConfig) : Text :=
  if config.emulatorHost.isEmpty then "https://pubsub.googleapis.com".toList
  else (if config.emulatorUseHttps then "https://".toList else "http://".toList) ++ config.emulatorHost

end PubSub
end Graftcode
