import Mathlib.Data.List.Infix
import Graftcode.Json
/-!
# PluginConfigNodes — which settings a plugin finds in a configuration document

`FindPubSubNode` (`PubSubConfig.cpp`) and `FindSqsNode` (`SqsConfig.cpp`) search a JSON document for the first object
that looks like the plugin's settings.  An object's members are visited in the order of the `std::map`, by key; the
theorems hold for every order.  The keys and the library names of the five transport plugins are those of their READMEs.
-/
namespace Graftcode

namespace Json

def contains (node : Json) (key : String) : Bool := (node.find? key.toList).isSome

def isScalar : Json → Bool
  | array _  => false
  | object _ => false
  | _        => true

mutual

/-- Every value of a document, each object or array before what it holds. -/
def preorder : Json → List Json
  | object members => object members :: preorderMembers members
  | array items    => array items :: preorderItems items
  | null           => [null]
  | bool b         => [bool b]
  | number n       => [number n]
  | string s       => [string s]

def preorderItems : List Json → List Json
  | []            => []
  | item :: items => preorder item ++ preorderItems items

def preorderMembers : List (Text × Json) → List Json
  | []                  => []
  | (_, item) :: members => preorder item ++ preorderMembers members

end

end Json

namespace PluginConfig

open Json

/-! ## The search -/

/-- What the search returns at an object without looking further: the object under the plugin's own key, or the object
itself. -/
def atObject (wrapper : String) (accepts : Json → Bool) (node : Json) : Option Json :=
  match node.find? wrapper.toList with
  | some (.object members) => some (.object members)
  | _                      => if accepts node then some node else none

mutual

def findNode (wrapper : String) (accepts : Json → Bool) : Json → Option Json
  | .object members =>
    match atObject wrapper accepts (.object members) with
    | some found => some found
    | none       => findInMembers wrapper accepts members
  | .array items => findInItems wrapper accepts items
  | _            => none

def findInItems (wrapper : String) (accepts : Json → Bool) : List Json → Option Json
  | []            => none
  | item :: items =>
    match findNode wrapper accepts item with
    | some found => some found
    | none       => findInItems wrapper accepts items

def findInMembers (wrapper : String) (accepts : Json → Bool) : List (Text × Json) → Option Json
  | []                   => none
  | (_, item) :: members =>
    match findNode wrapper accepts item with
    | some found => some found
    | none       => findInMembers wrapper accepts members

end

/-- `pluginName.find(part) != npos` of a string member `name`. -/
def nameContains (node : Json) (part : String) : Bool :=
  match node.find? "name".toList with
  | some (.string name) => decide (part.toList <:+: name)
  | _                   => false

/-! ### Pub/Sub -/

def hasSpecificPubSubKeys (node : Json) : Bool :=
  node.contains "projectId" || node.contains "requestTopic" || node.contains "requestSubscription" ||
    node.contains "replySubscription" || node.contains "emulatorHost" || node.contains "credentialsFile" ||
    node.contains "accessToken" || node.contains "ackDeadlineSeconds"

def nameLooksLikePubSub (node : Json) : Bool := nameContains node "PubSub" || nameContains node "pubsub"

def isFlatPubSubAlias (node : Json) : Bool :=
  let hasAlias := node.contains "queue" || node.contains "replyQueue" || node.contains "requestTopic" ||
    node.contains "replyTopic"
  if !hasAlias && !node.contains "projectId" then false
  else if hasSpecificPubSubKeys node then true
  else nameLooksLikePubSub node

def findPubSubNode (node : Json) : Option Json :=
  findNode "pubsub" (fun node => hasSpecificPubSubKeys node || isFlatPubSubAlias node) node

/-! ### SQS -/

def hasSpecificSqsKeys (node : Json) : Bool :=
  node.contains "requestQueueUrl" || node.contains "replyQueueUrl" || node.contains "queueUrl" ||
    node.contains "endpointOverride" || node.contains "accessKeyId" || node.contains "secretAccessKey" ||
    node.contains "visibilityTimeoutSeconds" || node.contains "waitTimeSeconds" || node.contains "messageGroupId"

def isFlatSqsAlias (node : Json) : Bool :=
  let hasAlias := node.contains "queue" || node.contains "replyQueue"
  if !hasAlias then false
  else if node.contains "region" || node.contains "endpointOverride" || node.contains "accessKeyId" ||
      node.contains "messageGroupId" then true
  else nameContains node "Sqs" || nameContains node "sqs"

def findSqsNode (node : Json) : Option Json :=
  findNode "sqs" (fun node => hasSpecificSqsKeys node || isFlatSqsAlias node) node

/-! ## Documents -/

inductive Transport where
  | kafka
  | rabbitMq
  | serviceBus
  | sqs
  | pubSub
  deriving DecidableEq, Repr

/-- The values of `name`: the library on Windows, and on Linux and macOS. -/
def libraryNames : Transport → List String
  | .kafka      => ["KafkaPlugin", "libKafkaPlugin"]
  | .rabbitMq   => ["RabbitmqPlugin", "libRabbitmqPlugin"]
  | .serviceBus => ["ServiceBusPlugin", "libServiceBusPlugin"]
  | .sqs        => ["SqsPlugin", "libSqsPlugin"]
  | .pubSub     => ["PubSubPlugin", "libPubSubPlugin"]

/-- The keys of a plugin's configuration reference, aliases included. -/
def documentedKeys : Transport → List String
  | .kafka => ["name", "brokers", "host", "requestTopic", "queue", "replyTopic", "replyQueue", "groupId", "rpcTimeoutMs",
      "securityProtocol", "saslMechanism", "saslUsername", "saslPassword", "sslCaLocation"]
  | .rabbitMq => ["name", "host", "port", "queue", "user", "password", "vhost", "rpcTimeoutMs"]
  | .serviceBus => ["name", "connectionString", "host", "sharedAccessKeyName", "sharedAccessKey", "queue", "replyQueue",
      "topic", "subscription", "rpcTimeoutMs", "useDevelopmentEmulator"]
  | .sqs => ["name", "region", "requestQueueUrl", "queueUrl", "queue", "replyQueueUrl", "replyQueue", "rpcTimeoutMs",
      "waitTimeSeconds", "visibilityTimeoutSeconds", "oneWay", "messageGroupId", "endpointOverride", "verifySsl",
      "accessKeyId", "secretAccessKey", "sessionToken"]
  | .pubSub => ["name", "projectId", "requestTopic", "queue", "requestSubscription", "subscription", "replyTopic",
      "replyQueue", "replySubscription", "rpcTimeoutMs", "ackDeadlineSeconds", "maxMessages", "oneWay", "autoCreate",
      "emulatorHost", "verifySsl", "credentialsFile", "accessToken"]

/-- `key` is documented by some plugin. -/
def IsSettingsKey (key : Text) : Prop := ∃ t, ∃ k ∈ documentedKeys t, k.toList = key

/-- A settings node of `t`: its library name, and scalars under documented keys. -/
def IsSettings (t : Transport) (node : Json) : Prop :=
  ∃ members, node = .object members ∧
    (∃ name ∈ libraryNames t, node.find? "name".toList = some (.string name.toList)) ∧
    ∀ member ∈ members, (∃ k ∈ documentedKeys t, k.toList = member.1) ∧ member.2.isScalar = true

/-- Objects and arrays around settings nodes; no key of a surrounding object is a settings key. -/
inductive IsDocument : Json → Prop where
  | settings (t : Transport) {node : Json} (h : IsSettings t node) : IsDocument node
  | scalar {node : Json} (h : node.isScalar = true) : IsDocument node
  | array {items : List Json} (h : ∀ item ∈ items, IsDocument item) : IsDocument (.array items)
  | object {members : List (Text × Json)} (hkeys : ∀ member ∈ members, ¬ IsSettingsKey member.1)
      (h : ∀ member ∈ members, IsDocument member.2) : IsDocument (.object members)

/-- The required keys, an alias counting for its key. -/
def hasRequiredPubSubKeys (node : Json) : Bool :=
  node.contains "projectId" && (node.contains "requestTopic" || node.contains "queue")

def hasRequiredSqsKeys (node : Json) : Bool :=
  node.contains "requestQueueUrl" || node.contains "queueUrl" || node.contains "queue"

/-- `doc` holds exactly one settings node of `t`, which is `own` and has the required keys. -/
structure Configures (t : Transport) (required : Json → Bool) (doc own : Json) : Prop where
  document : IsDocument doc
  settings : IsSettings t own
  required : required own = true
  once : ∃ pre post, preorder doc = pre ++ own :: post ∧ ∀ node ∈ pre ++ post, ¬ IsSettings t node

/-! ## The search is a first hit in preorder -/

/-- What a visited value contributes to the search. -/
def hit (wrapper : String) (accepts : Json → Bool) : Json → Option Json
  | .object members => atObject wrapper accepts (.object members)
  | _               => none

variable (wrapper : String) (accepts : Json → Bool)

mutual

theorem findNode_eq : ∀ (node : Json), findNode wrapper accepts node = (preorder node).findSome? (hit wrapper accepts)
  | .object members => by
    rw [findNode, preorder, List.findSome?_cons, hit, findInMembers_eq members]
    cases atObject wrapper accepts (.object members) <;> rfl
  | .array items => by
    have hnone : hit wrapper accepts (.array items) = none := rfl
    rw [findNode, preorder, List.findSome?_cons, hnone, findInItems_eq items]
  | .null     => rfl
  | .bool _   => rfl
  | .number _ => rfl
  | .string _ => rfl

theorem findInItems_eq : ∀ (items : List Json),
    findInItems wrapper accepts items = (preorderItems items).findSome? (hit wrapper accepts)
  | [] => rfl
  | item :: items => by
    rw [findInItems, preorderItems, List.findSome?_append, findNode_eq item, findInItems_eq items]
    cases (preorder item).findSome? (hit wrapper accepts) <;> rfl

theorem findInMembers_eq : ∀ (members : List (Text × Json)),
    findInMembers wrapper accepts members = (preorderMembers members).findSome? (hit wrapper accepts)
  | [] => rfl
  | (_, item) :: members => by
    rw [findInMembers, preorderMembers, List.findSome?_append, findNode_eq item, findInMembers_eq members]
    cases (preorder item).findSome? (hit wrapper accepts) <;> rfl

end

/-- The first hit is the wanted one exactly when every other hit comes after one of it. -/
theorem findSome?_eq_iff {α β : Type} {f : α → Option β} {l : List α} {b : β} (hex : ∃ x ∈ l, f x = some b) :
    l.findSome? f = some b ↔
      ∀ pre x post, l = pre ++ x :: post → (∃ c, f x = some c ∧ c ≠ b) → ∃ y ∈ pre, f y = some b := by
  constructor
  · rintro h pre x post rfl ⟨c, hc, hne⟩
    rw [List.findSome?_append] at h
    cases hpre : pre.findSome? f with
    | some d =>
      rw [hpre, Option.some_or] at h
      cases h
      obtain ⟨l₁, a, l₂, rfl, ha, -⟩ := List.findSome?_eq_some_iff.1 hpre
      exact ⟨a, by simp, ha⟩
    | none =>
      rw [hpre, Option.none_or, List.findSome?_cons, hc] at h
      exact absurd (Option.some.inj h) hne
  · intro h
    cases hf : l.findSome? f with
    | none =>
      obtain ⟨x, hx, hb⟩ := hex
      rw [List.findSome?_eq_none_iff.1 hf x hx] at hb
      cases hb
    | some c =>
      by_contra hne
      obtain ⟨l₁, a, l₂, hl, ha, hnone⟩ := List.findSome?_eq_some_iff.1 hf
      obtain ⟨y, hy, hyb⟩ := h l₁ a l₂ hl ⟨c, ha, fun hcb => hne (congrArg some hcb)⟩
      rw [hnone y hy] at hyb
      cases hyb

/-! ## What a document holds -/

/-- A value of a document: a settings node, a scalar, an array, or an object with no settings key. -/
inductive IsPart : Json → Prop where
  | settings (t : Transport) {node : Json} (h : IsSettings t node) : IsPart node
  | scalar {node : Json} (h : node.isScalar = true) : IsPart node
  | array (items : List Json) : IsPart (.array items)
  | object {members : List (Text × Json)} (hkeys : ∀ member ∈ members, ¬ IsSettingsKey member.1) : IsPart (.object members)

theorem mem_preorderItems : ∀ {items : List Json} {x : Json}, x ∈ preorderItems items → ∃ item ∈ items, x ∈ preorder item
  | [], _, h => by cases h
  | item :: items, x, h => by
    rw [preorderItems, List.mem_append] at h
    rcases h with h | h
    · exact ⟨item, List.mem_cons_self, h⟩
    · obtain ⟨found, hmem, hx⟩ := mem_preorderItems h
      exact ⟨found, List.mem_cons_of_mem _ hmem, hx⟩

theorem mem_preorderMembers : ∀ {members : List (Text × Json)} {x : Json}, x ∈ preorderMembers members →
    ∃ member ∈ members, x ∈ preorder member.2
  | [], _, h => by cases h
  | (key, item) :: members, x, h => by
    rw [preorderMembers, List.mem_append] at h
    rcases h with h | h
    · exact ⟨(key, item), List.mem_cons_self, h⟩
    · obtain ⟨found, hmem, hx⟩ := mem_preorderMembers h
      exact ⟨found, List.mem_cons_of_mem _ hmem, hx⟩

theorem preorder_scalar {node : Json} (h : node.isScalar = true) : preorder node = [node] := by
  cases node with
  | array items => cases h
  | object members => cases h
  | null => rfl
  | bool b => rfl
  | number n => rfl
  | string s => rfl

theorem IsDocument.parts {doc : Json} (h : IsDocument doc) : ∀ x ∈ preorder doc, IsPart x := by
  induction h with
  | settings t h =>
    obtain ⟨members, rfl, hname, hall⟩ := h
    intro x hx
    rw [preorder, List.mem_cons] at hx
    rcases hx with rfl | hx
    · exact .settings t ⟨members, rfl, hname, hall⟩
    · obtain ⟨member, hmem, hx⟩ := mem_preorderMembers hx
      have hscalar := (hall member hmem).2
      rw [preorder_scalar hscalar, List.mem_singleton] at hx
      subst hx
      exact .scalar hscalar
  | scalar h =>
    intro x hx
    rw [preorder_scalar h, List.mem_singleton] at hx
    subst hx
    exact .scalar h
  | @array items _ ih =>
    intro x hx
    rw [preorder, List.mem_cons] at hx
    rcases hx with rfl | hx
    · exact .array items
    · obtain ⟨item, hmem, hx⟩ := mem_preorderItems hx
      exact ih item hmem x hx
  | object hkeys _ ih =>
    intro x hx
    rw [preorder, List.mem_cons] at hx
    rcases hx with rfl | hx
    · exact .object hkeys
    · obtain ⟨member, hmem, hx⟩ := mem_preorderMembers hx
      exact ih member hmem x hx

theorem contains_object {members : List (Text × Json)} {key : String} (h : (Json.object members).contains key = true) :
    ∃ member ∈ members, member.1 = key.toList := by
  change (members.lookup key.toList).isSome = true at h
  cases hl : members.lookup key.toList with
  | none =>
    rw [hl] at h
    cases h
  | some value =>
    obtain ⟨l₁, l₂, rfl, -⟩ := List.lookup_eq_some_iff.1 hl
    exact ⟨(key.toList, value), by simp, rfl⟩

theorem IsSettings.documented {t : Transport} {node : Json} (h : IsSettings t node) {key : String}
    (hc : node.contains key = true) : key ∈ documentedKeys t := by
  obtain ⟨members, rfl, -, hall⟩ := h
  obtain ⟨member, hmem, hkey⟩ := contains_object hc
  obtain ⟨k, hk, hk'⟩ := (hall member hmem).1
  have : k = key := String.toList_inj.1 (hk'.trans hkey)
  rwa [← this]

theorem not_contains_of_structural {members : List (Text × Json)} (hkeys : ∀ member ∈ members, ¬ IsSettingsKey member.1)
    {t : Transport} {key : String} (hkey : key ∈ documentedKeys t) : (Json.object members).contains key = false := by
  by_contra hc
  rw [Bool.not_eq_false] at hc
  obtain ⟨member, hmem, hm⟩ := contains_object hc
  exact hkeys member hmem ⟨t, key, hkey, hm.symm⟩

/-! ## The wanted node -/

theorem libraryNames_disjoint : ∀ t t' : Transport, t ≠ t' → ∀ name ∈ libraryNames t, name ∉ libraryNames t' := by
  intro t t'
  cases t <;> cases t' <;> decide

theorem IsSettings.unique {t t' : Transport} {node : Json} (h : IsSettings t node) (h' : IsSettings t' node) : t = t' := by
  obtain ⟨_, _, ⟨name, hname, hfind⟩, _⟩ := h
  obtain ⟨_, _, ⟨name', hname', hfind'⟩, _⟩ := h'
  rw [hfind] at hfind'
  have hsame : name = name' := String.toList_inj.1 (Json.string.inj (Option.some.inj hfind'))
  subst hsame
  by_contra hne
  exact libraryNames_disjoint t t' hne name hname hname'

/-- How a plugin's test fares on the parts of a document: it accepts its own node, no structural object, and of the other
plugins' nodes the `misleading` ones. -/
structure Recognizes (t : Transport) (required : Json → Bool) (wrapper : String) (accepts misleading : Json → Bool) :
    Prop where
  own : ∀ {node : Json}, IsSettings t node → required node = true → accepts node = true
  foreign : ∀ {t' : Transport} {node : Json}, t' ≠ t → IsSettings t' node → accepts node = misleading node
  structural : ∀ {members : List (Text × Json)}, (∀ member ∈ members, ¬ IsSettingsKey member.1) →
    accepts (.object members) = false
  wrapper : ∀ t', wrapper ∉ documentedKeys t'

/-- What may be returned instead of `own`: a misleading node of another plugin, or another object under the wrapper key. -/
def Misleads (t : Transport) (wrapper : String) (misleading : Json → Bool) (own node : Json) : Prop :=
  (∃ t', t' ≠ t ∧ IsSettings t' node ∧ misleading node = true) ∨
    ∃ members, node.find? wrapper.toList = some (.object members) ∧ .object members ≠ own

variable {wrapper accepts}

theorem hit_of_wrapper {node : Json} {members : List (Text × Json)}
    (h : node.find? wrapper.toList = some (.object members)) : hit wrapper accepts node = some (.object members) := by
  cases node with
  | object own => rw [hit, atObject, h]
  | array items => cases h
  | null => cases h
  | bool b => cases h
  | number n => cases h
  | string s => cases h

theorem hit_cases {node found : Json} (h : hit wrapper accepts node = some found) :
    (∃ members, found = .object members ∧ node.find? wrapper.toList = some (.object members)) ∨
      (∃ members, node = .object members) ∧ accepts node = true ∧ found = node := by
  cases node with
  | object members =>
    rw [hit, atObject] at h
    split at h
    · rename_i inner hfind
      cases h
      exact Or.inl ⟨inner, rfl, hfind⟩
    · split at h
      · rename_i hacc
        exact Or.inr ⟨⟨members, rfl⟩, hacc, (Option.some.inj h).symm⟩
      · cases h
  | array items => cases h
  | null => cases h
  | bool b => cases h
  | number n => cases h
  | string s => cases h

variable {t : Transport} {required misleading : Json → Bool}

theorem Recognizes.hit_settings (hr : Recognizes t required wrapper accepts misleading) {t' : Transport} {node : Json}
    (h : IsSettings t' node) (hacc : accepts node = true) : hit wrapper accepts node = some node := by
  have hnone : node.find? wrapper.toList = none := by
    cases hf : node.find? wrapper.toList with
    | none => rfl
    | some value =>
      have hc : node.contains wrapper = true := by rw [Json.contains, hf]; rfl
      exact absurd (h.documented hc) (hr.wrapper t')
  obtain ⟨members, rfl, -, -⟩ := h
  rw [hit, atObject, hnone]
  exact if_pos hacc

variable {doc own : Json}

theorem Configures.eq_own (hc : Configures t required doc own) {x : Json} (hx : x ∈ preorder doc)
    (hs : IsSettings t x) : x = own := by
  obtain ⟨pre, post, hpre, hno⟩ := hc.once
  rw [hpre] at hx
  by_contra hne
  have hmem : x ∈ pre ++ post := by
    rcases List.mem_append.1 hx with h | h
    · exact List.mem_append_left _ h
    · rcases List.mem_cons.1 h with h | h
      · exact absurd h hne
      · exact List.mem_append_right _ h
  exact hno x hmem hs

theorem Configures.mem_own (hc : Configures t required doc own) : own ∈ preorder doc := by
  obtain ⟨pre, post, hpre, -⟩ := hc.once
  rw [hpre]
  simp

/-- The hits of the wanted node. -/
theorem hit_own_iff (hr : Recognizes t required wrapper accepts misleading) (hc : Configures t required doc own)
    (x : Json) : hit wrapper accepts x = some own ↔ x = own ∨ x.find? wrapper.toList = some own := by
  constructor
  · intro h
    rcases hit_cases h with ⟨members, rfl, hfind⟩ | ⟨-, -, h⟩
    · exact Or.inr hfind
    · exact Or.inl h.symm
  · rintro (rfl | h)
    · exact hr.hit_settings hc.settings (hr.own hc.settings hc.required)
    · obtain ⟨members, rfl, -⟩ := hc.settings
      exact hit_of_wrapper h

/-- The hits of anything else. -/
theorem hit_other_iff (hr : Recognizes t required wrapper accepts misleading) (hc : Configures t required doc own)
    {x : Json} (hx : x ∈ preorder doc) :
    (∃ y, hit wrapper accepts x = some y ∧ y ≠ own) ↔ Misleads t wrapper misleading own x := by
  constructor
  · rintro ⟨y, hy, hne⟩
    rcases hit_cases hy with ⟨members, rfl, h⟩ | ⟨⟨members, hobj⟩, hacc, rfl⟩
    · exact Or.inr ⟨members, h, hne⟩
    · cases hc.document.parts _ hx with
      | settings t' hs =>
        by_cases ht : t' = t
        · subst ht
          exact absurd (hc.eq_own hx hs) hne
        · rw [hr.foreign ht hs] at hacc
          exact Or.inl ⟨t', ht, hs, hacc⟩
      | scalar h =>
        rw [hobj] at h
        cases h
      | array items => cases hobj
      | object hkeys =>
        rw [hr.structural hkeys] at hacc
        cases hacc
  · rintro (⟨t', ht, hs, hmis⟩ | ⟨members, hfind, hne⟩)
    · refine ⟨x, hr.hit_settings hs (by rw [hr.foreign ht hs, hmis]), ?_⟩
      rintro rfl
      exact ht (hs.unique hc.settings)
    · exact ⟨_, hit_of_wrapper hfind, hne⟩

/-- **The search** returns the plugin's own node exactly when everything that misleads it comes later. -/
theorem findNode_eq_own_iff (hr : Recognizes t required wrapper accepts misleading)
    (hc : Configures t required doc own) : findNode wrapper accepts doc = some own ↔
      ∀ pre node post, preorder doc = pre ++ node :: post → Misleads t wrapper misleading own node →
        ∃ x ∈ pre, x = own ∨ x.find? wrapper.toList = some own := by
  rw [findNode_eq, findSome?_eq_iff ⟨own, hc.mem_own, (hit_own_iff hr hc own).2 (Or.inl rfl)⟩]
  have hmem : ∀ {pre node post}, preorder doc = pre ++ node :: post → node ∈ preorder doc := fun h => by
    rw [h]
    simp
  constructor
  · intro h pre node post heq hmis
    obtain ⟨x, hx, hhit⟩ := h pre node post heq ((hit_other_iff hr hc (hmem heq)).2 hmis)
    exact ⟨x, hx, (hit_own_iff hr hc x).1 hhit⟩
  · intro h pre node post heq hother
    obtain ⟨x, hx, hown⟩ := h pre node post heq ((hit_other_iff hr hc (hmem heq)).1 hother)
    exact ⟨x, hx, (hit_own_iff hr hc x).2 hown⟩

/-! ## Pub/Sub and SQS -/

theorem not_contains_of_undocumented {t : Transport} {node : Json} (h : IsSettings t node) {key : String}
    (hkey : key ∉ documentedKeys t) : node.contains key = false := by
  by_contra hc
  rw [Bool.not_eq_false] at hc
  exact hkey (h.documented hc)

theorem not_nameContains {t : Transport} {node : Json} (h : IsSettings t node) {part : String}
    (hpart : ∀ name ∈ libraryNames t, ¬ part.toList <:+: name.toList) : nameContains node part = false := by
  obtain ⟨_, _, ⟨name, hname, hfind⟩, _⟩ := h
  simp only [nameContains, hfind, hpart name hname, decide_false]

theorem nameContains_of {t : Transport} {node : Json} (h : IsSettings t node) {part : String}
    (hpart : ∀ name ∈ libraryNames t, part.toList <:+: name.toList) : nameContains node part = true := by
  obtain ⟨_, _, ⟨name, hname, hfind⟩, _⟩ := h
  simp only [nameContains, hfind, hpart name hname, decide_true]

theorem pubSub_names : ∀ t, t ≠ .pubSub → ∀ name ∈ libraryNames t,
    ¬ "PubSub".toList <:+: name.toList ∧ ¬ "pubsub".toList <:+: name.toList := by
  intro t
  cases t <;> decide

theorem pubSub_keys : ∀ t, t ≠ .pubSub → ∀ key ∈ ["projectId", "requestSubscription", "replySubscription", "emulatorHost",
    "credentialsFile", "accessToken", "ackDeadlineSeconds"], key ∉ documentedKeys t := by
  intro t
  cases t <;> decide

/-- Of the other plugins' nodes `FindPubSubNode` accepts those with a `requestTopic`, which Kafka's settings have. -/
theorem recognizes_pubSub : Recognizes .pubSub hasRequiredPubSubKeys "pubsub"
    (fun node => hasSpecificPubSubKeys node || isFlatPubSubAlias node) (fun node => node.contains "requestTopic") where
  own {node} _ hrequired := by
    rw [hasRequiredPubSubKeys, Bool.and_eq_true] at hrequired
    simp only [hasSpecificPubSubKeys, hrequired.1, Bool.true_or]
  foreign {t node} ht h := by
    have hkeys : ∀ key ∈ ["projectId", "requestSubscription", "replySubscription", "emulatorHost", "credentialsFile",
        "accessToken", "ackDeadlineSeconds"], node.contains key = false := fun key hkey =>
      not_contains_of_undocumented h (pubSub_keys t ht key hkey)
    have hspecific : hasSpecificPubSubKeys node = node.contains "requestTopic" := by
      simp [hasSpecificPubSubKeys, hkeys]
    have hname : nameLooksLikePubSub node = false := by
      simp only [nameLooksLikePubSub, not_nameContains h fun name hn => (pubSub_names t ht name hn).1,
        not_nameContains h fun name hn => (pubSub_names t ht name hn).2, Bool.or_self]
    by_cases hc : node.contains "requestTopic" = true
    · simp only [hspecific, hc, Bool.true_or]
    · rw [Bool.not_eq_true] at hc
      simp only [hspecific, hc, isFlatPubSubAlias, hname, Bool.false_eq_true, if_false, Bool.false_or, ite_self]
  structural {members} hkeys := by
    have hno : ∀ key ∈ documentedKeys .pubSub, (Json.object members).contains key = false := fun key hkey =>
      not_contains_of_structural hkeys hkey
    have hdoc : ∀ key ∈ ["projectId", "requestTopic", "requestSubscription", "replySubscription", "emulatorHost",
        "credentialsFile", "accessToken", "ackDeadlineSeconds", "queue", "replyQueue", "replyTopic"],
        (Json.object members).contains key = false := fun key hkey => hno key (by revert key; decide)
    simp [hasSpecificPubSubKeys, isFlatPubSubAlias, hdoc]
  wrapper t := by cases t <;> decide

theorem sqs_names : ∀ t, t ≠ .sqs → ∀ name ∈ libraryNames t,
    ¬ "Sqs".toList <:+: name.toList ∧ ¬ "sqs".toList <:+: name.toList := by
  intro t
  cases t <;> decide

theorem sqs_keys : ∀ t, t ≠ .sqs → ∀ key ∈ ["requestQueueUrl", "replyQueueUrl", "queueUrl", "endpointOverride",
    "accessKeyId", "secretAccessKey", "visibilityTimeoutSeconds", "waitTimeSeconds", "messageGroupId", "region"],
    key ∉ documentedKeys t := by
  intro t
  cases t <;> decide

/-- `FindSqsNode` accepts no node of another plugin. -/
theorem recognizes_sqs : Recognizes .sqs hasRequiredSqsKeys "sqs"
    (fun node => hasSpecificSqsKeys node || isFlatSqsAlias node) (fun _ => false) where
  own {node} h hrequired := by
    have hname := @nameContains_of .sqs node h "Sqs" (by decide)
    rw [hasRequiredSqsKeys, Bool.or_eq_true, Bool.or_eq_true] at hrequired
    rcases hrequired with (hkey | hkey) | hkey
    · simp [hasSpecificSqsKeys, hkey]
    · simp [hasSpecificSqsKeys, hkey]
    · -- the alias `queue` counts with the library's name
      simp [isFlatSqsAlias, hkey, hname]
  foreign {t node} ht h := by
    have hkeys : ∀ key ∈ ["requestQueueUrl", "replyQueueUrl", "queueUrl", "endpointOverride", "accessKeyId",
        "secretAccessKey", "visibilityTimeoutSeconds", "waitTimeSeconds", "messageGroupId", "region"],
        node.contains key = false := fun key hkey => not_contains_of_undocumented h (sqs_keys t ht key hkey)
    have hname : nameContains node "Sqs" = false := not_nameContains h fun name hn => (sqs_names t ht name hn).1
    have hname' : nameContains node "sqs" = false := not_nameContains h fun name hn => (sqs_names t ht name hn).2
    simp [hasSpecificSqsKeys, isFlatSqsAlias, hkeys, hname, hname']
  structural {members} hkeys := by
    have hno : ∀ key ∈ documentedKeys .sqs, (Json.object members).contains key = false := fun key hkey =>
      not_contains_of_structural hkeys hkey
    have hdoc : ∀ key ∈ ["requestQueueUrl", "replyQueueUrl", "queueUrl", "endpointOverride", "accessKeyId",
        "secretAccessKey", "visibilityTimeoutSeconds", "waitTimeSeconds", "messageGroupId", "queue", "replyQueue"],
        (Json.object members).contains key = false := fun key hkey => hno key (by revert key; decide)
    simp [hasSpecificSqsKeys, isFlatSqsAlias, hdoc]
  wrapper t := by cases t <;> decide

/-- **Which node each plugin finds.**  Pub/Sub finds its own exactly when no other plugin's node with a `requestTopic` and
no other object under the key `pubsub` comes before it; SQS when no other object under the key `sqs` does. -/
theorem finders_return_own_iff (doc own : Json) :
    (Configures .pubSub hasRequiredPubSubKeys doc own → (findPubSubNode doc = some own ↔
      ∀ pre node post, preorder doc = pre ++ node :: post →
        Misleads .pubSub "pubsub" (fun node => node.contains "requestTopic") own node →
          ∃ x ∈ pre, x = own ∨ x.find? "pubsub".toList = some own)) ∧
    (Configures .sqs hasRequiredSqsKeys doc own → (findSqsNode doc = some own ↔
      ∀ (pre : List Json) (node : Json) (post : List Json) (members : List (Text × Json)),
        preorder doc = pre ++ node :: post → node.find? "sqs".toList = some (.object members) →
          .object members ≠ own → ∃ x ∈ pre, x = own ∨ x.find? "sqs".toList = some own)) := by
  refine ⟨fun hc => findNode_eq_own_iff recognizes_pubSub hc, fun hc => ?_⟩
  refine (findNode_eq_own_iff recognizes_sqs hc).trans ⟨fun h => ?_, fun h => ?_⟩
  · intro pre node post members hpre hfind hne
    exact h pre node post hpre (Or.inr ⟨members, hfind, hne⟩)
  · rintro pre node post hpre (⟨_, _, _, hmis⟩ | ⟨members, hfind, hne⟩)
    · cases hmis
    · exact h pre node post members hpre hfind hne

/-! ### Two plugins side by side -/

theorem IsSettings.preorder {node : Json} (h : IsSettings t node) :
    ∃ rest, Json.preorder node = node :: rest ∧ ∀ x ∈ rest, x.isScalar = true := by
  obtain ⟨members, rfl, -, hall⟩ := h
  refine ⟨preorderMembers members, rfl, fun x hx => ?_⟩
  obtain ⟨member, hmem, hx⟩ := mem_preorderMembers hx
  have hscalar := (hall member hmem).2
  rw [preorder_scalar hscalar, List.mem_singleton] at hx
  rwa [hx]

theorem not_isSettings_scalar {x : Json} (h : x.isScalar = true) : ¬ IsSettings t x := by
  rintro ⟨members, rfl, -⟩
  cases h

theorem not_isSettings_structural {members : List (Text × Json)} (hkeys : ∀ member ∈ members, ¬ IsSettingsKey member.1) :
    ¬ IsSettings t (.object members) := by
  rintro ⟨_, _, ⟨name, -, hfind⟩, -⟩
  have hname := @not_contains_of_structural members hkeys .kafka "name" (by decide)
  rw [Json.contains, hfind] at hname
  cases hname

/-- A document of two plugins, the other one's node first. -/
theorem configures_pair {t' : Transport} {other : Json} {key key' : Text} (ht : t' ≠ t) (hother : IsSettings t' other)
    (hown : IsSettings t own) (hrequired : required own = true) (hkey : ¬ IsSettingsKey key)
    (hkey' : ¬ IsSettingsKey key') : Configures t required (.object [(key, other), (key', own)]) own := by
  have hkeys : ∀ member ∈ [(key, other), (key', own)], ¬ IsSettingsKey member.1 := by
    intro member hmem
    simp only [List.mem_cons, List.not_mem_nil, or_false] at hmem
    rcases hmem with rfl | rfl
    · exact hkey
    · exact hkey'
  obtain ⟨rest, hrest, hscalar⟩ := hother.preorder
  obtain ⟨rest', hrest', hscalar'⟩ := hown.preorder
  refine ⟨.object hkeys fun member hmem => ?_, hown, hrequired,
    .object [(key, other), (key', own)] :: other :: rest, rest', ?_, fun x hx => ?_⟩
  · simp only [List.mem_cons, List.not_mem_nil, or_false] at hmem
    rcases hmem with rfl | rfl
    · exact .settings t' hother
    · exact .settings t hown
  · simp [Json.preorder, preorderMembers, hrest, hrest']
  · rw [List.cons_append, List.cons_append, List.mem_cons, List.mem_cons, List.mem_append] at hx
    rcases hx with rfl | rfl | hx | hx
    · exact not_isSettings_structural hkeys
    · exact fun h => ht (hother.unique h)
    · exact not_isSettings_scalar (hscalar x hx)
    · exact not_isSettings_scalar (hscalar' x hx)

/-- A settings node with string values, its name first. -/
def settingsNode (name : String) (values : List (String × String)) : Json :=
  .object (("name".toList, .string name.toList) :: values.map fun v => (v.1.toList, .string v.2.toList))

theorem isSettings_settingsNode {name : String} {values : List (String × String)} (hname : name ∈ libraryNames t)
    (hdoc : "name" ∈ documentedKeys t) (hkeys : ∀ v ∈ values, v.1 ∈ documentedKeys t) :
    IsSettings t (settingsNode name values) := by
  refine ⟨_, rfl, ⟨name, hname, rfl⟩, fun member hmem => ?_⟩
  rcases List.mem_cons.1 hmem with rfl | hmem
  · exact ⟨⟨"name", hdoc, rfl⟩, rfl⟩
  · obtain ⟨v, hv, rfl⟩ := List.mem_map.1 hmem
    exact ⟨⟨v.1, hkeys v hv, rfl⟩, rfl⟩

theorem not_isSettingsKey {key : String} (h : ∀ t, key ∉ documentedKeys t) : ¬ IsSettingsKey key.toList := by
  rintro ⟨t, k, hk, hkey⟩
  rw [String.toList_inj.1 hkey] at hk
  exact h t hk

def kafkaNode : Json := settingsNode "KafkaPlugin" [("requestTopic", "graft.requests")]

def pubSubNode : Json :=
  settingsNode "PubSubPlugin" [("projectId", "graftcode-local"), ("requestTopic", "graft-requests")]

def sqsNode : Json := settingsNode "SqsPlugin" [("queue", "graft-requests")]

theorem kafkaNode_isSettings : IsSettings .kafka kafkaNode :=
  isSettings_settingsNode (by decide) (by decide) (by decide)

theorem not_isSettingsKey_billing : ¬ IsSettingsKey "billing".toList :=
  not_isSettingsKey fun t => by cases t <;> decide

theorem not_isSettingsKey_calculator : ¬ IsSettingsKey "calculator".toList :=
  not_isSettingsKey fun t => by cases t <;> decide

/-- SQS's node is found behind Kafka's. -/
theorem finders_return_own_iff_sqs :
    findSqsNode (.object [("billing".toList, kafkaNode), ("calculator".toList, sqsNode)]) = some sqsNode := by
  have hconf : Configures .sqs hasRequiredSqsKeys
      (.object [("billing".toList, kafkaNode), ("calculator".toList, sqsNode)]) sqsNode :=
    configures_pair (by decide) kafkaNode_isSettings (isSettings_settingsNode (by decide) (by decide) (by decide))
      (by decide) not_isSettingsKey_billing not_isSettingsKey_calculator
  refine ((finders_return_own_iff _ _).2 hconf).2 fun pre node post members hpre hfind _ => ?_
  have hmem : node ∈ preorder (.object [("billing".toList, kafkaNode), ("calculator".toList, sqsNode)]) := by
    rw [hpre]
    simp
  simp only [kafkaNode, sqsNode, settingsNode, List.map_cons, List.map_nil, preorder, preorderMembers, List.cons_append,
    List.nil_append, List.append_nil, List.mem_cons, List.not_mem_nil, or_false] at hmem
  rcases hmem with rfl | rfl | rfl | rfl | rfl | rfl | rfl <;> cases hfind

/-- Pub/Sub takes Kafka's node, which comes first in key order, for its own. -/
theorem not_finds_own_behind_kafka :
    Configures .pubSub hasRequiredPubSubKeys
        (.object [("billing".toList, kafkaNode), ("calculator".toList, pubSubNode)]) pubSubNode ∧
      findPubSubNode (.object [("billing".toList, kafkaNode), ("calculator".toList, pubSubNode)]) = some kafkaNode ∧
      kafkaNode ≠ pubSubNode := by
  refine ⟨?_, rfl, ?_⟩
  · exact configures_pair (by decide) kafkaNode_isSettings (isSettings_settingsNode (by decide) (by decide) (by decide))
      (by decide) not_isSettingsKey_billing not_isSettingsKey_calculator
  · intro h
    have hnames := congrArg (fun node => node.find? "projectId".toList) h
    cases hnames

end PluginConfig
end Graftcode
