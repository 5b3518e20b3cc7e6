import Mathlib.Data.List.DropRight
import Graftcode.Cpp
/-!
# SqsUtil — payloads, attributes and queue settings of the SQS plugin

`SqsUtil.cpp` and `SqsConfig.cpp`.  The Base64 codec of the AWS SDK is a parameter.
-/
namespace Graftcode
namespace Sqs

/-- `Aws::Utils::HashingUtils`; a failed decoding is an empty buffer. -/
structure Sdk where
  base64Encode : Bytes → Text
  base64Decode : Text → Bytes

structure SqsConfig where
  requestQueueUrl : Text
  replyQueueUrl : Text := []
  messageGroupId : Text := "graftcode".toList
  rpcTimeoutMs : Nat := 30000
  waitTimeSeconds : Nat := 1
  visibilityTimeoutSeconds : Nat := 30
  oneWay : Bool := false

def validateServerConfig (config : SqsConfig) : Except Text Unit :=
  if config.requestQueueUrl.isEmpty then .error "SQS server: missing required field 'requestQueueUrl'".toList
  else .ok ()

/-- Up to the query and without slashes at its end, it ends in `.fifo`. -/
def isFifoQueueUrl (queueUrl : Text) : Bool :=
  ".fifo".toList.isSuffixOf ((queueUrl.takeWhile (· != '?')).rdropWhile (· == '/'))

structure Message where
  body : Text
  receiptHandle : Text
  messageAttributes : List (Text × Text)

structure SendMessageRequest where
  queueUrl : Text
  messageBody : Text
  messageAttributes : List (Text × Text)
  messageGroupId : Option Text := none
  messageDeduplicationId : Option Text := none

def correlationIdAttribute : Text := "GraftcodeCorrelationId".toList

def replyToAttribute : Text := "GraftcodeReplyTo".toList

def maxEncodedBodyBytes : Nat := 1024 * 1024

def payloadPrefix : Text := "graftcode-base64:".toList

/-- The loop of `IsValidBase64`, with its `padding` flag. -/
def base64From : Bool → Text → Bool
  | _, []            => true
  | padding, c :: cs =>
    if c = '=' then base64From true cs
    else if padding then false
    else if c.isAlphanum || c = '+' || c = '/' then base64From padding cs
    else false

def isValidBase64 (value : Text) : Bool :=
  if value.isEmpty then true
  else if value.length % 4 ≠ 0 then false
  else base64From false value

/-- A null pointer is `none`. -/
def encodePayload (sdk : Sdk) (data : Option Bytes) (size : Nat) : Except Text Text :=
  if 0 < size ∧ data = none then .error "SQS plugin: null payload with non-zero length".toList
  else
    let encoded := payloadPrefix ++ sdk.base64Encode ((data.getD []).take size)
    if maxEncodedBodyBytes < encoded.length then .error "SQS plugin: encoded payload exceeds the 1 MiB SQS limit".toList
    else .ok encoded

def decodePayload (sdk : Sdk) (body : Text) : Except Text Bytes :=
  if body.length < payloadPrefix.length ∨ body.take payloadPrefix.length ≠ payloadPrefix then
    .error "SQS plugin: message body has an unsupported encoding".toList
  else
    let encoded := body.drop payloadPrefix.length
    if !isValidBase64 encoded then .error "SQS plugin: message body is not valid base64".toList
    else
      let decoded := sdk.base64Decode encoded
      if decoded.isEmpty then
        if !encoded.isEmpty then .error "SQS plugin: failed to decode message body".toList else .ok []
      else .ok decoded

/-- The value is read through `c_str()`; empty when it is not there. -/
def getStringAttribute (message : Message) (name : Text) : Text :=
  match message.messageAttributes.lookup name with
  | some value => cString value
  | none       => []

def configureFifoMessage (request : SendMessageRequest) (queueUrl groupId deduplicationId : Text) :
    SendMessageRequest :=
  if !isFifoQueueUrl queueUrl then request
  else
    { request with
      messageGroupId := some (if groupId.isEmpty then "graftcode".toList else cString groupId)
      messageDeduplicationId := some (cString deduplicationId) }

section Fields

variable (request : SendMessageRequest) (queueUrl groupId deduplicationId : Text)

@[simp] theorem queueUrl_configureFifoMessage :
    (configureFifoMessage request queueUrl groupId deduplicationId).queueUrl = request.queueUrl := by
  unfold configureFifoMessage
  split <;> rfl

@[simp] theorem messageBody_configureFifoMessage :
    (configureFifoMessage request queueUrl groupId deduplicationId).messageBody = request.messageBody := by
  unfold configureFifoMessage
  split <;> rfl

@[simp] theorem messageAttributes_configureFifoMessage :
    (configureFifoMessage request queueUrl groupId deduplicationId).messageAttributes = request.messageAttributes := by
  unfold configureFifoMessage
  split <;> rfl

end Fields

end Sqs
end Graftcode
