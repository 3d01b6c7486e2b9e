/- Import/Processor
   digest: The importer numbers the values that it gets and writes their encoded messages. -/
import RoqSamples.Client.Messages

set_option autoImplicit false
set_option relaxedAutoImplicit false

namespace RoqSamples.Import

open RoqSamples.Client (uint64)

/-- The bytes of a message; the encoder never returns an empty one. -/
structure Message where
  bytes : List UInt8
  nonempty : bytes ≠ []

/-- Times are in nanoseconds. Members that `create_message_info` leaves at their default are
omitted. -/
structure MessageInfo where
  sourceSeqno : Nat
  receiveTimeUtc : Int
  receiveTime : Int
  sourceSendTime : Int
  sourceReceiveTime : Int
  originCreateTime : Int
  originCreateTimeUtc : Int
  isLast : Bool

structure Event (Value : Type) where
  messageInfo : MessageInfo
  value : Value

/-- The flatbuffers encoder, which is not part of the samples. -/
abbrev Encoder (Value : Type) := Event Value → Message

inductive Encoding
  | binary | base64
  deriving DecidableEq

/-- The texts of the exceptions. -/
inductive RuntimeError
  | unknownEncoding (encoding : String)
  | unableToOpen (path : String)
  deriving DecidableEq

def RuntimeError.text : RuntimeError → String
  | .unknownEncoding encoding => "Unknown encoding=\"" ++ encoding ++ "\""
  | .unableToOpen path => "Unable to open file for writing: path=\"" ++ path ++ "\""

/-- `compare` is `utils::case_insensitive_compare`. -/
def useBase64 (compare : String → String → Ordering) (encoding : String) :
    Except RuntimeError Bool :=
  if compare encoding "binary" = .eq then .ok false
  else if compare encoding "base64" = .eq then .ok true
  else .error (.unknownEncoding encoding)

structure Processor where
  seqno : Nat := 0
  file : List UInt8 := []
  encoding : Encoding

namespace Processor

/-- The encoding is looked at before the file, of which `opened` tells whether it is writable. -/
def new (compare : String → String → Ordering) (encoding path : String) (opened : Bool) :
    Except RuntimeError Processor :=
  match useBase64 compare encoding with
  | .error e => .error e
  | .ok base64 =>
      if opened then .ok { encoding := if base64 then .base64 else .binary }
      else .error (.unableToOpen path)

/-- The same timestamp is used for all trace points. -/
def createMessageInfo (p : Processor) (timestampUtc : Int) : Processor × MessageInfo :=
  let seqno := uint64 (p.seqno + 1)
  ({ p with seqno },
    { sourceSeqno := seqno
      receiveTimeUtc := timestampUtc
      receiveTime := timestampUtc
      sourceSendTime := timestampUtc
      sourceReceiveTime := timestampUtc
      originCreateTime := timestampUtc
      originCreateTimeUtc := timestampUtc
      isLast := true })

variable {Value : Type} (encoder : Encoder Value)

/-- The event that the encoder gets for a value. -/
def event (p : Processor) (value : Value) (timestampUtc : Int) : Event Value where
  messageInfo := (p.createMessageInfo timestampUtc).2
  value := value

/-- The bytes of the message are written as they are. -/
def process (p : Processor) (value : Value) (timestampUtc : Int) : Processor :=
  let message := encoder (p.event value timestampUtc)
  let p := (p.createMessageInfo timestampUtc).1
  { p with file := p.file ++ message.bytes }

def processAll (p : Processor) : List (Value × Int) → Processor
  | [] => p
  | (value, timestampUtc) :: values => (p.process encoder value timestampUtc).processAll values

/-- The events that the encoder gets for a list of values. -/
def events (p : Processor) : List (Value × Int) → List (Event Value)
  | [] => []
  | (value, timestampUtc) :: values =>
      p.event value timestampUtc :: (p.process encoder value timestampUtc).events values

end Processor

end RoqSamples.Import
