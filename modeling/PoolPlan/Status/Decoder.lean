import PoolPlan.Bytes.Utf8
import PoolPlan.Failure
import PoolPlan.Json.Reader
import PoolPlan.Json.Writer
import PoolPlan.Status.Basic
import PoolPlan.Text.Blank

namespace PoolPlan

inductive StatusFault where
  | notText (fault : Utf8.Fault)
  | empty
  /-- Not JSON, or JSON that does not have the fields of the status. -/
  | malformed
  | unexpectedKind (kind : String)
deriving DecidableEq, Repr

def StatusFault.message : StatusFault → String
  | .notText fault => s!"not valid UTF-8: {fault.message}"
  | .empty => "status is empty"
  | .malformed => "<json>"
  | .unexpectedKind kind => "unexpected kind " ++ Text.quote kind

structure StatusDecoder where
  worker : Bytes → Except Failure WorkerStatus
  infrastructure : Bytes → Except Failure InfrastructureStatus

namespace StatusDecoder

def decodeText {α : Type} (read : Document → Option α) (cs : List Char) : Except StatusFault α :=
  let body := Text.trim cs
  if body = [] ∨ body = "null".toList then .error .empty
  else match (Json.read? body).bind read with
    | some status => .ok status
    | none => .error .malformed

def decodeBytes {α : Type} (read : Document → Option α) (bytes : Bytes) : Except StatusFault α :=
  match Utf8.decode bytes with
  | .error fault => .error (.notText fault)
  | .ok text => decodeText read text.toList

/-- A document that names its kind has to name the expected one. -/
def checkKind {α : Type} (expected : String) (kind : α → String) (status : α) : Except StatusFault α :=
  if kind status = "" ∨ kind status = expected then .ok status
  else .error (.unexpectedKind (kind status))

def decode {α : Type} (expected : String) (read : Document → Option α) (kind : α → String)
    (bytes : Bytes) : Except Failure α :=
  match (decodeBytes read bytes).bind (checkKind expected kind) with
  | .ok status => .ok status
  | .error fault => .error (.statusDecode expected fault.message)

def json : StatusDecoder where
  worker := decode WorkerStatus.kindName WorkerStatus.ofDocument? WorkerStatus.kind
  infrastructure :=
    decode InfrastructureStatus.kindName InfrastructureStatus.ofDocument? InfrastructureStatus.kind

end StatusDecoder

def Json.bytes (j : Json) : Bytes := Utf8.encode j.text

end PoolPlan
