import PoolPlan.Bytes.Utf8
import PoolPlan.Dict
import PoolPlan.Failure

namespace PoolPlan

abbrev SecretData := Dict Bytes

structure Credentials where
  kubeconfig : String
  ns : String
deriving DecidableEq

namespace Credentials

def kubeconfigKey : String := "kubeconfig"
def namespaceKey : String := "namespace"

inductive KeyFault where
  | missing | empty | notText
deriving DecidableEq, Repr

def KeyFault.message (key : String) : KeyFault → String
  | .missing => "missing key " ++ Text.quote key
  | .empty => "key " ++ Text.quote key ++ " may not be empty"
  | .notText => "key " ++ Text.quote key ++ " is not valid UTF-8"

def text (data : SecretData) (key : String) : Except KeyFault String :=
  match data.get? key with
  | none => .error .missing
  | some bytes =>
    if bytes.isEmpty then .error .empty
    else match Utf8.decode bytes with
      | .ok text => .ok text
      | .error _ => .error .notText

def required (secret : String) (data : SecretData) (key : String) : Except Failure String :=
  match text data key with
  | .ok text => .ok text
  | .error fault => .error (.credentials secret (fault.message key))

/-- The credentials in a secret's data; `secret` names it in failures. -/
def ofSecretData (secret : String) (data : SecretData) : Except Failure Credentials := do
  let kubeconfig ← required secret data kubeconfigKey
  let ns ← required secret data namespaceKey
  return ⟨kubeconfig, ns⟩

def redacted (c : Credentials) : String :=
  "Credentials \x7b kubeconfig: \"<redacted>\", namespace: " ++ Text.quote c.ns ++ " \x7d"

end Credentials
end PoolPlan
