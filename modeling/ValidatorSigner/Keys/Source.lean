import ValidatorSigner.Text.Quoted
import ValidatorSigner.Yaml.Value

/-! # Where keys come from

Each key is described by one YAML document. The entry `type` says whether the secret stands in the
document itself or has to be fetched, and the other entries say from where. Entries that the type
does not ask for are passed over, but no entry that it asks for may stand twice.
-/
namespace ValidatorSigner.Keys

open Yaml

inductive SecretRequest where
  | awsSecrets (region secretName : String)
  | fortanixDsm (server apiKey secretName : String)
  | yubiHsm (connectorUrl : String) (authId opaqueDataId : UInt16)
deriving DecidableEq, Repr

inductive KeySource where
  /-- In the description itself. -/
  | inline (privateKey : String)
  | remote (request : SecretRequest)
deriving DecidableEq, Repr

inductive Backend where
  | fileRaw
  | awsSecrets
  | fortanixDsm
  | yubiHsm
deriving DecidableEq, Repr

namespace Backend

def label : Backend → String
  | fileRaw => "file-raw"
  | awsSecrets => "aws-secrets"
  | fortanixDsm => "fortanix-dsm"
  | yubiHsm => "yubihsm"

def ofLabel? (label : String) : Option Backend :=
  [fileRaw, awsSecrets, fortanixDsm, yubiHsm].find? (·.label = label)

def entries : Backend → List String
  | fileRaw => ["privateKey"]
  | awsSecrets => ["region", "secretName"]
  | fortanixDsm => ["server", "apiKey", "secretName"]
  | yubiHsm => ["connectorUrl", "authId", "opaqueDataId"]

end Backend

def SecretRequest.backend : SecretRequest → Backend
  | awsSecrets .. => .awsSecrets
  | fortanixDsm .. => .fortanixDsm
  | yubiHsm .. => .yubiHsm

/-- Which of the wanted entries a key stands for: it is their name, or their place. A key of
another type is an error. -/
def placeOf (wanted : List String) : Value → Except Fault (Option Nat)
  | .text name => .ok (wanted.findIdx? (· = name))
  | .natural n => .ok (if n < wanted.length then some n else none)
  | _ => .error .value

/-- The values of the wanted entries, in the order in which they are wanted. -/
def arrange (wanted : List String) (entries : List (Value × Value)) :
    Except Fault (List Value) := do
  let placed ← entries.mapM fun (key, value) => return (← placeOf wanted key, value)
  (List.range wanted.length).mapM fun place =>
    -- An entry that is missing and one that stands twice are refused alike.
    match placed.filter (·.1 = some place) with
    | [(_, value)] => .ok value
    | _ => .error .value

def textOf : Value → Except Fault String
  | .text s => .ok s
  | _ => .error .value

def wordOf : Value → Except Fault UInt16
  | .natural n => if n < 65536 then .ok (UInt16.ofNat n) else .error .value
  | .negative 0 => .ok 0
  | _ => .error .value

namespace KeySource

def ofValues : Backend → List Value → Except Fault KeySource
  | .fileRaw, [key] => return .inline (← textOf key)
  | .awsSecrets, [region, name] => return .remote (.awsSecrets (← textOf region) (← textOf name))
  | .fortanixDsm, [server, apiKey, name] =>
    return .remote (.fortanixDsm (← textOf server) (← textOf apiKey) (← textOf name))
  | .yubiHsm, [connector, auth, object] =>
    return .remote (.yubiHsm (← textOf connector) (← wordOf auth) (← wordOf object))
  | _, _ => .error .value

def backendOf (label : String) : Except Fault Backend :=
  match Backend.ofLabel? label with
  | some backend => .ok backend
  | none => .error .value

/-- Reads a description. It is a mapping, or a sequence that gives the type and then the values in
order. -/
def ofYaml (text : String) : Except Fault KeySource := do
  match ← (← Document.read text).tagged "type" with
  | .mapping label entries =>
    let backend ← backendOf label
    ofValues backend (← arrange backend.entries entries)
  | .sequence label items => ofValues (← backendOf label) items

def backend : KeySource → Backend
  | inline _ => .fileRaw
  | remote request => request.backend

/-- The entries of the description: texts, and numbers for the identifiers of a device. -/
def fields (source : KeySource) : List (String × (String ⊕ UInt16)) :=
  ("type", .inl source.backend.label) :: source.backend.entries.zip (match source with
    | inline privateKey => [.inl privateKey]
    | remote (.awsSecrets region name) => [.inl region, .inl name]
    | remote (.fortanixDsm server apiKey name) => [.inl server, .inl apiKey, .inl name]
    | remote (.yubiHsm connector auth object) => [.inl connector, .inr auth, .inr object])

def describe : KeySource → String
  | inline _ => "FileRaw \x7b private_key: \"<redacted>\" \x7d"
  | remote (.awsSecrets region name) =>
    "AwsSecrets \x7b region: " ++ Text.quoted region ++ ", secret_name: " ++ Text.quoted name ++
      " \x7d"
  | remote (.fortanixDsm server _ name) =>
    "FortanixDsm \x7b server: " ++ Text.quoted server ++ ", api_key: \"<redacted>\"" ++
      ", secret_name: " ++ Text.quoted name ++ " \x7d"
  | remote (.yubiHsm connector auth object) =>
    "YubiHsm \x7b connector_url: " ++ Text.quoted connector ++ ", auth_id: " ++
      toString auth.toNat ++ ", opaque_data_id: " ++ toString object.toNat ++ " \x7d"

end KeySource
end ValidatorSigner.Keys
