import ValidatorSigner.Protection.Engine

/-! # Registered validators

Every record refers to a validator by number. A key gets its number the first time it is
registered and keeps it. Numbers that were looked up once are answered without the database.
-/
namespace ValidatorSigner.Protection

open Store

namespace Service

def known? (service : Service) (key : PublicKey) : Option ValidatorId :=
  service.known.lookup key

def remember (service : Service) (key : PublicKey) (id : ValidatorId) : Service :=
  { service with known := (key, id) :: service.known.filter (·.1 ≠ key) }

end Service

namespace Request

def remember (key : PublicKey) (id : ValidatorId) : Request Unit :=
  modify fun engine => { engine with service := engine.service.remember key id }

/-- The number of a key, which is registered if it is not yet. -/
def resolveValidator (key : PublicKey) : Request ValidatorId := do
  match (← get).service.known? key with
  | some id => return id
  | none =>
    let id ← transact "resolve_validator" (Transaction.registerValidator key)
    remember key id
    return id

/-- Registers all keys in one transaction, from left to right. -/
def registerValidators (keys : List PublicKey) : Request (List ValidatorId) := do
  let ids ← transact "register_validators" (keys.mapM Transaction.registerValidator)
  (keys.zip ids).forM fun (key, id) => remember key id
  return ids

def validatorId (key : PublicKey) : Request (Option ValidatorId) := do
  match (← get).service.known? key with
  | some id => return some id
  | none =>
    let found ← transact "find_validator" (Transaction.findValidator key)
    if let some id := found then remember key id
    return found

def allIds : Request (List ValidatorId) :=
  transact "list_validators" Transaction.allValidators

end Request
end ValidatorSigner.Protection
