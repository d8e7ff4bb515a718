/-!
# Errors

What can fail, layer by layer: settings, stores, tokens, the policy, the service on top of them. Each error is a
cause with what it is about; its wording is in one function `message`.
-/

namespace Gatehouse

/-- What is wrong with the program's own set-up. -/
inductive CoreError
  | configuration (text : String)
  | validation (text : String)
  | invariant (text : String)
  deriving DecidableEq

/-- What a store answers instead of a record. -/
inductive StoreError
  /-- No record of this name. -/
  | notFound (what : String)
  /-- The name is taken. -/
  | conflict (what : String)
  /-- The store itself failed. -/
  | storage (text : String)
  | core (e : CoreError)
  deriving DecidableEq

/-- Why a token is not made or not accepted. -/
inductive TokenError
  | keySize (expected actual : Nat)
  | invalid
  | expired
  /-- The token would expire at no instant. -/
  | duration
  | encoding (text : String)
  deriving DecidableEq

/-- What the policy engine answers instead of a decision. -/
inductive PolicyError
  /-- The model text has a line that is neither section nor assignment. -/
  | io (text : String)
  /-- A part of the model is missing or malformed. -/
  | model (text : String)
  /-- The matcher is no expression. -/
  | matcher
  /-- A rule or a grouping does not fit the model. -/
  | policy (text : String)
  /-- A request does not fit the model. -/
  | request (text : String)
  /-- The matcher has no value. -/
  | evaluation
  deriving DecidableEq

/-- Why the evaluation of a policy ends without a decision. -/
inductive PolicyFault
  | error (e : PolicyError)
  /-- A pattern that is none, or an effect that nobody knows, was evaluated: there is not even an error to answer. -/
  | crash
  deriving DecidableEq

/-- What a service operation answers instead of its outcome. -/
inductive ServiceError
  | policy (e : PolicyError)
  | store (e : StoreError)
  | core (e : CoreError)
  | token (e : TokenError)
  | notAuthenticated
  | forbidden (text : String)
  | notFound (what : String)
  | configuration (text : String)
  | invariant (text : String)
  | validation (text : String)
  deriving DecidableEq

/-- The error in words. -/
def CoreError.message : CoreError → String
  | .configuration text => "Configuration error: " ++ text
  | .validation text => "Validation error: " ++ text
  | .invariant text => "Invariant violation: " ++ text

@[inherit_doc CoreError.message]
def StoreError.message : StoreError → String
  | .notFound what => "Record not found: " ++ what
  | .conflict what => "Conflict: " ++ what
  | .storage text => "Storage error: " ++ text
  | .core e => e.message

@[inherit_doc CoreError.message]
def TokenError.message : TokenError → String
  | .keySize expected actual =>
    "invalid key size: must be exactly " ++ toString expected ++ " bytes, got " ++ toString actual
  | .invalid => "token is invalid"
  | .expired => "token has expired"
  | .duration => "token duration is out of range"
  | .encoding text => "failed to encode token: " ++ text

@[inherit_doc CoreError.message]
def PolicyError.message : PolicyError → String
  | .io text => "Casbin Io Error: `" ++ text ++ "`"
  | .model text => "Casbin Model Error: `" ++ text ++ "`"
  | .matcher => "Casbin Model Error: `Failed to compile matcher`"
  | .policy text => "Casbin Policy Error: `" ++ text ++ "`"
  | .request text => "Casbin Request Error: `" ++ text ++ "`"
  | .evaluation => "Casbin Eval Error"

@[inherit_doc CoreError.message]
def ServiceError.message : ServiceError → String
  | .policy e => "Casbin error: " ++ e.message
  | .store e => e.message
  | .core e => e.message
  | .token e => e.message
  | .notAuthenticated => "Not authenticated"
  | .forbidden text => "Authorization error: " ++ text
  | .notFound what => "Not found: " ++ what
  | .configuration text => "Invalid configuration: " ++ text
  | .invariant text => "Invariant violation: " ++ text
  | .validation text => "Validation error: " ++ text

/-- How the service reports a store's error: a missing record as such, anything else with its cause. -/
def ServiceError.ofStore : StoreError → ServiceError
  | .notFound what => .notFound what
  | e => .store e

end Gatehouse
