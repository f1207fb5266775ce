import Mathlib.Data.List.Basic

/-!
# Messages of the service-based interface

JSON values as the network functions read them, the requests and responses
that carry them, and the error responses of `nextgcore-sbi`.
-/

namespace NextGCore.Sbi

variable (detail : String)

inductive Json where
  | null
  | bool (value : Bool)
  | number (literal : String)
  | string (value : String)
  | array (items : List Json)
  | object (members : List (String × Json))

namespace Json

def get (key : String) : Json → Option Json
  | object members => members.lookup key
  | _ => none

def asStr : Json → Option String
  | string value => some value
  | _ => none

def isNull : Json → Bool
  | null => true
  | _ => false

def isObject : Json → Bool
  | object _ => true
  | _ => false

def getStr (key : String) (value : Json) : Option String :=
  (value.get key).bind asStr

def pointer : List String → Json → Option Json
  | [], value => some value
  | key :: path, value => (value.get key).bind (pointer path)

def ofOption : Option String → Json
  | none => null
  | some value => string value

def ofNat (value : ℕ) : Json :=
  number (toString value)

end Json

inductive Content where
  | missing
  | malformed (error : String)
  | json (value : Json)

def Content.parsed : Content → Option Json
  | .json value => some value
  | _ => none

@[simp]
lemma Content.parsed_json (value : Json) : (Content.json value).parsed = some value := rfl

structure SbiRequest where
  content : Content

variable {request : SbiRequest} {Error Value Result : Type} {first : Except Error Value}

structure SbiResponse where
  status : ℕ
  /-- The `Location` header. -/
  location : Option String := none
  content : Content := .missing

namespace SbiResponse

def withStatus (status : ℕ) : SbiResponse :=
  { status := status }

def withJsonBody (status : ℕ) (body : Json) : SbiResponse :=
  { status := status, content := .json body }

def isSuccess (response : SbiResponse) : Bool :=
  200 ≤ response.status && response.status < 300

end SbiResponse

abbrev Answer := Except String SbiResponse

def sendError (status : ℕ) (title detail : String) (cause : Option String) :
  SbiResponse :=
  .withJsonBody status <| .object <| [("type", .string "about:blank"), ("title", .string title),
      ("status", .ofNat status), ("detail", .string detail)] ++
      (cause.map fun cause => ("cause", Json.string cause)).toList

def sendBadRequest (cause : Option String) : SbiResponse :=
  sendError 400 "Bad Request" detail cause

def sendNotFound (cause : Option String) : SbiResponse :=
  sendError 404 "Not Found" detail cause

def sendInternalError : SbiResponse :=
  sendError 500 "Internal Server Error" detail (some "INTERNAL_ERROR")

def sendServiceUnavailable : SbiResponse :=
  sendError 503 "Service Unavailable" detail (some "SERVICE_UNAVAILABLE")

def sendProblem (status : ℕ) (cause detail : String) : SbiResponse :=
  .withJsonBody status <| .object
    [("status", .ofNat status), ("cause", .string cause), ("detail", .string detail)]

def SbiRequest.body (request : SbiRequest) : Except SbiResponse Json :=
  match request.content with
  | .missing => .error (sendBadRequest "Missing request body" (some "MISSING_BODY"))
  | .malformed error =>
    .error (sendBadRequest ("Invalid JSON: " ++ error) (some "INVALID_JSON"))
  | .json value => .ok value

lemma SbiRequest.body_error {response : SbiResponse} (refused : request.body = .error response) :
  ∃ detail cause, response = sendBadRequest detail cause := by
  unfold SbiRequest.body at refused
  cases content : request.content with
  | missing | malformed error =>
    rw [content] at refused
    cases refused
    exact ⟨_, _, rfl⟩
  | json value =>
    rw [content] at refused
    cases refused

lemma SbiRequest.body_ok {body : Json} (read : request.body = .ok body) :
  request.content = .json body := by
  unfold SbiRequest.body at read
  cases content : request.content with
  | missing | malformed error =>
    rw [content] at read
    cases read
  | json value =>
    rw [content] at read
    obtain rfl : value = body := Except.ok.inj read
    rfl

/-- How a handler ends: with a response, or with a panic that leaves none. -/
inductive Ending where
  | respond (response : SbiResponse)
  | panic

def orPanic {Value : Type} : Option Value → Except Ending Value
  | some value => .ok value
  | none => .error .panic

def SbiRequest.bodyOrEnd (request : SbiRequest) : Except Ending Json :=
  request.body.mapError .respond

lemma bind_eq_ok {next : Value → Except Error Result} {result : Result}
  (finished : first >>= next = .ok result) :
  ∃ value, first = .ok value ∧ next value = .ok result := by
  cases first with
  | error problem => cases finished
  | ok value => exact ⟨value, rfl, finished⟩

lemma error_of_map {next : Value → Result} {problem : Error}
  (failed : first.map next = .error problem) : first = .error problem := by
  cases first with
  | error own =>
    obtain rfl : own = problem := Except.error.inj failed
    rfl
  | ok value => cases failed

lemma ok_of_map {next : Value → Result} {result : Result}
  (finished : first.map next = .ok result) :
  ∃ value, first = .ok value ∧ next value = result := by
  cases first with
  | error problem => cases finished
  | ok value => exact ⟨value, rfl, Except.ok.inj finished⟩

lemma orPanic_eq_ok {value : Option Value} {result : Value}
  (finished : orPanic value = .ok result) : value = some result := by
  cases value with
  | none => cases finished
  | some value =>
    obtain rfl : value = result := Except.ok.inj finished
    rfl

lemma SbiRequest.bodyOrEnd_eq_ok {body : Json} (read : request.bodyOrEnd = .ok body) :
  request.content = .json body := by
  apply SbiRequest.body_ok
  unfold SbiRequest.bodyOrEnd at read
  cases content : request.body with
  | error refusal =>
    rw [content] at read
    cases read
  | ok value =>
    rw [content] at read
    obtain rfl : value = body := Except.ok.inj read
    rfl

end NextGCore.Sbi
