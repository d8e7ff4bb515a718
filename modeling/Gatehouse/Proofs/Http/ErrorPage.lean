import Mathlib
import Gatehouse.Proofs.Http.RefreshToken

/-!
# What failures show

A route answers with success or with the response to an error. Of an error that is not the request's own fault only the
kind is shown: the response is the one page of its status, so that whoever compares two answers learns nothing of the
texts, identifiers and hashes behind them, nor of where they went wrong (`Service.response_eq_of_status_eq`).
-/

namespace Gatehouse.Http

/-! ## Pages -/

/-- The text on the page of a status. -/
def Status.errorText : Status → String
  | .unauthorized => "Unauthorized"
  | .forbidden => "Forbidden"
  | .notFound => "Not found"
  | _ => "Internal server error"

/-- The page of a status: what is answered with it when a request fails for no fault of its own. -/
def errorPage (status : Status) : Response := .json status (.object [("error", .string status.errorText)])

/-- An error that is no bad request is answered with the page of its status. -/
theorem ApiError.response_eq_errorPage {e : ApiError} (h : e.status ≠ .badRequest) :
    e.response = errorPage e.status := by
  have htext : e.publicMessage = e.status.errorText := by
    unfold publicMessage
    cases hstatus : e.status with
    | badRequest => exact absurd hstatus h
    | ok | unauthorized | forbidden | notFound | methodNotAllowed | internal => rfl
  rw [response, errorPage, htext]

/-! ## Responses of the routes -/

/-- A response that a route can give: a success, or the response to an error. -/
inductive Response.Arises : Response → Prop
  | success {response : Response} (hok : response.status = .ok) : Arises response
  | failure (e : ApiError) : Arises e.response

/-- A response that is neither a success nor a bad request is the page of its status. -/
theorem Response.Arises.eq_errorPage {response : Response} (h : response.Arises) (hok : response.status ≠ .ok)
    (hbad : response.status ≠ .badRequest) : response = errorPage response.status := by
  cases h with
  | success h => exact absurd h hok
  | failure e => exact ApiError.response_eq_errorPage hbad

namespace Service

variable {service : Service} {now : Instant} {request : Request} {response : Response}

/-- A login is answered with its outcome or with an error. -/
theorem arises_login (h : (service.login now request).response = some response) : response.Arises := by
  unfold login at h
  dsimp only at h
  split at h
  · obtain rfl := Option.some.inj h
    exact .failure _
  · split at h
    · obtain rfl := Option.some.inj h
      exact .failure _
    · obtain rfl := Option.some.inj h
      -- The stores and the token maker come in here, through the outcome of the flow.
      split
      · exact .success rfl
      · exact .failure _

/-- An operation on a token is answered with its outcome or with an error. -/
theorem arises_withToken {α : Type} {answer : α → Response}
    {operation : Auth.Flow → Auth.State → String → Auth.State × Except ServiceError α}
    (hanswer : ∀ outcome, (answer outcome).status = .ok)
    (h : (service.withToken request operation answer).response = some response) : response.Arises := by
  unfold withToken at h
  dsimp only at h
  split at h
  · obtain rfl := Option.some.inj h
    exact .failure _
  · split at h
    · obtain rfl := Option.some.inj h
      exact .failure _
    · obtain rfl := Option.some.inj h
      split
      · exact .success (hanswer _)
      · exact .failure _

variable [Pattern.RegexEngine]

/-- Who asks for its identity is answered with it, or with the error that the guard refuses the request with. -/
theorem arises_whoami (h : (service.whoami now request).response = some response) : response.Arises := by
  unfold whoami at h
  dsimp only at h
  cases hpassage : (service.components.guard now request).passage with
  | refused e =>
    rw [hpassage] at h
    obtain rfl := Option.some.inj h
    exact .failure _
  | crashed =>
    rw [hpassage] at h
    cases h
  | admitted claims =>
    rw [hpassage] at h
    obtain rfl := Option.some.inj h
    exact .success rfl

/-- Every route answers with success or with an error. -/
theorem arises_of_handle {route : Route} (hroute : request.route = .ok route)
    (h : (service.handle now request).response = some response) : response.Arises := by
  rw [handle, hroute] at h
  cases route with
  | health =>
    obtain rfl := Option.some.inj h
    exact .success rfl
  | login => exact arises_login h
  | renew => exact arises_withToken (fun _ => rfl) h
  | logout => exact arises_withToken (fun _ => rfl) h
  | whoami => exact arises_whoami h

/-! ## Two services -/

/-- Let two services, each after a run of its own, answer requests to their routes with the same status, and let it be
an error that is no bad request. Then the responses are the same, whatever the components and stores of the services,
the faults of their backends, the runs, the times and the requests are: both are the page of the status. It is also the
response to every error with this status, however deep its cause lies. -/
theorem response_eq_of_status_eq {service service' : Service} {events events' : List (Instant × Event)}
    {now now' : Instant} {request request' : Request} {route route' : Route} {response response' : Response}
    (hroute : request.route = .ok route) (hroute' : request'.route = .ok route')
    (hresponse : ((service.run events).handle now request).response = some response)
    (hresponse' : ((service'.run events').handle now' request').response = some response')
    (hok : response.status ≠ .ok) (hbad : response.status ≠ .badRequest)
    (hstatus : response'.status = response.status) :
    response' = response ∧ response = errorPage response.status ∧
      ∀ e : ApiError, e.status = response.status → e.response = response := by
  have hpage : response = errorPage response.status := (arises_of_handle hroute hresponse).eq_errorPage hok hbad
  have hpage' : response' = errorPage response.status := by
    rw [← hstatus]
    exact (arises_of_handle hroute' hresponse').eq_errorPage (hstatus ▸ hok) (hstatus ▸ hbad)
  refine ⟨hpage'.trans hpage.symm, hpage, fun e he => ?_⟩
  rw [ApiError.response_eq_errorPage (he ▸ hbad), he]
  exact hpage.symm

end Service

namespace Sample

open Auth.Sample (alice users)

/-- A login of a user whose stored hash is no hash, and a logout from a service that was set up without a flow and has
seen a login before: the answers cannot be told from one another. -/
theorem response_eq_of_internal :
    let broken : Service := ⟨{ flow := some flow }, .initial ⟨[{ alice with passwordHash := "secret" }], []⟩⟩
    let bare : Service := ⟨{}, .initial users⟩
    ∃ response, ((broken.run []).handle Instant.epoch login).response = some response ∧ response.status = .internal ∧
      ((bare.run [(Instant.epoch, .request login)]).handle Instant.epoch (logout "token")).response =
        some response := by
  intro broken bare
  obtain ⟨response, hresponse, hstatus⟩ : ∃ response,
      ((broken.run []).handle Instant.epoch login).response = some response ∧ response.status = .internal :=
    ⟨_, by rfl, rfl⟩
  obtain ⟨response', hresponse', hstatus'⟩ : ∃ response',
      ((bare.run [(Instant.epoch, .request login)]).handle Instant.epoch (logout "token")).response =
        some response' ∧ response'.status = .internal :=
    ⟨_, by rfl, rfl⟩
  have hroute : login.route = .ok .login := by rfl
  have hsame := Service.response_eq_of_status_eq hroute (logout_route "token") hresponse hresponse'
    (by rw [hstatus]; decide) (by rw [hstatus]; decide) (hstatus'.trans hstatus.symm)
  refine ⟨response, hresponse, hstatus, ?_⟩
  rw [hresponse', hsame.1]

end Sample

end Gatehouse.Http
