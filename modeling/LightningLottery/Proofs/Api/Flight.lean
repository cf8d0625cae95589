/-
  Requests that go out, and what is read from their replies.

  * `ApiClient.CanSend`: whether requests go out at all, which no endpoint has a say in.
  * `ApiClient.launch_eq_ok_iff`: what goes out then.
  * `ApiClient.poll_some`: a reply that is there is the result at once.
  * `Exchange.result_eq_ok_iff`: a result is read from a whole reply of success, and from no other.
-/
import LightningLottery.Api.Client
import LightningLottery.Proofs.Steps
import Mathlib.Tactic.SplitIfs

namespace LightningLottery

variable {α : Type}

namespace ApiClient

variable {client : ApiClient}

/-- Requests of a client go out: its base is a folder, and its key can stand in a header. -/
structure CanSend (client : ApiClient) : Prop where
  folder : ∃ segments, client.base.path = .rooted segments
  header : (client.authorization.any fun value => !isHeaderValue value) = false

theorem exists_urlOf {segments : List String} (h : client.base.path = .rooted segments)
    (endpoint : Endpoint α) : ∃ url, client.urlOf endpoint = .ok url := by
  simp only [urlOf, Url.child?, h]
  exact ⟨_, rfl⟩

theorem folder_of_urlOf {endpoint : Endpoint α} {url : Url} (h : client.urlOf endpoint = .ok url) :
    ∃ segments, client.base.path = .rooted segments := by
  simp only [urlOf, Url.child?] at h
  split at h
  · next hpage =>
    split at hpage
    · next segments hsegments => exact ⟨segments, hsegments⟩
    · cases hpage
  · cases h

/-- **What goes out** is the request for the URL of the endpoint, in the name of the key, and it
    listens to the current signal. -/
theorem launch_eq_ok_iff {endpoint : Endpoint α} {flight : Flight α} :
    client.launch endpoint = .ok flight ↔
      client.CanSend ∧ ∃ url, client.urlOf endpoint = .ok url ∧
        flight = ⟨client.requestFor endpoint.method url, client.signal.current⟩ := by
  unfold launch
  rw [bind_eq_ok_iff]
  constructor
  · rintro ⟨url, hurl, h⟩
    split at h
    · cases h
    · next hheader =>
      cases h
      exact ⟨⟨folder_of_urlOf hurl, Bool.eq_false_iff.2 hheader⟩, url, hurl, rfl⟩
  · rintro ⟨hsend, url, hurl, rfl⟩
    refine ⟨url, hurl, ?_⟩
    rw [if_neg (Bool.eq_false_iff.1 hsend.header)]
    rfl

theorem CanSend.exists_launch (h : client.CanSend) (endpoint : Endpoint α) :
    ∃ url, client.urlOf endpoint = .ok url ∧
      client.launch endpoint =
        .ok ⟨client.requestFor endpoint.method url, client.signal.current⟩ := by
  obtain ⟨segments, hsegments⟩ := h.folder
  obtain ⟨url, hurl⟩ := exists_urlOf hsegments endpoint
  exact ⟨url, hurl, launch_eq_ok_iff.2 ⟨h, url, hurl, rfl⟩⟩

theorem urlOf_query {endpoint : Endpoint α} {url : Url} (h : client.urlOf endpoint = .ok url)
    (hp : endpoint.parameters ≠ []) :
    url.query = some (String.ofList (Form.write endpoint.parameters)) := by
  simp only [urlOf] at h
  split at h
  · cases h
    rw [Url.withQuery, if_neg fun he => hp (List.isEmpty_iff.1 he)]
  · cases h

theorem urlOf_query_none {endpoint : Endpoint α} {url : Url} (h : client.urlOf endpoint = .ok url)
    (hp : endpoint.parameters = []) : url.query = none := by
  simp only [urlOf, Url.child?] at h
  split at h
  · next hpage =>
    split at hpage
    · cases hpage
      cases h
      rw [Url.withQuery, if_pos (List.isEmpty_iff.2 hp)]
    · cases hpage
  · cases h

theorem poll_some [Wire α] (client : ApiClient) (flight : Flight α) (exchange : Exchange) :
    client.poll flight (some exchange) = some (client.land flight exchange) := by
  unfold poll land
  split <;> rfl

theorem land_of_not_aborted [Wire α] {flight : Flight α} (h : client.isAborted flight = false)
    (exchange : Exchange) :
    client.land flight exchange = exchange.result α flight.request.url :=
  if_neg (Bool.eq_false_iff.1 h)

end ApiClient

/-- **A result is read from a whole reply of success**, which has a body that fits. -/
theorem Exchange.result_eq_ok_iff [Wire α] {url : Url} {exchange : Exchange} {a : α} :
    exchange.result α url = .ok a ↔
      ∃ status body, exchange = .answered status body ∧ isSuccess status = true ∧
        status ≠ noContent ∧ Wire.decode body = .ok a := by
  cases exchange with
  | unanswered => exact ⟨nofun, nofun⟩
  | cutShort => exact ⟨nofun, nofun⟩
  | answered status body =>
    simp only [result]
    constructor
    · intro h
      split_ifs at h with h429 h404 h204 hsuccess
      refine ⟨status, body, rfl, by simpa using hsuccess, h204, ?_⟩
      cases hd : (Wire.decode body : Except Json.Fault α) with
      | error fault => rw [hd] at h; cases h
      | ok a' => rw [hd] at h; cases h; rfl
    · rintro ⟨status', body', he, hsuccess, h204, hd⟩
      cases he
      have h429 : status ≠ tooManyRequests := by
        rintro rfl
        exact absurd hsuccess (by decide)
      have h404 : status ≠ notFoundStatus := by
        rintro rfl
        exact absurd hsuccess (by decide)
      rw [if_neg h429, if_neg h404, if_neg h204, hsuccess, hd]
      rfl

end LightningLottery
