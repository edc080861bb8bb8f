import KernelWallet.Client.Safe
import KernelWallet.Proofs.Client.Kernel

/-! The clients of kernel nodes and of the Safe API pass from host to host alike. Whatever is asked
and however often, the host that is asked first stays one of the hosts. -/

namespace KernelWallet

open Http (Exchange Request Reply Carries)

/-! ## Calls of kernel nodes -/

namespace Kernel

def CallStep (h h' : Hosts) : Prop :=
  ∃ (σ α : Type) (transport : Http.Transport (StateM σ)) (s : σ) (method : String)
    (params : List Json) (decode : Json → Option α),
    ((call transport h method params decode).run s).1.2 = h'

theorem CallStep.primary_lt {h h' : Hosts} (hs : CallStep h h') (hp : h.primary < h.urls.length) :
    h'.urls = h.urls ∧ h'.primary < h'.urls.length := by
  obtain ⟨σ, α, transport, s, method, params, decode, rfl⟩ := hs
  obtain ⟨_, _, _, _, hrun, _, hcalls⟩ := exists_call transport h method params decode s
  rw [hrun]
  exact ⟨hcalls.urls_eq, hcalls.primary_lt hp⟩

theorem primary_lt_of_calls {h h' : Hosts} (hs : Relation.ReflTransGen CallStep h h')
    (hp : h.primary < h.urls.length) : h'.urls = h.urls ∧ h'.primary < h'.urls.length := by
  induction hs with
  | refl => exact ⟨rfl, hp⟩
  | tail _ hstep ih =>
    obtain ⟨hurls, hlt⟩ := hstep.primary_lt ih.2
    exact ⟨hurls.trans ih.1, hlt⟩

theorem eq_allHostsFailed_iff {h h' : Hosts} {α : Type} {method : String} {params : List Json}
    {decode : Json → Option α} {asked : List Exchange} {result : Except RpcError (Option α)}
    (hc : Calls h method params decode asked result h') :
    result = .error .allHostsFailed ↔
      asked.length = h.urls.length ∧ ∀ e ∈ asked, outcome decode e.reply = .noReply := by
  refine hc.eq_allFailed_iff.trans (or_iff_left ?_)
  rintro ⟨e, _, he⟩
  exact outcome_ne_allHostsFailed decode e.reply he

end Kernel

/-! ## Requests to the API -/

theorem Json.Record.exists_of_nullable {α : Type} {r : Json.Record} {name : String}
    {f : Json → Option α} {a : α} (h : r.nullable name f = some (some a)) : ∃ j, f j = some a := by
  rw [nullable] at h
  split at h
  · next j _ =>
    rw [nullable?.eq_def] at h
    split at h
    · exact nomatch h
    · obtain ⟨a', ha, heq⟩ := Option.map_eq_some_iff.mp h
      exact ⟨j, ha.trans heq⟩
  · split at h <;> exact nomatch h

namespace Safe

theorem error?_ne_allHostsFailed (j : Json) : error? j ≠ some .allHostsFailed := by
  intro h
  simp only [error?, bind, Option.bind_eq_some_iff, pure] at h
  obtain ⟨_, _, _, _, _, _, h⟩ := h
  exact nomatch Option.some.inj h

theorem outcome_ne_allHostsFailed {α : Type} (decode : Json → Option α) (reply : Reply) :
    outcome decode reply ≠ .refusal .allHostsFailed := by
  intro h
  cases reply with
  | dropped => exact nomatch h
  | answered status body =>
    rw [outcome] at h
    split at h
    · exact nomatch h
    · dsimp only at h
      split at h
      · exact nomatch h
      · next e hparts =>
        obtain rfl := Outcome.refusal.inj h
        simp only [bind, Option.bind_eq_some_iff, pure] at hparts
        obtain ⟨_, _, r, _, _, _, error, herror, heq⟩ := hparts
        obtain rfl := (Prod.mk.inj (Option.some.inj heq)).2
        obtain ⟨j, hj⟩ := Json.Record.exists_of_nullable herror
        exact error?_ne_allHostsFailed j hj
      · exact nomatch h
      · exact nomatch h

/-- What happened with one host: the source of tokens gave none, or a request with a token was sent
and brought a reply. -/
inductive Attempt where
  | denied (url : String) (error : ApiError)
  | sent (url token : String) (reply : Reply)

namespace Attempt

def url : Attempt → String
  | denied url _ => url
  | sent url _ _ => url

def outcome {α : Type} (decode : Json → Option α) : Attempt → Outcome ApiError α
  | denied _ error => error.outcome
  | sent _ _ reply => Safe.outcome decode reply

theorem outcome_eq_allHostsFailed_iff {α : Type} {decode : Json → Option α} {a : Attempt} :
    a.outcome decode = .refusal .allHostsFailed ↔ ∃ url, a = .denied url .allHostsFailed := by
  constructor
  · intro h
    cases a with
    | denied url error =>
      cases error with
      | allHostsFailed => exact ⟨url, rfl⟩
      | _ => cases h
    | sent url token reply => exact absurd h (outcome_ne_allHostsFailed decode reply)
  · rintro ⟨url, rfl⟩
    rfl

end Attempt

/-- The source of tokens never fails with the error by which the client tells that all hosts
failed. -/
def Authenticator.NeverAllHostsFailed {σ : Type} (token : Authenticator (StateM σ)) : Prop :=
  ∀ method path body s, ((token method path body).run s).1 ≠ .error .allHostsFailed

/-- A token that is always the same meets this, also where it is empty and refused. -/
theorem neverAllHostsFailed_staticToken {σ : Type} (token : String) :
    Authenticator.NeverAllHostsFailed (staticToken token : Authenticator (StateM σ)) := by
  intro method path body s h
  change (if token.isEmpty then Except.error (ApiError.auth "empty token") else .ok token) = _ at h
  split at h <;> cases h

end Safe

namespace SafeClient

variable {σ α : Type} {transport : Http.Transport (StateM σ)} {c c' : SafeClient (StateM σ)}
  {method : Http.Method} {path : String} {body : Option Json} {decode : Json → Option α}
  {s s' : σ} {asked : List Safe.Attempt} {result : Except ApiError α} {h' : Hosts}

/-- A request, as one host gets it. -/
def requestTo (method : Http.Method) (path token : String) (body : Option Json) (url : String) :
    Request :=
  { method, url := url ++ path, token := some token, body }

/-- An attempt of a request. The source of tokens is asked in every attempt, and may give another
token or fail in each. -/
inductive Attempts (c : SafeClient (StateM σ)) (transport : Http.Transport (StateM σ))
    (method : Http.Method) (path : String) (body : Option Json) : σ → Safe.Attempt → σ → Prop where
  | denied {s s' : σ} {url : String} {error : ApiError} :
      (c.token method path body).run s = (.error error, s') →
      Attempts c transport method path body s (.denied url error) s'
  | sent {s s₁ s' : σ} {url token : String} {reply : Reply} :
      (c.token method path body).run s = (.ok token, s₁) →
      Carries transport s₁ ⟨requestTo method path token body url, reply⟩ s' →
      Attempts c transport method path body s (.sent url token reply) s'

/-- The attempts of a request and what came of them. -/
abbrev Requests (h : Hosts) (decode : Json → Option α) (asked : List Safe.Attempt)
    (result : Except ApiError α) (h' : Hosts) : Prop :=
  h.FailsOver (fun url a => a.url = url) (Safe.Attempt.outcome decode) .allHostsFailed asked result
    h'

theorem exists_attempt (transport : Http.Transport (StateM σ)) (c : SafeClient (StateM σ))
    (method : Http.Method) (path : String) (body : Option Json) (decode : Json → Option α)
    (url : String) (s : σ) :
    ∃ a s', (c.attempt transport method path body decode url).run s = (a.outcome decode, s') ∧
      a.url = url ∧ c.Attempts transport method path body s a s' := by
  rw [attempt, StateT.run_bind]
  cases htoken : (c.token method path body).run s with
  | mk token s₁ =>
    cases token with
    | error e => exact ⟨.denied url e, s₁, rfl, rfl, .denied htoken⟩
    | ok token =>
      cases hreply : (transport (requestTo method path token body url)).run s₁ with
      | mk reply s' =>
        refine ⟨.sent url token reply, s', ?_, rfl, .sent htoken hreply⟩
        exact congrArg (fun p => (Safe.outcome decode p.1, p.2)) hreply

theorem exists_request (transport : Http.Transport (StateM σ)) (c : SafeClient (StateM σ))
    (method : Http.Method) (path : String) (body : Option Json) (decode : Json → Option α) (s : σ) :
    ∃ asked result hosts s',
      (c.request transport method path body decode).run s = ((result, { c with hosts }), s') ∧
      Steps (c.Attempts transport method path body) s asked s' ∧
      Requests c.hosts decode asked result hosts := by
  obtain ⟨asked, result, hosts, s', hrun, hsteps, hrequests⟩ :=
    c.hosts.exists_failsOver (exists_attempt transport c method path body decode) s
  refine ⟨asked, result, hosts, s', ?_, hsteps, hrequests⟩
  rw [request, StateT.run_bind, hrun]
  rfl

theorem eq_allHostsFailed_iff (hr : Requests c.hosts decode asked result h') :
    result = .error .allHostsFailed ↔
      (asked.length = c.hosts.urls.length ∧ ∀ a ∈ asked, a.outcome decode = .noReply) ∨
        ∃ url, .denied url .allHostsFailed ∈ asked.getLast? := by
  refine hr.eq_allFailed_iff.trans (or_congr_right ?_)
  simp only [Safe.Attempt.outcome_eq_allHostsFailed_iff]
  constructor
  · rintro ⟨_, hlast, url, rfl⟩
    exact ⟨url, hlast⟩
  · rintro ⟨url, hlast⟩
    exact ⟨_, hlast, url, rfl⟩

theorem not_mem_of_neverAllHostsFailed (hnever : c.token.NeverAllHostsFailed)
    (hsteps : Steps (c.Attempts transport method path body) s asked s') (url : String) :
    .denied url .allHostsFailed ∉ asked := by
  induction hsteps with
  | nil => exact List.not_mem_nil
  | @cons s _ _ a _ hstep _ ih =>
    rw [List.mem_cons, not_or]
    refine ⟨?_, ih⟩
    rintro rfl
    cases hstep with
    | denied htoken => exact hnever method path body s (congrArg Prod.fst htoken)

def RequestStep (c c' : SafeClient (StateM σ)) : Prop :=
  ∃ (α : Type) (transport : Http.Transport (StateM σ)) (s : σ) (method : Http.Method)
    (path : String) (body : Option Json) (decode : Json → Option α),
    ((c.request transport method path body decode).run s).1.2 = c'

theorem RequestStep.primary_lt (hs : RequestStep c c')
    (hp : c.hosts.primary < c.hosts.urls.length) :
    c'.token = c.token ∧ c'.hosts.urls = c.hosts.urls ∧
      c'.hosts.primary < c'.hosts.urls.length := by
  obtain ⟨α, transport, s, method, path, body, decode, rfl⟩ := hs
  obtain ⟨_, _, _, _, hrun, _, hr⟩ := exists_request transport c method path body decode s
  rw [hrun]
  exact ⟨rfl, hr.urls_eq, hr.primary_lt hp⟩

theorem primary_lt_of_requests (hs : Relation.ReflTransGen RequestStep c c')
    (hp : c.hosts.primary < c.hosts.urls.length) :
    c'.token = c.token ∧ c'.hosts.urls = c.hosts.urls ∧
      c'.hosts.primary < c'.hosts.urls.length := by
  induction hs with
  | refl => exact ⟨rfl, rfl, hp⟩
  | tail _ hstep ih =>
    obtain ⟨htoken, hurls, hlt⟩ := hstep.primary_lt ih.2.2
    exact ⟨htoken.trans ih.1, hurls.trans ih.2.1, hlt⟩

end SafeClient

/-- Both clients try their hosts in cyclic order from the primary on, each at most once, up to the
first attempt that ends otherwise than with a transport error, which decides. That all hosts failed
is told exactly if each of them was tried and every attempt ended with such an error. An attempt of
an API request begins with the source of tokens, and an error of the source counts like one of the
host, which is sent nothing then. Should the source itself say that all hosts failed, this is passed
on, so that of requests the condition is exact if it never does. A host that answers is the primary
from then on, and the primary stays one of the hosts. -/
theorem failsOver_of_clients {σ : Type} (transport : Http.Transport (StateM σ)) (s : σ) :
    (∀ (h : Hosts) {α : Type} (method : String) (params : List Json) (decode : Json → Option α),
      ∃ asked result h' s',
        (Kernel.call transport h method params decode).run s = ((result, h'), s') ∧
        Steps (Carries transport) s asked s' ∧
        Kernel.Calls h method params decode asked result h' ∧
        (result = .error .allHostsFailed ↔ asked.length = h.urls.length ∧
          ∀ e ∈ asked, Kernel.outcome decode e.reply = .noReply)) ∧
    (∀ (c : SafeClient (StateM σ)) {α : Type} (method : Http.Method) (path : String)
      (body : Option Json) (decode : Json → Option α),
      ∃ asked result hosts s',
        (c.request transport method path body decode).run s = ((result, { c with hosts }), s') ∧
        Steps (c.Attempts transport method path body) s asked s' ∧
        SafeClient.Requests c.hosts decode asked result hosts ∧
        (result = .error .allHostsFailed ↔
          (asked.length = c.hosts.urls.length ∧ ∀ a ∈ asked, a.outcome decode = .noReply) ∨
            ∃ url, .denied url .allHostsFailed ∈ asked.getLast?) ∧
        (c.token.NeverAllHostsFailed →
          (result = .error .allHostsFailed ↔ asked.length = c.hosts.urls.length ∧
            ∀ a ∈ asked, a.outcome decode = .noReply))) ∧
    (∀ h h' : Hosts, h.primary < h.urls.length → Relation.ReflTransGen Kernel.CallStep h h' →
      h'.urls = h.urls ∧ h'.primary < h'.urls.length) ∧
    ∀ c c' : SafeClient (StateM σ), c.hosts.primary < c.hosts.urls.length →
      Relation.ReflTransGen SafeClient.RequestStep c c' →
      c'.token = c.token ∧ c'.hosts.urls = c.hosts.urls ∧
        c'.hosts.primary < c'.hosts.urls.length := by
  refine ⟨fun h α method params decode => ?_, fun c α method path body decode => ?_,
    fun h h' hp hs => Kernel.primary_lt_of_calls hs hp,
    fun c c' hp hs => SafeClient.primary_lt_of_requests hs hp⟩
  · obtain ⟨asked, result, h', s', hrun, hsteps, hcalls⟩ :=
      Kernel.exists_call transport h method params decode s
    exact ⟨asked, result, h', s', hrun, hsteps, hcalls, Kernel.eq_allHostsFailed_iff hcalls⟩
  · obtain ⟨asked, result, hosts, s', hrun, hsteps, hrequests⟩ :=
      SafeClient.exists_request transport c method path body decode s
    have hiff := SafeClient.eq_allHostsFailed_iff hrequests
    refine ⟨asked, result, hosts, s', hrun, hsteps, hrequests, hiff, fun hnever => ?_⟩
    refine hiff.trans (or_iff_left ?_)
    rintro ⟨url, hlast⟩
    exact SafeClient.not_mem_of_neverAllHostsFailed hnever hsteps url
      (List.mem_of_mem_getLast? hlast)

/-- A source of tokens that is out of order when it is asked for the first time. The state counts
how often it is asked. -/
def waking : Safe.Authenticator (StateM Nat) := fun _ _ _ =>
  modifyGet fun asked => (if asked = 0 then .error (.status 503) else .ok "token", asked + 1)

/-- The first of the hosts has a fault of its own. -/
def faulty : Http.Transport (StateM Nat) := fun request =>
  return if request.url = "https://a/" then .answered 502 ""
    else .answered 200 "\x7b\"data\":\"done\"\x7d"

theorem failsOver_of_clients_waking :
    ∃ c c' asked, c = SafeClient.mk ⟨["https://a", "https://b", "https://c"], 2⟩ waking ∧
      c' = { c with hosts := { c.hosts with primary := 1 } } ∧ c.token.NeverAllHostsFailed ∧
      (c.request faulty .get "/" none Json.text?).run 0 = ((.ok "done", c'), 3) ∧
      Steps (c.Attempts faulty .get "/" none) 0 asked 3 ∧
      SafeClient.Requests c.hosts Json.text? asked (.ok "done") c'.hosts ∧
      ¬ (asked.length = 3 ∧ ∀ a ∈ asked, a.outcome Json.text? = .noReply) ∧
      Relation.ReflTransGen SafeClient.RequestStep c c' ∧
      c'.hosts.urls = c.hosts.urls ∧ c'.hosts.primary < c'.hosts.urls.length ∧
      ∃ h', Relation.ReflTransGen Kernel.CallStep c.hosts h' ∧ h'.primary < h'.urls.length := by
  let c := SafeClient.mk ⟨["https://a", "https://b", "https://c"], 2⟩ waking
  have hnever : c.token.NeverAllHostsFailed := by
    intro _ _ _ asked h
    change (if asked = 0 then Except.error (ApiError.status 503) else .ok "token") = _ at h
    split at h <;> cases h
  obtain ⟨hcall, hrequest, hcalls, hrequests⟩ := failsOver_of_clients faulty 0
  obtain ⟨asked, result, hosts, s', hrun, hsteps, hr, _, hiff⟩ :=
    hrequest c .get "/" none Json.text?
  have hresult : ((c.request faulty .get "/" none Json.text?).run 0).1.1 = .ok "done" := by
    decide +kernel
  have hhosts : ((c.request faulty .get "/" none Json.text?).run 0).1.2.hosts =
      { c.hosts with primary := 1 } := by decide +kernel
  have hcount : ((c.request faulty .get "/" none Json.text?).run 0).2 = 3 := by decide +kernel
  have hstep : Relation.ReflTransGen SafeClient.RequestStep c { c with hosts } :=
    .single ⟨_, _, _, _, _, _, _, congrArg (fun p => p.1.2) hrun⟩
  rw [hrun] at hresult hhosts hcount
  obtain rfl : result = .ok "done" := hresult
  obtain rfl : hosts = { c.hosts with primary := 1 } := hhosts
  obtain rfl : s' = 3 := hcount
  obtain ⟨_, hurls, hprimary⟩ := hrequests _ _ (by decide) hstep
  obtain ⟨_, _, h', _, hcallrun, _⟩ := hcall c.hosts "getinfo" [] Json.text?
  have hcallstep : Relation.ReflTransGen Kernel.CallStep c.hosts h' :=
    .single ⟨_, _, _, _, _, _, _, congrArg (fun p => p.1.2) hcallrun⟩
  have hnot : ¬ (asked.length = 3 ∧ ∀ a ∈ asked, a.outcome Json.text? = .noReply) :=
    fun hall => nomatch (hiff hnever).mpr hall
  exact ⟨c, _, asked, rfl, rfl, hnever, hrun, hsteps, hr, hnot, hstep, hurls, hprimary,
    h', hcallstep, (hcalls _ _ (by decide) hcallstep).2⟩

/-- A source that says so of itself, in front of hosts that count how often they are asked. -/
example :
    let hosts : Http.Transport (StateM Nat) := fun _ => modifyGet fun asked => (.dropped, asked + 1)
    let c : SafeClient (StateM Nat) :=
      ⟨⟨["https://a", "https://b"], 0⟩, fun _ _ _ => return .error .allHostsFailed⟩
    let run := (c.request hosts .get "/" none Json.text?).run 0
    (run.1.1, run.2) = (.error .allHostsFailed, 0) := rfl

end KernelWallet
