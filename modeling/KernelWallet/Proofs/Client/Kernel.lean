import KernelWallet.Client.Kernel
import KernelWallet.Proofs.Client.Hosts

/-! What the client of kernel nodes makes of their replies. -/

namespace KernelWallet

open Http (Exchange Request Reply Recorded Carries answering)

theorem RpcError.ofKernelMessage_eq_invalidOutputKey_iff {message message' : String} :
    ofKernelMessage message = .invalidOutputKey message' ↔
      message = message' ∧ "invalid output key ".toList <+: message.toList := by
  rw [← List.isPrefixOf_iff_prefix, ofKernelMessage]
  dsimp only
  split
  · next hstarts => rw [RpcError.invalidOutputKey.injEq, and_iff_left hstarts]
  · next hstarts =>
    refine ⟨fun heq => ?_, fun h => absurd h.2 hstarts⟩
    split at heq
    · exact nomatch heq
    · split at heq <;> exact nomatch heq

theorem RpcError.ofKernelMessage_ne_allHostsFailed (message : String) :
    ofKernelMessage message ≠ .allHostsFailed := by
  rw [ofKernelMessage]
  dsimp only
  split
  · nofun
  · split
    · nofun
    · split <;> nofun

namespace Kernel

/-! ## Replies -/

/-- The reply is one of success with this data and this error in it, either of which may be null. -/
def Reports (reply : Reply) (data error : Json) : Prop :=
  ∃ status body, reply = .answered status body ∧ Http.isSuccess status = true ∧
    response? body = some (data, error)

/-- The reply reports no error, and its data reads as `a`. -/
def Gives {α : Type} (decode : Json → Option α) (reply : Reply) (a : α) : Prop :=
  ∃ data error, Reports reply data error ∧ errorMessage? error = none ∧ decode data = some a

/-- The reply reports an error with this message. -/
def Refuses (reply : Reply) (message : String) : Prop :=
  ∃ data error, Reports reply data error ∧ errorMessage? error = some message

variable {α : Type} {decode : Json → Option α} {reply : Reply}

/-- What the data and the error of a reply come to. -/
def reported (decode : Json → Option α) (data error : Json) : Outcome RpcError (Option α) :=
  match errorMessage? error with
  | some message => .refusal (.ofKernelMessage message)
  | none =>
    if data.isNull then .answer none
    else match decode data with
      | some a => .answer (some a)
      | none => .noReply

theorem outcome_of_reports {data error : Json} (h : Reports reply data error) :
    outcome decode reply = reported decode data error := by
  obtain ⟨status, body, rfl, hstatus, hbody⟩ := h
  simp only [outcome, hstatus, hbody, Bool.not_true, Bool.false_eq_true, if_false]
  rfl

theorem exists_reports (h : outcome decode reply ≠ .noReply) :
    ∃ data error, Reports reply data error := by
  cases reply with
  | dropped => exact absurd rfl h
  | answered status body =>
    rw [outcome] at h
    split at h
    · exact absurd rfl h
    · next hstatus =>
      cases hbody : response? body with
      | none => exact absurd (by rw [hbody]) h
      | some parts => exact ⟨parts.1, parts.2, status, body, rfl, by simpa using hstatus, hbody⟩

theorem gives_of_outcome {a : α} (h : outcome decode reply = .answer (some a)) :
    Gives decode reply a := by
  obtain ⟨data, error, hreports⟩ := exists_reports (h.trans_ne nofun)
  refine ⟨data, error, hreports, ?_⟩
  rw [outcome_of_reports hreports, reported] at h
  split at h
  · exact nomatch h
  · next herror =>
    split at h
    · exact nomatch h
    · split at h
      · next hdata =>
        obtain rfl := Option.some.inj (Outcome.answer.inj h)
        exact ⟨herror, hdata⟩
      · exact nomatch h

theorem outcome_eq_refusal_iff {e : RpcError} :
    outcome decode reply = .refusal e ↔
      ∃ message, Refuses reply message ∧ e = .ofKernelMessage message := by
  constructor
  · intro h
    obtain ⟨data, error, hreports⟩ := exists_reports (h.trans_ne nofun)
    rw [outcome_of_reports hreports, reported] at h
    split at h
    · next message herror =>
      exact ⟨message, ⟨data, error, hreports, herror⟩, (Outcome.refusal.inj h).symm⟩
    · split at h
      · exact nomatch h
      · split at h <;> exact nomatch h
  · rintro ⟨message, ⟨data, error, hreports, herror⟩, rfl⟩
    rw [outcome_of_reports hreports, reported, herror]

theorem outcome_ne_allHostsFailed (decode : Json → Option α) (reply : Reply) :
    outcome decode reply ≠ .refusal .allHostsFailed := by
  intro h
  obtain ⟨message, _, heq⟩ := outcome_eq_refusal_iff.mp h
  exact RpcError.ofKernelMessage_ne_allHostsFailed message heq.symm

/-! ## Calls -/

/-- A call of a method, as one host gets it. -/
def request (method : String) (params : List Json) (url : String) : Request :=
  { method := .post, url, body := some (.obj [("method", .str method), ("params", .arr params)]) }

/-- The exchanges of a call and what came of them. -/
abbrev Calls (h : Hosts) (method : String) (params : List Json) (decode : Json → Option α)
    (asked : List Exchange) (result : Except RpcError (Option α)) (h' : Hosts) : Prop :=
  h.FailsOver (fun url e => e.request = request method params url)
    (fun e => outcome decode e.reply) .allHostsFailed asked result h'

theorem exists_call {σ : Type} (transport : Http.Transport (StateM σ)) (h : Hosts)
    (method : String) (params : List Json) (decode : Json → Option α) (s : σ) :
    ∃ asked result h' s',
      (call transport h method params decode).run s = ((result, h'), s') ∧
      Steps (Carries transport) s asked s' ∧ Calls h method params decode asked result h' := by
  refine h.exists_failsOver (fun url s => ?_) s
  let e : Exchange := ⟨request method params url, ((transport (request method params url)).run s).1⟩
  exact ⟨e, _, rfl, rfl, rfl⟩

theorem exists_call_answering (behaviour : List Exchange → Request → Reply) (h : Hosts)
    (method : String) (params : List Json) (decode : Json → Option α) (log : List Exchange) :
    ∃ asked result h',
      (call (answering behaviour) h method params decode).run log = ((result, h'), log ++ asked) ∧
      Recorded behaviour log asked ∧ Calls h method params decode asked result h' := by
  obtain ⟨asked, result, h', _, hrun, hsteps, hcalls⟩ :=
    exists_call (answering behaviour) h method params decode log
  obtain ⟨hrecorded, rfl⟩ := Recorded.of_steps hsteps
  exact ⟨asked, result, h', hrun, hrecorded, hcalls⟩

end Kernel

end KernelWallet
