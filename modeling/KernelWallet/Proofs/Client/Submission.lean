import KernelWallet.Proofs.Client.Kernel
import KernelWallet.Proofs.Relay

/-! What comes of a submission that looks a refused transaction up. It is told as sent only if a
kernel node has said so, in the answer to the submission or in that to the lookup, and the lookup is
made for one kind of refusal only. -/

namespace KernelWallet.Kernel

open Http (Exchange Request Reply Recorded answering)

variable {rawHex : String} {hash : Hash} {h h₁ h' : Hosts} {sent looked : List Exchange}
  {message : String} {result : Except RpcError Hash}

abbrev Sends (rawHex : String) (h : Hosts) (asked : List Exchange)
    (result : Except RpcError (Option Hash)) (h' : Hosts) : Prop :=
  Calls h "sendrawtransaction" [.str rawHex] sentHash? asked result h'

abbrev LooksUp (hash : Hash) (h : Hosts) (asked : List Exchange)
    (result : Except RpcError (Option TransactionInfo)) (h' : Hosts) : Prop :=
  Calls h "gettransaction" [hash.toJson] TransactionInfo.ofJson? asked result h'

/-- The last host that was asked refused for an output key that it does not know. -/
def RefusedForKey (asked : List Exchange) (message : String) : Prop :=
  ∃ e ∈ asked.getLast?, Refuses e.reply message ∧ "invalid output key ".toList <+: message.toList

/-- The reply to a lookup of success that does not tell of the transaction: it has no data, or data
without a hash, or it is about another transaction. -/
def Misses (hash : Hash) (reply : Reply) : Prop :=
  ∃ data error, Reports reply data error ∧ errorMessage? error = none ∧
    (data = .null ∨ data = .obj [] ∨
      ∃ info, TransactionInfo.ofJson? data = some info ∧ info.hash ≠ hash)

/-- What the answer to a submission comes to, with the exchanges of the lookup that it calls for. -/
inductive Settles (hash : Hash) (h : Hosts) :
    Except RpcError (Option Hash) → List Exchange → Except RpcError Hash → Hosts → Prop where
  | accepted {x : Hash} : Settles hash h (.ok (some x)) [] (.ok x) h
  | unanswered : Settles hash h (.ok none) [] (.error .missingData) h
  | failed {e : RpcError} :
      (∀ message, e ≠ .invalidOutputKey message) → Settles hash h (.error e) [] (.error e) h
  | known {looked : List Exchange} {message : String} {info : TransactionInfo} {h' : Hosts} :
      LooksUp hash h looked (.ok (some info)) h' → hasValue info.hash.bytes = true →
      info.hash = hash →
      Settles hash h (.error (.invalidOutputKey message)) looked (.ok hash) h'
  | unknown {looked : List Exchange} {message : String} {answer : Option TransactionInfo}
      {h' : Hosts} :
      LooksUp hash h looked (.ok answer) h' →
      (∀ info ∈ answer, hasValue info.hash.bytes = true → info.hash ≠ hash) →
      Settles hash h (.error (.invalidOutputKey message)) looked
        (.error (.invalidOutputKey message)) h'
  | lookupFailed {looked : List Exchange} {message : String} {e : RpcError} {h' : Hosts} :
      LooksUp hash h looked (.error e) h' →
      Settles hash h (.error (.invalidOutputKey message)) looked (.error e) h'

/-! ## The run -/

section

variable {behaviour : List Exchange → Request → Reply} {log log' : List Exchange} {s : Session}
  {raw : Bytes}

theorem run_send {answer : Except RpcError (Option Hash)}
    (hrun : (call (answering behaviour) h "sendrawtransaction" [.str rawHex] sentHash?).run log =
      ((answer, h₁), log')) :
    (send (answering behaviour) h rawHex).run log = ((requireData answer, h₁), log') := by
  rw [send, StateT.run_bind, hrun]
  rfl

theorem run_getTransaction {answer : Except RpcError (Option TransactionInfo)}
    (hrun : (call (answering behaviour) h "gettransaction" [hash.toJson]
      TransactionInfo.ofJson?).run log = ((answer, h₁), log')) :
    (getTransaction (answering behaviour) h hash).run log =
      ((answer.map fun info => info.filter fun i => hasValue i.hash.bytes, h₁), log') := by
  rw [getTransaction, StateT.run_bind, hrun]
  rfl

theorem run_lookup_error {e : RpcError}
    (hrun : (getTransaction (answering behaviour) h hash).run log = ((.error e, h₁), log')) :
    (lookup (answering behaviour) h hash message).run log = ((.error e, h₁), log') := by
  rw [lookup, StateT.run_bind, hrun]
  rfl

theorem run_lookup_of_mem {found : Option TransactionInfo} {info : TransactionInfo}
    (hrun : (getTransaction (answering behaviour) h hash).run log = ((.ok found, h₁), log'))
    (hinfo : info ∈ found) (hhash : info.hash = hash) :
    (lookup (answering behaviour) h hash message).run log = ((.ok hash, h₁), log') := by
  obtain rfl := Option.mem_def.mp hinfo
  rw [lookup, StateT.run_bind, hrun]
  exact congrArg (fun r => ((r, h₁), log')) (if_pos hhash)

theorem run_lookup_of_forall_mem {found : Option TransactionInfo}
    (hrun : (getTransaction (answering behaviour) h hash).run log = ((.ok found, h₁), log'))
    (hfound : ∀ info ∈ found, info.hash ≠ hash) :
    (lookup (answering behaviour) h hash message).run log =
      ((.error (.invalidOutputKey message), h₁), log') := by
  rw [lookup, StateT.run_bind, hrun]
  cases found with
  | none => rfl
  | some info => exact congrArg (fun r => ((r, h₁), log')) (if_neg (hfound info rfl))

theorem run_sendOrLookup_of_refused (hraw : s.raw = .ok raw) (hhash : s.hash = some hash)
    (hrun : (send (answering behaviour) h (Hex.encode raw)).run log =
      ((.error (.invalidOutputKey message), h₁), log')) :
    (sendOrLookup (answering behaviour) h s).run log =
      (lookup (answering behaviour) h₁ hash message).run log' := by
  rw [sendOrLookup, hraw, hhash]
  dsimp only
  rw [StateT.run_bind, hrun]
  rfl

theorem run_sendOrLookup_of_forall_ne (hraw : s.raw = .ok raw)
    (hrun : (send (answering behaviour) h (Hex.encode raw)).run log = ((result, h₁), log'))
    (hne : ∀ message, result ≠ .error (.invalidOutputKey message)) :
    (sendOrLookup (answering behaviour) h s).run log = ((result, h₁), log') := by
  rw [sendOrLookup, hraw]
  dsimp only
  rw [StateT.run_bind, hrun]
  cases result with
  | ok x => rfl
  | error e =>
    cases e with
    | invalidOutputKey message => exact absurd rfl (hne message)
    | _ => rfl

/-- The lookup after a refusal gives the hash itself or tells of the refusal, unless its own call
fails. -/
theorem exists_settles_lookup (behaviour : List Exchange → Request → Reply) (h : Hosts)
    (hash : Hash) (message : String) (log : List Exchange) :
    ∃ looked result h',
      (lookup (answering behaviour) h hash message).run log = ((result, h'), log ++ looked) ∧
      Recorded behaviour log looked ∧
      Settles hash h (.error (.invalidOutputKey message)) looked result h' := by
  obtain ⟨looked, answer, h', hcall, hrecorded, hlooks⟩ :=
    exists_call_answering behaviour h "gettransaction" [hash.toJson] TransactionInfo.ofJson? log
  have hget := run_getTransaction hcall
  cases answer with
  | error e => exact ⟨looked, _, h', run_lookup_error hget, hrecorded, .lookupFailed hlooks⟩
  | ok answer =>
    -- What has no hash is dropped before the hashes are compared, so both are asked at once.
    by_cases hknown : ∃ info ∈ answer, hasValue info.hash.bytes = true ∧ info.hash = hash
    · obtain ⟨info, hinfo, hvalue, heq⟩ := hknown
      have hfound : info ∈ answer.filter fun i => hasValue i.hash.bytes :=
        Option.mem_filter_iff.mpr ⟨hinfo, hvalue⟩
      obtain rfl := Option.mem_def.mp hinfo
      exact ⟨looked, _, h', run_lookup_of_mem hget hfound heq, hrecorded, .known hlooks hvalue heq⟩
    · have hother : ∀ info ∈ answer, hasValue info.hash.bytes = true → info.hash ≠ hash :=
        fun info hinfo hvalue heq => hknown ⟨info, hinfo, hvalue, heq⟩
      have hfound : ∀ info ∈ answer.filter fun i => hasValue i.hash.bytes, info.hash ≠ hash := by
        intro info hinfo
        obtain ⟨hinfo, hvalue⟩ := Option.mem_filter_iff.mp hinfo
        exact hother info hinfo hvalue
      exact ⟨looked, _, h', run_lookup_of_forall_mem hget hfound, hrecorded, .unknown hlooks hother⟩

theorem exists_settles (behaviour : List Exchange → Request → Reply) (h : Hosts)
    (log : List Exchange) (hraw : s.raw = .ok raw) (hhash : s.hash = some hash) :
    ∃ sent answer h₁ looked result h',
      (sendOrLookup (answering behaviour) h s).run log = ((result, h'), log ++ sent ++ looked) ∧
      Recorded behaviour log (sent ++ looked) ∧ Sends (Hex.encode raw) h sent answer h₁ ∧
      Settles hash h₁ answer looked result h' := by
  obtain ⟨sent, answer, h₁, hcall, hrecorded, hsends⟩ :=
    exists_call_answering behaviour h "sendrawtransaction" [.str (Hex.encode raw)] sentHash? log
  have hsend := run_send hcall
  -- Only this refusal calls for a lookup; any other answer is the result as it is.
  by_cases hkey : ∃ message, answer = .error (.invalidOutputKey message)
  · obtain ⟨message, rfl⟩ := hkey
    obtain ⟨looked, result, h', hlookup, hrecorded', hsettles⟩ :=
      exists_settles_lookup behaviour h₁ hash message (log ++ sent)
    have hrun := (run_sendOrLookup_of_refused hraw hhash hsend).trans hlookup
    exact ⟨sent, _, h₁, looked, result, h', hrun, hrecorded.append hrecorded', hsends, hsettles⟩
  · rw [not_exists] at hkey
    refine ⟨sent, answer, h₁, [], requireData answer, h₁, ?_, hrecorded.append .nil, hsends, ?_⟩
    · rw [List.append_nil]
      refine run_sendOrLookup_of_forall_ne hraw hsend fun message heq => hkey message ?_
      rcases answer with e | _ | x
      · exact congrArg _ (Except.error.inj heq)
      · exact nomatch heq
      · exact nomatch heq
    · rcases answer with e | _ | x
      · exact .failed fun message heq => hkey message (congrArg _ heq)
      · exact .unanswered
      · exact .accepted

end

/-! ## What is looked up, and what counts as sent -/

section

variable {α : Type} {method : String} {params : List Json} {decode : Json → Option α}
  {asked : List Exchange}

theorem refusedForKey_iff {result : Except RpcError (Option α)}
    (hf : Calls h method params decode asked result h') :
    RefusedForKey asked message ↔ result = .error (.invalidOutputKey message) := by
  constructor
  · rintro ⟨e, he, hrefuses, hprefix⟩
    have hkey := RpcError.ofKernelMessage_eq_invalidOutputKey_iff.mpr ⟨rfl, hprefix⟩
    exact hf.eq_of_refusal he (outcome_eq_refusal_iff.mpr ⟨message, hrefuses, hkey.symm⟩)
  · rintro rfl
    obtain ⟨e, he, hout⟩ := hf.exists_refusal nofun
    obtain ⟨told, hrefuses, hkey⟩ := outcome_eq_refusal_iff.mp hout
    obtain ⟨rfl, hprefix⟩ := RpcError.ofKernelMessage_eq_invalidOutputKey_iff.mp hkey.symm
    exact ⟨e, he, hrefuses, hprefix⟩

theorem exists_gives {a : α} (hf : Calls h method params decode asked (.ok (some a)) h') :
    ∃ e ∈ asked.getLast?, Gives decode e.reply a := by
  obtain ⟨e, he, hout⟩ := hf.exists_answer
  exact ⟨e, he, gives_of_outcome hout⟩

end

theorem hasValue_zero : hasValue Hash.zero.bytes = false := by decide +kernel

theorem outcome_of_misses {reply : Reply} (hm : Misses hash reply) :
    ∃ answer, outcome TransactionInfo.ofJson? reply = .answer answer ∧
      ∀ info ∈ answer, hasValue info.hash.bytes = true → info.hash ≠ hash := by
  obtain ⟨data, error, hreports, hnone, hdata⟩ := hm
  rw [outcome_of_reports hreports, reported, hnone]
  rcases hdata with rfl | rfl | ⟨info, hinfo, hne⟩
  · exact ⟨none, rfl, fun _ hinfo => absurd hinfo (Option.not_mem_none _)⟩
  · refine ⟨some ⟨Hash.zero, "", none⟩, rfl, fun info hinfo hvalue => ?_⟩
    obtain rfl := Option.some.inj hinfo
    exact absurd (hasValue_zero.symm.trans hvalue) Bool.false_ne_true
  · have hsome : data.isNull = false := by
      cases data with
      | null => cases hinfo
      | _ => rfl
    refine ⟨some info, by simp only [hsome, hinfo, Bool.false_eq_true, if_false], ?_⟩
    intro info' hinfo' _
    obtain rfl := Option.some.inj hinfo'
    exact hne

theorem RefusedForKey.urls_ne_nil {answer : Except RpcError (Option Hash)}
    (hr : RefusedForKey sent message) (hsends : Sends rawHex h sent answer h₁) : h₁.urls ≠ [] := by
  obtain ⟨e, he, _⟩ := hr
  obtain ⟨url, hurl, _⟩ := hsends.made_of_mem (List.mem_of_mem_getLast? he)
  exact hsends.urls_eq ▸ List.ne_nil_of_mem hurl

namespace Settles

variable {answer : Except RpcError (Option Hash)}

theorem request_of_mem (hs : Settles hash h answer looked result h') {e : Exchange}
    (he : e ∈ looked) :
    ∃ url ∈ h.urls, e.request = request "gettransaction" [hash.toJson] url := by
  cases hs with
  | accepted => exact nomatch he
  | unanswered => exact nomatch he
  | failed => exact nomatch he
  | known hlooks => exact hlooks.made_of_mem he
  | unknown hlooks => exact hlooks.made_of_mem he
  | lookupFailed hlooks => exact hlooks.made_of_mem he

theorem ne_nil (hs : Settles hash h (.error (.invalidOutputKey message)) looked result h')
    (hurls : h.urls ≠ []) : looked ≠ [] := by
  cases hs with
  | failed hne => exact absurd rfl (hne message)
  | known hlooks => exact hlooks.ne_nil hurls
  | unknown hlooks => exact hlooks.ne_nil hurls
  | lookupFailed hlooks => exact hlooks.ne_nil hurls

theorem exists_of_ne_nil (hs : Settles hash h answer looked result h') (hne : looked ≠ []) :
    ∃ message, answer = .error (.invalidOutputKey message) := by
  cases hs with
  | accepted => exact absurd rfl hne
  | unanswered => exact absurd rfl hne
  | failed => exact absurd rfl hne
  | known => exact ⟨_, rfl⟩
  | unknown => exact ⟨_, rfl⟩
  | lookupFailed => exact ⟨_, rfl⟩

theorem eq_of_misses (hs : Settles hash h (.error (.invalidOutputKey message)) looked result h')
    {e : Exchange} (he : e ∈ looked.getLast?) (hm : Misses hash e.reply) :
    result = .error (.invalidOutputKey message) := by
  obtain ⟨answer, hout, hother⟩ := outcome_of_misses hm
  cases hs with
  | failed hne => exact absurd rfl (hne message)
  | known hlooks hvalue heq =>
    obtain rfl := Except.ok.inj (hlooks.eq_of_answer he hout)
    exact absurd heq (hother _ rfl hvalue)
  | unknown => rfl
  | lookupFailed hlooks => exact nomatch hlooks.eq_of_answer he hout

/-- Success is what an answer to the submission told, or the hash that the lookup found again. -/
theorem of_ok {x : Hash} (hs : Settles hash h answer looked (.ok x) h') :
    looked = [] ∧ answer = .ok (some x) ∨
      x = hash ∧ (∃ message, answer = .error (.invalidOutputKey message)) ∧
        ∃ e ∈ looked.getLast?, ∃ info, Gives TransactionInfo.ofJson? e.reply info ∧
          info.hash = hash := by
  cases hs with
  | accepted => exact .inl ⟨rfl, rfl⟩
  | known hlooks _ heq =>
    obtain ⟨e, he, hgives⟩ := exists_gives hlooks
    exact .inr ⟨rfl, ⟨_, rfl⟩, e, he, _, hgives, heq⟩

end Settles

/-- A kernel that refuses every transaction and knows none. -/
def forgetful (_ : List Exchange) (request : Request) : Reply :=
  match request.body with
  | some (.obj (("method", .str "sendrawtransaction") :: _)) =>
    .answered 200 "\x7b\"error\":\"invalid output key 0\"\x7d"
  | _ => .answered 200 "\x7b\"data\":\x7b\x7d\x7d"

end KernelWallet.Kernel
