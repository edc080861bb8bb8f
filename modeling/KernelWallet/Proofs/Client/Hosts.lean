import KernelWallet.Client.Hosts
import KernelWallet.Client.Http
import Mathlib

/-! How a call passes from host to host. Each attempt leaves a record of what happened in it, and
the records are kept in the order of asking. -/

namespace KernelWallet

/-- A run of steps, with what is recorded of each. -/
inductive Steps {σ κ : Type} (step : σ → κ → σ → Prop) : σ → List κ → σ → Prop where
  | nil {s : σ} : Steps step s [] s
  | cons {s s' s'' : σ} {k : κ} {ks : List κ} :
      step s k s' → Steps step s' ks s'' → Steps step s (k :: ks) s''

namespace Http

/-- A request with the reply to it. -/
structure Exchange where
  request : Request
  reply : Reply

/-- The exchange that a transport makes, and the state in which it leaves the hosts. -/
def Carries {σ : Type} (transport : Transport (StateM σ)) (s : σ) (e : Exchange) (s' : σ) : Prop :=
  (transport e.request).run s = (e.reply, s')

/-- Hosts that reply to a request by what it is and by all that was exchanged before it. -/
def answering (behaviour : List Exchange → Request → Reply) : Transport (StateM (List Exchange)) :=
  fun request => modifyGet fun log =>
    (behaviour log request, log ++ [⟨request, behaviour log request⟩])

/-- Exchanges after a log, in which the hosts reply as they do. -/
inductive Recorded (behaviour : List Exchange → Request → Reply) :
    List Exchange → List Exchange → Prop where
  | nil {log : List Exchange} : Recorded behaviour log []
  | cons {log : List Exchange} {e : Exchange} {asked : List Exchange} :
      e.reply = behaviour log e.request → Recorded behaviour (log ++ [e]) asked →
      Recorded behaviour log (e :: asked)

namespace Recorded

variable {behaviour : List Exchange → Request → Reply} {log log' asked asked' : List Exchange}

theorem of_steps (h : Steps (Carries (answering behaviour)) log asked log') :
    Recorded behaviour log asked ∧ log' = log ++ asked := by
  induction h with
  | nil => exact ⟨.nil, (List.append_nil _).symm⟩
  | @cons log _ _ e asked hcarries _ ih =>
    obtain ⟨hreply, hlog⟩ := Prod.mk.inj hcarries
    rw [hreply] at hlog
    obtain ⟨hrecorded, rfl⟩ := hlog ▸ ih
    exact ⟨.cons hreply.symm hrecorded, (List.append_cons log e asked).symm⟩

theorem append (h : Recorded behaviour log asked) (h' : Recorded behaviour (log ++ asked) asked') :
    Recorded behaviour log (asked ++ asked') := by
  induction h with
  | nil => rwa [List.append_nil] at h'
  | @cons log e asked he _ ih =>
    rw [List.append_cons] at h'
    exact .cons he (ih h')

theorem exists_of_mem {e : Exchange} (h : Recorded behaviour log asked) (he : e ∈ asked) :
    ∃ earlier, e.reply = behaviour earlier e.request := by
  induction h with
  | nil => exact nomatch he
  | @cons log _ _ hreply _ ih =>
    rcases List.mem_cons.mp he with rfl | he
    · exact ⟨log, hreply⟩
    · exact ih he

end Recorded

end Http

namespace Hosts

/-- The host that is asked after `i` others. -/
def position (h : Hosts) (i : Nat) : Nat :=
  (h.primary + i) % h.urls.length

variable {κ ε α : Type} {made : String → κ → Prop} {outcome : κ → Outcome ε α} {allFailed : ε}

/-! ## The order of asking -/

theorem rotateLeft_eq_rotate {β : Type} (l : List β) (n : Nat) : l.rotateLeft n = l.rotate n := by
  rw [List.rotate_eq_drop_append_take_mod, List.rotateLeft]
  split
  · next hle =>
    have hn : n % l.length = 0 ∨ l = [] := by
      rcases Nat.le_one_iff_eq_zero_or_eq_one.mp hle with hlen | hlen
      · exact .inr (List.length_eq_zero_iff.mp hlen)
      · exact .inl (by rw [hlen, Nat.mod_one])
    rcases hn with hn | rfl
    · simp [hn]
    · simp
  · rfl

theorem length_order (h : Hosts) : h.order.length = h.urls.length := by
  rw [order, rotateLeft_eq_rotate, List.length_rotate, List.length_zipIdx]

theorem getElem?_order {h : Hosts} {i : Nat} {target : String × Nat}
    (ht : h.order[i]? = some target) :
    h.urls[h.position i]? = some target.1 ∧ target.2 = h.position i := by
  have hi : i < h.urls.zipIdx.length := by
    rw [List.length_zipIdx, ← h.length_order]
    exact (List.getElem?_eq_some_iff.mp ht).1
  rw [order, rotateLeft_eq_rotate, List.getElem?_rotate hi, List.getElem?_zipIdx,
    List.length_zipIdx, Nat.add_comm i] at ht
  obtain ⟨url, hurl, rfl⟩ := Option.map_eq_some_iff.mp ht
  exact ⟨hurl, Nat.zero_add _⟩

theorem position_inj {h : Hosts} {i j : Nat} (hi : i < h.urls.length) (hj : j < h.urls.length)
    (heq : h.position i = h.position j) : i = j :=
  (Nat.ModEq.add_left_cancel' h.primary heq).eq_of_lt_of_lt hi hj

/-! ## The loop -/

/-- The attempts are made on the targets in order. -/
def Asks (made : String → κ → Prop) (targets : List (String × Nat)) (asked : List κ) : Prop :=
  ∀ (i : Nat) (k : κ), asked[i]? = some k →
    ∃ target, targets[i]? = some target ∧ made target.1 k

/-- Silent targets are passed over up to one that replies, or to the end of the targets. -/
inductive Replies (outcome : κ → Outcome ε α) (targets : List (String × Nat)) :
    List κ → Option (Nat × Except ε α) → Prop where
  | answered {silent : List κ} {k : κ} {target : String × Nat} {a : α} :
      (∀ q ∈ silent, outcome q = .noReply) → targets[silent.length]? = some target →
      outcome k = .answer a → Replies outcome targets (silent ++ [k]) (some (target.2, .ok a))
  | refused {silent : List κ} {k : κ} {target : String × Nat} {error : ε} :
      (∀ q ∈ silent, outcome q = .noReply) → targets[silent.length]? = some target →
      outcome k = .refusal error →
      Replies outcome targets (silent ++ [k]) (some (target.2, .error error))
  | exhausted {silent : List κ} :
      (∀ q ∈ silent, outcome q = .noReply) → silent.length = targets.length →
      Replies outcome targets silent none

variable {targets : List (String × Nat)} {asked : List κ} {reply : Option (Nat × Except ε α)}
  {k : κ}

theorem Asks.cons (target : String × Nat) (hk : made target.1 k)
    (h : Asks made targets asked) : Asks made (target :: targets) (k :: asked) := by
  intro i k' hk'
  cases i with
  | zero =>
    obtain rfl := Option.some.inj hk'
    exact ⟨target, rfl, hk⟩
  | succ i => exact h i k' hk'

theorem Replies.cons (target : String × Nat) (hk : outcome k = .noReply)
    (h : Replies outcome targets asked reply) :
    Replies outcome (target :: targets) (k :: asked) reply := by
  cases h with
  | answered hsilent htarget ha =>
    exact .answered (List.forall_mem_cons.mpr ⟨hk, hsilent⟩) htarget ha
  | refused hsilent htarget ha =>
    exact .refused (List.forall_mem_cons.mpr ⟨hk, hsilent⟩) htarget ha
  | exhausted hsilent hlen =>
    exact .exhausted (List.forall_mem_cons.mpr ⟨hk, hsilent⟩) (congrArg Nat.succ hlen)

theorem Asks.length_le (h : Asks made targets asked) : asked.length ≤ targets.length := by
  by_contra hle
  have hlt : targets.length < asked.length := Nat.lt_of_not_le hle
  obtain ⟨_, htarget, _⟩ := h _ _ (List.getElem?_eq_getElem hlt)
  exact Nat.lt_irrefl _ (List.getElem?_eq_some_iff.mp htarget).1

section

variable {σ : Type} {attempt : String → StateM σ (Outcome ε α)} {step : σ → κ → σ → Prop}

/-- Each turn of the loop makes one attempt, and a silent host leaves the rest of the targets to
the turns after it. -/
theorem run_firstReply
    (hattempt : ∀ url s, ∃ k s', (attempt url).run s = (outcome k, s') ∧ made url k ∧ step s k s')
    (targets : List (String × Nat)) (s : σ) :
    ∃ asked reply s', (firstReply attempt targets).run s = (reply, s') ∧ Steps step s asked s' ∧
      Asks made targets asked ∧ Replies outcome targets asked reply := by
  induction targets generalizing s with
  | nil => exact ⟨[], none, s, rfl, .nil, nofun, .exhausted nofun rfl⟩
  | cons target targets ih =>
    obtain ⟨k, s', hrun, hmade, hstep⟩ := hattempt target.1 s
    have hasks : Asks made (target :: targets) [k] := Asks.cons target hmade nofun
    have hfirst : ∀ q ∈ ([] : List κ), outcome q = .noReply := nofun
    rw [firstReply]
    cases ho : outcome k with
    | answer a =>
      refine ⟨[k], some (target.2, .ok a), s', ?_, .cons hstep .nil, hasks, .answered hfirst rfl ho⟩
      rw [StateT.run_bind, hrun, ho]
      rfl
    | refusal error =>
      refine ⟨[k], some (target.2, .error error), s', ?_, .cons hstep .nil, hasks,
        .refused hfirst rfl ho⟩
      rw [StateT.run_bind, hrun, ho]
      rfl
    | noReply =>
      obtain ⟨asked, reply, s'', hrest, hsteps, hasked, hreplies⟩ := ih s'
      refine ⟨k :: asked, reply, s'', ?_, .cons hstep hsteps, hasked.cons target hmade,
        hreplies.cons target ho⟩
      rw [StateT.run_bind, hrun, ho]
      exact hrest

end

/-! ## Whole calls -/

/-- How the attempts of a call end: with an answer, whose host is the primary from then on, with a
refusal, or because no host replied. -/
inductive Ends (h : Hosts) (outcome : κ → Outcome ε α) (allFailed : ε) :
    List κ → Except ε α → Hosts → Prop where
  | answered {silent : List κ} {k : κ} {a : α} :
      (∀ q ∈ silent, outcome q = .noReply) → outcome k = .answer a →
      Ends h outcome allFailed (silent ++ [k]) (.ok a)
        { h with primary := h.position silent.length }
  | refused {silent : List κ} {k : κ} {error : ε} :
      (∀ q ∈ silent, outcome q = .noReply) → outcome k = .refusal error →
      Ends h outcome allFailed (silent ++ [k]) (.error error) h
  | exhausted {silent : List κ} :
      (∀ q ∈ silent, outcome q = .noReply) → silent.length = h.urls.length →
      Ends h outcome allFailed silent (.error allFailed) h

/-- The attempts of a call and what came of them: the hosts are asked in cyclic order from the
primary on, each at most once. -/
structure FailsOver (h : Hosts) (made : String → κ → Prop) (outcome : κ → Outcome ε α)
    (allFailed : ε) (asked : List κ) (result : Except ε α) (h' : Hosts) : Prop where
  cyclic : ∀ (i : Nat) (k : κ), asked[i]? = some k →
    ∃ url, h.urls[h.position i]? = some url ∧ made url k
  once : ∀ i j, i < asked.length → j < asked.length → h.position i = h.position j → i = j
  ends : Ends h outcome allFailed asked result h'

theorem exists_failsOver (h : Hosts) {σ : Type} {attempt : String → StateM σ (Outcome ε α)}
    {step : σ → κ → σ → Prop}
    (hattempt : ∀ url s, ∃ k s', (attempt url).run s = (outcome k, s') ∧ made url k ∧ step s k s')
    (s : σ) :
    ∃ asked result h' s', (h.ask attempt allFailed).run s = ((result, h'), s') ∧
      Steps step s asked s' ∧ h.FailsOver made outcome allFailed asked result h' := by
  obtain ⟨asked, reply, s', hrun, hsteps, hasks, hreplies⟩ := run_firstReply hattempt h.order s
  have hcyclic : ∀ (i : Nat) (k : κ), asked[i]? = some k →
      ∃ url, h.urls[h.position i]? = some url ∧ made url k := by
    intro i k hk
    obtain ⟨target, htarget, hmade⟩ := hasks i k hk
    exact ⟨target.1, (getElem?_order htarget).1, hmade⟩
  -- No more than one round is made, so no position comes twice.
  have hlen : asked.length ≤ h.urls.length := hasks.length_le.trans_eq h.length_order
  have honce : ∀ i j, i < asked.length → j < asked.length → h.position i = h.position j → i = j :=
    fun i j hi hj => position_inj (hi.trans_le hlen) (hj.trans_le hlen)
  cases hreplies with
  | answered hsilent htarget ha =>
    refine ⟨_, _, _, s', ?_, hsteps, hcyclic, honce, .answered hsilent ha⟩
    rw [ask, StateT.run_bind, hrun, ← (getElem?_order htarget).2]
    rfl
  | refused hsilent htarget he =>
    refine ⟨_, _, _, s', ?_, hsteps, hcyclic, honce, .refused hsilent he⟩
    rw [ask, StateT.run_bind, hrun]
    rfl
  | exhausted hsilent hall =>
    refine ⟨_, _, _, s', ?_, hsteps, hcyclic, honce,
      .exhausted hsilent (hall.trans h.length_order)⟩
    rw [ask, StateT.run_bind, hrun]
    rfl

namespace FailsOver

variable {h h' : Hosts} {result : Except ε α}

theorem urls_eq (hf : h.FailsOver made outcome allFailed asked result h') : h'.urls = h.urls := by
  cases hf.ends <;> rfl

theorem primary_lt (hf : h.FailsOver made outcome allFailed asked result h')
    (hp : h.primary < h.urls.length) : h'.primary < h'.urls.length := by
  cases hf.ends with
  | answered => exact Nat.mod_lt _ (Nat.zero_lt_of_lt hp)
  | refused => exact hp
  | exhausted => exact hp

theorem made_of_mem (hf : h.FailsOver made outcome allFailed asked result h') (hk : k ∈ asked) :
    ∃ url ∈ h.urls, made url k := by
  obtain ⟨i, hi⟩ := List.mem_iff_getElem?.mp hk
  obtain ⟨url, hurl, hmade⟩ := hf.cyclic i k hi
  exact ⟨url, List.mem_of_getElem? hurl, hmade⟩

theorem exists_answer {a : α} (hf : h.FailsOver made outcome allFailed asked (.ok a) h') :
    ∃ k ∈ asked.getLast?, outcome k = .answer a := by
  cases hf.ends with
  | answered _ ha => exact ⟨_, List.getLast?_concat, ha⟩

theorem exists_refusal {error : ε}
    (hf : h.FailsOver made outcome allFailed asked (.error error) h') (hne : error ≠ allFailed) :
    ∃ k ∈ asked.getLast?, outcome k = .refusal error := by
  cases hf.ends with
  | refused _ he => exact ⟨_, List.getLast?_concat, he⟩
  | exhausted => exact absurd rfl hne

/-- The last reply decides, if it can be used. -/
theorem cases_last (hf : h.FailsOver made outcome allFailed asked result h')
    (hlast : k ∈ asked.getLast?) :
    (∃ a, outcome k = .answer a ∧ result = .ok a) ∨
      (∃ error, outcome k = .refusal error ∧ result = .error error) ∨ outcome k = .noReply := by
  cases hf.ends with
  | answered _ ha =>
    obtain rfl := Option.some.inj (List.getLast?_concat.symm.trans hlast)
    exact .inl ⟨_, ha, rfl⟩
  | refused _ he =>
    obtain rfl := Option.some.inj (List.getLast?_concat.symm.trans hlast)
    exact .inr (.inl ⟨_, he, rfl⟩)
  | exhausted hsilent => exact .inr (.inr (hsilent k (List.mem_of_mem_getLast? hlast)))

theorem eq_of_answer {a : α} (hf : h.FailsOver made outcome allFailed asked result h')
    (hlast : k ∈ asked.getLast?) (ha : outcome k = .answer a) : result = .ok a := by
  rcases hf.cases_last hlast with ⟨a', ha', hresult⟩ | ⟨_, he, _⟩ | hquiet
  · rw [hresult, Outcome.answer.inj (ha'.symm.trans ha)]
  · exact nomatch he.symm.trans ha
  · exact nomatch hquiet.symm.trans ha

theorem eq_of_refusal {error : ε} (hf : h.FailsOver made outcome allFailed asked result h')
    (hlast : k ∈ asked.getLast?) (he : outcome k = .refusal error) : result = .error error := by
  rcases hf.cases_last hlast with ⟨_, ha, _⟩ | ⟨_, he', hresult⟩ | hquiet
  · exact nomatch ha.symm.trans he
  · rw [hresult, Outcome.refusal.inj (he'.symm.trans he)]
  · exact nomatch hquiet.symm.trans he

theorem ne_nil (hf : h.FailsOver made outcome allFailed asked result h') (hurls : h.urls ≠ []) :
    asked ≠ [] := by
  cases hf.ends with
  | answered => simp
  | refused => simp
  | exhausted _ hlen =>
    rintro rfl
    exact hurls (List.length_eq_zero_iff.mp hlen.symm)

/-- It is told that all hosts failed if they did, or if the last attempt says so of itself. -/
theorem eq_allFailed_iff (hf : h.FailsOver made outcome allFailed asked result h') :
    result = .error allFailed ↔
      (asked.length = h.urls.length ∧ ∀ k ∈ asked, outcome k = .noReply) ∨
        ∃ k ∈ asked.getLast?, outcome k = .refusal allFailed := by
  constructor
  · rintro rfl
    cases hf.ends with
    | refused _ he => exact .inr ⟨_, List.getLast?_concat, he⟩
    | exhausted hsilent hlen => exact .inl ⟨hlen, hsilent⟩
  · rintro (⟨hlen, hsilent⟩ | ⟨k, hlast, he⟩)
    · cases hf.ends with
      | answered _ ha => exact nomatch ha.symm.trans (hsilent _ (List.mem_concat_self))
      | refused _ he => exact nomatch he.symm.trans (hsilent _ (List.mem_concat_self))
      | exhausted => rfl
    · exact hf.eq_of_refusal hlast he

end FailsOver

end Hosts

end KernelWallet
