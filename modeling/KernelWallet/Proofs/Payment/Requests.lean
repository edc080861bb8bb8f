import KernelWallet.Proofs.Payment.Buildable

/-! The requests for one-time keys and the outputs that the answers go to. Asking and building walk
over the outputs one by one and both count all of them, so that an output to XIN members, which asks
for nothing and takes no answer, shifts neither. -/

namespace KernelWallet

namespace Uuid

/-- What the identifier of a request is made of. -/
def hintBytes (hint : String) (index : UInt8) : Bytes :=
  Bytes.ofText hint ++ Bytes.ofText "OUTPUT" ++ [index]

def ofDigest (digest : Hash) : Uuid :=
  stamp 3 ((digest.bytes.extract 0 16).cast rfl)

theorem ofHint_eq (hint : String) (index : UInt8) :
    ofHint hint index = ofDigest (Hash.sha3 (hintBytes hint index)) :=
  rfl

theorem hintBytes_inj {hint : String} {i j : UInt8} :
    hintBytes hint i = hintBytes hint j ↔ i = j := by
  simp [hintBytes]

end Uuid

namespace Blueprint

variable {E : Curve} {hint : String} {position : Nat} {out : PlannedOutput} {r : GhostKeyRequest}

theorem request?_eq_some_iff :
    request? hint out position = some r ↔ out.address.members = .uuid r.receivers ∧
      r.index = UInt8.ofNat position ∧ r.hint = Uuid.ofHint hint (UInt8.ofNat position) := by
  obtain ⟨receivers, index, id⟩ := r
  rw [request?, MixAddress.uuids?]
  cases out.address.members with
  | uuid ids => simp [eq_comm]
  | xin addresses => simp

def requestsFrom (hint : String) (position : Nat) (planned : List PlannedOutput) :
    List GhostKeyRequest :=
  (planned.zipIdx position).filterMap fun (out, position) => request? hint out position

theorem requestsFrom_cons (out : PlannedOutput) (planned : List PlannedOutput) :
    requestsFrom hint position (out :: planned) =
      (request? hint out position).toList ++ requestsFrom hint (position + 1) planned := by
  simp only [requestsFrom, List.zipIdx_cons, List.filterMap_cons]
  cases request? hint out position <;> rfl

theorem mem_ghostKeyRequests_iff {b : Blueprint} :
    r ∈ b.ghostKeyRequests ↔
      ∃ n out, b.outputs[n]? = some out ∧ request? b.hint out n = some r := by
  rw [ghostKeyRequests, List.mem_filterMap]
  constructor
  · rintro ⟨⟨out, n⟩, hmem, hr⟩
    exact ⟨n, out, List.mem_zipIdx_iff_getElem?.mp hmem, hr⟩
  · rintro ⟨n, out, hout, hr⟩
    exact ⟨(out, n), List.mem_zipIdx_iff_getElem?.mpr hout, hr⟩

/-- The request asks for the keys of the output at a position. -/
structure Asks (b : Blueprint) (position : Nat) (r : GhostKeyRequest) : Prop where
  index : r.index.toNat = position
  receivers : ∃ out, b.outputs[position]? = some out ∧ out.address.members = .uuid r.receivers
  hint : r.hint = Uuid.ofHint b.hint r.index
  digest : r.hint = Uuid.ofDigest (Hash.sha3 (Uuid.hintBytes b.hint r.index))

theorem toNat_ofNat_position {n count : Nat} (hn : n < count) (hcount : count ≤ Limit.slices) :
    (UInt8.ofNat n).toNat = n := by
  have hlimit : Limit.slices = 256 := rfl
  rw [UInt8.toNat_ofNat', Nat.mod_eq_of_lt (by omega)]

section

variable {b : Blueprint} (hb : b.outputs.length ≤ Limit.slices)
include hb

theorem asks_of_request? {n : Nat} (hout : b.outputs[n]? = some out)
    (hr : request? b.hint out n = some r) : b.Asks n r := by
  obtain ⟨hmembers, hindex, hhint⟩ := request?_eq_some_iff.mp hr
  have hn : n < b.outputs.length := (List.getElem?_eq_some_iff.mp hout).1
  have hposition : r.index.toNat = n := by rw [hindex, toNat_ofNat_position hn hb]
  have hid : r.hint = Uuid.ofHint b.hint r.index := by rw [hhint, hindex]
  exact ⟨hposition, ⟨out, hout, hmembers⟩, hid, hid.trans (Uuid.ofHint_eq _ _)⟩

theorem asks_of_mem (hr : r ∈ b.ghostKeyRequests) : b.Asks r.index.toNat r := by
  obtain ⟨n, out, hout, hrequest⟩ := mem_ghostKeyRequests_iff.mp hr
  have hasks := asks_of_request? hb hout hrequest
  rwa [hasks.index]

theorem mem_positions_iff {n : Nat} :
    n ∈ b.ghostKeyRequests.map (·.index.toNat) ↔
      ∃ out, b.outputs[n]? = some out ∧ out.address.uuids?.isSome := by
  rw [List.mem_map]
  constructor
  · rintro ⟨r, hr, rfl⟩
    obtain ⟨out, hout, hmembers⟩ := (asks_of_mem hb hr).receivers
    exact ⟨out, hout, by rw [MixAddress.uuids?, hmembers]; rfl⟩
  · rintro ⟨out, hout, hsome⟩
    obtain ⟨ids, hids⟩ := Option.isSome_iff_exists.mp hsome
    have hr : request? b.hint out n =
        some ⟨ids, UInt8.ofNat n, Uuid.ofHint b.hint (UInt8.ofNat n)⟩ := by
      rw [request?, hids]
      rfl
    exact ⟨_, mem_ghostKeyRequests_iff.mpr ⟨n, out, hout, hr⟩, (asks_of_request? hb hout hr).index⟩

theorem pairwise_positions :
    (b.ghostKeyRequests.map (·.index.toNat)).Pairwise (· < ·) := by
  rw [List.pairwise_map, ghostKeyRequests, List.pairwise_filterMap, List.pairwise_iff_getElem]
  intro i j hi hj hij r hr r' hr'
  rw [List.length_zipIdx] at hi hj
  simp only [List.getElem_zipIdx, Nat.zero_add] at hr hr'
  rw [(asks_of_request? hb (List.getElem?_eq_getElem hi) hr).index,
    (asks_of_request? hb (List.getElem?_eq_getElem hj) hr').index]
  exact hij

theorem nodup_hintBytes :
    (b.ghostKeyRequests.map fun r => Uuid.hintBytes b.hint r.index).Nodup := by
  have hlt := List.pairwise_map.mp (pairwise_positions hb)
  refine List.pairwise_map.mpr (hlt.imp fun {r r'} h heq => ?_)
  rw [Uuid.hintBytes_inj.mp heq] at h
  exact Nat.lt_irrefl _ h

end

/-- Output `n` carries the keys of the answer, one for each receiver of the request. -/
def AnswersIn (outputs : List Output) (r : GhostKeyRequest) (g : GhostKeys) (n : Nat) : Prop :=
  ∃ o, outputs[n]? = some o ∧ o.mask = g.mask ∧ o.keys = g.keys ∧
    g.keys.length = r.receivers.length

section

variable {version : UInt8} {expected : Nat} {fetched fetched' : List GhostKeys} {e e' : Entropy}
  {g : GhostKeys}

theorem outputKeys_uuid_eq_ok {ids : List Uuid}
    (h : outputKeys E version expected fetched e position (.uuid ids) = .ok (g, fetched', e')) :
    fetched = g :: fetched' := by
  cases fetched with
  | nil => cases h
  | cons first rest =>
    obtain ⟨rfl, hrest⟩ := Prod.mk.inj (Except.ok.inj h)
    rw [(Prod.mk.inj hrest).1]

theorem outputKeys_xin_eq_ok {members : List Address}
    (h : outputKeys E version expected fetched e position (.xin members) = .ok (g, fetched', e')) :
    fetched = fetched' := by
  rw [outputKeys, bind_eq_ok_iff] at h
  obtain ⟨_, _, h⟩ := h
  obtain ⟨_, hrest⟩ := Prod.mk.inj (Except.ok.inj h)
  exact (Prod.mk.inj hrest).1

theorem answersIn_cons {made : List Output} (o : Output)
    (h : ∃ n, r.index = UInt8.ofNat (position + 1 + n) ∧ AnswersIn made r g n) :
    ∃ n, r.index = UInt8.ofNat (position + n) ∧ AnswersIn (o :: made) r g n := by
  obtain ⟨n, hindex, hanswer⟩ := h
  have hposition : position + (n + 1) = position + 1 + n := by omega
  exact ⟨n + 1, hposition ▸ hindex, hanswer⟩

/-- An answer is taken off the fetched keys where a request was made, at the same position. -/
theorem answers_of_outputsFrom {planned : List PlannedOutput} {made : List Output}
    (h : outputsFrom E version expected fetched e position planned = .ok made)
    (hcount : fetched.length = planned.countP (·.address.uuids?.isSome)) :
    List.Forall₂ (fun r g => ∃ n, r.index = UInt8.ofNat (position + n) ∧ AnswersIn made r g n)
      (requestsFrom hint position planned) fetched := by
  induction planned generalizing fetched e position made with
  | nil =>
    rw [List.eq_nil_of_length_eq_zero hcount]
    exact .nil
  | cons out planned ih =>
    obtain ⟨g, fetched', e', rest, hkeys, hlength, hrest, rfl⟩ := outputsFrom_cons_eq_ok_iff.mp h
    rw [requestsFrom_cons]
    cases hmembers : out.address.members with
    | uuid ids =>
      rw [hmembers] at hkeys hlength
      obtain rfl := outputKeys_uuid_eq_ok hkeys
      have hids : out.address.uuids? = some ids := by rw [MixAddress.uuids?, hmembers]
      have hcount' : fetched'.length = planned.countP (·.address.uuids?.isSome) := by
        simpa [List.countP_cons, hids] using hcount
      rw [request?, hids]
      exact .cons ⟨0, rfl, _, rfl, rfl, rfl, hlength⟩
        ((ih hrest hcount').imp fun _ _ => answersIn_cons _)
    | xin members =>
      -- Nothing is asked and nothing taken, but the position moves on in both lists.
      rw [hmembers] at hkeys
      obtain rfl := outputKeys_xin_eq_ok hkeys
      have hids : out.address.uuids? = none := by rw [MixAddress.uuids?, hmembers]
      have hcount' : fetched.length = planned.countP (·.address.uuids?.isSome) := by
        simpa [List.countP_cons, hids] using hcount
      rw [request?, hids]
      exact (ih hrest hcount').imp fun _ _ => answersIn_cons _

end

theorem answers_of_build {b : Blueprint} {fetched : List GhostKeys} {e : Entropy} {s : Session}
    (h : b.build E fetched e = .ok s) :
    List.Forall₂ (fun r g => AnswersIn s.tx.outputs r g r.index.toNat) b.ghostKeyRequests
      fetched := by
  obtain ⟨hcount, outputs, hash, houtputs, hvalid, _, rfl⟩ := build_eq_ok_iff.mp h
  have hlimit := (Transaction.validate_eq_ok_iff.mp hvalid).outputs_le
  refine (answers_of_outputsFrom houtputs hcount).imp ?_
  rintro r g ⟨n, hindex, hanswer⟩
  have hn : n < outputs.length := by
    obtain ⟨o, ho, _⟩ := hanswer
    exact (List.getElem?_eq_some_iff.mp ho).1
  rwa [hindex, Nat.zero_add, toNat_ofNat_position hn hlimit]

end Blueprint

namespace Payment

/-- There is one request for each output to user ids, in their order and by their true positions,
and no two are named by the digest of the same bytes. Whatever is built from answers to them has the
keys of each answer in the output that was asked for. -/
theorem requests_of_plan {p : Payment} {b : Blueprint} (h : p.plan = .ok b) :
    (∃ positions : List Nat, positions.Pairwise (· < ·) ∧
      (∀ n, n ∈ positions ↔ ∃ out, b.outputs[n]? = some out ∧ out.address.uuids?.isSome) ∧
      List.Forall₂ b.Asks positions b.ghostKeyRequests) ∧
    (b.ghostKeyRequests.map fun r => Uuid.hintBytes b.hint r.index).Nodup ∧
    ∀ E fetched e s, b.build E fetched e = .ok s →
      List.Forall₂ (fun r g => Blueprint.AnswersIn s.tx.outputs r g r.index.toNat)
        b.ghostKeyRequests fetched := by
  have hb := (planned_of_plan h).outputs_le
  refine ⟨⟨b.ghostKeyRequests.map (·.index.toNat), Blueprint.pairwise_positions hb,
    fun n => Blueprint.mem_positions_iff hb, ?_⟩, Blueprint.nodup_hintBytes hb,
    fun E fetched e s => Blueprint.answers_of_build⟩
  rw [List.forall₂_map_left_iff, List.forall₂_same]
  exact fun r hr => Blueprint.asks_of_mem hb hr

theorem requests_of_plan_mixed :
    ∃ (publicSpend : Key) (b : Blueprint) (fetched : List GhostKeys) (s : Session),
      (mixed publicSpend).plan = .ok b ∧ b.ghostKeyRequests.map (·.index) = [0, 2] ∧
      (b.ghostKeyRequests.map fun r => Uuid.hintBytes b.hint r.index).Nodup ∧
      b.build Curve.ofScalars fetched (Entropy.cycle []) = .ok s ∧
      List.Forall₂ (fun r g => Blueprint.AnswersIn s.tx.outputs r g r.index.toNat)
        b.ghostKeyRequests fetched := by
  let key := Key.ofBaseMultiple Curve.ofScalars 7
  have hkey : key.isPoint Curve.ofScalars = true := Curve.isLawful_ofScalars.isSome_decompress _
  obtain ⟨b, s, hplan, houtputs, hbuild⟩ := exists_build_mixed hkey
  obtain ⟨_, hnodup, hanswers⟩ := requests_of_plan hplan
  refine ⟨key, b, _, s, hplan, ?_, hnodup, hbuild, hanswers _ _ _ s hbuild⟩
  rw [Blueprint.ghostKeyRequests, houtputs]
  rfl

end Payment

end KernelWallet
