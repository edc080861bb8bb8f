import KernelWallet.Proofs.Account
import KernelWallet.Proofs.Ghost
import KernelWallet.Proofs.Payment.Balance

/-! A payment that has been planned can be built, whatever the random bytes, as soon as there are
points to make its keys of. The checks of the plan leave nothing for the later ones to refuse. -/

namespace KernelWallet

variable {E : Curve}

/-- One key for each member of the address, and all of them points. -/
def GhostKeys.Answers (E : Curve) (g : GhostKeys) (a : MixAddress) : Prop :=
  g.keys.length = a.members.length ∧ ∀ k ∈ g.mask :: g.keys, k.isPoint E = true

/-- The fetched keys answer the outputs to user ids, in order. -/
def GhostKeys.AnswerAll (E : Curve) (fetched : List GhostKeys) (planned : List PlannedOutput) :
    Prop :=
  List.Forall₂ (fun g out => GhostKeys.Answers E g out.address) fetched
    (planned.filter (·.address.uuids?.isSome))

theorem MixAddress.addresses?_eq_some_iff {a : MixAddress} {members : List Address} :
    a.addresses? = some members ↔ a.members = .xin members := by
  rw [addresses?]
  cases a.members with
  | uuid ids => simp
  | xin addresses => simp

/-- The public spend keys of all XIN members of the address are points. -/
def MixAddress.HasPoints (E : Curve) (a : MixAddress) : Prop :=
  ∀ members ∈ a.addresses?, ∀ m ∈ members, m.publicSpend.isPoint E = true

namespace Blueprint

/-- A member as the keys of an output are made for it: its view key is that which everyone can
derive. -/
def receiver (E : Curve) (m : Address) : Key × Key :=
  (Key.ofBaseMultiple E (Key.viewScalar m.publicSpend), m.publicSpend)

theorem deriveKeys_eq_ok_iff {e : Entropy} {members : List Address} {index version : UInt8}
    {r : GhostKeys × Entropy} :
    deriveKeys E e members index version = .ok r ↔
      GhostKeys.create E e (members.map (receiver E)) index version = .ok r := by
  have haddresses : members.mapM (fun m => Address.ofPublicSpend E m.publicSpend) =
      .ok (members.map fun m =>
        ⟨m.publicSpend, Key.ofBaseMultiple E (Key.viewScalar m.publicSpend)⟩) := by
    rw [mapM_eq_ok_iff, List.forall₂_map_right_iff, List.forall₂_same]
    exact fun m _ => Address.ofPublicSpend_eq m.publicSpend
  rw [deriveKeys, haddresses, bind_eq_ok_iff]
  simp only [mapError_eq_ok_iff, Except.ok.injEq, exists_eq_left', List.map_map]
  rfl

variable {version : UInt8} {expected : Nat}

/-- User ids take the next of the fetched keys, and those that are left answer the later outputs. -/
theorem exists_outputKeys (hE : ∀ p, (E.decompress (E.compress p)).isSome = true)
    {fetched : List GhostKeys} {out : PlannedOutput} {planned : List PlannedOutput}
    (hfetched : GhostKeys.AnswerAll E fetched (out :: planned))
    (hmembers : out.address.HasPoints E) (e : Entropy) (position : Nat) :
    ∃ g fetched' e',
      outputKeys E version expected fetched e position out.address.members =
        .ok (g, fetched', e') ∧
      g.Answers E out.address ∧
      GhostKeys.AnswerAll E fetched' planned := by
  cases hkind : out.address.members with
  | uuid ids =>
    have hsome : out.address.uuids?.isSome = true := by simp [MixAddress.uuids?, hkind]
    rw [GhostKeys.AnswerAll, List.filter_cons, if_pos hsome] at hfetched
    obtain ⟨g, fetched', hanswers, hrest, rfl⟩ := List.forall₂_cons_right_iff.mp hfetched
    exact ⟨g, fetched', e, rfl, hanswers, hrest⟩
  | xin members =>
    -- The fetched keys are left as they are; only random bytes are used.
    have hnone : ¬ out.address.uuids?.isSome = true := by simp [MixAddress.uuids?, hkind]
    rw [GhostKeys.AnswerAll, List.filter_cons, if_neg hnone] at hfetched
    have hpoints : ∀ r ∈ members.map (receiver E), r.1.isPoint E = true ∧ r.2.isPoint E = true := by
      intro r hr
      obtain ⟨m, hm, rfl⟩ := List.mem_map.mp hr
      exact ⟨hE _, hmembers members (MixAddress.addresses?_eq_some_iff.mpr hkind) m hm⟩
    obtain ⟨g, e', hcreate, hlength, hkeys⟩ :=
      GhostKeys.exists_create hE hpoints e (UInt8.ofNat position) version
    rw [List.length_map] at hlength
    refine ⟨g, fetched, e', ?_, ⟨by rw [hkind]; exact hlength, hkeys⟩, hfetched⟩
    rw [outputKeys, deriveKeys_eq_ok_iff.mpr hcreate]
    rfl

theorem exists_outputsFrom (hE : ∀ p, (E.decompress (E.compress p)).isSome = true)
    {fetched : List GhostKeys} {planned : List PlannedOutput}
    (hfetched : GhostKeys.AnswerAll E fetched planned)
    (hmembers : ∀ out ∈ planned, out.address.HasPoints E) (e : Entropy) (position : Nat) :
    ∃ outputs, outputsFrom E version expected fetched e position planned = .ok outputs ∧
      ∀ o ∈ outputs, ∀ k ∈ o.mask :: o.keys, k.isPoint E = true := by
  induction planned generalizing fetched e position with
  | nil => exact ⟨[], rfl, nofun⟩
  | cons out planned ih =>
    rw [List.forall_mem_cons] at hmembers
    obtain ⟨g, fetched', e', hg, ⟨hlength, hkeys⟩, hrest⟩ :=
      exists_outputKeys hE hfetched hmembers.1 e position
    obtain ⟨outputs, houtputs, hpoints⟩ := ih hrest hmembers.2 e' (position + 1)
    exact ⟨_, outputsFrom_cons_eq_ok_iff.mpr ⟨g, fetched', e', outputs, hg, hlength, houtputs, rfl⟩,
      List.forall_mem_cons.mpr ⟨hkeys, hpoints⟩⟩

theorem exists_build (hE : ∀ p, (E.decompress (E.compress p)).isSome = true) {b : Blueprint}
    (hb : b.Planned) (hv : Version.isBinary b.version = true)
    (hdistinct : (b.inputs.map fun i => (i.transaction, i.index)).Nodup)
    (hrefs : b.references = [] ∨ Version.references ≤ b.version)
    (hmembers : ∀ out ∈ b.outputs, out.address.HasPoints E) {fetched : List GhostKeys}
    (hfetched : GhostKeys.AnswerAll E fetched b.outputs) (e : Entropy) :
    ∃ s, b.build E fetched e = .ok s ∧ s.state = .built := by
  have hcount : fetched.length = b.outputs.countP (·.address.uuids?.isSome) := by
    rw [hfetched.length_eq, List.countP_eq_length_filter]
  obtain ⟨outputs, houtputs, hpoints⟩ := exists_outputsFrom hE hfetched hmembers e 0
  obtain ⟨hash, hbuild⟩ :=
    exists_build_of_outputsFrom hb hv hdistinct hrefs hcount houtputs hpoints
  exact ⟨_, hbuild, rfl⟩

end Blueprint

namespace Payment

/-- What can be planned can be built: if no output is spent twice, the version has references if
there are any, and the members and the fetched keys are points, no check fails. -/
theorem exists_build_of_plan (hE : ∀ p, (E.decompress (E.compress p)).isSome = true)
    {p : Payment} {b : Blueprint} (hv : Version.isBinary p.version = true) (h : p.plan = .ok b)
    (hdistinct : (b.inputs.map fun i => (i.transaction, i.index)).Nodup)
    (hrefs : b.references = [] ∨ Version.references ≤ b.version)
    (hmembers : ∀ out ∈ b.outputs, out.address.HasPoints E) {fetched : List GhostKeys}
    (hfetched : GhostKeys.AnswerAll E fetched b.outputs) (e : Entropy) :
    ∃ s, b.build E fetched e = .ok s ∧ s.state = .built := by
  have hversion : Version.isBinary b.version = true := version_of_plan h ▸ hv
  exact Blueprint.exists_build hE (planned_of_plan h) hversion hdistinct hrefs hmembers hfetched e

end Payment

/-- The address of one member that is given by its public spend key. -/
def MixAddress.member (publicSpend : Key) : MixAddress where
  threshold := 1
  members := .xin [⟨publicSpend, Key.zero⟩]
  threshold_pos := Nat.le_refl 1
  threshold_le := Nat.le_refl 1
  members_le := Nat.le_add_right 1 63

theorem MixAddress.hasPoints_member {publicSpend : Key} (h : publicSpend.isPoint E = true) :
    (member publicSpend).HasPoints E := by
  intro members hmembers
  obtain rfl := Option.some.inj hmembers
  exact List.forall_mem_singleton.mpr h

theorem MixAddress.hasPoints_team (n : Nat) (h : 1 ≤ n ∧ n ≤ 64) : (team n h).HasPoints E :=
  nofun

namespace Payment

/-- The outputs that `splitting` spends, for two users, for a member and for the rest. -/
def mixed (publicSpend : Key) : Payment :=
  { splitting Key.zero [] with
    recipients := [(MixAddress.pair, Amount.ofUInt64 2),
      (MixAddress.member publicSpend, Amount.ofUInt64 3)] }

/-- The outputs of `mixed`, of which the first and the last need fetched keys. -/
def mixedOutputs (publicSpend : Key) : List PlannedOutput := [
  ⟨MixAddress.pair, Amount.ofUInt64 2, false⟩,
  ⟨MixAddress.member publicSpend, Amount.ofUInt64 3, false⟩,
  ⟨MixAddress.alone, Amount.ofUInt64 2, true⟩]

theorem exists_plan_mixed (publicSpend : Key) :
    ∃ b, (mixed publicSpend).plan = .ok b ∧ b.version = 5 ∧ b.references = [] ∧
      (b.inputs.map fun i => (i.transaction, i.index)).Nodup ∧
      b.outputs = mixedOutputs publicSpend := by
  have hdistinct : ([(Hash.zero, 0), (Hash.zero, 1)] : List (Hash × UInt8)).Nodup := by decide
  exact ⟨_, rfl, rfl, rfl, hdistinct, rfl⟩

theorem hasPoints_mixedOutputs {publicSpend : Key} (h : publicSpend.isPoint E = true) :
    ∀ out ∈ mixedOutputs publicSpend, out.address.HasPoints E := by
  simp only [mixedOutputs, List.forall_mem_cons]
  exact ⟨MixAddress.hasPoints_team 2 _, MixAddress.hasPoints_member h,
    MixAddress.hasPoints_team 1 _, nofun⟩

theorem answerAll_mixedOutputs {key : Key} (h : key.isPoint E = true) (publicSpend : Key) :
    GhostKeys.AnswerAll E [⟨key, [key, key]⟩, ⟨key, [key]⟩] (mixedOutputs publicSpend) := by
  have hpair : GhostKeys.Answers E ⟨key, [key, key]⟩ MixAddress.pair := ⟨rfl, by simp [h]⟩
  have halone : GhostKeys.Answers E ⟨key, [key]⟩ MixAddress.alone := ⟨rfl, by simp [h]⟩
  exact .cons hpair (.cons halone .nil)

theorem exists_build_mixed {key : Key} (hkey : key.isPoint Curve.ofScalars = true) :
    ∃ b s, (mixed key).plan = .ok b ∧ b.outputs = mixedOutputs key ∧
      b.build Curve.ofScalars [⟨key, [key, key]⟩, ⟨key, [key]⟩] (Entropy.cycle []) = .ok s := by
  obtain ⟨b, hplan, hversion, hrefs, hdistinct, houtputs⟩ := exists_plan_mixed key
  obtain ⟨s, hbuild, _⟩ := Blueprint.exists_build Curve.isLawful_ofScalars.isSome_decompress
    (planned_of_plan hplan) (hversion ▸ rfl) hdistinct (.inl hrefs)
    (houtputs ▸ hasPoints_mixedOutputs hkey) (houtputs ▸ answerAll_mixedOutputs hkey key)
    (Entropy.cycle [])
  exact ⟨b, s, hplan, houtputs, hbuild⟩

theorem exists_build_of_plan_mixed :
    ∃ (publicSpend : Key) (b : Blueprint) (fetched : List GhostKeys) (s : Session),
      publicSpend.isPoint Curve.ofScalars = true ∧ (mixed publicSpend).plan = .ok b ∧
      b.outputs = mixedOutputs publicSpend ∧
      GhostKeys.AnswerAll Curve.ofScalars fetched b.outputs ∧
      b.build Curve.ofScalars fetched (Entropy.cycle []) = .ok s ∧ s.state = .built := by
  let E := Curve.ofScalars
  have hE := Curve.isLawful_ofScalars.isSome_decompress
  let key := Key.ofPoint E E.base
  have hkey : key.isPoint E = true := hE E.base
  obtain ⟨b, hplan, hversion, hrefs, hdistinct, houtputs⟩ := exists_plan_mixed key
  have hfetched := houtputs ▸ answerAll_mixedOutputs hkey key
  obtain ⟨s, hbuild, hstate⟩ := exists_build_of_plan hE rfl hplan hdistinct (.inl hrefs)
    (houtputs ▸ hasPoints_mixedOutputs hkey) hfetched (Entropy.cycle [])
  exact ⟨key, b, _, s, hkey, hplan, houtputs, hfetched, hbuild, hstate⟩

end Payment

end KernelWallet
