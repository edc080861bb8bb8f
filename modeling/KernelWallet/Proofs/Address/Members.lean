import KernelWallet.Proofs.Address.Mix
import KernelWallet.Proofs.Uuid

/-! A MIX address of members given as texts. The first text decides how all of them are read, and
the texts of addresses start with `XIN` where those of user ids start with a digit, so that members
come back as they were, and members of both kinds are told apart before any of them is read. -/

namespace KernelWallet

namespace MixAddress

variable {texts : List String} {threshold : UInt8}

theorem isXinText_iff {s : String} : isXinText s = true ↔ "XIN".toList <+: s.toList :=
  List.isPrefixOf_iff_prefix

theorem isXinText_toText_uuid (id : Uuid) : isXinText id.toText = false := by
  obtain ⟨n, hn, hhead⟩ := id.exists_head?_toText
  rw [Bool.eq_false_iff]
  intro hxin
  obtain ⟨rest, htext⟩ := isXinText_iff.mp hxin
  rw [← htext] at hhead
  have hdigit : 'X' = Hex.digit n := Option.some.inj hhead
  have hvalue := Hex.value?_digit hn
  rw [← hdigit] at hvalue
  exact absurd hvalue nofun

/-- A member that has to be a user id. -/
def readId (s : String) : Except AddressError Uuid :=
  match Uuid.ofText? s with
  | some id => .ok id
  | none => .error .invalidUuid

theorem readId_toText (id : Uuid) : readId id.toText = .ok id := by
  rw [readId, id.ofText?_toText]

/-! ## The kinds of the texts -/

theorem any_ne_iff {first : String} (hfirst : first ∈ texts) :
    (texts.any fun s => isXinText s != isXinText first) = true ↔
      ¬ ∃ kind, ∀ s ∈ texts, isXinText s = kind := by
  simp only [List.any_eq_true, bne_iff_ne]
  constructor
  · rintro ⟨s, hs, hne⟩ ⟨kind, h⟩
    exact hne ((h s hs).trans (h first hfirst).symm)
  · intro h
    by_contra hall
    push Not at hall
    exact h ⟨_, hall⟩

theorem ofMembers_of_xin (h : ∀ s ∈ texts, isXinText s = true) :
    ofMembers texts threshold = (do ofAddresses (← texts.mapM Address.ofText) threshold) := by
  cases texts with
  | nil => rfl
  | cons first rest =>
    have hone := mt (any_ne_iff List.mem_cons_self).mp (not_not.mpr ⟨true, h⟩)
    rw [ofMembers, if_neg hone, if_pos (h first List.mem_cons_self)]

theorem ofMembers_of_uuid (h : ∀ s ∈ texts, isXinText s = false) :
    ofMembers texts threshold = (do ofUuids (← texts.mapM readId) threshold) := by
  cases texts with
  | nil => rfl
  | cons first rest =>
    have hone := mt (any_ne_iff List.mem_cons_self).mp (not_not.mpr ⟨false, h⟩)
    rw [ofMembers, if_neg hone, if_neg (Bool.eq_false_iff.mp (h first List.mem_cons_self))]
    rfl

theorem ofMembers_of_mixed (h : ¬ ∃ kind, ∀ s ∈ texts, isXinText s = kind) :
    ofMembers texts threshold = .error .mixedMembers := by
  cases texts with
  | nil => exact absurd ⟨true, nofun⟩ h
  | cons first rest =>
    rw [ofMembers, if_pos ((any_ne_iff List.mem_cons_self).mpr h)]
    rfl

/-! ## No other error is that of mixed members -/

theorem ofText_ne_mixedMembers (s : String) : Address.ofText s ≠ .error .mixedMembers := by
  rw [Address.ofText]
  refine bind_ne_error ?_ fun b => ?_
  · rw [Checked.decode]
    split
    · split <;> simp
    · simp
  · split
    · dsimp only
      split_ifs <;> rintro ⟨⟩
    · rintro ⟨⟩

theorem make_ne_mixedMembers (members : MixMembers) :
    make members threshold ≠ .error .mixedMembers := by
  rw [make]
  split_ifs <;> simp

theorem ofMembers_eq_mixedMembers_iff :
    ofMembers texts threshold = .error .mixedMembers ↔
      ¬ ∃ kind, ∀ s ∈ texts, isXinText s = kind := by
  refine ⟨?_, ofMembers_of_mixed⟩
  rintro h ⟨kind, hkind⟩
  cases kind with
  | true =>
    rw [ofMembers_of_xin hkind] at h
    exact bind_ne_error (mapM_ne_error ofText_ne_mixedMembers texts)
      (fun _ => make_ne_mixedMembers _) h
  | false =>
    rw [ofMembers_of_uuid hkind] at h
    refine bind_ne_error (mapM_ne_error (fun s => ?_) texts) (fun _ => make_ne_mixedMembers _) h
    rw [readId]
    split <;> simp

/-! ## Members that are given as such -/

theorem ofMembers_map_toText (addresses : List Address) :
    ofMembers (addresses.map Address.toText) threshold = ofAddresses addresses threshold := by
  have hkind : ∀ s ∈ addresses.map Address.toText, isXinText s = true :=
    List.forall_mem_map.mpr fun x _ => isXinText_toText x
  have hread : (addresses.map Address.toText).mapM Address.ofText = .ok addresses :=
    mapM_ofText_eq_ok_iff.mpr (List.forall₂_map_left_iff.mpr (List.forall₂_same.mpr fun _ _ => rfl))
  rw [ofMembers_of_xin hkind, hread]
  rfl

theorem ofMembers_map_toText_uuid (ids : List Uuid) :
    ofMembers (ids.map Uuid.toText) threshold = ofUuids ids threshold := by
  have hkind : ∀ s ∈ ids.map Uuid.toText, isXinText s = false :=
    List.forall_mem_map.mpr fun id _ => isXinText_toText_uuid id
  have hread : (ids.map Uuid.toText).mapM readId = .ok ids :=
    mapM_eq_ok_iff.mpr (List.forall₂_map_left_iff.mpr
      (List.forall₂_same.mpr fun id _ => readId_toText id))
  rw [ofMembers_of_uuid hkind, hread]
  rfl

/-- Members given as texts make what they make as addresses or as user ids, be it an address or an
error. They are refused as mixed exactly if some of the texts start with `XIN` and some do not. -/
theorem ofMembers_agrees :
    (∀ addresses threshold, ofMembers (addresses.map Address.toText) threshold =
      ofAddresses addresses threshold) ∧
    (∀ ids threshold, ofMembers (ids.map Uuid.toText) threshold = ofUuids ids threshold) ∧
    ∀ texts threshold, ofMembers texts threshold = .error .mixedMembers ↔
      (∃ s ∈ texts, "XIN".toList <+: s.toList) ∧ ∃ s ∈ texts, ¬ "XIN".toList <+: s.toList := by
  refine ⟨fun addresses _ => ofMembers_map_toText addresses,
    fun ids _ => ofMembers_map_toText_uuid ids, fun texts _ => ?_⟩
  rw [ofMembers_eq_mixedMembers_iff, Bool.exists_bool, not_or]
  simp only [← isXinText_iff, not_forall, exists_prop, Bool.not_eq_true, Bool.not_eq_false]

end MixAddress

end KernelWallet
