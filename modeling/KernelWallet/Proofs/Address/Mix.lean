import KernelWallet.Payment.Json
import KernelWallet.Proofs.Address

/-! The text of a MIX address. The kind of the members is not written: it shows in the width of the
payload, which is 16 bytes for each user id and 64 for each XIN member, so that the two never have
one width for the same number of members. -/

namespace KernelWallet

theorem Bytes.mapM_chunks_eq_some_iff {α : Type} {read : Bytes → Option α} {write : α → Bytes}
    {size : Nat} (hread : ∀ b a, read b = some a ↔ write a = b)
    (hsize : ∀ a, (write a).length = size) {count : Nat} {b : Bytes} {as : List α}
    (hb : b.length = size * count) :
    (chunks size count b).mapM read = some as ↔ as.flatMap write = b ∧ as.length = count := by
  induction count generalizing b as with
  | zero =>
    obtain rfl : b = [] := List.eq_nil_of_length_eq_zero hb
    rw [chunks, List.mapM_nil]
    constructor
    · intro h
      obtain rfl := Option.some.inj h
      exact ⟨rfl, rfl⟩
    · rintro ⟨_, hlen⟩
      rw [List.eq_nil_of_length_eq_zero hlen]
      rfl
  | succ count ih =>
    have hdrop : (b.drop size).length = size * count := by
      rw [List.length_drop, hb, Nat.mul_succ, Nat.add_sub_cancel]
    simp only [chunks, List.mapM_cons, Option.bind_eq_bind, Option.bind_eq_some_iff, hread,
      ih hdrop]
    constructor
    · rintro ⟨a, ha, rest, ⟨hrest, hlen⟩, h⟩
      obtain rfl := Option.some.inj h
      rw [List.flatMap_cons, ha, hrest, List.take_append_drop, List.length_cons, hlen]
      exact ⟨rfl, rfl⟩
    · rintro ⟨hflat, hlen⟩
      obtain ⟨a, rest, rfl⟩ := List.exists_cons_of_length_eq_add_one hlen
      rw [List.flatMap_cons] at hflat
      have hfirst : b.take size = write a := by rw [← hflat, List.take_left' (hsize a)]
      have hrest : b.drop size = rest.flatMap write := by rw [← hflat, List.drop_left' (hsize a)]
      exact ⟨a, hfirst.symm, rest, ⟨hrest.symm, Nat.succ.inj hlen⟩, rfl⟩

theorem Uuid.read_eq_some_iff {b : Bytes} {u : Uuid} :
    (b.toVector? 16).map Uuid.mk = some u ↔ u.toBytes = b := by
  rw [Option.map_eq_some_iff]
  constructor
  · rintro ⟨v, hv, rfl⟩
    exact Bytes.toList_of_toVector? hv
  · rintro rfl
    exact ⟨u.bytes, Bytes.toVector?_toList u.bytes, rfl⟩

theorem Address.ofPayload?_eq_some_iff {b : Bytes} {a : Address} :
    ofPayload? b = some a ↔ a.payload = b := by
  constructor
  · exact payload_of_ofPayload?
  · rintro rfl
    exact ofPayload?_payload a

theorem Checked.isPrefixOf_text (c : Checked) (payload : Bytes) :
    c.tag.toList.isPrefixOf (c.text payload).toList = true := by
  rw [text, String.toList_ofList]
  exact List.isPrefixOf_iff_prefix.mpr (List.prefix_append _ _)

namespace MixMembers

def width : MixMembers → Nat
  | uuid _ => 16
  | xin _ => 64

theorem length_payload (m : MixMembers) : m.payload.length = m.width * m.length := by
  cases m with
  | uuid ids => simp [payload, width, length, List.length_flatMap, Uuid.toBytes, Nat.mul_comm]
  | xin addresses =>
    simp [payload, width, length, List.length_flatMap, Address.length_payload, Nat.mul_comm]

variable {count : Nat} {b : Bytes} {m : MixMembers}

/-- Bytes of the width of one kind are not the payload of as many members of the other. -/
theorem length_of_payload_eq (h : m.payload = b ∧ m.length = count) :
    b.length = m.width * count := by
  rw [← h.1, ← h.2, length_payload]

theorem ofPayload?_of_uuid (hpos : 0 < count) (hb : b.length = 16 * count) :
    ofPayload? count b = some m ↔ m.payload = b ∧ m.length = count := by
  have hread := @Bytes.mapM_chunks_eq_some_iff Uuid _ Uuid.toBytes 16
    (fun _ _ => Uuid.read_eq_some_iff) (fun u => by simp [Uuid.toBytes]) count b
  rw [ofPayload?, if_pos hb, Option.map_eq_some_iff]
  simp only [hread hb]
  cases m with
  | uuid ids => simp [payload, length]
  | xin addresses =>
    -- As many XIN members take four times the bytes, and there is at least one.
    refine iff_of_false (by simp) fun h => ?_
    have hlen : b.length = 64 * count := length_of_payload_eq h
    omega

theorem ofPayload?_of_xin (hpos : 0 < count) (hb : b.length = 64 * count) :
    ofPayload? count b = some m ↔ m.payload = b ∧ m.length = count := by
  have hread := @Bytes.mapM_chunks_eq_some_iff Address _ Address.payload 64
    (fun _ _ => Address.ofPayload?_eq_some_iff) Address.length_payload count b
  rw [ofPayload?, if_neg (by omega), if_pos hb, Option.map_eq_some_iff]
  simp only [hread hb]
  cases m with
  | xin addresses => simp [payload, length]
  | uuid ids =>
    refine iff_of_false (by simp) fun h => ?_
    have hlen : b.length = 16 * count := length_of_payload_eq h
    omega

theorem ofPayload?_eq_some_iff (hpos : 0 < count) :
    ofPayload? count b = some m ↔ m.payload = b ∧ m.length = count := by
  by_cases huuid : b.length = 16 * count
  · exact ofPayload?_of_uuid hpos huuid
  by_cases hxin : b.length = 64 * count
  · exact ofPayload?_of_xin hpos hxin
  rw [ofPayload?, if_neg huuid, if_neg hxin]
  refine iff_of_false nofun fun h => ?_
  have hlen := length_of_payload_eq h
  cases m with
  | uuid ids => exact huuid hlen
  | xin addresses => exact hxin hlen

end MixMembers

namespace MixAddress

variable {a : MixAddress} {members : MixMembers} {threshold : UInt8} {s : String} {b p : Bytes}

/-- The address is made of these members, of whom so many have to sign. -/
structure Gathers (a : MixAddress) (members : MixMembers) (threshold : UInt8) : Prop where
  members_eq : a.members = members
  threshold_eq : a.threshold = threshold

/-- A threshold that so many members can meet, and no more members than an address holds. -/
structure InRange (threshold : UInt8) (members : Nat) : Prop where
  pos : 1 ≤ threshold.toNat
  le_members : threshold.toNat ≤ members
  members_le : members ≤ 64

theorem inRange (a : MixAddress) : InRange a.threshold a.members.length :=
  ⟨a.threshold_pos, a.threshold_le, a.members_le⟩

theorem make_of_inRange (h : InRange threshold members.length) :
    make members threshold =
      .ok ⟨threshold, members, h.pos, h.le_members, h.members_le⟩ := by
  have hne : members.length ≠ 0 := by
    have hpos := h.pos
    have hle := h.le_members
    omega
  have hmax : members.length ≤ maxMembers := h.members_le
  rw [make, if_neg hne, dif_pos hmax, dif_pos ⟨h.pos, h.le_members⟩]

theorem make_eq_ok_iff : make members threshold = .ok a ↔ a.Gathers members threshold := by
  constructor
  · intro h
    rw [make] at h
    split at h
    · cases h
    · split at h
      · split at h
        · obtain rfl := Except.ok.inj h
          exact ⟨rfl, rfl⟩
        · cases h
      · cases h
  · rintro ⟨rfl, rfl⟩
    exact make_of_inRange a.inRange

theorem exists_make_iff :
    (∃ a, make members threshold = .ok a) ↔ InRange threshold members.length := by
  constructor
  · rintro ⟨a, h⟩
    obtain ⟨rfl, rfl⟩ := make_eq_ok_iff.mp h
    exact a.inRange
  · exact fun h => ⟨_, make_of_inRange h⟩

/-! ## The payload and its text -/

theorem ofPayload_payload (a : MixAddress) : ofPayload a.payload = .ok a := by
  have hpos : 0 < a.members.length := Nat.lt_of_lt_of_le a.threshold_pos a.threshold_le
  have hcount : (UInt8.ofNat a.members.length).toNat = a.members.length := by
    have hle : a.members.length ≤ 64 := a.members_le
    rw [UInt8.toNat_ofNat', Nat.mod_eq_of_lt (by omega)]
  have hne : UInt8.ofNat a.members.length ≠ 0 := by
    intro h
    rw [h, UInt8.toNat_zero] at hcount
    omega
  have hread : MixMembers.ofPayload? (UInt8.ofNat a.members.length).toNat a.members.payload =
      some a.members := by
    rw [hcount, MixMembers.ofPayload?_eq_some_iff hpos]
    exact ⟨rfl, rfl⟩
  rw [payload, List.cons_append, List.cons_append, List.cons_append, List.nil_append, ofPayload,
    if_neg (not_not.mpr rfl), if_neg hne, hread]
  exact make_eq_ok_iff.mpr ⟨rfl, rfl⟩

theorem payload_of_ofPayload (h : ofPayload b = .ok a) : a.payload = b := by
  rw [ofPayload.eq_def] at h
  split at h
  · next v threshold count body =>
    split at h
    · cases h
    · next hversion =>
      split at h
      · cases h
      · next hzero =>
        have hpos : 0 < count.toNat := Nat.pos_of_ne_zero fun h => hzero (UInt8.toNat_inj.mp h)
        split at h
        · next members hread =>
          obtain ⟨rfl, hlen⟩ := (MixMembers.ofPayload?_eq_some_iff hpos).mp hread
          obtain ⟨rfl, rfl⟩ := make_eq_ok_iff.mp h
          rw [payload, hlen, UInt8.ofNat_toNat, not_not.mp hversion]
          rfl
        · cases h
  · cases h

theorem checkedPayload_eq_ok_iff :
    checkedPayload b = .ok p ↔ p ++ format.checksum p = b ∧ 3 ≤ p.length := by
  have hsum := Checked.length_checksum format
  rw [checkedPayload]
  constructor
  · intro h
    split at h
    · cases h
    · split at h
      · cases h
      · next hlen hcheck =>
        obtain rfl := Except.ok.inj h
        refine ⟨?_, ?_⟩
        · rw [not_not.mp hcheck, List.take_append_drop]
        · rw [List.length_take]
          omega
  · rintro ⟨rfl, hlen⟩
    have hsplit : (p ++ format.checksum p).length - 4 = p.length := by
      rw [List.length_append, hsum, Nat.add_sub_cancel]
    rw [if_neg (by rw [List.length_append, hsum]; omega), hsplit, List.take_left, List.drop_left,
      if_neg (not_not.mpr rfl)]

theorem length_payload_ge (a : MixAddress) : 3 ≤ a.payload.length := by
  rw [payload, List.length_append]
  exact Nat.le_add_right 3 _

theorem ofText_eq_ok_iff_decode :
    ofText s = .ok a ↔ format.decode s = .ok (a.payload ++ format.checksum a.payload) := by
  simp only [ofText, bind_eq_ok_iff, checkedPayload_eq_ok_iff]
  constructor
  · rintro ⟨b, hb, p, ⟨rfl, _⟩, h⟩
    rw [payload_of_ofPayload h]
    exact hb
  · intro hb
    exact ⟨_, hb, a.payload, ⟨rfl, a.length_payload_ge⟩, ofPayload_payload a⟩

theorem ofText_eq_ok_iff_text : ofText s = .ok a ↔ a.toText = s :=
  ofText_eq_ok_iff_decode.trans Checked.text_eq_iff.symm

theorem ofJson?_eq_some_iff {j : Json} : ofJson? j = some a ↔ j = .str a.toText := by
  cases j with
  | str text =>
    have hread : ofJson? (.str text) = (ofText text).toOption := rfl
    rw [hread, Json.str.injEq, eq_comm (a := text), ← ofText_eq_ok_iff_text]
    cases ofText text <;> simp [Except.toOption]
  | _ => exact iff_of_false nofun nofun

/-! ## Members given as texts -/

/-- The texts are read as the members: all of them as XIN addresses or all of them as user ids. -/
def Names (texts : List String) : MixMembers → Prop
  | .xin addresses => List.Forall₂ (fun s x => Address.toText x = s) texts addresses
  | .uuid ids => (∀ s ∈ texts, isXinText s = false) ∧
      List.Forall₂ (fun s id => Uuid.ofText? s = some id) texts ids

theorem Names.length_eq {texts : List String} (h : Names texts members) :
    texts.length = members.length := by
  cases members with
  | xin addresses => exact List.Forall₂.length_eq h
  | uuid ids => exact List.Forall₂.length_eq h.2

theorem isXinText_toText (x : Address) : isXinText x.toText = true :=
  Checked.isPrefixOf_text Address.format x.payload

theorem isXinText_of_names {texts : List String} {addresses : List Address}
    (h : Names texts (.xin addresses)) : ∀ s ∈ texts, isXinText s = true := by
  intro s hs
  obtain ⟨x, _, rfl⟩ := exists_of_forall₂ h hs
  exact isXinText_toText x

theorem mapM_ofText_eq_ok_iff {texts : List String} {addresses : List Address} :
    texts.mapM Address.ofText = .ok addresses ↔ Names texts (.xin addresses) := by
  simp only [mapM_eq_ok_iff, Names, Address.ofText_eq_ok_iff_decode, Checked.text_eq_iff,
    Address.toText]

theorem mapM_ofText?_eq_ok_iff {texts : List String} {ids : List Uuid} :
    (texts.mapM fun s => match Uuid.ofText? s with
      | some id => Except.ok id
      | none => .error AddressError.invalidUuid) = .ok ids ↔
      List.Forall₂ (fun s id => Uuid.ofText? s = some id) texts ids := by
  have hread : ∀ s id, (match Uuid.ofText? s with
      | some id => Except.ok id
      | none => .error AddressError.invalidUuid) = .ok id ↔ Uuid.ofText? s = some id := by
    intro s id
    cases Uuid.ofText? s <;> simp
  simp only [mapM_eq_ok_iff, hread]

/-- Members of both kinds are refused before any of them is read. -/
theorem ofMembers_cons_eq_ok_iff {first : String} {rest : List String} :
    ofMembers (first :: rest) threshold = .ok a ↔
      (∀ s ∈ rest, isXinText s = isXinText first) ∧
        if isXinText first then
          ∃ addresses, (first :: rest).mapM Address.ofText = .ok addresses ∧
            a.Gathers (.xin addresses) threshold
        else
          ∃ ids, List.Forall₂ (fun s id => Uuid.ofText? s = some id) (first :: rest) ids ∧
            a.Gathers (.uuid ids) threshold := by
  have hkinds : ((first :: rest).any fun s => isXinText s != isXinText first) = true ↔
      ¬ ∀ s ∈ rest, isXinText s = isXinText first := by
    simp
  simp only [ofMembers, guard_bind_eq_ok_iff, hkinds, not_not]
  refine and_congr_right fun _ => ?_
  split
  · simp only [bind_eq_ok_iff, ofAddresses, make_eq_ok_iff]
  · simp only [bind_eq_ok_iff, ofUuids, make_eq_ok_iff]
    exact exists_congr fun ids => and_congr_left' mapM_ofText?_eq_ok_iff

theorem ofMembers_eq_ok_iff {texts : List String} :
    ofMembers texts threshold = .ok a ↔
      ∃ members, Names texts members ∧ a.Gathers members threshold := by
  cases texts with
  | nil =>
    refine iff_of_false nofun ?_
    rintro ⟨members, hnames, rfl, rfl⟩
    have hpos := a.threshold_pos
    have hle := a.threshold_le
    have hlen := hnames.length_eq
    rw [List.length_nil] at hlen
    omega
  | cons first rest =>
    rw [ofMembers_cons_eq_ok_iff]
    by_cases hfirst : isXinText first = true
    · simp only [hfirst, if_true, mapM_ofText_eq_ok_iff]
      constructor
      · rintro ⟨_, addresses, hnames, hgathers⟩
        exact ⟨.xin addresses, hnames, hgathers⟩
      · rintro ⟨members, hnames, hgathers⟩
        cases members with
        | xin addresses =>
          have hxin := isXinText_of_names hnames
          exact ⟨fun s hs => hxin s (List.mem_cons_of_mem _ hs), addresses, hnames, hgathers⟩
        | uuid ids =>
          have hnot := hnames.1 first List.mem_cons_self
          exact absurd hfirst (Bool.eq_false_iff.mp hnot)
    · have hother : isXinText first = false := Bool.eq_false_iff.mpr hfirst
      simp only [hother, Bool.false_eq_true, if_false]
      constructor
      · rintro ⟨hrest, ids, hids, hgathers⟩
        exact ⟨.uuid ids, ⟨List.forall_mem_cons.mpr ⟨hother, hrest⟩, hids⟩, hgathers⟩
      · rintro ⟨members, hnames, hgathers⟩
        cases members with
        | xin addresses => exact absurd (isXinText_of_names hnames first List.mem_cons_self) hfirst
        | uuid ids =>
          exact ⟨(List.forall_mem_cons.mp hnames.1).2, ids, hnames.2, hgathers⟩

/-- A text is read as an address exactly if it is the text of that address, in JSON too. Addresses
are made of any members of one kind and any threshold in range, and of nothing else. -/
theorem ofText_iff_toText :
    (∀ s a, ofText s = .ok a ↔ a.toText = s) ∧
    (∀ j a, ofJson? j = some a ↔ j = .str a.toText) ∧
    (∀ ids threshold a, ofUuids ids threshold = .ok a ↔ a.Gathers (.uuid ids) threshold) ∧
    (∀ addresses threshold a,
      ofAddresses addresses threshold = .ok a ↔ a.Gathers (.xin addresses) threshold) ∧
    (∀ texts threshold a, ofMembers texts threshold = .ok a ↔
      ∃ members, Names texts members ∧ a.Gathers members threshold) ∧
    ∀ members threshold,
      (∃ a : MixAddress, a.Gathers members threshold) ↔ InRange threshold members.length := by
  refine ⟨fun _ _ => ofText_eq_ok_iff_text, fun _ _ => ofJson?_eq_some_iff,
    fun _ _ _ => make_eq_ok_iff, fun _ _ _ => make_eq_ok_iff, fun _ _ _ => ofMembers_eq_ok_iff,
    fun members threshold => ?_⟩
  simp only [← make_eq_ok_iff, exists_make_iff]

end MixAddress

end KernelWallet
