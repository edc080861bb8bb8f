import KernelWallet.Proofs.Encoding
import KernelWallet.Proofs.Legacy.Fits
import KernelWallet.Proofs.SignerMap

/-! What reading the msgpack form leaves of lists of signatures. The signer of a signature is its
position as a 16-bit number, so a list longer than there are such numbers loses its first
signatures, and a list as long as that cannot be written again. -/

namespace KernelWallet

/-- Each signature of the list is there under its position, and nothing else is. -/
structure SignerMap.Lists (g : SignerMap) (sigs : List Bytes) : Prop where
  length : g.entries.length = sigs.length
  get? : ∀ k : UInt16, (g.get? k).map Signature.toBytes = sigs[k.toNat]?

/-- The signatures at the last `2 ^ 16` positions of the list are there, and nothing else is. -/
structure SignerMap.KeepsLast (g : SignerMap) (sigs : List Bytes) : Prop where
  signers : g.signers = (List.range (min sigs.length (2 ^ 16))).map UInt16.ofNat
  get? : ∀ n sig, sigs[n]? = some sig → sigs.length ≤ n + 2 ^ 16 →
    (g.get? (UInt16.ofNat n)).map Signature.toBytes = some sig

namespace SignerMap

variable {g : SignerMap} {sigs : List Bytes}

theorem keepsLast_ofSignatures (l : List Signature) :
    (ofSignatures l).KeepsLast (l.map Signature.toBytes) where
  signers := by rw [List.length_map, signers_ofSignatures]
  get? n sig hsig hlast := by
    rw [List.getElem?_map, Option.map_eq_some_iff] at hsig
    obtain ⟨s, hs, rfl⟩ := hsig
    rw [List.length_map] at hlast
    rw [get?_ofSignatures hs hlast, Option.map_some]

theorem KeepsLast.length_entries (h : g.KeepsLast sigs) :
    g.entries.length = min sigs.length (2 ^ 16) := by
  have hlength := congrArg List.length h.signers
  rwa [SignerMap.signers, List.length_map, List.length_map, List.length_range] at hlength

theorem KeepsLast.get?_eq_none (h : g.KeepsLast sigs) {k : UInt16}
    (hk : sigs.length ≤ k.toNat) : g.get? k = none := by
  by_contra hne
  obtain ⟨s, hs⟩ := Option.ne_none_iff_exists'.mp hne
  have hmem : k ∈ g.signers := List.mem_map_of_mem (get?_eq_some_iff.mp hs)
  rw [h.signers] at hmem
  obtain ⟨n, hn, rfl⟩ := List.mem_map.mp hmem
  have hlt := List.mem_range.mp hn
  rw [UInt16.toNat_ofNat', Nat.mod_eq_of_lt (by omega)] at hk
  omega

/-- Nothing is lost of a list exactly if there is a signer for every position. -/
theorem KeepsLast.lists_iff (h : g.KeepsLast sigs) : g.Lists sigs ↔ sigs.length ≤ 2 ^ 16 := by
  have hlength := h.length_entries
  constructor
  · intro hlists
    rw [← hlists.length, hlength]
    exact Nat.min_le_right _ _
  · intro hle
    refine ⟨by rwa [Nat.min_eq_left hle] at hlength, fun k => ?_⟩
    cases hsig : sigs[k.toNat]? with
    | none => rw [h.get?_eq_none (List.getElem?_eq_none_iff.mp hsig), Option.map_none]
    | some sig =>
      have hkept := h.get? k.toNat sig hsig (by omega)
      rwa [UInt16.ofNat_toNat] at hkept

/-- The number of signatures is written in a number like that of a signer. -/
theorem KeepsLast.isNumbered_iff (h : g.KeepsLast sigs) :
    g.IsNumbered ↔ sigs.length < 2 ^ 16 := by
  have hlength := h.length_entries
  constructor
  · intro hnumbered
    have hlt := hnumbered.length_lt
    omega
  · intro hlt
    exact ⟨by omega, by rw [hlength, h.signers]⟩

end SignerMap

namespace Legacy

theorem keepsLast_of_checkGroup {sigs : List Bytes} {g : SignerMap}
    (h : checkGroup sigs = .ok g) : g.KeepsLast sigs := by
  obtain ⟨l, rfl, rfl⟩ := checkGroup_eq_ok_iff.mp h
  exact SignerMap.keepsLast_ofSignatures l

theorem groups_of_check {t : RawTransaction} {tx : Transaction} (h : t.check = .ok tx) :
    ∃ gs, tx.version = UInt8.ofNat t.version ∧ tx.references = [] ∧ tx.signatures = .groups gs ∧
      List.Forall₂ (fun sigs g => g.KeepsLast sigs) t.signatures gs := by
  obtain ⟨_, _, h⟩ := bind_eq_ok_iff.mp h
  obtain ⟨_, _, h⟩ := bind_eq_ok_iff.mp h
  obtain ⟨gs, hgroups, h⟩ := bind_eq_ok_iff.mp h
  obtain ⟨_, _, h⟩ := bind_eq_ok_iff.mp h
  obtain rfl := Except.ok.inj h
  have hkeeps := (mapM_eq_ok_iff.mp hgroups).imp fun _ _ => keepsLast_of_checkGroup
  exact ⟨gs, rfl, rfl, rfl, hkeeps⟩

end Legacy

namespace Transaction

variable {tx : Transaction} {b : Bytes}

/-- The groups of a transaction that was read keep what fits of its lists, and all of a list exactly
if it has no more signatures than there are signers. Where every list is shorter than that, the
transaction is written and read again. Otherwise it cannot be written. -/
theorem keepsLast_of_decode (hheader : Wire.splitHeader? b = none) (h : decode b = .ok tx) :
    ∃ t gs, Legacy.record? b = some t ∧ tx.signatures = .groups gs ∧
      List.Forall₂ (fun sigs g => g.KeepsLast sigs ∧ (g.Lists sigs ↔ sigs.length ≤ 2 ^ 16))
        t.signatures gs ∧
      ((∀ sigs ∈ t.signatures, sigs.length < 2 ^ 16) →
        ∃ c, tx.encode = .ok c ∧ decode c = .ok tx) ∧
      ((∃ sigs ∈ t.signatures, 2 ^ 16 ≤ sigs.length) →
        tx.encode = .error .legacySignerIndices) := by
  rw [decode, hheader] at h
  obtain ⟨t, ht, hv, htx⟩ := Legacy.read_eq_ok_iff.mp h
  obtain ⟨gs, hversion, hrefs, hgs, hkeeps⟩ := Legacy.groups_of_check htx
  have hbinary : tx.version < Version.binary := by
    rw [hversion, UInt8.lt_iff_toNat_lt, UInt8.toNat_ofNat']
    exact (Nat.mod_le _ _).trans_lt hv
  refine ⟨t, gs, ht, hgs, hkeeps.imp fun _ _ hk => ⟨hk, hk.lists_iff⟩, ?_, ?_⟩
  · intro hshort
    have hnumbered : ∀ g ∈ gs, g.IsNumbered := by
      intro g hg
      obtain ⟨sigs, hsigs, hk⟩ := exists_of_forall₂ hkeeps.flip hg
      exact hk.isNumbered_iff.mpr (hshort sigs hsigs)
    obtain ⟨c, hc⟩ := (exists_encode_iff hbinary).mpr ⟨gs, hgs, hnumbered⟩
    obtain ⟨hbody, hsigs⟩ := Legacy.fitsMsgpack_of_record? ht htx
    have hread := decode_of_encode_of_lt_binary hbinary hbody hsigs hc
    rw [← hrefs] at hread
    exact ⟨c, hc, hread⟩
  · rintro ⟨sigs, hsigs, hlong⟩
    obtain ⟨g, hg, hk⟩ := exists_of_forall₂ hkeeps hsigs
    have hnot : ¬ g.IsNumbered := fun hn => absurd (hk.isNumbered_iff.mp hn) (Nat.not_lt.mpr hlong)
    rw [encode_of_lt_binary hbinary]
    exact Legacy.write_eq_error hgs ⟨g, hg, hnot⟩

/-- A transaction with nothing in it. -/
def blank : Transaction where
  version := 1
  asset := Hash.zero

theorem fitsMsgpack_blank : blank.FitsMsgpack :=
  ⟨by decide, by simp [blank], by decide, by simp [blank], by decide⟩

def writeLists (ls : List (List Signature)) : Bytes :=
  Msgpack.writeArray (ls.map fun l =>
    Msgpack.writeArray (l.map fun s => Msgpack.writeBin s.toBytes))

/-- The blank transaction in the msgpack form with one list of signatures. -/
def writeBlank (l : List Signature) : Bytes :=
  Legacy.writeWith blank (some (writeLists [l]))

theorem splitHeader?_writeBlank (l : List Signature) : Wire.splitHeader? (writeBlank l) = none :=
  splitHeader?_writeWith blank (some (writeLists [l]))

theorem record?_writeBlank {l : List Signature} (h : l.length < 2 ^ 32) :
    Legacy.record? (writeBlank l) =
      some (.ofTransaction blank [l.map Signature.toBytes]) := by
  have hlists : Msgpack.ReadsAs 1022 (Legacy.listOf? (Legacy.listOf? Msgpack.Value.bytes?))
      (writeLists [l]) [l.map Signature.toBytes] := by
    refine Legacy.readsAs_list (fun l' hl' => ?_) (Nat.one_lt_two_pow (by decide))
    obtain rfl := List.mem_singleton.mp hl'
    exact Legacy.readsAs_signatures 1020 h
  refine Legacy.record?_writeWith fitsMsgpack_blank (absurd · (by simp)) fun b hb => ?_
  obtain rfl := Option.some.inj hb
  exact hlists

/-- What the reader makes of it. -/
def signedBlank (l : List Signature) : Transaction :=
  { blank with signatures := .groups [SignerMap.ofSignatures l] }

theorem decode_writeBlank {l : List Signature} (h : l.length < 2 ^ 32) :
    decode (writeBlank l) = .ok (signedBlank l) := by
  have hgroup : Legacy.checkGroup (l.map Signature.toBytes) = .ok (SignerMap.ofSignatures l) :=
    Legacy.checkGroup_eq_ok_iff.mpr ⟨l, rfl, rfl⟩
  have hcheck := Legacy.check_ofTransaction blank (mapM_eq_ok_iff.mpr (.cons hgroup .nil))
  have hversion : blank.version.toNat < Version.binary.toNat := by decide
  rw [decode, splitHeader?_writeBlank]
  exact Legacy.read_eq_ok_iff.mpr ⟨_, record?_writeBlank h, hversion, hcheck⟩

/-- Two signatures are kept and written again. Of one more than there are signers, one is lost. -/
theorem keepsLast_of_decode_writeBlank :
    (∃ tx g c, Wire.splitHeader? (writeBlank [Signature.zero, Signature.zero]) = none ∧
      decode (writeBlank [Signature.zero, Signature.zero]) = .ok tx ∧
      tx.signatures = .groups [g] ∧ g.Lists [Signature.zero.toBytes, Signature.zero.toBytes] ∧
      tx.encode = .ok c ∧ decode c = .ok tx) ∧
    ∃ tx g, decode (writeBlank (List.replicate 65537 Signature.zero)) = .ok tx ∧
      tx.signatures = .groups [g] ∧
      ¬ g.Lists ((List.replicate 65537 Signature.zero).map Signature.toBytes) ∧
      tx.encode = .error .legacySignerIndices := by
  constructor
  · have hlt : [Signature.zero, Signature.zero].length < 2 ^ 32 := by decide
    have hheader := splitHeader?_writeBlank [Signature.zero, Signature.zero]
    have hdecode := decode_writeBlank hlt
    obtain ⟨t, gs, ht, hgs, hkeeps, hback, _⟩ := keepsLast_of_decode hheader hdecode
    obtain rfl := Option.some.inj ((record?_writeBlank hlt).symm.trans ht)
    obtain rfl := Signatures.groups.inj hgs
    have hlists := (List.forall₂_cons.mp hkeeps).1.2.mpr (by decide)
    obtain ⟨c, hc, hread⟩ := hback (by decide)
    exact ⟨_, _, c, hheader, hdecode, rfl, hlists, hc, hread⟩
  · have hlength : (List.replicate 65537 Signature.zero).length = 65537 := List.length_replicate
    have hlt := hlength.trans_lt (by decide : 65537 < 2 ^ 32)
    have hdecode := decode_writeBlank hlt
    obtain ⟨t, gs, ht, hgs, hkeeps, _, hlong⟩ :=
      keepsLast_of_decode (splitHeader?_writeBlank _) hdecode
    obtain rfl := Option.some.inj ((record?_writeBlank hlt).symm.trans ht)
    obtain rfl := Signatures.groups.inj hgs
    have hlists := (List.forall₂_cons.mp hkeeps).1.2
    have hmore : 2 ^ 16 < ((List.replicate 65537 Signature.zero).map Signature.toBytes).length := by
      rw [List.length_map, hlength]
      decide
    exact ⟨_, _, hdecode, rfl, fun h => Nat.not_le.mpr hmore (hlists.mp h),
      hlong ⟨_, List.mem_singleton_self _, Nat.le_of_lt hmore⟩⟩

/-- As many signatures as there are signers are all read, but cannot be written again. -/
theorem not_forall_lists_of_decode :
    ¬ ∀ (b : Bytes) (tx : Transaction), Wire.splitHeader? b = none → decode b = .ok tx →
      ∃ t gs, Legacy.record? b = some t ∧ tx.signatures = .groups gs ∧
        List.Forall₂ (fun sigs g => g.Lists sigs) t.signatures gs ∧
        ∃ c, tx.encode = .ok c ∧ decode c = .ok tx := by
  intro hall
  have hlength : (List.replicate 65536 Signature.zero).length = 65536 := List.length_replicate
  have hlt := hlength.trans_lt (by decide : 65536 < 2 ^ 32)
  obtain ⟨_, _, _, _, _, c, hc, _⟩ := hall _ _ (splitHeader?_writeBlank _) (decode_writeBlank hlt)
  have hversion : blank.version < Version.binary := by decide
  obtain ⟨gs, hgs, hnumbered⟩ := (@exists_encode_iff (signedBlank _) hversion).mp ⟨c, hc⟩
  obtain rfl := Signatures.groups.inj hgs
  have hone := hnumbered _ (List.mem_singleton_self _)
  rw [(SignerMap.keepsLast_ofSignatures _).isNumbered_iff, List.length_map, hlength] at hone
  exact absurd hone (by decide)

end Transaction

end KernelWallet
