import KernelWallet.Address.Xin
import KernelWallet.Proofs.Base58
import KernelWallet.Proofs.Reading

/-! The text of an address is the only one that is read as this address: the prefix is taken off as
it stands, base58 has one spelling for a byte string, and the payload determines the checksum. -/

namespace KernelWallet

namespace Checked

variable {c : Checked} {s : String} {b payload : Bytes}

theorem length_checksum (c : Checked) (payload : Bytes) : (c.checksum payload).length = 4 := by
  simp [checksum, Hash.toBytes]

theorem decode_eq_ok_iff :
    c.decode s = .ok b ↔ c.tag.toList ++ Base58.encode b = s.toList := by
  rw [decode]
  by_cases hprefix : c.tag.toList.isPrefixOf s.toList = true
  · obtain ⟨text, htext⟩ := List.isPrefixOf_iff_prefix.mp hprefix
    rw [if_pos hprefix, ← htext, List.drop_left, List.append_cancel_left_eq,
      ← Base58.decode?_eq_some_iff]
    cases Base58.decode? text <;> simp
  · rw [if_neg hprefix]
    refine iff_of_false nofun fun htext => hprefix ?_
    rw [← htext]
    exact List.isPrefixOf_iff_prefix.mpr (List.prefix_append _ _)

theorem text_eq_iff : c.text payload = s ↔ c.decode s = .ok (payload ++ c.checksum payload) := by
  rw [decode_eq_ok_iff, text]
  constructor
  · rintro rfl
    rw [String.toList_ofList]
  · intro htext
    rw [htext, String.ofList_toList]

end Checked

namespace Address

variable {a : Address} {s : String} {b : Bytes}

theorem length_payload (a : Address) : a.payload.length = 64 := by
  simp [payload, Key.toBytes]

theorem ofPayload?_payload (a : Address) : ofPayload? a.payload = some a := by
  have hspend : a.payload.take 32 = a.publicSpend.bytes.toList := by
    simp [payload, Key.toBytes]
  have hview : a.payload.drop 32 = a.publicView.bytes.toList := by
    simp [payload, Key.toBytes]
  simp only [ofPayload?, hspend, hview, Bytes.toVector?_toList]
  rfl

theorem payload_of_ofPayload? (h : ofPayload? b = some a) : a.payload = b := by
  simp only [ofPayload?, Option.bind_eq_bind, Option.bind_eq_some_iff] at h
  obtain ⟨spend, hspend, view, hview, h⟩ := h
  obtain rfl := Option.some.inj h
  rw [payload, Key.toBytes, Key.toBytes, Bytes.toList_of_toVector? hspend,
    Bytes.toList_of_toVector? hview, List.take_append_drop]

/-- What is read as an address is its payload and the checksum of that payload, and nothing behind
them. -/
theorem ofText_eq_ok_iff_decode :
    ofText s = .ok a ↔ format.decode s = .ok (a.payload ++ format.checksum a.payload) := by
  rw [ofText, bind_eq_ok_iff]
  constructor
  · rintro ⟨b, hb, h⟩
    cases hread : ofPayload? (b.take 64) with
    | none => exact absurd h (by simp [hread])
    | some a' =>
      simp only [hread, guard_bind_eq_ok_iff, not_not] at h
      obtain ⟨_, hsum, h⟩ := h
      obtain rfl := Except.ok.inj h
      rw [hb, hsum, payload_of_ofPayload? hread, List.take_append_drop]
  · intro hb
    have htake : (a.payload ++ format.checksum a.payload).take 64 = a.payload :=
      List.take_left' (length_payload a)
    have hdrop : (a.payload ++ format.checksum a.payload).drop 64 = format.checksum a.payload :=
      List.drop_left' (length_payload a)
    have hlen : (a.payload ++ format.checksum a.payload).length = 68 := by
      rw [List.length_append, length_payload, Checked.length_checksum]
    refine ⟨_, hb, ?_⟩
    simp only [htake, hdrop, ofPayload?_payload, guard_bind_eq_ok_iff, hlen, not_not]
    exact ⟨trivial, trivial, rfl⟩

/-- A text is read as an address exactly if it is the text of that address, so no other spelling is
accepted and no two addresses share a text. -/
theorem ofText_eq_ok_iff (s : String) (a : Address) : ofText s = .ok a ↔ a.toText = s :=
  ofText_eq_ok_iff_decode.trans Checked.text_eq_iff.symm

end Address

end KernelWallet
