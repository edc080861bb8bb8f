import KernelWallet.Proofs.Json
import KernelWallet.Proofs.Wire.Canonical
import KernelWallet.Transaction.Json

/-! The signers of an aggregated signature are those that it was given, be it as a list, as JSON or
as bytes, and a set of signers has one bitmap. -/

namespace KernelWallet

namespace SignerSet

variable {s : SignerSet} {given : List UInt16}

/-- The signers are those of a list that may name them in any order and more than once, and each
is there once, in strictly ascending order. -/
structure Holds (s : SignerSet) (given : List UInt16) : Prop where
  ascending : s.toList.Pairwise (· < ·)
  mem_iff (m : UInt16) : m ∈ s.toList ↔ m ∈ given

theorem holds_ofList (given : List UInt16) : (ofList given).Holds given :=
  ⟨(ofList given).ascending, fun _ => mem_toList_ofList⟩

theorem holds_toList (s : SignerSet) : s.Holds s.toList :=
  ⟨s.ascending, fun _ => Iff.rfl⟩

theorem holds_iff : s.Holds given ↔ s = ofList given := by
  constructor
  · intro h
    refine eq_of_toList_eq (h.ascending.eq_of_mem_iff (ofList given).ascending fun m => ?_)
    rw [h.mem_iff, mem_toList_ofList]
  · rintro rfl
    exact holds_ofList given

theorem bitmap_of_toList_eq {bitmap : Bytes} (hlen : bitmap.length ≤ 8192)
    (hlast : bitmap.getLast? ≠ some 0) (h : s.toList = listOfBitmap bitmap) :
    s.bitmap = bitmap := by
  rw [← s.ofList_toList, h, bitmap_ofList hlen hlast]

theorem isSparse_iff : s.isSparse = true ↔ 2 * s.toList.length < s.bitmap.length := by
  rw [isSparse, decide_eq_true_iff, length_bitmap, Nat.mul_comm]

end SignerSet

/-! ## JSON -/

namespace AggregatedSignature

/-- A record names a signature and lists signers. -/
def IsGivenIn (j : Json) (sig : Signature) (given : List UInt16) : Prop :=
  ∃ r, j.record? ["signature", "signers"] = some r ∧
    r.required "signature" Signature.ofJson? = some sig ∧
    r.fields.lookup "signers" = some (.list (fun m => .nat m.toNat) given)

theorem required_signers_iff {r : Json.Record} {given : List UInt16} :
    r.required "signers" (Json.list? Json.uint16?) = some given ↔
      r.fields.lookup "signers" = some (.list (fun m => .nat m.toNat) given) := by
  simp [Json.Record.required, Option.bind_eq_some_iff,
    Json.list?_eq_some_iff fun _ _ => Json.uint16?_eq_some_iff]

theorem ofJson?_eq_some_iff {j : Json} {a : AggregatedSignature} :
    ofJson? j = some a ↔ ∃ given, IsGivenIn j a.signature given ∧ a.signers.Holds given := by
  simp only [ofJson?, Option.bind_eq_bind, Option.bind_eq_some_iff, required_signers_iff,
    SignerSet.holds_iff]
  constructor
  · rintro ⟨r, hr, sig, hsig, given, hgiven, h⟩
    obtain rfl := Option.some.inj h
    exact ⟨given, ⟨r, hr, hsig, hgiven⟩, rfl⟩
  · rintro ⟨given, ⟨r, hr, hsig, hgiven⟩, hsigners⟩
    exact ⟨r, hr, a.signature, hsig, given, hgiven, by rw [← hsigners]; rfl⟩

end AggregatedSignature

/-! ## Bytes -/

namespace Wire

/-- The two layouts of signers, `true` for the ascending list behind its length and `false` for the
bitmap, which does not end in a zero byte and whose bits stand for the signers. -/
inductive LaysOut : Bool → List UInt16 → Bytes → Prop
  | list {given : List UInt16} {count : Bytes} (hgiven : given.Pairwise (· < ·))
      (hcount : writeCount "signers" given.length = .ok count) :
      LaysOut true given ([Marker.list] ++ count ++ given.flatMap writeUInt16)
  | bitmap {given : List UInt16} {bitmap b : Bytes} (hlen : bitmap.length ≤ 8192)
      (hlast : bitmap.getLast? ≠ some 0)
      (hbit : ∀ m, m ∈ given ↔ SignerSet.bitAt bitmap m.toNat = true)
      (hb : writeBytes "signers" bitmap = .ok b) : LaysOut false given ([Marker.bitmap] ++ b)

variable {s : SignerSet} {given : List UInt16} {layout : Bytes}

theorem laysOut_of_writeSigners (h : writeSigners s = .ok layout) :
    LaysOut s.isSparse s.toList layout := by
  rw [writeSigners] at h
  split at h
  · next hsparse =>
    obtain ⟨count, hcount, h⟩ := bind_eq_ok_iff.mp h
    obtain rfl := Except.ok.inj h
    rw [hsparse]
    exact .list s.ascending hcount
  · next hsparse =>
    obtain ⟨b, hb, h⟩ := bind_eq_ok_iff.mp h
    obtain rfl := Except.ok.inj h
    rw [Bool.eq_false_iff.mpr hsparse]
    exact .bitmap (s.length_bitmap.trans_le s.bitmapLength_le) s.getLast?_bitmap_ne
      (fun m => SignerSet.bitAt_bitmap_toNat.symm) hb

theorem writeSigners_of_laysOut (h : s.Holds given) (hl : LaysOut s.isSparse given layout) :
    writeSigners s = .ok layout := by
  rw [writeSigners]
  generalize s.isSparse = sparse at hl
  cases hl with
  | list hgiven hcount =>
    obtain rfl := h.ascending.eq_of_mem_iff hgiven h.mem_iff
    rw [if_pos rfl, hcount]
    rfl
  | bitmap hlen hlast hbit hb =>
    have hlist : s.toList = SignerSet.listOfBitmap _ :=
      h.ascending.eq_of_mem_iff (SignerSet.pairwise_listOfBitmap hlen) fun m => by
        rw [h.mem_iff, hbit, SignerSet.mem_listOfBitmap hlen]
    rw [if_neg Bool.false_ne_true, s.bitmap_of_toList_eq hlen hlast hlist, hb]
    rfl

theorem readAggregated_eq_ok_iff {a : AggregatedSignature} {bytes rest : Bytes} :
    readAggregated.run bytes = .ok (a, rest) ↔
      ∃ given layout, a.signers.Holds given ∧ LaysOut a.signers.isSparse given layout ∧
        bytes = writeUInt16 Marker.aggregateKind ++ (a.signature.toBytes ++ (layout ++ rest)) := by
  constructor
  · intro h
    obtain ⟨layout, hlayout, hbytes⟩ := exists_writeAggregated h
    exact ⟨_, layout, a.signers.holds_toList, laysOut_of_writeSigners hlayout, hbytes⟩
  · rintro ⟨given, layout, hgiven, hlayout, rfl⟩
    rw [← List.append_assoc a.signature.toBytes, ← List.append_assoc (writeUInt16 _)]
    exact reads_aggregated (writeSigners_of_laysOut hgiven hlayout) rest

end Wire

namespace AggregatedSignature

/-- However the signers of an aggregated signature are given, it holds them in strictly ascending
order and no others. Sets of signers and the bitmaps of at most 8192 bytes that do not end in a zero
byte correspond one to one, and the list is the layout exactly if it is shorter than the bitmap. -/
theorem signers_correspond :
    (∀ given, (SignerSet.ofList given).Holds given) ∧
    (∀ j a, ofJson? j = some a ↔
      ∃ given, IsGivenIn j a.signature given ∧ a.signers.Holds given) ∧
    (∀ bytes a rest, Wire.readAggregated.run bytes = .ok (a, rest) ↔
      ∃ given layout, a.signers.Holds given ∧ Wire.LaysOut a.signers.isSparse given layout ∧
        bytes = Wire.writeUInt16 Marker.aggregateKind ++
          (a.signature.toBytes ++ (layout ++ rest))) ∧
    (∀ s : SignerSet, SignerSet.listOfBitmap s.bitmap = s.toList ∧ s.bitmap.getLast? ≠ some 0) ∧
    (∀ m : Bytes, m.length ≤ 8192 → m.getLast? ≠ some 0 →
      (SignerSet.listOfBitmap m).Pairwise (· < ·) ∧
        ∃ s : SignerSet, s.toList = SignerSet.listOfBitmap m ∧ s.bitmap = m) ∧
    ∀ s : SignerSet, s.isSparse = true ↔ 2 * s.toList.length < s.bitmap.length := by
  refine ⟨SignerSet.holds_ofList, fun _ _ => ofJson?_eq_some_iff,
    fun _ _ _ => Wire.readAggregated_eq_ok_iff, fun s => ?_, fun m hlen hlast => ?_,
    fun _ => SignerSet.isSparse_iff⟩
  · exact ⟨s.listOfBitmap_bitmap, s.getLast?_bitmap_ne⟩
  · have hpairwise := SignerSet.pairwise_listOfBitmap hlen
    exact ⟨hpairwise, SignerSet.ofList (SignerSet.listOfBitmap m),
      SignerSet.toList_ofList hpairwise, SignerSet.bitmap_ofList hlen hlast⟩

/-- An aggregated signature whose one signer, 15, stands in a bitmap of two bytes. -/
def fifteenBytes : Bytes :=
  Wire.writeUInt16 Marker.aggregateKind ++
    (List.replicate 64 8 ++ [Marker.bitmap, 0, 2, 0x00, 0x80])

theorem signers_correspond_fifteen :
    (∃ a, Wire.readAggregated.run fifteenBytes = .ok (a, []) ∧
      ∃ given layout, a.signers.Holds given ∧ Wire.LaysOut a.signers.isSparse given layout ∧
        fifteenBytes = Wire.writeUInt16 Marker.aggregateKind ++
          (a.signature.toBytes ++ (layout ++ []))) ∧
    ([0x00, 0x80] : Bytes).length ≤ 8192 ∧ ([0x00, 0x80] : Bytes).getLast? ≠ some 0 ∧
      (SignerSet.listOfBitmap [0x00, 0x80]).Pairwise (· < ·) ∧
      ∃ s : SignerSet, s.toList = SignerSet.listOfBitmap [0x00, 0x80] ∧
        s.bitmap = [0x00, 0x80] := by
  obtain ⟨_, _, hwire, _, hbitmap, _⟩ := signers_correspond
  have hread : Wire.readAggregated.run fifteenBytes =
      .ok (⟨⟨Vector.replicate 64 8⟩, SignerSet.ofList [15]⟩, []) := by
    decide +kernel
  have hlen : ([0x00, 0x80] : Bytes).length ≤ 8192 := by decide
  have hlast : ([0x00, 0x80] : Bytes).getLast? ≠ some 0 := by decide
  exact ⟨⟨_, hread, (hwire _ _ _).mp hread⟩, hlen, hlast, hbitmap _ hlen hlast⟩

end AggregatedSignature

end KernelWallet
