import ImagePrompt.Text.Utf8
/-!
# Octets of ASCII texts

A character below 128 is one octet, the same number; every other character
begins with an octet above. So the octets of an ASCII text are those of no other
text, and each of them is read back on its own.
-/

namespace ImagePrompt.Text.Utf8

/-- A text whose characters are below 128. -/
def IsAscii (cs : List Char) : Prop := ∀ c ∈ cs, c.toNat < 128

theorem encodeChar_of_lt {c : Char} (h : c.toNat < 128) : encodeChar c = [UInt8.ofNat c.toNat] := by
  simp [encodeChar, h]

theorem utf8ByteSize_of_ascii {s : String} (h : IsAscii s.toList) : s.utf8ByteSize = s.length := by
  have hchars : ∀ cs, IsAscii cs → (String.ofList cs).utf8ByteSize = cs.length := by
    intro cs hcs
    induction cs with
    | nil => rfl
    | cons c cs ih =>
      obtain ⟨hc, hrest⟩ := List.forall_mem_cons.1 hcs
      have hone : c.utf8Size = 1 := by
        rw [Char.utf8Size_eq_one_iff, UInt32.le_iff_toNat_le]
        exact Nat.le_of_lt_succ hc
      rw [String.ofList_cons, String.utf8ByteSize_append, String.utf8ByteSize_singleton, hone,
        ih hrest, List.length_cons, Nat.add_comm]
  have hs := hchars s.toList h
  rwa [String.ofList_toList, String.length_toList] at hs

theorem exists_encodeChar_of_le {c : Char} (h : 128 ≤ c.toNat) :
    ∃ lead rest, encodeChar c = lead :: rest ∧ 128 ≤ lead.toNat := by
  have hlt : c.toNat < 0x110000 := by
    rcases c.valid with hlow | ⟨-, hhigh⟩
    · exact Nat.lt_trans hlow (by omega)
    · exact hhigh
  have hone : ¬ c.toNat < 0x80 := by omega
  unfold encodeChar
  by_cases htwo : c.toNat < 0x800
  · refine ⟨_, _, by simp only [hone, htwo, if_true, if_false]; rfl, ?_⟩
    rw [UInt8.toNat_ofNat']
    omega
  by_cases hthree : c.toNat < 0x10000
  · refine ⟨_, _, by simp only [hone, htwo, hthree, if_true, if_false]; rfl, ?_⟩
    rw [UInt8.toNat_ofNat']
    omega
  · refine ⟨_, _, by simp only [hone, htwo, hthree, if_false]; rfl, ?_⟩
    rw [UInt8.toNat_ofNat']
    omega

theorem flatMap_encodeChar_of_ascii {cs : List Char} (h : IsAscii cs) :
    cs.flatMap encodeChar = cs.map fun c => UInt8.ofNat c.toNat := by
  induction cs with
  | nil => rfl
  | cons c cs ih =>
    obtain ⟨hc, hcs⟩ := List.forall_mem_cons.1 h
    rw [List.flatMap_cons, encodeChar_of_lt hc, ih hcs]
    rfl

theorem eq_of_flatMap_encodeChar {cs ds : List Char} (hds : IsAscii ds)
    (h : cs.flatMap encodeChar = ds.flatMap encodeChar) : cs = ds := by
  rw [flatMap_encodeChar_of_ascii hds] at h
  induction cs generalizing ds with
  | nil => exact (List.map_eq_nil_iff.1 h.symm).symm
  | cons c cs ih =>
    by_cases hc : c.toNat < 128
    · rw [List.flatMap_cons, encodeChar_of_lt hc, List.singleton_append] at h
      obtain ⟨d, ds, rfl, hd, hrest⟩ := List.map_eq_cons_iff.1 h.symm
      obtain ⟨hlt, hds⟩ := List.forall_mem_cons.1 hds
      have hnat := congrArg UInt8.toNat hd
      rw [UInt8.toNat_ofNat', UInt8.toNat_ofNat'] at hnat
      have hsame : d.toNat = c.toNat := by omega
      rw [Char.toNat_inj.1 hsame, ih hds hrest.symm]
    · obtain ⟨lead, rest, hlead, hle⟩ := exists_encodeChar_of_le (Nat.not_lt.1 hc)
      rw [List.flatMap_cons, hlead, List.cons_append] at h
      obtain ⟨d, ds, rfl, hd, -⟩ := List.map_eq_cons_iff.1 h.symm
      have hlt : d.toNat < 128 := hds d List.mem_cons_self
      have hnat := congrArg UInt8.toNat hd
      rw [UInt8.toNat_ofNat'] at hnat
      omega

theorem encode_eq_encode_iff {s t : String} (ht : IsAscii t.toList) :
    encode s = encode t ↔ s = t := by
  constructor
  · intro h
    exact String.toList_inj.1 (eq_of_flatMap_encodeChar ht h)
  · rintro rfl
    rfl

theorem begin_of_ascii {c : Char} (h : c.toNat < 128) :
    begin (UInt8.ofNat c.toNat) = ([some c], .start) := by
  have hoctet : (UInt8.ofNat c.toNat).toNat = c.toNat := by
    rw [UInt8.toNat_ofNat']
    omega
  unfold begin
  rw [hoctet, if_pos h, Char.ofNat_toNat]

theorem scan_ascii {cs : List Char} (h : IsAscii cs) :
    scan .start (cs.map fun c => UInt8.ofNat c.toNat) = cs.map some := by
  induction cs with
  | nil => rfl
  | cons c cs ih =>
    obtain ⟨hc, hcs⟩ := List.forall_mem_cons.1 h
    rw [List.map_cons, scan, step, begin_of_ascii hc]
    exact congrArg (some c :: ·) (ih hcs)

/-- ASCII is decoded octet by octet. -/
theorem decodeLossy_ascii {s : String} (h : IsAscii s.toList) :
    decodeLossy (s.toList.map fun c => UInt8.ofNat c.toNat) = s := by
  unfold decodeLossy
  rw [scan_ascii h, List.map_map]
  simp [Function.comp_def]

end ImagePrompt.Text.Utf8
