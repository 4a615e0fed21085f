import ImagePrompt.Bytes.Base64
import ImagePrompt.Proofs.Success
import ImagePrompt.Proofs.Text.Utf8
/-!
# Base 64 both ways

Reading accepts the texts that writing produces and no others. Groups of four
symbols are looked at by their numbers below 64; the last group is read up to
its padding, and the bits that it leaves unused are zero.
-/

namespace ImagePrompt.Base64

/-! ## Symbols -/

theorem toNat_symbol {n : Nat} (h : n < 64) :
    (symbol n).toNat =
      if n < 26 then 65 + n else if n < 52 then 71 + n else if n < 62 then n - 4
      else if n = 62 then 43 else 47 := by
  have hvalid {m : Nat} (hm : m < 128) : (Char.ofNat m).toNat = m := by
    have hchar : m.isValidChar := Or.inl (by omega)
    unfold Char.ofNat
    rw [dif_pos hchar]
    rfl
  unfold symbol
  by_cases h26 : n < 26
  · rw [if_pos h26, if_pos h26, hvalid (by omega)]
  by_cases h52 : n < 52
  · rw [if_neg h26, if_neg h26, if_pos h52, if_pos h52, hvalid (by omega)]
  by_cases h62 : n < 62
  · rw [if_neg h26, if_neg h26, if_neg h52, if_neg h52, if_pos h62, if_pos h62, hvalid (by omega)]
  have hlast : n = 62 ∨ n = 63 := by omega
  rcases hlast with rfl | rfl <;> rfl

def octet (n : Nat) : UInt8 := UInt8.ofNat (symbol n).toNat

theorem toNat_octet {n : Nat} (h : n < 64) : (octet n).toNat = (symbol n).toNat := by
  have hlt : (symbol n).toNat < 256 := by
    rw [toNat_symbol h]
    split_ifs <;> omega
  exact UInt8.toNat_ofNat_of_lt' hlt

theorem value?_eq_some_iff {b : UInt8} {n : Nat} : value? b = some n ↔ n < 64 ∧ b = octet n := by
  have hvalue : value? b = some n ↔
      n < 64 ∧ b.toNat = if n < 26 then 65 + n else if n < 52 then 71 + n
        else if n < 62 then n - 4 else if n = 62 then 43 else 47 := by
    have hb : b.toNat < 256 := b.toNat_lt
    simp only [value?, Bool.and_eq_true, decide_eq_true_eq, beq_iff_eq]
    split_ifs <;> simp only [Option.some.injEq, false_iff] <;> omega
  rw [hvalue]
  refine and_congr_right fun h => ?_
  rw [← UInt8.toNat_inj, toNat_octet h, toNat_symbol h]

theorem value_eq_ok_iff {offset n : Nat} {b : UInt8} :
    value offset b = .ok n ↔ n < 64 ∧ b = octet n := by
  rw [← value?_eq_some_iff]
  unfold value
  cases value? b <;> simp

theorem octet_ne_padding {n : Nat} (h : n < 64) : octet n ≠ padding := by
  intro heq
  have hnat : (octet n).toNat = 61 := congrArg UInt8.toNat heq
  rw [toNat_octet h, toNat_symbol h] at hnat
  split_ifs at hnat <;> omega

/-! ## Written bytes -/

def octets (bs : Bytes) : Bytes := (encodeChars bs).map fun c => UInt8.ofNat c.toNat

theorem octets_one (a : UInt8) :
    octets [a] = [octet (a.toNat * 16 / 64), octet (a.toNat * 16 % 64), padding, padding] := rfl

theorem octets_two (a b : UInt8) :
    octets [a, b] =
      [octet ((a.toNat * 256 + b.toNat) * 4 / 4096), octet ((a.toNat * 256 + b.toNat) * 4 / 64 % 64),
        octet ((a.toNat * 256 + b.toNat) * 4 % 64), padding] := rfl

theorem octets_cons (a b c : UInt8) (rest : Bytes) :
    octets (a :: b :: c :: rest) =
      octet (((a.toNat * 256 + b.toNat) * 256 + c.toNat) / 262144) ::
        octet (((a.toNat * 256 + b.toNat) * 256 + c.toNat) / 4096 % 64) ::
        octet (((a.toNat * 256 + b.toNat) * 256 + c.toNat) / 64 % 64) ::
        octet (((a.toNat * 256 + b.toNat) * 256 + c.toNat) % 64) :: octets rest := rfl

theorem octets_append {front : Bytes} (h : front.length % 3 = 0) (last : Bytes) :
    octets (front ++ last) = octets front ++ octets last := by
  fun_induction encodeChars front with
  | case1 => rfl
  | case2 a => simp at h
  | case3 a b => simp at h
  | case4 a b c rest n ih =>
    have hrest : rest.length % 3 = 0 := by
      simp only [List.length_cons] at h
      omega
    simp only [List.cons_append, octets_cons, ih hrest]

theorem length_octets (bs : Bytes) : (octets bs).length = (bs.length + 2) / 3 * 4 := by
  fun_induction encodeChars bs with
  | case1 => rfl
  | case2 a => simp [octets_one]
  | case3 a b => simp [octets_two]
  | case4 a b c rest n ih =>
    simp only [octets_cons, List.length_cons, ih]
    omega

/-! ## Groups of four -/

/-- Four numbers below 64 and three bytes make the same number of 24 bits. -/
theorem octets_cons_of_values {x y z w n : Nat} (hx : x < 64) (hy : y < 64) (hz : z < 64)
    (hw : w < 64) (hn : n = ((x * 64 + y) * 64 + z) * 64 + w) (rest : Bytes) :
    octets (UInt8.ofNat (n / 65536) :: UInt8.ofNat (n / 256) :: UInt8.ofNat n :: rest) =
      octet x :: octet y :: octet z :: octet w :: octets rest := by
  have hbytes : (n / 65536 % 256 * 256 + n / 256 % 256) * 256 + n % 256 = n := by omega
  have hx' : n / 262144 = x := by omega
  have hy' : n / 4096 % 64 = y := by omega
  have hz' : n / 64 % 64 = z := by omega
  have hw' : n % 64 = w := by omega
  simp only [octets_cons, UInt8.toNat_ofNat', Nat.reducePow, hbytes, hx', hy', hz', hw']

theorem ofNat_eq_of_mod {n : Nat} {b : UInt8} (h : n % 256 = b.toNat) : UInt8.ofNat n = b := by
  rw [← UInt8.toNat_inj, UInt8.toNat_ofNat']
  exact h

theorem decodeGroups_octets {front : Bytes} (h : front.length % 3 = 0) (offset : Nat) :
    decodeGroups offset (octets front) = .ok front := by
  fun_induction encodeChars front generalizing offset with
  | case1 => rfl
  | case2 a => simp at h
  | case3 a b => simp at h
  | case4 a b c rest n ih =>
    have ha : a.toNat < 256 := a.toNat_lt
    have hb : b.toNat < 256 := b.toNat_lt
    have hc : c.toNat < 256 := c.toNat_lt
    have hn : n = (a.toNat * 256 + b.toNat) * 256 + c.toNat := rfl
    have hrest : rest.length % 3 = 0 := by
      simp only [List.length_cons] at h
      omega
    have hsymbols : ((n / 262144 * 64 + n / 4096 % 64) * 64 + n / 64 % 64) * 64 + n % 64 = n := by
      omega
    rw [octets_cons, ← hn, decodeGroups]
    rw [value_eq_ok_iff.2 ⟨by omega, rfl⟩, value_eq_ok_iff.2 ⟨by omega, rfl⟩,
      value_eq_ok_iff.2 ⟨by omega, rfl⟩, value_eq_ok_iff.2 ⟨by omega, rfl⟩, ih hrest]
    simp only [bind, Except.bind, pure, Except.pure, hsymbols]
    rw [ofNat_eq_of_mod (b := a) (by omega), ofNat_eq_of_mod (b := b) (by omega),
      ofNat_eq_of_mod (b := c) (by omega)]

theorem eq_octets_of_decodeGroups {group front : Bytes} {offset : Nat} (h : group.length % 4 = 0)
    (hok : decodeGroups offset group = .ok front) :
    front.length % 3 = 0 ∧ group = octets front := by
  fun_induction decodeGroups offset group generalizing front with
  | case1 offset a b c d rest ih =>
    simp only [Success.bind_eq_ok, Success.pure_eq_ok, value_eq_ok_iff] at hok
    obtain ⟨x, ⟨hx, rfl⟩, y, ⟨hy, rfl⟩, z, ⟨hz, rfl⟩, w, ⟨hw, rfl⟩, tail, htail, rfl⟩ := hok
    have hrest : rest.length % 4 = 0 := by
      simp only [List.length_cons] at h
      omega
    obtain ⟨hlength, rfl⟩ := ih hrest htail
    refine ⟨?_, (octets_cons_of_values hx hy hz hw rfl tail).symm⟩
    simp only [List.length_cons]
    omega
  | case2 group offset hshort =>
    obtain rfl := Except.ok.inj hok
    have hnil : group = [] := by
      match group, hshort with
      | [], _ => rfl
      | [_], _ => simp at h
      | [_, _], _ => simp at h
      | [_, _, _], _ => simp at h
      | a :: b :: c :: d :: rest, hshort => exact absurd rfl (hshort a b c d rest)
    exact ⟨rfl, hnil⟩

/-! ## The last group -/

/-- The numbers before the padding, and how much padding there is. -/
theorem lastValues_eq_ok_iff {offset index pads : Nat} {group : Bytes} {xs : List Nat} :
    lastValues offset index group = .ok (xs, pads) ↔
      group = xs.map octet ++ List.replicate pads padding ∧ (∀ x ∈ xs, x < 64) ∧
        (pads ≠ 0 → 2 ≤ index + xs.length) := by
  constructor
  · intro h
    fun_induction lastValues offset index group generalizing xs pads with
    | case1 => cases h; simp
    | case2 => cases h
    | case3 index b rest hb hindex hall =>
      cases h
      have hrest : rest = List.replicate rest.length padding :=
        List.eq_replicate_of_mem fun c hc => by simpa using List.all_eq_true.1 hall c hc
      have hlength : 2 ≤ index + ([] : List Nat).length := Nat.not_lt.1 hindex
      refine ⟨?_, by simp, fun _ => hlength⟩
      rw [List.map_nil, List.nil_append, List.replicate_succ, ← hrest, beq_iff_eq.1 hb]
    | case4 => cases h
    | case5 index b rest hb ih =>
      simp only [Success.bind_eq_ok, Success.pure_eq_ok, Prod.exists, value_eq_ok_iff,
        Prod.mk.injEq] at h
      obtain ⟨x, ⟨hx, rfl⟩, ys, pads', hrest, rfl, rfl⟩ := h
      obtain ⟨hgroup, hys, hpads⟩ := ih hrest
      refine ⟨by rw [hgroup]; rfl, List.forall_mem_cons.2 ⟨hx, hys⟩, fun h0 => ?_⟩
      have hlength := hpads h0
      rw [List.length_cons]
      omega
  · rintro ⟨rfl, hxs, hpads⟩
    induction xs generalizing index with
    | nil =>
      cases pads with
      | zero => rfl
      | succ pads =>
        have hlength := hpads (by omega)
        have hindex : ¬ index < 2 := Nat.not_lt.2 hlength
        rw [List.map_nil, List.nil_append, List.replicate_succ, lastValues]
        simp [hindex]
    | cons x xs ih =>
      obtain ⟨hx, hrest⟩ := List.forall_mem_cons.1 hxs
      have hnext : lastValues offset (index + 1) (xs.map octet ++ List.replicate pads padding) =
          .ok (xs, pads) := by
        refine ih hrest fun h0 => ?_
        have hlength := hpads h0
        rw [List.length_cons] at hlength
        omega
      rw [List.map_cons, List.cons_append, lastValues, if_neg (by simpa using octet_ne_padding hx)]
      rw [value_eq_ok_iff.2 ⟨hx, rfl⟩, hnext]
      rfl

theorem decodeLast_of_two {offset x y : Nat} {group last : Bytes}
    (h : lastValues offset 0 group = .ok ([x, y], 2)) :
    decodeLast offset group = .ok last ↔
      y % 16 = 0 ∧ [UInt8.ofNat ((x * 64 + y) / 16)] = last := by
  unfold decodeLast
  rw [h]
  by_cases hunused : y % 16 = 0 <;> simp [bind, Except.bind, pure, Except.pure, hunused]

theorem decodeLast_of_three {offset x y z n : Nat} {group last : Bytes}
    (h : lastValues offset 0 group = .ok ([x, y, z], 1))
    (hn : n = ((x * 64 + y) * 64 + z) / 4) :
    decodeLast offset group = .ok last ↔
      z % 4 = 0 ∧ [UInt8.ofNat (n / 256), UInt8.ofNat n] = last := by
  unfold decodeLast
  rw [h, hn]
  by_cases hunused : z % 4 = 0 <;> simp [bind, Except.bind, pure, Except.pure, hunused]

theorem decodeLast_of_four {offset x y z w n : Nat} {group last : Bytes}
    (h : lastValues offset 0 group = .ok ([x, y, z, w], 0))
    (hn : n = ((x * 64 + y) * 64 + z) * 64 + w) :
    decodeLast offset group = .ok last ↔
      [UInt8.ofNat (n / 65536), UInt8.ofNat (n / 256), UInt8.ofNat n] = last := by
  unfold decodeLast
  rw [h, hn]
  simp [bind, Except.bind, pure, Except.pure]

theorem decodeLast_octets {last : Bytes} (hpos : 0 < last.length) (hle : last.length ≤ 3)
    (offset : Nat) : decodeLast offset (octets last) = .ok last := by
  match last with
  | [] => simp at hpos
  | [a] =>
    have ha : a.toNat < 256 := a.toNat_lt
    have hvalues : lastValues offset 0 (octets [a]) =
        .ok ([a.toNat * 16 / 64, a.toNat * 16 % 64], 2) := by
      refine lastValues_eq_ok_iff.2 ⟨rfl, ?_, by simp⟩
      simp only [List.forall_mem_cons]
      exact ⟨by omega, by omega, by simp⟩
    rw [decodeLast_of_two hvalues, ofNat_eq_of_mod (b := a) (by omega)]
    exact ⟨by omega, rfl⟩
  | [a, b] =>
    have ha : a.toNat < 256 := a.toNat_lt
    have hb : b.toNat < 256 := b.toNat_lt
    obtain ⟨n, hn⟩ : ∃ n, n = (a.toNat * 256 + b.toNat) * 4 := ⟨_, rfl⟩
    have hvalues : lastValues offset 0 (octets [a, b]) =
        .ok ([n / 4096, n / 64 % 64, n % 64], 1) := by
      rw [octets_two, ← hn]
      refine lastValues_eq_ok_iff.2 ⟨rfl, ?_, by simp⟩
      simp only [List.forall_mem_cons]
      exact ⟨by omega, by omega, by omega, by simp⟩
    have hsymbols : n / 4 = ((n / 4096 * 64 + n / 64 % 64) * 64 + n % 64) / 4 := by omega
    rw [decodeLast_of_three hvalues hsymbols, ofNat_eq_of_mod (b := a) (by omega),
      ofNat_eq_of_mod (b := b) (by omega)]
    exact ⟨by omega, rfl⟩
  | [a, b, c] =>
    have ha : a.toNat < 256 := a.toNat_lt
    have hb : b.toNat < 256 := b.toNat_lt
    have hc : c.toNat < 256 := c.toNat_lt
    obtain ⟨n, hn⟩ : ∃ n, n = (a.toNat * 256 + b.toNat) * 256 + c.toNat := ⟨_, rfl⟩
    have hvalues : lastValues offset 0 (octets [a, b, c]) =
        .ok ([n / 262144, n / 4096 % 64, n / 64 % 64, n % 64], 0) := by
      rw [octets_cons, ← hn]
      refine lastValues_eq_ok_iff.2 ⟨rfl, ?_, by simp⟩
      simp only [List.forall_mem_cons]
      exact ⟨by omega, by omega, by omega, by omega, by simp⟩
    have hsymbols : n = ((n / 262144 * 64 + n / 4096 % 64) * 64 + n / 64 % 64) * 64 + n % 64 := by
      omega
    rw [decodeLast_of_four hvalues hsymbols, ofNat_eq_of_mod (b := a) (by omega),
      ofNat_eq_of_mod (b := b) (by omega), ofNat_eq_of_mod (b := c) (by omega)]
  | _ :: _ :: _ :: _ :: _ =>
    simp only [List.length_cons] at hle
    omega

/-- The last group is complete, and its unused bits are zero. -/
theorem eq_octets_of_decodeLast {group last : Bytes} {offset : Nat} (hle : group.length ≤ 4)
    (hok : decodeLast offset group = .ok last) : group = octets last := by
  obtain ⟨⟨xs, pads⟩, hvalues, hlast⟩ := Success.bind_eq_ok.1 hok
  obtain ⟨hgroup, hxs, -⟩ := lastValues_eq_ok_iff.1 hvalues
  have hlength : xs.length + pads ≤ 4 := by simpa [hgroup] using hle
  have hmore : ¬ xs.length < 2 := by
    intro hshort
    simp [hshort] at hlast
  have hfour : (xs.length + pads) % 4 = 0 := by
    by_contra hne
    simp [hmore, hne] at hlast
  match xs with
  | [x, y] =>
    obtain rfl : pads = 2 := by simp only [List.length_cons, List.length_nil] at *; omega
    obtain ⟨hunused, rfl⟩ := (decodeLast_of_two hvalues).1 hok
    simp only [List.forall_mem_cons] at hxs
    have hbyte : (UInt8.ofNat ((x * 64 + y) / 16)).toNat = (x * 64 + y) / 16 := by
      rw [UInt8.toNat_ofNat']
      omega
    have hx : (x * 64 + y) / 16 * 16 / 64 = x := by omega
    have hy : (x * 64 + y) / 16 * 16 % 64 = y := by omega
    rw [hgroup, octets_one, hbyte, hx, hy]
    rfl
  | [x, y, z] =>
    obtain rfl : pads = 1 := by simp only [List.length_cons, List.length_nil] at *; omega
    obtain ⟨n, hn⟩ : ∃ n, n = ((x * 64 + y) * 64 + z) / 4 := ⟨_, rfl⟩
    obtain ⟨hunused, rfl⟩ := (decodeLast_of_three hvalues hn).1 hok
    simp only [List.forall_mem_cons] at hxs
    have hbytes : (UInt8.ofNat (n / 256)).toNat * 256 + (UInt8.ofNat n).toNat = n := by
      rw [UInt8.toNat_ofNat', UInt8.toNat_ofNat']
      omega
    have hx : n * 4 / 4096 = x := by omega
    have hy : n * 4 / 64 % 64 = y := by omega
    have hz : n * 4 % 64 = z := by omega
    rw [hgroup, octets_two, hbytes, hx, hy, hz]
    rfl
  | [x, y, z, w] =>
    obtain rfl : pads = 0 := by simp only [List.length_cons, List.length_nil] at *; omega
    obtain rfl := (decodeLast_of_four hvalues rfl).1 hok
    simp only [List.forall_mem_cons] at hxs
    rw [hgroup, octets_cons_of_values hxs.1 hxs.2.1 hxs.2.2.1 hxs.2.2.2.1 rfl]
    rfl
  | [] => simp at hmore
  | [_] => simp at hmore
  | _ :: _ :: _ :: _ :: _ :: _ =>
    simp only [List.length_cons] at hlength
    omega

/-! ## Texts -/

/-- Some bytes as complete groups of three, and what is behind them. -/
theorem exists_last {bs : Bytes} (h : bs ≠ []) :
    ∃ front last, bs = front ++ last ∧ front.length % 3 = 0 ∧ 0 < last.length ∧
      last.length ≤ 3 := by
  have hpos : 0 < bs.length := List.length_pos_iff.2 h
  refine ⟨bs.take ((bs.length - 1) / 3 * 3), bs.drop ((bs.length - 1) / 3 * 3),
    (List.take_append_drop _ _).symm, ?_, ?_, ?_⟩
  · rw [List.length_take]
    omega
  · rw [List.length_drop]
    omega
  · rw [List.length_drop]
    omega

theorem decode_octets (bs : Bytes) : decode (octets bs) = .ok bs := by
  by_cases hnil : bs = []
  · rw [hnil]
    rfl
  obtain ⟨front, last, rfl, hfront, hpos, hle⟩ := exists_last hnil
  have hrow : octets (front ++ last) = octets front ++ octets last := octets_append hfront last
  have hfrontLength : (octets front).length % 4 = 0 := by
    rw [length_octets]
    omega
  have hlastLength : (octets last).length = 4 := by
    rw [length_octets]
    omega
  have hlength : (octets (front ++ last)).length = (octets front).length + 4 := by
    rw [hrow, List.length_append, hlastLength]
  have hchecked : checkTrailing (octets (front ++ last)) = .ok () := by
    have hmod : (octets (front ++ last)).length % 4 ≠ 1 := by omega
    unfold checkTrailing
    split <;> simp [hmod]
  have hnonempty : (octets (front ++ last)).isEmpty = false := by
    rw [← Bool.not_eq_true, List.isEmpty_iff, ← List.length_eq_zero_iff]
    omega
  have hmod : (octets (front ++ last)).length % 4 = 0 := by omega
  have hoffset : (octets (front ++ last)).length - 4 = (octets front).length := by omega
  unfold decode
  simp only [hchecked, hnonempty, hmod, hoffset, beq_self_eq_true, if_true, Bool.false_eq_true,
    if_false]
  rw [hrow, List.take_left, List.drop_left, decodeGroups_octets hfront,
    decodeLast_octets hpos hle]
  rfl

theorem eq_octets_of_decode {row bs : Bytes} (h : decode row = .ok bs) : row = octets bs := by
  simp only [decode, Success.bind_eq_ok] at h
  obtain ⟨_, -, h⟩ := h
  by_cases hempty : row.isEmpty
  · rw [if_pos hempty, Success.pure_eq_ok] at h
    rw [← h, List.isEmpty_iff.1 hempty]
    rfl
  rw [if_neg hempty] at h
  simp only [Success.bind_eq_ok, Success.pure_eq_ok] at h
  obtain ⟨front, hfront, last, hlast, rfl⟩ := h
  obtain ⟨k, hk⟩ : ∃ k, k = if row.length % 4 == 0 then 4 else row.length % 4 := ⟨_, rfl⟩
  rw [← hk] at hfront hlast
  have hk4 : k ≤ 4 := by
    rw [hk]
    split <;> omega
  have hgroups : (row.take (row.length - k)).length % 4 = 0 := by
    rw [List.length_take, hk]
    split <;> rename_i hmod <;> simp only [beq_iff_eq] at hmod <;> omega
  have hrest : (row.drop (row.length - k)).length ≤ 4 := by
    rw [List.length_drop]
    omega
  obtain ⟨hlength, hgroups⟩ := eq_octets_of_decodeGroups hgroups hfront
  have hlast := eq_octets_of_decodeLast hrest hlast
  rw [octets_append hlength, ← hgroups, ← hlast, List.take_append_drop]

theorem decode_eq_ok_iff {row bs : Bytes} : decode row = .ok bs ↔ row = octets bs := by
  constructor
  · exact eq_octets_of_decode
  · rintro rfl
    exact decode_octets bs

theorem isAscii_encodeChars (bs : Bytes) : Text.Utf8.IsAscii (encodeChars bs) := by
  have hsymbol {n : Nat} (h : n < 64) : (symbol n).toNat < 128 := by
    rw [toNat_symbol h]
    split_ifs <;> omega
  have hpadding : '='.toNat < 128 := by decide
  unfold Text.Utf8.IsAscii
  fun_induction encodeChars bs with
  | case1 => simp
  | case2 a n =>
    have ha : a.toNat < 256 := a.toNat_lt
    simp only [List.forall_mem_cons]
    exact ⟨hsymbol (by omega), hsymbol (by omega), hpadding, hpadding, by simp⟩
  | case3 a b n =>
    have ha : a.toNat < 256 := a.toNat_lt
    have hb : b.toNat < 256 := b.toNat_lt
    simp only [List.forall_mem_cons]
    exact ⟨hsymbol (by omega), hsymbol (by omega), hsymbol (by omega), hpadding, by simp⟩
  | case4 a b c rest n ih =>
    have ha : a.toNat < 256 := a.toNat_lt
    have hb : b.toNat < 256 := b.toNat_lt
    have hc : c.toNat < 256 := c.toNat_lt
    simp only [List.forall_mem_cons]
    exact ⟨hsymbol (by omega), hsymbol (by omega), hsymbol (by omega), hsymbol (by omega), ih⟩

/-- Reading a text gives some bytes exactly when it is their text. -/
theorem decode_text_eq_ok_iff {text : String} {bs : Bytes} :
    decode (Text.Utf8.encode text) = .ok bs ↔ text = encode bs := by
  have hascii : Text.Utf8.IsAscii (encode bs).toList := by
    rw [encode, String.toList_ofList]
    exact isAscii_encodeChars bs
  have hoctets : Text.Utf8.encode (encode bs) = octets bs := by
    unfold Text.Utf8.encode
    rw [Text.Utf8.flatMap_encodeChar_of_ascii hascii, encode, String.toList_ofList]
    rfl
  rw [decode_eq_ok_iff, ← hoctets, Text.Utf8.encode_eq_encode_iff hascii]

theorem encode_eq_empty_iff {bs : Bytes} : encode bs = "" ↔ bs = [] := by
  constructor
  · intro h
    have hlength : (encodeChars bs).length = 0 := by
      rw [← String.toList_ofList (l := encodeChars bs), ← encode, h]
      rfl
    have hrow := length_octets bs
    rw [octets, List.length_map, hlength] at hrow
    exact List.length_eq_zero_iff.1 (by omega)
  · rintro rfl
    rfl

end ImagePrompt.Base64
