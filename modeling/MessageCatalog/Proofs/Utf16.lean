import MessageCatalog.Encoding.Utf16
import MessageCatalog.Proofs.Utf8

/-!
# UTF-16 reads back what it writes

A character of the first plane is its own unit, and no surrogate. Any other one is written as a high
and a low surrogate and read from both. So the bytes of a text are read as the text, in either byte
order. Whatever bytes are read as, they are read alike when others follow, and the beginning of it
is read from some of them.
-/

namespace MessageCatalog.Encoding.Utf16

/-! ## Units -/

/-- The units of a character fit into two bytes. -/
theorem lt_of_mem_units {c : Char} {u : Nat} (h : u ∈ units c) : u < 0x10000 := by
  have hv := Utf8.toNat_valid c
  simp only [units] at h
  split at h
  · simp only [List.mem_singleton] at h
    omega
  · simp only [List.mem_cons, List.not_mem_nil, or_false] at h
    omega

/-- The units of a character are read as that character, whatever follows them. -/
theorem ofUnits_units_append (c : Char) (rest : List Nat) :
    ofUnits (units c ++ rest) = some c :: ofUnits rest := by
  have hv := Utf8.toNat_valid c
  simp only [units]
  split
  · have hh : isHigh c.toNat = false := by
      simp only [isHigh, Bool.and_eq_false_iff, decide_eq_false_iff_not]; omega
    have hl : isLow c.toNat = false := by
      simp only [isLow, Bool.and_eq_false_iff, decide_eq_false_iff_not]; omega
    cases rest with
    | nil => simp [ofUnits, hh, hl]
    | cons v rest => simp [ofUnits, hh, hl]
  · next hn =>
    have hh : isHigh (0xD800 + (c.toNat - 0x10000) / 0x400) = true := by
      simp only [isHigh, Bool.and_eq_true, decide_eq_true_eq]; omega
    have hl : isLow (0xDC00 + (c.toNat - 0x10000) % 0x400) = true := by
      simp only [isLow, Bool.and_eq_true, decide_eq_true_eq]; omega
    have hc : 0x10000 + (0xD800 + (c.toNat - 0x10000) / 0x400 - 0xD800) * 0x400 +
        (0xDC00 + (c.toNat - 0x10000) % 0x400 - 0xDC00) = c.toNat := by omega
    simp only [List.cons_append, List.nil_append, ofUnits, hh, hl, Bool.and_self, if_true, hc,
      Char.ofNat_toNat]

theorem ofUnits_flatMap_units (s : List Char) : ofUnits (s.flatMap units) = s.map some := by
  induction s with
  | nil => rfl
  | cons c s ih => rw [List.flatMap_cons, ofUnits_units_append, ih, List.map_cons]

/-! ## Bytes -/

/-- A unit is read from its two bytes. -/
theorem unitsOf_bytes_append (order : ByteOrder) {u : Nat} (hu : u < 0x10000)
    (rest : List UInt8) : unitsOf order (order.bytes u ++ rest) = u :: unitsOf order rest := by
  have hl : (u % 0x100).toUInt8.toNat = u % 0x100 := by
    rw [Nat.toUInt8, UInt8.toNat_ofNat', Nat.mod_mod]
  have hh : (u / 0x100).toUInt8.toNat = u / 0x100 := by
    rw [Nat.toUInt8, UInt8.toNat_ofNat', Nat.mod_eq_of_lt (by omega)]
  cases order <;>
    simp only [ByteOrder.bytes, List.cons_append, List.nil_append, unitsOf, ByteOrder.unit, hl, hh]
  · rw [Nat.add_comm, Nat.div_add_mod']
  · rw [Nat.div_add_mod']

theorem unitsOf_flatMap_bytes (order : ByteOrder) {us : List Nat} (hus : ∀ u ∈ us, u < 0x10000)
    (rest : List UInt8) :
    unitsOf order (us.flatMap order.bytes ++ rest) = us ++ unitsOf order rest := by
  induction us with
  | nil => rfl
  | cons u us ih =>
    rw [List.flatMap_cons, List.append_assoc, unitsOf_bytes_append order (hus u List.mem_cons_self),
      ih fun v hv => hus v (List.mem_cons_of_mem u hv), List.cons_append]

theorem length_bytes (order : ByteOrder) (u : Nat) : (order.bytes u).length = 2 := by
  cases order <;> rfl

theorem length_flatMap_bytes (order : ByteOrder) (us : List Nat) :
    (us.flatMap order.bytes).length = 2 * us.length := by
  induction us with
  | nil => rfl
  | cons u us ih =>
    rw [List.flatMap_cons, List.length_append, length_bytes, ih, List.length_cons]
    omega

/-- The bytes of a text are read as that text. -/
theorem decode_encode (order : ByteOrder) (s : List Char) :
    decode order (encode order s) = s.map some := by
  have hus : ∀ u ∈ s.flatMap units, u < 0x10000 := fun u hu => by
    obtain ⟨c, -, hc⟩ := List.mem_flatMap.1 hu
    exact lt_of_mem_units hc
  have hunits := unitsOf_flatMap_bytes order hus []
  simp only [List.append_nil, unitsOf] at hunits
  rw [decode, encode, hunits, ofUnits_flatMap_units, length_flatMap_bytes, if_neg (by omega),
    List.append_nil]

/-! ## Bytes that are read -/

/-- All characters are read exactly when none is missing. -/
theorem mapM_id_eq_some_iff {chars : List (Option Char)} {s : List Char} :
    chars.mapM id = some s ↔ chars = s.map some := by
  constructor
  · intro h
    induction chars generalizing s with
    | nil =>
      rw [List.mapM_nil] at h
      cases h
      rfl
    | cons c chars ih =>
      rw [List.mapM_cons] at h
      obtain ⟨a, ha, h⟩ := Option.bind_eq_some_iff.1 h
      obtain ⟨t, ht, h⟩ := Option.bind_eq_some_iff.1 h
      cases h
      rw [List.map_cons, ← ih ht]
      exact congrArg (· :: chars) ha
  · rintro rfl
    induction s with
    | nil => rfl
    | cons c s ih => rw [List.map_cons, List.mapM_cons, ih]; rfl

/-- A unit takes two bytes. -/
theorem unit_lt (order : ByteOrder) (a b : UInt8) : order.unit a b < 0x10000 := by
  have ha := a.toNat_lt
  have hb := b.toNat_lt
  cases order <;> (simp only [ByteOrder.unit]; omega)

/-- A character of ASCII that is read first is a unit below 0x80. -/
theorem unit_lt_of_decode {order : ByteOrder} {a b : UInt8} {rest : List UInt8} {c : Char}
    {chars : List (Option Char)} (h : decode order (a :: b :: rest) = some c :: chars)
    (hc : c.toNat < 0x80) : order.unit a b < 0x80 := by
  have hu := unit_lt order a b
  rw [decode, unitsOf] at h
  generalize order.unit a b = u at h hu ⊢
  have hsingle : (if isHigh u || isLow u then none else some (Char.ofNat u)) = some c →
      u < 0x80 := by
    intro h
    split at h
    · cases h
    · next hs =>
      simp only [isHigh, isLow, Bool.or_eq_true, Bool.and_eq_true, decide_eq_true_eq] at hs
      rw [← Option.some.inj h, Utf8.toNat_char (by rw [Nat.isValidChar]; omega)] at hc
      exact hc
  generalize unitsOf order rest = us at h
  cases us with
  | nil => exact hsingle (List.cons.inj h).1
  | cons v us =>
    rw [ofUnits] at h
    split at h
    · next hp =>
      simp only [isHigh, isLow, Bool.and_eq_true, decide_eq_true_eq] at hp
      rw [← Option.some.inj (List.cons.inj h).1,
        Utf8.toNat_char (by rw [Nat.isValidChar]; omega)] at hc
      omega
    · exact hsingle (List.cons.inj h).1

/-! ## Bytes that go on -/

/-- Units that are all read leave no high surrogate behind, so that others are read after them. -/
theorem ofUnits_append {us : List Nat} (h : none ∉ ofUnits us) (vs : List Nat) :
    ofUnits (us ++ vs) = ofUnits us ++ ofUnits vs := by
  fun_induction ofUnits us with
  | case1 => rfl
  | case2 u =>
    split at h
    · exact absurd (List.mem_singleton_self none) h
    · next hu =>
      rw [Bool.or_eq_true, not_or, Bool.not_eq_true, Bool.not_eq_true] at hu
      rw [if_neg (by simp [hu.1, hu.2]), List.singleton_append]
      cases vs with
      | nil => simp [ofUnits, hu.1, hu.2]
      | cons v vs => simp [ofUnits, hu.1, hu.2]
  | case3 u v rest hp ih =>
    rw [List.mem_cons, not_or] at h
    rw [List.cons_append, List.cons_append, ofUnits, if_pos hp, ih h.2, List.cons_append]
  | case4 u v rest hp ih =>
    rw [List.mem_cons, not_or] at h
    rw [List.cons_append, List.cons_append, ofUnits, if_neg hp, ← List.cons_append, ih h.2,
      List.cons_append]

theorem unitsOf_append (order : ByteOrder) {bytes : List UInt8} (h : bytes.length % 2 = 0)
    (more : List UInt8) :
    unitsOf order (bytes ++ more) = unitsOf order bytes ++ unitsOf order more := by
  fun_induction unitsOf order bytes with
  | case1 a b rest ih =>
    rw [List.cons_append, List.cons_append, unitsOf, ih, List.cons_append]
    rw [List.length_cons, List.length_cons] at h
    omega
  | case2 bytes hshort =>
    cases bytes with
    | nil => rfl
    | cons a rest =>
      cases rest with
      | nil => cases h
      | cons b rest => exact absurd rfl (hshort a b rest)

/-- Bytes that are all read are those of whole units. -/
theorem of_decode_eq_map {order : ByteOrder} {bytes : List UInt8} {s : List Char}
    (h : decode order bytes = s.map some) :
    bytes.length % 2 = 0 ∧ ofUnits (unitsOf order bytes) = s.map some := by
  have hnone : none ∉ decode order bytes := by
    rw [h]
    simp
  have heven : bytes.length % 2 = 0 := by
    refine Classical.byContradiction fun hodd => hnone ?_
    rw [decode, if_pos (by omega)]
    exact List.mem_append_right _ (List.mem_singleton_self none)
  refine ⟨heven, ?_⟩
  rw [← h, decode, if_neg (by omega), List.append_nil]

/-- Bytes that are all read are read alike when others follow. -/
theorem decode_append {order : ByteOrder} {bytes : List UInt8} {s : List Char}
    (h : decode order bytes = s.map some) (more : List UInt8) :
    decode order (bytes ++ more) = s.map some ++ decode order more := by
  obtain ⟨heven, hunits⟩ := of_decode_eq_map h
  have hodd : (bytes.length + more.length) % 2 = more.length % 2 := by omega
  rw [decode, unitsOf_append order heven, ofUnits_append (by rw [hunits]; simp), hunits,
    List.append_assoc, decode, List.length_append, hodd]

/-! ## Bytes that are cut -/

/-- The first characters are those of some first units. -/
theorem exists_take_of_ofUnits {us : List Nat} {s : List Char} {more : List (Option Char)}
    (h : ofUnits us = s.map some ++ more) : ∃ k, ofUnits (us.take k) = s.map some := by
  fun_induction ofUnits us generalizing s with
  | case1 =>
    cases s with
    | nil => exact ⟨0, rfl⟩
    | cons c s => cases h
  | case2 u =>
    cases s with
    | nil => exact ⟨0, rfl⟩
    | cons c s =>
      obtain ⟨hc, hs⟩ := List.cons.inj h
      obtain ⟨hs, -⟩ := List.append_eq_nil_iff.1 hs.symm
      refine ⟨1, ?_⟩
      rw [List.map_cons, hs, ← hc]
      rfl
  | case3 u v rest hp ih =>
    cases s with
    | nil => exact ⟨0, rfl⟩
    | cons c s =>
      obtain ⟨hc, hs⟩ := List.cons.inj h
      obtain ⟨k, hk⟩ := ih hs
      refine ⟨k + 2, ?_⟩
      rw [List.take_succ_cons, List.take_succ_cons, ofUnits, if_pos hp, hk, hc, List.map_cons]
  | case4 u v rest hp ih =>
    cases s with
    | nil => exact ⟨0, rfl⟩
    | cons c s =>
      obtain ⟨hc, hs⟩ := List.cons.inj h
      obtain ⟨k, hk⟩ := ih hs
      refine ⟨k + 1, ?_⟩
      rw [List.take_succ_cons, List.map_cons, ← hk, ← hc]
      cases k with
      | zero => rfl
      | succ k => rw [List.take_succ_cons, ofUnits, if_neg hp]

theorem unitsOf_take (order : ByteOrder) (bytes : List UInt8) (k : Nat) :
    unitsOf order (bytes.take (2 * k)) = (unitsOf order bytes).take k := by
  induction k generalizing bytes with
  | zero => rfl
  | succ k ih =>
    match bytes with
    | [] => rfl
    | [a] => rfl
    | a :: b :: rest =>
      have htake : (a :: b :: rest).take (2 * (k + 1)) = a :: b :: rest.take (2 * k) := rfl
      rw [htake, unitsOf, ih, unitsOf, List.take_succ_cons]

/-- The beginning of a text that is read is read from some of its bytes. -/
theorem exists_take_of_decode {order : ByteOrder} {bytes : List UInt8} {s more : List Char}
    (h : decode order bytes = (s ++ more).map some) :
    ∃ n, decode order (bytes.take n) = s.map some := by
  obtain ⟨heven, hunits⟩ := of_decode_eq_map h
  rw [List.map_append] at hunits
  obtain ⟨k, hk⟩ := exists_take_of_ofUnits hunits
  refine ⟨2 * k, ?_⟩
  rw [decode, unitsOf_take, hk, List.length_take, if_neg (by omega), List.append_nil]

end MessageCatalog.Encoding.Utf16
