import MessageCatalog.Encoding.Utf8

/-!
# UTF-8 reads back what it writes

A character is written in one to four bytes, and these are read as the character again, whatever
stands behind them. So the bytes of a text are read as the text, and by the lenient reading too.
Bytes that end inside a character are not read at all. Whatever bytes are read as, the lenient
reading agrees, and the beginning of it is read from some of them.
-/

namespace MessageCatalog.Encoding.Utf8

/-! ## One character -/

theorem toNat_ofNat {n : Nat} (h : n < 256) : (UInt8.ofNat n).toNat = n := by
  rw [UInt8.toNat_ofNat', Nat.mod_eq_of_lt h]

/-- The number of a character is not that of a surrogate. -/
theorem toNat_valid (c : Char) : c.toNat < 0xD800 ∨ 0xDFFF < c.toNat ∧ c.toNat < 0x110000 :=
  c.valid

/-- The character with a number that is no surrogate has that number. -/
theorem toNat_char {n : Nat} (h : n.isValidChar) : (Char.ofNat n).toNat = n := by
  rw [Char.ofNat, dif_pos h]
  exact UInt32.toNat_ofNatLT ..

section Widths
variable {a b c d : UInt8} {x : Char} (rest : List UInt8)

/-- A byte that carries six bits of a character continues it. -/
theorem isTail_of_toNat {x : Nat} (h : b.toNat = x % 64 + 128) : isTail b = true := by
  simp only [isTail, Bool.and_eq_true, decide_eq_true_eq]
  omega

theorem isSecond_of_toNat {x : Nat} (hb : b.toNat = x % 64 + 128)
    (h0 : a.toNat = 0xE0 → 0xA0 ≤ b.toNat) (hd : a.toNat = 0xED → b.toNat ≤ 0x9F)
    (hf : a.toNat = 0xF0 → 0x90 ≤ b.toNat) (h4 : a.toNat = 0xF4 → b.toNat ≤ 0x8F) :
    isSecond a b = true := by
  have ht := isTail_of_toNat hb
  simp only [isSecond, ← UInt8.toNat_inj, UInt8.reduceToNat, ht, Bool.and_true, Bool.true_and]
  repeat' split
  all_goals simp_all

theorem head_one (ha : a.toNat = x.toNat) (h : x.toNat ≤ 0x7F) : head a rest = .char x 1 := by
  simp only [head, ha, Char.ofNat_toNat]
  rw [if_pos (by omega)]

theorem head_two (ha : a.toNat = x.toNat / 64 % 32 + 192) (hb : b.toNat = x.toNat % 64 + 128)
    (hl : 0x7F < x.toNat) (hh : x.toNat ≤ 0x7FF) : head a (b :: rest) = .char x 2 := by
  have he : (a.toNat - 0xC0) * 0x40 + (b.toNat - 0x80) = x.toNat := by omega
  simp only [head, isTail_of_toNat hb, he, if_true, Char.ofNat_toNat]
  rw [if_neg (by omega), if_neg (by omega), if_pos (by omega)]

theorem head_three (ha : a.toNat = x.toNat / 4096 % 16 + 224)
    (hb : b.toNat = x.toNat / 64 % 64 + 128) (hc : c.toNat = x.toNat % 64 + 128)
    (hl : 0x7FF < x.toNat) (hh : x.toNat ≤ 0xFFFF) : head a (b :: c :: rest) = .char x 3 := by
  have hv := toNat_valid x
  have hs : isSecond a b = true :=
    isSecond_of_toNat hb (by omega) (by omega) (by omega) (by omega)
  have he : (a.toNat - 0xE0) * 0x1000 + (b.toNat - 0x80) * 0x40 + (c.toNat - 0x80) = x.toNat := by
    omega
  simp only [head, hs, isTail_of_toNat hc, he, if_true, Char.ofNat_toNat]
  rw [if_neg (by omega), if_neg (by omega), if_neg (by omega), if_pos (by omega)]

theorem head_four (ha : a.toNat = x.toNat / 262144 % 8 + 240)
    (hb : b.toNat = x.toNat / 4096 % 64 + 128) (hc : c.toNat = x.toNat / 64 % 64 + 128)
    (hd : d.toNat = x.toNat % 64 + 128) (hl : 0xFFFF < x.toNat) :
    head a (b :: c :: d :: rest) = .char x 4 := by
  have hv := toNat_valid x
  have hs : isSecond a b = true :=
    isSecond_of_toNat hb (by omega) (by omega) (by omega) (by omega)
  have he : (a.toNat - 0xF0) * 0x40000 + (b.toNat - 0x80) * 0x1000 + (c.toNat - 0x80) * 0x40 +
      (d.toNat - 0x80) = x.toNat := by omega
  simp only [head, hs, isTail_of_toNat hc, isTail_of_toNat hd, he, if_true, Char.ofNat_toNat]
  rw [if_neg (by omega), if_neg (by omega), if_neg (by omega), if_neg (by omega), if_pos (by omega)]

end Widths

/-- The bytes of a character begin with that character, whatever follows them. -/
theorem head_encodeChar (c : Char) (rest : List UInt8) : ∃ a tail,
    String.utf8EncodeChar c = a :: tail ∧ head a (tail ++ rest) = .char c (tail.length + 1) := by
  have hv := toNat_valid c
  unfold String.utf8EncodeChar
  simp only [show c.val.toNat = c.toNat from rfl]
  split
  · next h1 => exact ⟨_, _, rfl, head_one rest (toNat_ofNat (by omega)) h1⟩
  split
  · next h1 h2 =>
    exact ⟨_, _, rfl, head_two rest (toNat_ofNat (by omega)) (toNat_ofNat (by omega)) (by omega) h2⟩
  split
  · next h1 h2 h3 =>
    exact ⟨_, _, rfl, head_three rest (toNat_ofNat (by omega)) (toNat_ofNat (by omega))
      (toNat_ofNat (by omega)) (by omega) h3⟩
  · next h1 h2 h3 =>
    exact ⟨_, _, rfl, head_four rest (toNat_ofNat (by omega)) (toNat_ofNat (by omega))
      (toNat_ofNat (by omega)) (toNat_ofNat (by omega)) (by omega)⟩

/-! ## Texts -/

@[simp] theorem encode_nil : encode [] = [] := rfl

theorem encode_cons (c : Char) (s : List Char) :
    encode (c :: s) = String.utf8EncodeChar c ++ encode s := rfl

@[simp] theorem encode_append (s t : List Char) : encode (s ++ t) = encode s ++ encode t :=
  List.flatMap_append

theorem length_encode_take_le (s : List Char) {j k : Nat} (h : j ≤ k) :
    (encode (s.take j)).length ≤ (encode (s.take k)).length := by
  obtain ⟨t, ht⟩ := List.take_prefix_take_left h (l := s)
  rw [← ht, encode_append, List.length_append]
  exact Nat.le_add_right ..

/-- Reading takes the bytes of a text as that text and goes on behind them. -/
theorem decodeFrom_encode (s : List Char) (index : Nat) (seen : List Char) (rest : List UInt8) :
    decodeFrom index seen (encode s ++ rest) =
      decodeFrom (index + (encode s).length) (s.reverse ++ seen) rest := by
  induction s generalizing index seen with
  | nil => simp
  | cons c s ih =>
    obtain ⟨a, tail, hc, hh⟩ := head_encodeChar c (encode s ++ rest)
    rw [encode_cons, hc, List.append_assoc, List.cons_append, decodeFrom, hh]
    simp only [Nat.add_sub_cancel, List.drop_left, ih]
    congr 1
    · simp only [List.length_append, List.length_cons]; omega
    · simp

/-- The bytes of a text are read as that text. -/
theorem decode_encode (s : List Char) : decode (encode s) = .ok s := by
  have h := decodeFrom_encode s 0 [] []
  simp only [List.append_nil] at h
  rw [decode, h, decodeFrom, List.reverse_reverse]

/-- The lenient reading takes the bytes of a text as that text and goes on behind them. -/
theorem decodeLossyFrom_encode (s seen : List Char) (rest : List UInt8) :
    decodeLossyFrom seen (encode s ++ rest) = decodeLossyFrom (s.reverse ++ seen) rest := by
  induction s generalizing seen with
  | nil => simp
  | cons c s ih =>
    obtain ⟨a, tail, hc, hh⟩ := head_encodeChar c (encode s ++ rest)
    rw [encode_cons, hc, List.append_assoc, List.cons_append, decodeLossyFrom, hh]
    simp only [Nat.add_sub_cancel, List.drop_left, ih]
    simp

/-- What has been read stays in front. -/
theorem decodeLossyFrom_append (seen s : List Char) (bytes : List UInt8) :
    decodeLossyFrom (seen ++ s) bytes = s.reverse ++ decodeLossyFrom seen bytes := by
  fun_induction decodeLossyFrom seen bytes with
  | case1 seen => simp [decodeLossyFrom]
  | case2 seen a rest c width h ih => rw [decodeLossyFrom, h, ← ih]; rfl
  | case3 seen a rest width h ih => rw [decodeLossyFrom, h, ← ih]; rfl
  | case4 seen a rest h => rw [decodeLossyFrom, h]; simp

@[simp] theorem decodeLossy_nil : decodeLossy [] = [] := by
  rw [decodeLossy, decodeLossyFrom, List.reverse_nil]

/-- The bytes of a text at the start are read as that text by the lenient reading too. -/
theorem decodeLossy_encode (s : List Char) (rest : List UInt8) :
    decodeLossy (encode s ++ rest) = s ++ decodeLossy rest := by
  have h := decodeLossyFrom_append [] s.reverse rest
  rw [List.nil_append, List.reverse_reverse] at h
  rw [decodeLossy, decodeLossyFrom_encode, List.append_nil, h, decodeLossy]

/-! ## Texts that are cut -/

/-- What some bytes begin with is settled by the bytes of that character. -/
theorem head_append {a : UInt8} {rest : List UInt8} {c : Char} {width : Nat}
    (h : head a rest = .char c width) (more : List UInt8) :
    head a (rest ++ more) = .char c width ∧ width ≤ rest.length + 1 := by
  unfold head at h ⊢
  dsimp only at h ⊢
  repeat' split at h
  all_goals simp only [Head.char.injEq, reduceCtorEq] at h
  all_goals obtain ⟨rfl, rfl⟩ := h
  all_goals simp only [*, List.cons_append, if_true, if_false, List.length_cons, true_and]
  all_goals omega

/-- Where bytes are read, the lenient reading takes them for the same text and goes on behind
them. -/
theorem decodeLossyFrom_of_decodeFrom {index : Nat} {seen s : List Char} {bytes : List UInt8}
    (h : decodeFrom index seen bytes = .ok s) (more : List UInt8) :
    decodeLossyFrom seen (bytes ++ more) = decodeLossyFrom s.reverse more := by
  fun_induction decodeFrom index seen bytes with
  | case1 index seen =>
    rw [← Except.ok.inj h, List.reverse_reverse, List.nil_append]
  | case2 index seen a rest c width hc ih =>
    obtain ⟨hmore, hwidth⟩ := head_append hc more
    rw [List.cons_append, decodeLossyFrom, hmore, ← ih h]
    dsimp only
    rw [List.drop_append_of_le_length (by omega)]
  | case3 | case4 => cases h

theorem decodeLossy_append {bytes : List UInt8} {s : List Char} (h : decode bytes = .ok s)
    (more : List UInt8) : decodeLossy (bytes ++ more) = s ++ decodeLossy more := by
  have hs := decodeLossyFrom_append [] s.reverse more
  rw [List.nil_append, List.reverse_reverse] at hs
  rw [decodeLossy, decodeLossyFrom_of_decodeFrom h more, hs, decodeLossy]

/-- The bytes of a character that is cut begin with no character. -/
theorem head_take_ne_char {c x : Char} {a : UInt8} {tail : List UInt8} {n width : Nat}
    (hc : String.utf8EncodeChar c = a :: tail) (hn : n < tail.length) :
    head a (tail.take n) ≠ .char x width := by
  intro h
  obtain ⟨hx, hw⟩ := head_append h (tail.drop n)
  obtain ⟨a', tail', hc', hh⟩ := head_encodeChar c []
  rw [hc, List.cons.injEq] at hc'
  obtain ⟨rfl, rfl⟩ := hc'
  rw [List.append_nil] at hh
  rw [List.take_append_drop, hh, Head.char.injEq] at hx
  rw [List.length_take] at hw
  omega

/-- Bytes that begin with no character are not read. -/
theorem decodeFrom_cons_eq_error {a : UInt8} {rest : List UInt8}
    (h : ∀ c width, head a rest ≠ .char c width) (index : Nat) (seen : List Char) :
    ∃ fault, decodeFrom index seen (a :: rest) = .error fault := by
  rw [decodeFrom]
  cases hh : head a rest with
  | char c width => exact absurd hh (h c width)
  | malformed width => exact ⟨_, rfl⟩
  | incomplete => exact ⟨_, rfl⟩

/-- A text is cut between two characters, or what is left of it is not read. -/
theorem decodeFrom_take_encode (s : List Char) (n index : Nat) (seen : List Char) :
    (∃ k, (encode s).take n = encode (s.take k)) ∨
      ∃ fault, decodeFrom index seen ((encode s).take n) = .error fault := by
  induction s generalizing n index seen with
  | nil => exact .inl ⟨0, List.take_nil⟩
  | cons c s ih =>
    by_cases hn : n < (String.utf8EncodeChar c).length
    · -- The first character is cut, or nothing is left of it.
      obtain ⟨a, tail, hc, -⟩ := head_encodeChar c []
      cases n with
      | zero => exact .inl ⟨0, rfl⟩
      | succ n =>
        rw [hc, List.length_cons] at hn
        have ht : (encode (c :: s)).take (n + 1) = a :: tail.take n := by
          rw [encode_cons, hc, List.cons_append, List.take_succ_cons,
            List.take_append_of_le_length (by omega)]
        rw [ht]
        exact .inr (decodeFrom_cons_eq_error (fun _ _ => head_take_ne_char hc (by omega)) _ _)
    · -- The first character is whole, and the others are cut.
      have ht : (encode (c :: s)).take n =
          encode [c] ++ (encode s).take (n - (String.utf8EncodeChar c).length) := by
        rw [encode_cons, List.take_append, List.take_of_length_le (by omega)]
        simp [encode]
      rw [ht, decodeFrom_encode]
      rcases ih (n - (String.utf8EncodeChar c).length) (index + (encode [c]).length)
        ([c].reverse ++ seen) with ⟨k, hk⟩ | hfault
      · exact .inl ⟨k + 1, by rw [hk, ← encode_append, List.take_succ_cons, List.singleton_append]⟩
      · exact .inr hfault

/-- The bytes of a text that is cut are those of its first characters, or they are not read. -/
theorem decode_take_encode (s : List Char) (n : Nat) :
    (∃ k, (encode s).take n = encode (s.take k)) ∨
      ∃ fault, decode ((encode s).take n) = .error fault :=
  decodeFrom_take_encode s n 0 []

/-! ## Bytes that are cut -/

/-- The bytes of a character are enough to read it. -/
theorem head_take {a : UInt8} {rest : List UInt8} {c : Char} {width : Nat}
    (h : head a rest = .char c width) (n : Nat) :
    head a (rest.take (width - 1 + n)) = .char c width := by
  unfold head at h ⊢
  dsimp only at h ⊢
  repeat' split at h
  all_goals simp only [Head.char.injEq, reduceCtorEq] at h
  all_goals obtain ⟨rfl, rfl⟩ := h
  all_goals
    simp only [*, Nat.reduceSub, Nat.add_comm _ n, List.take_succ_cons, if_true, if_false]

/-- What has been read is in front of what is read. -/
theorem decodeFrom_eq_append {index : Nat} {seen s : List Char} {bytes : List UInt8}
    (h : decodeFrom index seen bytes = .ok s) : ∃ t, s = seen.reverse ++ t := by
  fun_induction decodeFrom index seen bytes with
  | case1 index seen => exact ⟨[], by rw [List.append_nil, Except.ok.inj h]⟩
  | case2 index seen a rest c width hc ih =>
    obtain ⟨t, rfl⟩ := ih h
    exact ⟨c :: t, by rw [List.reverse_cons, List.append_assoc, List.singleton_append]⟩
  | case3 | case4 => cases h

/-- The beginning of a text that is read is read from some of its bytes. -/
theorem exists_take_of_decodeFrom {lead more : List Char} {index : Nat} {seen : List Char}
    {bytes : List UInt8} (h : decodeFrom index seen bytes = .ok (seen.reverse ++ (lead ++ more))) :
    ∃ n, decodeFrom index seen (bytes.take n) = .ok (seen.reverse ++ lead) := by
  induction lead generalizing index seen bytes with
  | nil => exact ⟨0, by rw [List.take_zero, decodeFrom, List.append_nil]⟩
  | cons d lead ih =>
    cases bytes with
    | nil =>
      rw [decodeFrom] at h
      simpa using Except.ok.inj h
    | cons a rest =>
      rw [decodeFrom] at h
      cases hh : head a rest with
      | malformed width | incomplete => rw [hh] at h; cases h
      | char x width =>
        rw [hh] at h
        dsimp only at h
        obtain ⟨t, ht⟩ := decodeFrom_eq_append h
        rw [List.reverse_cons, List.append_assoc, List.append_cancel_left_eq] at ht
        obtain ⟨rfl, -⟩ := List.cons.inj ht
        have hrest : decodeFrom (index + width) (d :: seen) (rest.drop (width - 1)) =
            .ok ((d :: seen).reverse ++ (lead ++ more)) := by
          rw [h]
          simp
        obtain ⟨n, hn⟩ := ih hrest
        refine ⟨width - 1 + n + 1, ?_⟩
        rw [List.take_succ_cons, decodeFrom, head_take hh n]
        dsimp only
        rw [List.drop_take, Nat.add_sub_cancel_left, hn]
        simp

theorem exists_take_of_decode {lead more : List Char} {bytes : List UInt8}
    (h : decode bytes = .ok (lead ++ more)) : ∃ n, decode (bytes.take n) = .ok lead := by
  have h' : decodeFrom 0 [] bytes = .ok ([].reverse ++ (lead ++ more)) := h
  exact exists_take_of_decodeFrom h'

end MessageCatalog.Encoding.Utf8
