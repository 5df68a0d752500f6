import MessageCatalog.Encoding.ByteReader
import MessageCatalog.Proofs.Utf8
import MessageCatalog.Proofs.Encoding.View

/-!
# The lenient reading as a view

Every byte for itself is a character. The lenient reading as UTF-8 is a view of these characters: it
takes bytes of ASCII as they are, and every stretch of others as one character outside ASCII.
-/

namespace MessageCatalog.Encoding

/-- The bytes, each as a character of its own. -/
def bytewise (bytes : List UInt8) : List Char :=
  bytes.map ascii

theorem isOther_ascii {b : UInt8} (h : 0x80 ≤ b.toNat) : isOther (ascii b) = true :=
  isOther_ofNat h

namespace Utf8

/-- A stretch of bytes outside ASCII. -/
def AreHigh (bytes : List UInt8) : Prop :=
  ∀ b ∈ bytes, 0x80 ≤ b.toNat

theorem high_of_isTail {b : UInt8} (h : isTail b = true) : 0x80 ≤ b.toNat := by
  simp only [isTail, Bool.and_eq_true, decide_eq_true_eq] at h
  exact h.1

/-- The second byte of a character keeps out spellings that are too long. -/
theorem bounds_of_isSecond {a b : UInt8} (h : isSecond a b = true) :
    0x80 ≤ b.toNat ∧ (a.toNat = 0xE0 → 0xA0 ≤ b.toNat) ∧ (a.toNat = 0xF0 → 0x90 ≤ b.toNat) := by
  simp only [isSecond, isTail, ← UInt8.toNat_inj, UInt8.reduceToNat] at h
  repeat' split at h
  all_goals
    simp only [Bool.and_eq_true, decide_eq_true_eq] at h
    omega

/-- All that is taken is outside ASCII, and so is the character that it may be. -/
def Head.IsHigh (rest : List UInt8) : Head → Prop
  | .char c width => isOther c = true ∧ AreHigh (rest.take (width - 1))
  | .malformed width => AreHigh (rest.take (width - 1))
  | .incomplete => AreHigh rest

theorem areHigh_nil : AreHigh [] := fun _ h => absurd h List.not_mem_nil

theorem areHigh_cons {b : UInt8} {bytes : List UInt8} (hb : 0x80 ≤ b.toNat) (h : AreHigh bytes) :
    AreHigh (b :: bytes) := fun d hd =>
  (List.mem_cons.1 hd).elim (fun he => he ▸ hb) (h d)

/-- Behind a byte outside ASCII only such bytes are taken with it. -/
theorem isHigh_head {a : UInt8} (ha : 0x80 ≤ a.toNat) (rest : List UInt8) :
    (head a rest).IsHigh rest := by
  unfold head
  dsimp only
  split
  · omega
  split
  · exact areHigh_nil
  split
  · -- two bytes
    split
    · exact areHigh_nil
    · next b _ =>
      split
      · next hb =>
        have hb := high_of_isTail hb
        exact ⟨isOther_ofNat (by omega), areHigh_cons hb areHigh_nil⟩
      · exact areHigh_nil
  split
  · -- three bytes
    split
    · exact areHigh_nil
    · next b _ =>
      split
      · next hb =>
        obtain ⟨hb, he, -⟩ := bounds_of_isSecond hb
        split
        · exact areHigh_cons hb areHigh_nil
        · next c _ =>
          split
          · next hc =>
            have hc := high_of_isTail hc
            exact ⟨isOther_ofNat (by omega), areHigh_cons hb (areHigh_cons hc areHigh_nil)⟩
          · exact areHigh_cons hb areHigh_nil
      · exact areHigh_nil
  split
  · -- four bytes
    split
    · exact areHigh_nil
    · next b _ =>
      split
      · next hb =>
        obtain ⟨hb, -, hf⟩ := bounds_of_isSecond hb
        split
        · exact areHigh_cons hb areHigh_nil
        · next c _ =>
          split
          · next hc =>
            have hc := high_of_isTail hc
            split
            · exact areHigh_cons hb (areHigh_cons hc areHigh_nil)
            · next d _ =>
              split
              · next hd =>
                have hd := high_of_isTail hd
                exact ⟨isOther_ofNat (by omega),
                  areHigh_cons hb (areHigh_cons hc (areHigh_cons hd areHigh_nil))⟩
              · exact areHigh_cons hb (areHigh_cons hc areHigh_nil)
          · exact areHigh_cons hb areHigh_nil
      · exact areHigh_nil
  · exact areHigh_nil

theorem head_ascii {a : UInt8} (ha : a.toNat < 0x80) (rest : List UInt8) :
    head a rest = .char (ascii a) 1 := by
  unfold head
  exact if_pos ha

/-- A character outside ASCII in the place of bytes outside ASCII. -/
theorem isViewOf_high {a : UInt8} (ha : 0x80 ≤ a.toNat) {taken : List UInt8}
    (ht : AreHigh taken) {c : Char} (hc : isOther c = true) {s t : List Char} (h : IsViewOf s t) :
    IsViewOf (c :: s) (bytewise (a :: taken) ++ t) := by
  have hends : ∀ d ∈ [c], isEnding d = false := fun d hd =>
    List.mem_singleton.1 hd ▸ isEnding_of_isOther hc
  have hother : ∀ d ∈ bytewise (a :: taken), isOther d = true := by
    intro d hd
    obtain ⟨b, hb, rfl⟩ := List.mem_map.1 hd
    exact isOther_ascii (areHigh_cons ha ht b hb)
  exact .of_ne_nil (List.cons_ne_nil c []) (List.cons_ne_nil _ _) hends hother h

theorem isOther_replacement : isOther replacement = true := rfl

theorem decodeLossy_cons (a : UInt8) (rest : List UInt8) :
    decodeLossy (a :: rest) =
      match head a rest with
      | .char c width => c :: decodeLossy (rest.drop (width - 1))
      | .malformed width => replacement :: decodeLossy (rest.drop (width - 1))
      | .incomplete => [replacement] := by
  have hfront : ∀ (c : Char) (bytes : List UInt8),
      decodeLossyFrom [c] bytes = c :: decodeLossy bytes := fun c bytes =>
    decodeLossyFrom_append [] [c] bytes
  rw [decodeLossy, decodeLossyFrom]
  cases head a rest with
  | char c width => exact hfront c _
  | malformed width => exact hfront replacement _
  | incomplete => rfl

/-- The lenient reading is a view of the bytes. -/
theorem isViewOf_decodeLossy (bytes : List UInt8) :
    IsViewOf (decodeLossy bytes) (bytewise bytes) := by
  induction hn : bytes.length using Nat.strongRecOn generalizing bytes with
  | ind n ih =>
    cases bytes with
    | nil =>
      rw [decodeLossy_nil]
      exact .nil
    | cons a rest =>
      rw [decodeLossy_cons]
      have hsplit : ∀ k, bytewise (a :: rest) =
          bytewise (a :: rest.take k) ++ bytewise (rest.drop k) := fun k => by
        rw [bytewise, bytewise, bytewise, ← List.map_append, List.cons_append,
          List.take_append_drop]
      have hrest : ∀ k, IsViewOf (decodeLossy (rest.drop k)) (bytewise (rest.drop k)) := fun k =>
        ih _ (by rw [← hn, List.length_drop, List.length_cons]; omega) _ rfl
      by_cases ha : a.toNat < 0x80
      · rw [head_ascii ha]
        exact .same (ascii a) (hrest 0)
      · have ha : 0x80 ≤ a.toNat := Nat.not_lt.1 ha
        have hhigh := isHigh_head ha rest
        cases hh : head a rest with
        | char c width =>
          rw [hh] at hhigh
          rw [hsplit (width - 1)]
          exact isViewOf_high ha hhigh.2 hhigh.1 (hrest _)
        | malformed width =>
          rw [hh] at hhigh
          rw [hsplit (width - 1)]
          exact isViewOf_high ha hhigh isOther_replacement (hrest _)
        | incomplete =>
          rw [hh] at hhigh
          rw [← List.append_nil (bytewise (a :: rest))]
          exact isViewOf_high ha hhigh isOther_replacement .nil

end Utf8

end MessageCatalog.Encoding
