import MessageCatalog.Proofs.Utf16
import MessageCatalog.Proofs.Catalog.Prologue
import MessageCatalog.Proofs.Encoding.Bytewise

/-!
# The beginning of a file

The look at the beginning of a file reads it as UTF-8 when there is no byte order mark, whatever it
declares. A text behind a mark or in UTF-8 is read there as it is (`beginning_marked` and
`beginning_plain`). Of other texts there is a view (`isViewOf_beginning`), and what leads to the
root in a text does so in its views when the texts in front of the root are blanks of ASCII
(`Leads.of_view`).
-/

namespace MessageCatalog

/-! ## Byte order marks -/

namespace Encoding

/-- A byte order mark takes two or three bytes and announces an encoding of Unicode. -/
theorem ofByteOrderMark?_cases {bytes body : List UInt8} {e : Encoding}
    (h : ofByteOrderMark? bytes = some (e, body)) :
    (bytes = 0xEF :: 0xBB :: 0xBF :: body ∧ e = utf8) ∨
      (bytes = 0xFF :: 0xFE :: body ∧ e = utf16 .little) ∨
        (bytes = 0xFE :: 0xFF :: body ∧ e = utf16 .big) := by
  unfold ofByteOrderMark? at h
  split at h
  · cases h; exact .inl ⟨rfl, rfl⟩
  · cases h; exact .inr (.inl ⟨rfl, rfl⟩)
  · cases h; exact .inr (.inr ⟨rfl, rfl⟩)
  · cases h

/-- What is cut off behind a byte order mark is cut off the text. -/
theorem ofByteOrderMark?_take {bytes body : List UInt8} {e : Encoding}
    (h : ofByteOrderMark? bytes = some (e, body)) {n : Nat} (hn : 3 ≤ n) :
    ofByteOrderMark? (bytes.take n) = some (e, body.take (n - (bytes.length - body.length))) := by
  obtain ⟨n, rfl⟩ := Nat.exists_eq_add_of_le' hn
  rcases ofByteOrderMark?_cases h with ⟨rfl, rfl⟩ | ⟨rfl, rfl⟩ | ⟨rfl, rfl⟩
  · have hk : n + 3 - ((0xEF :: 0xBB :: 0xBF :: body).length - body.length) = n := by
      simp only [List.length_cons]; omega
    rw [hk]
    rfl
  · have hk : n + 3 - ((0xFF :: 0xFE :: body).length - body.length) = n + 1 := by
      simp only [List.length_cons]; omega
    rw [hk]
    rfl
  · have hk : n + 3 - ((0xFE :: 0xFF :: body).length - body.length) = n + 1 := by
      simp only [List.length_cons]; omega
    rw [hk]
    rfl

/-- Without a byte order mark there is none at the beginning. -/
theorem ofByteOrderMark?_take_of_none {bytes : List UInt8} (h : ofByteOrderMark? bytes = none)
    (n : Nat) : ofByteOrderMark? (bytes.take n) = none := by
  cases ht : ofByteOrderMark? (bytes.take n) with
  | none => rfl
  | some p =>
    have hb : bytes = bytes.take n ++ bytes.drop n := (List.take_append_drop n bytes).symm
    rcases ofByteOrderMark?_cases ht with ⟨hp, -⟩ | ⟨hp, -⟩ | ⟨hp, -⟩
    all_goals
      rw [hb, hp] at h
      cases h

end Encoding

namespace Sniffing

open Encoding Markup

/-! ## Encodings of Unicode -/

theorem take_of_take {α : Type} {s : List α} {width n : Nat} (h : width ≤ n) :
    ∃ more, s.take n = s.take width ++ more :=
  let ⟨more, hmore⟩ := List.take_prefix_take_left h (l := s)
  ⟨more, hmore.symm⟩

/-- Behind a byte order mark the text is read as it is. -/
theorem beginning_marked {bytes body : List UInt8} {e : Encoding} {width : Nat} {lead : List Char}
    (hm : ofByteOrderMark? bytes = some (e, body))
    (hwidth : bytes.length - body.length + width ≤ reach)
    (h : e.decode? (body.take width) = some lead) : ∃ t, beginning bytes = lead ++ t := by
  have hreach : 3 ≤ reach := by decide
  have htake := ofByteOrderMark?_take hm hreach
  obtain ⟨more, hmore⟩ := take_of_take (s := body)
    (show width ≤ reach - (bytes.length - body.length) by omega)
  rw [hmore] at htake
  simp only [beginning, htake]
  rcases ofByteOrderMark?_cases hm with ⟨-, rfl⟩ | ⟨-, rfl⟩ | ⟨-, rfl⟩
  · cases hd : Utf8.decode (body.take width) with
    | error fault => rw [decode?, hd] at h; cases h
    | ok s =>
      rw [decode?, hd] at h
      cases h
      exact ⟨_, Utf8.decodeLossy_append hd more⟩
  all_goals
    rw [decode?] at h
    dsimp only
    rw [Utf16.decode_append (Utf16.mapM_id_eq_some_iff.1 h), List.map_append, List.map_map]
    exact ⟨_, congrArg (· ++ _) (List.map_id lead)⟩

/-- Without a mark a text in UTF-8 is read as it is. -/
theorem beginning_plain {bytes : List UInt8} {width : Nat} {lead : List Char}
    (hm : ofByteOrderMark? bytes = none) (hwidth : width ≤ reach)
    (h : utf8.decode? (bytes.take width) = some lead) : ∃ t, beginning bytes = lead ++ t := by
  have htake := ofByteOrderMark?_take_of_none hm reach
  obtain ⟨more, hmore⟩ := take_of_take (s := bytes) hwidth
  rw [hmore] at htake
  simp only [beginning, hmore, htake]
  cases hd : Utf8.decode (bytes.take width) with
  | error fault => rw [decode?, hd] at h; cases h
  | ok s =>
    rw [decode?, hd] at h
    cases h
    exact ⟨_, Utf8.decodeLossy_append hd more⟩

/-! ## Other encodings -/

/-- Of a text in another encoding there is a view of a view. -/
theorem isViewOf_beginning {bytes : List UInt8} {width : Nat} {lead : List Char}
    (hm : ofByteOrderMark? bytes = none) (hwidth : width ≤ reach)
    (h : IsViewOf (bytewise (bytes.take width)) lead) :
    ∃ seen t, IsViewOf (beginning bytes) seen ∧ IsViewOf seen (lead ++ t) := by
  obtain ⟨more, hmore⟩ := take_of_take (s := bytes) hwidth
  have htake := ofByteOrderMark?_take_of_none hm reach
  refine ⟨bytewise (bytes.take reach), bytewise more, ?_, ?_⟩
  · simp only [beginning, htake]
    exact Utf8.isViewOf_decodeLossy _
  · rw [hmore, bytewise, List.map_append]
    exact h.append (.refl _)

/-- Blanks of ASCII. -/
def IsAsciiBlanks (raw : List Char) : Prop :=
  ∀ c ∈ raw, Text.isBlank c = true ∧ c.toNat < 0x80

theorem IsAsciiBlanks.isOther {raw : List Char} (h : IsAsciiBlanks raw) {c : Char} (hc : c ∈ raw) :
    isOther c = false := by
  obtain ⟨hblank, hlow⟩ := h c hc
  simp only [Encoding.isOther, Bool.or_eq_false_iff, beq_eq_false_iff_ne, decide_eq_false_iff_not]
  refine ⟨fun h0 => ?_, by omega⟩
  rw [Text.isBlank, h0] at hblank
  cases hblank

theorem IsAsciiBlanks.isMarksAndBlanks {raw : List Char} (h : IsAsciiBlanks raw) :
    IsMarksAndBlanks raw :=
  ⟨[], raw, rfl, fun _ hc => absurd hc List.not_mem_nil, fun c hc => (h c hc).1⟩

theorem Leads.mono {isText isText' : List Char → Prop} (hi : ∀ raw, isText raw → isText' raw)
    {s : List Char} (h : Leads isText s) : Leads isText' s := by
  induction h with
  | root hc s => exact .root hc s
  | text hraw _ ih => exact .text (hi _ hraw) ih
  | markup hc ha _ ih => exact .markup hc ha ih

/-- Characters that end nothing are passed over. -/
theorem afterFirst?_append_of_isEnding {first : Char} {others skipped : List Char}
    (hfirst : isEnding first = true) (h : ∀ c ∈ skipped, isEnding c = false) (s : List Char) :
    afterFirst? (first :: others) (skipped ++ s) = afterFirst? (first :: others) s := by
  induction skipped with
  | nil => rfl
  | cons c skipped ih =>
    have hne : first ≠ c := by
      rintro rfl
      rw [h first List.mem_cons_self] at hfirst
      cases hfirst
    rw [List.cons_append, afterFirst?, if_neg (by simp [hne])]
    exact ih fun d hd => h d (List.mem_cons_of_mem c hd)

/-- The end of markup is found at the same place of a view. -/
theorem afterFirst?_of_view {first : Char} {others s t rest : List Char}
    (hends : ∀ c ∈ first :: others, isEnding c = true) (h : IsViewOf s t)
    (ha : afterFirst? (first :: others) t = some rest) :
    ∃ rest', afterFirst? (first :: others) s = some rest' ∧ IsViewOf rest' rest := by
  have hfirst := hends first List.mem_cons_self
  induction h with
  | nil => cases ha
  | @same c s t h ih =>
    have hview : IsViewOf (c :: s) (c :: t) := .same c h
    rw [afterFirst?] at ha ⊢
    split at ha
    · next hp =>
      have hp := List.isPrefixOf_iff_prefix.1 hp
      rw [if_pos (List.isPrefixOf_iff_prefix.2 ((hview.prefix_iff hends).2 hp))]
      obtain ⟨u, hu⟩ := hp
      rw [← hu] at hview ha
      obtain ⟨v, hv, hvu⟩ := hview.of_append fun c hc => isOther_of_isEnding (hends c hc)
      rw [List.drop_left] at ha
      rw [hv, List.drop_left]
      exact ⟨v, rfl, Option.some.inj ha ▸ hvu⟩
    · next hp =>
      rw [if_neg fun hs => hp (List.isPrefixOf_iff_prefix.2
        ((hview.prefix_iff hends).1 (List.isPrefixOf_iff_prefix.1 hs)))]
      exact ih ha
  | @other x y xs ys s t hx hy h ih =>
    rw [afterFirst?_append_of_isEnding hfirst fun c hc => isEnding_of_isOther (hy c hc)] at ha
    rw [afterFirst?_append_of_isEnding hfirst hx]
    exact ih ha

/-- What ends markup is settled by the characters of ASCII with which it begins. -/
theorem closing?_cases {s others : List Char} {first : Char}
    (h : closing? s = some (first, others)) :
    ∃ opening u, s = opening ++ u ∧ (∀ c ∈ opening, isOther c = false) ∧
      (∀ c ∈ first :: others, isEnding c = true) ∧
        ∀ v, closing? (opening ++ v) = some (first, others) := by
  have hascii : ∀ {w : List Char}, w.any isOther = false → ∀ c ∈ w, isOther c = false :=
    fun h c hc => Bool.eq_false_iff.2 (List.any_eq_false.1 h c hc)
  unfold closing? at h
  split at h
  · next hp =>
    obtain ⟨u, hu⟩ := List.isPrefixOf_iff_prefix.1 hp
    cases h
    exact ⟨_, u, hu.symm, hascii rfl, List.all_eq_true.1 rfl, fun _ => rfl⟩
  split at h
  · next hp =>
    obtain ⟨u, hu⟩ := List.isPrefixOf_iff_prefix.1 hp
    cases h
    exact ⟨_, u, hu.symm, hascii rfl, List.all_eq_true.1 rfl, fun _ => rfl⟩
  split at h
  · next hp =>
    obtain ⟨u, hu⟩ := List.isPrefixOf_iff_prefix.1 hp
    cases h
    exact ⟨_, u, hu.symm, hascii rfl, List.all_eq_true.1 rfl, fun _ => rfl⟩
  · cases h

theorem isOther_of_endsName {c : Char} (h : endsName c = true) : isOther c = false := by
  simp only [endsName, isSpace, Bool.or_eq_true, beq_iff_eq] at h
  rcases h with ((((rfl | rfl) | rfl) | rfl) | rfl) | rfl <;> rfl

/-- What leads to the root in a text does so in a view of it. -/
theorem Leads.of_view {s t : List Char} (h : Leads IsAsciiBlanks t) (hv : IsViewOf s t) :
    Leads IsAsciiBlanks s := by
  induction h generalizing s with
  | @root c hc t =>
    have hother : ∀ d ∈ ['<', 'T', 'S', c], isOther d = false := by
      intro d hd
      simp only [List.mem_cons, List.not_mem_nil, or_false] at hd
      rcases hd with rfl | rfl | rfl | rfl
      · rfl
      · rfl
      · rfl
      · exact isOther_of_endsName hc
    obtain ⟨u, rfl, -⟩ := hv.of_append (w := ['<', 'T', 'S', c]) hother
    exact .root hc u
  | @text raw t hraw _ ih =>
    obtain ⟨u, rfl, hu⟩ := hv.of_append fun c hc => hraw.isOther hc
    obtain ⟨v, rfl, hvt⟩ := hu.of_cons rfl
    exact .text hraw (ih (.same '<' hvt))
  | @markup t rest others first hc ha _ ih =>
    obtain ⟨opening, u, rfl, hopening, hends, hclosing⟩ := closing?_cases hc
    obtain ⟨rest', hrest, hview⟩ := afterFirst?_of_view hends hv ha
    obtain ⟨v, rfl, -⟩ := hv.of_append hopening
    exact .markup (hclosing v) hrest (ih hview)

end Sniffing

end MessageCatalog
