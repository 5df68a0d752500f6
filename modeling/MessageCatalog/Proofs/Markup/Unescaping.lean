import MessageCatalog.Markup.Entity

/-!
# Entities in joined texts

Two texts that can be unescaped are unescaped together as they are one by one, since each of them
ends outside an entity. So it does not matter where a run of text is cut.
-/

namespace MessageCatalog.Markup

/-- The place of an entity only matters when it is not known. -/
theorem resolve_ok {first : Nat} {name : List Char} {c : Char} (h : resolve first name = .ok c)
    (first' : Nat) : resolve first' name = .ok c := by
  unfold resolve at h ⊢
  split at h
  · exact h
  · split at h
    · exact h
    · cases h

/-- A text that is unescaped at some place adds the same characters at any other, behind other
characters and in front of another text. -/
theorem unescapeFrom_append {total place : Nat} {seen s out : List Char}
    {entity? : Option (Nat × List Char)} (h : unescapeFrom total place seen entity? s = .ok out) :
    ∃ new, out = seen.reverse ++ new ∧
      ∀ (total' place' : Nat) (seen' t : List Char) (entity'? : Option (Nat × List Char)),
        entity'?.map Prod.snd = entity?.map Prod.snd →
          ∃ place'', unescapeFrom total' place' seen' entity'? (s ++ t) =
            unescapeFrom total' place'' (new.reverse ++ seen') none t := by
  induction s generalizing place seen entity? with
  | nil =>
    cases entity? with
    | some entity => simp [unescapeFrom] at h
    | none =>
      simp only [unescapeFrom, Except.ok.injEq] at h
      refine ⟨[], by simp [h], fun total' place' seen' t entity'? he => ⟨place', ?_⟩⟩
      simp only [Option.map_none, Option.map_eq_none_iff] at he
      rw [he]
      rfl
  | cons c s ih =>
    cases entity? with
    | none =>
      simp only [unescapeFrom] at h
      split at h
      · next hc =>
        obtain ⟨new, hout, hnew⟩ := ih h
        refine ⟨new, hout, fun total' place' seen' t entity'? he => ?_⟩
        simp only [Option.map_none, Option.map_eq_none_iff] at he
        simp only [he, List.cons_append, unescapeFrom, if_pos hc]
        exact hnew _ _ _ _ _ rfl
      · next hc =>
        obtain ⟨new, hout, hnew⟩ := ih h
        refine ⟨c :: new, by simp [hout], fun total' place' seen' t entity'? he => ?_⟩
        simp only [Option.map_none, Option.map_eq_none_iff] at he
        simp only [he, List.cons_append, unescapeFrom, if_neg hc, List.reverse_cons,
          List.append_assoc]
        exact hnew _ _ _ _ none rfl
    | some entity =>
      obtain ⟨start, name⟩ := entity
      simp only [unescapeFrom] at h
      split at h
      · next hc =>
        split at h
        · next value hv =>
          obtain ⟨new, hout, hnew⟩ := ih h
          refine ⟨value :: new, by simp [hout], fun total' place' seen' t entity'? he => ?_⟩
          obtain ⟨⟨start', name'⟩, rfl, rfl⟩ := Option.map_eq_some_iff.1 he
          simp only [List.cons_append, unescapeFrom, if_pos hc, resolve_ok hv, List.reverse_cons,
            List.append_assoc]
          exact hnew _ _ _ _ none rfl
        · cases h
      · next hc =>
        split at h
        · cases h
        · next hc' =>
          obtain ⟨new, hout, hnew⟩ := ih h
          refine ⟨new, hout, fun total' place' seen' t entity'? he => ?_⟩
          obtain ⟨⟨start', name'⟩, rfl, rfl⟩ := Option.map_eq_some_iff.1 he
          simp only [List.cons_append, unescapeFrom, if_neg hc, if_neg hc']
          exact hnew _ _ _ _ _ rfl

/-- Two texts are unescaped together as they are one by one. -/
theorem unescape_append {s t x y : List Char} (hs : unescape s = .ok x) (ht : unescape t = .ok y) :
    unescape (s ++ t) = .ok (x ++ y) := by
  unfold unescape at *
  obtain ⟨x', rfl, hx⟩ := unescapeFrom_append hs
  obtain ⟨y', rfl, hy⟩ := unescapeFrom_append ht
  obtain ⟨place, h1⟩ := hx (byteLength (s ++ t)) 0 [] t none rfl
  obtain ⟨place', h2⟩ := hy (byteLength (s ++ t)) place x.reverse [] none rfl
  simp only [List.append_nil] at h1 h2
  rw [h1, h2, unescapeFrom]
  simp

/-- What follows a text that can be unescaped can be unescaped if both can be. -/
theorem unescape_of_append {s t x z : List Char} (hs : unescape s = .ok x)
    (h : unescape (s ++ t) = .ok z) : ∃ y, unescape t = .ok y := by
  unfold unescape at *
  obtain ⟨x', -, hx⟩ := unescapeFrom_append hs
  obtain ⟨place, h1⟩ := hx (byteLength (s ++ t)) 0 [] t none rfl
  rw [h1] at h
  obtain ⟨y, -, hy⟩ := unescapeFrom_append h
  obtain ⟨place', h2⟩ := hy (byteLength t) 0 [] [] none rfl
  rw [List.append_nil] at h2
  exact ⟨_, h2⟩

@[simp] theorem unescape_nil : unescape [] = .ok [] := rfl

end MessageCatalog.Markup
