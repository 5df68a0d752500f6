/-!
# Pieces of a marked-up text

A marked-up text is cut at its angle brackets into pieces: runs of text, tags, instructions,
comments, verbatim sections and document type declarations. A tag ends at the first closing bracket
outside quotes, an instruction at `?>`, a comment at `-->`, a verbatim section at `]]>`, and a
document type at a closing bracket that balances the brackets inside it.

The cut is one pass over the characters, so what it finds in the beginning of a text it finds in the
whole text too. Joined again, the pieces are the text (`source_cut`).
-/

namespace MessageCatalog.Markup

/-- A piece of a marked-up text. All but runs of text hold what stands between their angle
brackets. -/
inductive Piece where
  | text (raw : List Char)
  | tag (inside : List Char)
  | instruction (inside : List Char)
  | comment (inside : List Char)
  | verbatim (inside : List Char)
  | doctype (inside : List Char)
  deriving DecidableEq, Repr

namespace Piece

/-- The characters of a piece as they stand in the text. -/
def source : Piece → List Char
  | text raw => raw
  | tag inside | instruction inside | comment inside | verbatim inside | doctype inside =>
    '<' :: (inside ++ ['>'])

end Piece

/-- Why a text cannot be cut into pieces. -/
inductive CutFault where
  /-- What follows `<!` begins no known kind of markup. -/
  | strayDeclaration
  | openInstruction
  | openComment
  | openDoctype
  | openVerbatim
  | openTag
  deriving DecidableEq, Repr

/-- What the next character of a text belongs to. -/
inductive Mode where
  /-- A run of text. -/
  | content
  /-- Something whose opening bracket has just been read. -/
  | bracket
  /-- A tag, inside a pair of quotes or not. -/
  | tag (quote : Option Char)
  | instruction
  /-- Something that began with `<!`. -/
  | declaration
  | comment
  | verbatim
  /-- A document type with so many brackets open inside it. -/
  | doctype (depth : Nat)
  /-- Nothing: the text cannot be cut further. -/
  | stray
  deriving DecidableEq, Repr

/-- A text being cut: what the next character belongs to, the characters of the piece at hand, and
the pieces that are complete, both latest first. -/
structure Cutting where
  mode : Mode := .content
  held : List Char := []
  pieces : List Piece := []
  deriving Repr

namespace Cutting

/-- The piece at hand is complete. -/
def close (k : Cutting) (piece : List Char → Piece) : Cutting :=
  { mode := .content, held := [], pieces := piece k.held.reverse :: k.pieces }

/-- The character belongs to the piece at hand. -/
def hold (k : Cutting) (mode : Mode) (c : Char) : Cutting :=
  { k with mode, held := c :: k.held }

/-- The complete pieces and the run of text at hand, if there is one. -/
def piecesWithText (k : Cutting) : List Piece :=
  if k.held.isEmpty then k.pieces else .text k.held.reverse :: k.pieces

/-- A character inside a tag. -/
def stepTag (k : Cutting) (quote : Option Char) (c : Char) : Cutting :=
  match quote with
  | none =>
    if c = '>' then k.close .tag
    else if c = '\x22' ∨ c = '\x27' then k.hold (.tag (some c)) c
    else k.hold (.tag none) c
  | some q => k.hold (.tag (if c = q then none else quote)) c

/-- A comment may end here: what it holds so far ends in two dashes and has at least five
characters, the first of which is the exclamation mark. -/
def endsComment (held : List Char) : Bool :=
  ['-', '-'].isPrefixOf held && decide (5 ≤ held.length)

/-- Take the next character. -/
def step (k : Cutting) (c : Char) : Cutting :=
  match k.mode with
  | .content =>
    if c = '<' then { mode := .bracket, held := [], pieces := k.piecesWithText }
    else k.hold .content c
  | .bracket =>
    if c = '!' then k.hold .declaration c
    else if c = '?' then k.hold .instruction c
    else k.stepTag none c
  | .tag quote => k.stepTag quote c
  | .instruction =>
    if c = '>' ∧ ['?'].isPrefixOf k.held then k.close .instruction else k.hold .instruction c
  | .declaration =>
    if c = '[' then k.hold .verbatim c
    else if c = '-' then k.hold .comment c
    else if c = 'D' ∨ c = 'd' then k.hold (.doctype 0) c
    else { k with mode := .stray, held := [] }
  | .comment =>
    if c = '>' ∧ endsComment k.held then k.close .comment else k.hold .comment c
  | .verbatim =>
    if c = '>' ∧ [']', ']'].isPrefixOf k.held then k.close .verbatim else k.hold .verbatim c
  | .doctype depth =>
    if c = '<' then k.hold (.doctype (depth + 1)) c
    else if c = '>' then
      match depth with
      | 0 => k.close .doctype
      | depth + 1 => k.hold (.doctype depth) c
    else k.hold (.doctype depth) c
  | .stray => k

/-- Why the text cannot end here. -/
def fault? (k : Cutting) : Option CutFault :=
  match k.mode with
  | .content => none
  | .bracket | .tag _ => some .openTag
  | .instruction => some .openInstruction
  | .declaration | .stray => some .strayDeclaration
  | .comment => some .openComment
  | .verbatim => some .openVerbatim
  | .doctype _ => some .openDoctype

/-- The pieces of a text that ends here. -/
def finished (k : Cutting) : List Piece :=
  match k.mode with
  | .content => k.piecesWithText.reverse
  | _ => k.pieces.reverse

/-- The characters of a piece that is cut short. Of a stray declaration only the opening bracket
counts. -/
def openSource (k : Cutting) : List Char :=
  match k.mode with
  | .content => []
  | .stray | .declaration => ['<']
  | _ => '<' :: k.held.reverse

end Cutting

/-- Cut a text into pieces. -/
def cut (s : List Char) : Cutting :=
  s.foldl Cutting.step {}

/-- Cutting a text goes on from where the beginning of the text left it. -/
theorem cut_append (s t : List Char) : cut (s ++ t) = t.foldl Cutting.step (cut s) := by
  simp [cut]

namespace Cutting

/-- The characters taken so far, as long as the text is not given up. -/
def taken (k : Cutting) : List Char :=
  (k.pieces.reverse.flatMap Piece.source) ++
    (match k.mode with
     | .content => k.held.reverse
     | _ => '<' :: k.held.reverse)

theorem taken_close (k : Cutting) (piece : List Char → Piece) (h : k.mode ≠ .content)
    (hp : ∀ s, (piece s).source = '<' :: (s ++ ['>'])) :
    (k.close piece).taken = k.taken ++ ['>'] := by
  obtain ⟨mode, held, pieces⟩ := k
  cases mode <;> simp_all [close, taken, List.flatMap_append]

theorem taken_hold (k : Cutting) (mode : Mode) (c : Char)
    (h : k.mode = .content ↔ mode = .content) : (k.hold mode c).taken = k.taken ++ [c] := by
  obtain ⟨mode', held, pieces⟩ := k
  cases mode <;> cases mode' <;> simp_all [hold, taken]

theorem taken_step (k : Cutting) (c : Char) (h : (k.step c).mode ≠ .stray) :
    (k.step c).taken = k.taken ++ [c] := by
  have hs := fun s => (rfl : (Piece.tag s).source = '<' :: (s ++ ['>']))
  obtain ⟨mode, held, pieces⟩ := k
  cases mode with
  | content =>
    by_cases hc : c = '<'
    · subst hc
      by_cases hh : held = []
      · simp [step, taken, piecesWithText, hh]
      · simp [step, taken, piecesWithText, hh, List.flatMap_append, Piece.source]
    · simpa [step, hc] using taken_hold ⟨.content, held, pieces⟩ .content c (by simp)
  | bracket =>
    simp only [step, stepTag]
    split
    · exact taken_hold _ _ _ (by simp)
    · split
      · exact taken_hold _ _ _ (by simp)
      · split
        · next hc => subst hc; exact taken_close _ _ (by simp) hs
        · split <;> exact taken_hold _ _ _ (by simp)
  | tag quote =>
    cases quote with
    | none =>
      simp only [step, stepTag]
      split
      · next hc => subst hc; exact taken_close _ _ (by simp) hs
      · split <;> exact taken_hold _ _ _ (by simp)
    | some q => exact taken_hold _ _ _ (by simp)
  | instruction =>
    simp only [step]
    split
    · next hc => obtain ⟨rfl, _⟩ := hc; exact taken_close _ _ (by simp) fun _ => rfl
    · exact taken_hold _ _ _ (by simp)
  | declaration =>
    simp only [step] at h ⊢
    split
    · exact taken_hold _ _ _ (by simp)
    · split
      · exact taken_hold _ _ _ (by simp)
      · split
        · exact taken_hold _ _ _ (by simp)
        · simp_all
  | comment =>
    simp only [step]
    split
    · next hc => obtain ⟨rfl, _⟩ := hc; exact taken_close _ _ (by simp) fun _ => rfl
    · exact taken_hold _ _ _ (by simp)
  | verbatim =>
    simp only [step]
    split
    · next hc => obtain ⟨rfl, _⟩ := hc; exact taken_close _ _ (by simp) fun _ => rfl
    · exact taken_hold _ _ _ (by simp)
  | doctype depth =>
    simp only [step]
    split
    · exact taken_hold _ _ _ (by simp)
    · split
      · next hc =>
        subst hc
        cases depth with
        | zero => exact taken_close _ _ (by simp) fun _ => rfl
        | succ depth => exact taken_hold _ _ _ (by simp)
      · exact taken_hold _ _ _ (by simp)
  | stray => simp [step] at h

theorem step_stray {k : Cutting} (h : k.mode = .stray) (c : Char) : (k.step c).mode = .stray := by
  simp [step, h]

end Cutting

theorem foldl_step_stray {k : Cutting} (h : k.mode = .stray) (s : List Char) :
    (s.foldl Cutting.step k).mode = .stray := by
  induction s generalizing k with
  | nil => exact h
  | cons c s ih => exact ih (Cutting.step_stray h c)

theorem taken_foldl {k : Cutting} (s : List Char) (h : (s.foldl Cutting.step k).mode ≠ .stray) :
    (s.foldl Cutting.step k).taken = k.taken ++ s := by
  induction s generalizing k with
  | nil => simp
  | cons c s ih =>
    have hk : (k.step c).mode ≠ .stray := fun hs => h (foldl_step_stray hs s)
    rw [List.foldl_cons, ih h, Cutting.taken_step k c hk]
    simp

/-- The pieces of a text that can be cut are the text. -/
theorem source_cut {s : List Char} (h : (cut s).mode = .content) :
    (cut s).finished.flatMap Piece.source = s := by
  have ht := taken_foldl (k := {}) s (by show (cut s).mode ≠ _; simp [h])
  change (cut s).taken = _ at ht
  generalize cut s = k at h ht
  obtain ⟨mode, held, pieces⟩ := k
  subst h
  simp only [Cutting.taken, List.reverse_nil, List.flatMap_nil, List.nil_append] at ht
  by_cases hh : held = []
  · simpa [Cutting.finished, Cutting.piecesWithText, hh] using ht
  · simpa [Cutting.finished, Cutting.piecesWithText, hh, List.flatMap_append, Piece.source] using ht

end MessageCatalog.Markup
