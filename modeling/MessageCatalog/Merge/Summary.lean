import MessageCatalog.Data.Value

/-!
# What a merge did

The counts of what happened to messages in a merge. Summaries of parts add up.
-/

namespace MessageCatalog.Merge

structure Summary where
  /-- Messages of the template that were in use before. -/
  kept : Nat := 0
  /-- Messages that had been retired and are in use again. -/
  revived : Nat := 0
  /-- New messages without text. -/
  added : Nat := 0
  /-- New messages with the text of an equal string elsewhere. -/
  sameText : Nat := 0
  /-- Finished messages that were retired. -/
  vanished : Nat := 0
  /-- Unfinished messages that were retired. -/
  obsoleted : Nat := 0
  /-- Messages that are gone. -/
  dropped : Nat := 0
  deriving DecidableEq, Repr

namespace Summary

/-- Both summaries together. -/
def add (a b : Summary) : Summary where
  kept := a.kept + b.kept
  revived := a.revived + b.revived
  added := a.added + b.added
  sameText := a.sameText + b.sameText
  vanished := a.vanished + b.vanished
  obsoleted := a.obsoleted + b.obsoleted
  dropped := a.dropped + b.dropped

/-- All summaries of a list together. -/
def sum (parts : List Summary) : Summary :=
  parts.foldr add {}

/-- Nothing happened but that messages were kept. -/
def isNoop (s : Summary) : Bool :=
  s.revived == 0 && s.added == 0 && s.sameText == 0 && s.vanished == 0 && s.obsoleted == 0 &&
    s.dropped == 0

open Data in
def toData (s : Summary) : Value :=
  .record [("kept", .nat s.kept), ("revived", .nat s.revived), ("added", .nat s.added),
    ("same_text", .nat s.sameText), ("vanished", .nat s.vanished),
    ("obsoleted", .nat s.obsoleted), ("dropped", .nat s.dropped)]

theorem add_zero (s : Summary) : s.add {} = s := by simp [add]

theorem zero_add (s : Summary) : add {} s = s := by simp [add]

theorem add_assoc (a b c : Summary) : (a.add b).add c = a.add (b.add c) := by
  simp [add, Nat.add_assoc]

end Summary

end MessageCatalog.Merge
