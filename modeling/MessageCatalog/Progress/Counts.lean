import MessageCatalog.Catalog.Basic
import MessageCatalog.Data.Value

/-!
# Counting messages

How many messages have each status, and how many of them are translated. Counts of parts add up.
-/

namespace MessageCatalog.Progress

open Data

/-- How many messages have a status. -/
def countStatus (status : Status) (messages : List Message) : Nat :=
  messages.countP (·.status = status)

/-- How many messages are finished and lack no text. -/
def countTranslated (messages : List Message) : Nat :=
  messages.countP (·.isTranslated)

/-- How many messages depend on a count. -/
def countNumerus (messages : List Message) : Nat :=
  messages.countP (·.numerus)

/-- The number of messages with each status. -/
structure Counts where
  finished : Nat := 0
  unfinished : Nat := 0
  vanished : Nat := 0
  obsolete : Nat := 0
  deriving DecidableEq, Repr

namespace Counts

def ofMessages (messages : List Message) : Counts where
  finished := countStatus .finished messages
  unfinished := countStatus .unfinished messages
  vanished := countStatus .vanished messages
  obsolete := countStatus .obsolete messages

/-- How many messages are in use. -/
def active (c : Counts) : Nat :=
  c.finished + c.unfinished

def total (c : Counts) : Nat :=
  c.active + c.vanished + c.obsolete

/-- Both counts together. -/
def add (a b : Counts) : Counts where
  finished := a.finished + b.finished
  unfinished := a.unfinished + b.unfinished
  vanished := a.vanished + b.vanished
  obsolete := a.obsolete + b.obsolete

def toData (c : Counts) : Value :=
  .record [("finished", .nat c.finished), ("unfinished", .nat c.unfinished),
    ("vanished", .nat c.vanished), ("obsolete", .nat c.obsolete)]

/-- Every message has one status. -/
theorem total_ofMessages (messages : List Message) :
    (ofMessages messages).total = messages.length := by
  induction messages with
  | nil => rfl
  | cons m rest ih =>
    simp only [total, active, ofMessages, countStatus, List.countP_cons, List.length_cons] at ih ⊢
    cases h : m.status <;> simp <;> omega

/-- The counts of two lists together are those of both lists in one. -/
theorem ofMessages_append (a b : List Message) :
    ofMessages (a ++ b) = (ofMessages a).add (ofMessages b) := by
  simp [ofMessages, add, countStatus]

end Counts

/-- What is translated is finished. -/
theorem countTranslated_le (messages : List Message) :
    countTranslated messages ≤ (Counts.ofMessages messages).finished :=
  List.countP_mono_left fun m _ h => by
    simp only [Message.isTranslated, Bool.and_eq_true] at h
    exact h.1

end MessageCatalog.Progress
