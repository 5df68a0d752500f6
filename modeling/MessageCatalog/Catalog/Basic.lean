import MessageCatalog.Total

/-!
# Message catalogs

A catalog holds the messages of an application in one target language. Messages stand in
contexts, one context for each part of the user interface, and every message pairs a source
string with its text in the target language and with a status.

A message is known by its key: its source string and its comment, where an absent comment is the
same key as an empty one. `Catalog.find?` looks up the first message with a key in the first
context with a name, and `Catalog.entries` lists every message with the name of its context.
-/

namespace MessageCatalog

/-- Where a message is in its life. -/
inductive Status where
  /-- In use, and its text is ready to be shown. -/
  | finished
  /-- In use, and waiting for a translator. -/
  | unfinished
  /-- No longer in use; it was finished before. -/
  | vanished
  /-- No longer in use; it was unfinished before. -/
  | obsolete
  deriving DecidableEq, Repr

namespace Status

/-- Finished and unfinished messages still belong to the application. -/
def isActive : Status → Bool
  | finished | unfinished => true
  | vanished | obsolete => false

/-- The name of a status in reports and data files. -/
def name : Status → String
  | finished => "finished"
  | unfinished => "unfinished"
  | vanished => "vanished"
  | obsolete => "obsolete"

/-- The mark a status leaves in a catalog file: none for a finished message. -/
def mark? : Status → Option String
  | finished => none
  | unfinished => some "unfinished"
  | vanished => some "vanished"
  | obsolete => some "obsolete"

/-- The status a mark stands for. An empty mark is the same as none. -/
def ofMark? : Option String → Option Status
  | none => some finished
  | some mark =>
    if mark = "" then some finished
    else if mark = "unfinished" then some unfinished
    else if mark = "vanished" then some vanished
    else if mark = "obsolete" then some obsolete
    else none

/-- The status with a name. -/
def ofName? (word : String) : Option Status :=
  [finished, unfinished, vanished, obsolete].find? (·.name == word)

theorem ofMark?_mark? (s : Status) : ofMark? s.mark? = some s := by
  cases s <;> decide

end Status

/-- The text of a message in the target language. -/
inductive Target where
  /-- One text. -/
  | single (text : String)
  /-- One text for each plural form of the language, in the order of its plural rule. -/
  | plural (forms : List String)
  deriving DecidableEq, Repr

namespace Target

/-- The texts of a target, a plain text being its own only form. -/
def forms : Target → List String
  | single text => [text]
  | plural forms => forms

/-- No form carries text. -/
def isEmpty (t : Target) : Bool :=
  t.forms.all (· == "")

/-- There is a form, and every form carries text. -/
def isComplete (t : Target) : Bool :=
  !t.forms.isEmpty && t.forms.all (· != "")

/-- The first form that carries text. -/
def firstText? (t : Target) : Option String :=
  t.forms.find? (· != "")

@[simp] theorem forms_single (text : String) : (single text).forms = [text] := rfl

@[simp] theorem forms_plural (fs : List String) : (plural fs).forms = fs := rfl

/-- A complete target is not empty. -/
theorem isEmpty_eq_false_of_isComplete {t : Target} (h : t.isComplete = true) :
    t.isEmpty = false := by
  unfold isComplete isEmpty at *
  cases hf : t.forms with
  | nil => simp [hf] at h
  | cons f fs => simp_all

end Target

/-- Where a source string appears in the application. Both parts are kept as they are written. -/
structure Location where
  filename : Option String := none
  line : Option String := none
  deriving DecidableEq, Repr

/-- One string of the user interface and its text in the target language. -/
structure Message where
  id : Option String := none
  /-- The text depends on a count. -/
  numerus : Bool := false
  locations : List Location := []
  source : String := ""
  oldSource : Option String := none
  /-- Tells apart messages with one source string; part of the key. -/
  comment : Option String := none
  oldComment : Option String := none
  extraComment : Option String := none
  translatorComment : Option String := none
  target : Target := .single ""
  status : Status := .finished
  deriving DecidableEq, Repr

/-- A source string and a comment. -/
structure Key where
  source : String
  comment : String
  deriving DecidableEq, Hashable, Repr

namespace Message

/-- The comment of a message, where an absent comment is an empty one. -/
def commentKey (m : Message) : String :=
  m.comment.getD ""

/-- What a message is known by within its context. -/
def key (m : Message) : Key :=
  ⟨m.source, m.commentKey⟩

/-- The message still belongs to the application. -/
def isActive (m : Message) : Bool :=
  m.status.isActive

/-- The message is finished and no form lacks its text. -/
def isTranslated (m : Message) : Bool :=
  decide (m.status = .finished) && m.target.isComplete

end Message

/-- The messages of one part of the user interface. -/
structure Context where
  name : String := ""
  comment : Option String := none
  messages : List Message := []
  deriving DecidableEq, Repr

namespace Context

/-- The first message with a key. -/
def find? (c : Context) (key : Key) : Option Message :=
  c.messages.find? (·.key = key)

/-- Change the first message with a key. -/
def updateMessages (key : Key) (f : Message → Message) : List Message → List Message
  | [] => []
  | m :: rest => if m.key = key then f m :: rest else m :: updateMessages key f rest

/-- Change the first message of a context with a key. -/
def update (c : Context) (key : Key) (f : Message → Message) : Context :=
  { c with messages := updateMessages key f c.messages }

/-- The position of the first message with a key. -/
def findIdx? (c : Context) (key : Key) : Option Nat :=
  c.messages.findIdx? (·.key = key)

end Context

/-- The messages of an application in one target language. -/
structure Catalog where
  /-- The version of the file format. -/
  version : String := "2.1"
  language : Option String := none
  sourceLanguage : Option String := none
  contexts : List Context := []
  deriving DecidableEq, Repr

namespace Catalog

/-- The code of the target language, empty when the catalog has none. -/
def languageCode (c : Catalog) : String :=
  c.language.getD ""

/-- How many messages the catalog holds. -/
def messageCount (c : Catalog) : Nat :=
  total (c.contexts.map (·.messages.length))

/-- Every message with the name of its context, in the order of the file. -/
def entries (c : Catalog) : List (String × Message) :=
  c.contexts.flatMap fun context => context.messages.map fun message => (context.name, message)

/-- The first context with a name. -/
def context? (c : Catalog) (name : String) : Option Context :=
  c.contexts.find? (·.name = name)

/-- The first message with a key in the first context with a name. -/
def find? (c : Catalog) (name : String) (key : Key) : Option Message :=
  (c.context? name).bind (·.find? key)

/-- Change the first context with a name, or add a changed empty context at the end. -/
def updateContexts (name : String) (f : Context → Context) : List Context → List Context
  | [] => [f { name }]
  | context :: rest =>
    if context.name = name then f context :: rest else context :: updateContexts name f rest

/-- Change the context with a name, which is added at the end if there is none. -/
def updateContext (c : Catalog) (name : String) (f : Context → Context) : Catalog :=
  { c with contexts := updateContexts name f c.contexts }

/-- Append a message to the context with a name, which is added if there is none. -/
def push (c : Catalog) (name : String) (message : Message) : Catalog :=
  c.updateContext name fun context => { context with messages := context.messages ++ [message] }

/-- Change the first message with a key in the context with a name, which is added if there is
none. -/
def update (c : Catalog) (name : String) (key : Key) (f : Message → Message) : Catalog :=
  c.updateContext name (·.update key f)

theorem length_entries (c : Catalog) : c.entries.length = c.messageCount := by
  rw [entries, length_flatMap, messageCount]
  simp

end Catalog

end MessageCatalog
