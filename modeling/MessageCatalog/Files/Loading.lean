import MessageCatalog.Catalog.Parsing
import MessageCatalog.Files.Access
import MessageCatalog.Settings.Basic

/-!
# Catalogs and settings from files

What becomes of the content of a file, or of the refusal to read it. A fault is told as a chain that
goes from what was tried to what went wrong.
-/

namespace MessageCatalog

open Files

/-- What went wrong, from what was tried to the cause. -/
abbrev Chain := List String

/-- A chain in one line. -/
def Chain.line (c : Chain) : String :=
  ": ".intercalate c

/-- Why a catalog cannot be loaded. -/
inductive LoadFault where
  | refused (path : FilePath) (refusal : Refusal)
  | malformed (path : FilePath) (fault : ReadFault)
  deriving DecidableEq, Repr

def LoadFault.chain : LoadFault → Chain
  | refused path refusal => ["reading catalog " ++ path.name, refusal.message]
  | malformed path fault => ("parsing catalog " ++ path.name) :: fault.chain

/-- The catalog in the content of a file. -/
def Catalog.ofContent (path : FilePath) (content : Except Refusal Bytes) :
    Except LoadFault Catalog :=
  match content with
  | .error refusal => .error (.refused path refusal)
  | .ok bytes => (Catalog.parseBytes bytes).mapError (.malformed path)

/-- Why settings cannot be loaded. -/
inductive SettingsLoadFault where
  | refused (path : FilePath) (refusal : Refusal)
  | notText (path : FilePath)
  | malformed (path : FilePath) (fault : SettingsFault)
  deriving DecidableEq, Repr

def SettingsLoadFault.chain : SettingsLoadFault → Chain
  | refused path refusal => ["reading config " ++ path.name, refusal.message]
  | notText path => ["reading config " ++ path.name, "stream did not contain valid UTF-8"]
  | malformed path fault => ["parsing config " ++ path.name, fault.message]

/-- The settings in the content of a file. -/
def Settings.ofContent (path : FilePath) (content : Except Refusal Bytes) :
    Except SettingsLoadFault Settings :=
  match content with
  | .error refusal => .error (.refused path refusal)
  | .ok bytes =>
    match Encoding.Utf8.decode bytes with
    | .error _ => .error (.notText path)
    | .ok chars => (Settings.parse chars).mapError (.malformed path)

/-- The file in which settings are looked for when none is named. -/
def Settings.defaultPath : FilePath := ⟨"tscat.yaml"⟩

section

variable {m : Type → Type} [Monad m] [Access m]

def loadCatalog (path : FilePath) : m (Except LoadFault Catalog) :=
  return Catalog.ofContent path (← Access.read path)

def loadSettings (path : FilePath) : m (Except SettingsLoadFault Settings) :=
  return Settings.ofContent path (← Access.read path)

/-- The settings of the directory: those in the default file, if it is there. -/
def loadDefaultSettings : m (Except SettingsLoadFault Settings) := do
  if (← Access.kind? Settings.defaultPath) = some .file then loadSettings Settings.defaultPath
  else return .ok {}

end

end MessageCatalog
