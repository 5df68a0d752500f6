import MessageCatalog.Check.Validator
import MessageCatalog.Data.Yaml.Reading
import MessageCatalog.Lookup.Chain
import MessageCatalog.Report.Format

/-!
# Settings

What a project sets for all its catalogs, from a YAML file. Every setting has a default, and a file
names only what it changes. The names of checks and of the format are looked at when the settings
are read, so that settings that have been read can be used.
-/

namespace MessageCatalog

open Data Check

structure Settings where
  /-- Unfinished messages may be shown. -/
  includeUnfinished : Bool := false
  /-- The languages whose catalogs are asked when a catalog lacks a text. -/
  fallbackLanguages : List String := []
  /-- The names of the checks that are not wanted. -/
  disabledNames : List String := []
  /-- The severity from which on a check fails. -/
  failOn : Severity := .error
  /-- The name of the format of reports. -/
  formatName : String := "text"
  /-- Retired messages are dropped. -/
  dropObsolete : Bool := false
  deriving DecidableEq, Repr

/-- Why settings are refused. -/
inductive SettingsFault where
  | notReadable
  | unknownCheck (name : String)
  | unknownFormat (name : String)
  deriving DecidableEq, Repr

def SettingsFault.message : SettingsFault → String
  | notReadable => "the settings cannot be read"
  | unknownCheck name => s!"unknown check '{name}'"
  | unknownFormat name => s!"unknown output format '{name}'"

namespace Settings

/-- The checks that are not wanted. -/
def disabled (s : Settings) : Except SettingsFault (List IssueKind) :=
  s.disabledNames.mapM fun name =>
    match IssueKind.parse? name with
    | some kind => .ok kind
    | none => .error (.unknownCheck name)

/-- The format of reports. -/
def format (s : Settings) : Except SettingsFault Report.Format :=
  match Report.Format.parse? s.formatName with
  | some format => .ok format
  | none => .error (.unknownFormat s.formatName)

/-- The validator that makes the wanted checks. -/
def validator (s : Settings) : Except SettingsFault Validator :=
  s.disabled.map fun disabled => { disabled }

/-- What lookups may show. -/
def policy (s : Settings) : Lookup.Policy where
  includeUnfinished := s.includeUnfinished

section

variable {ν : Type} {m : Type → Type} [Monad m] [MonadExcept Unit m] [Source ν m]

/-- The fields of a section of the settings, all absent if the section is. -/
def group (names : List String) : Option ν → m (List (Option ν)) :=
  Source.orElse (names.map fun _ => none) (Source.fields names)

/-- The severity that a name stands for. -/
def severity (value : ν) : m Severity := do
  Source.demand (Severity.ofName? (← Source.name value))

/-- The settings in some data. -/
def ofData (value : ν) : m Settings := do
  let names := ["include_unfinished", "fallback_languages", "checks", "output", "sync"]
  match ← Source.fields names value with
  | [includeUnfinished, fallbackLanguages, checks, output, sync] =>
    match ← group ["disabled", "fail_on"] checks, ← group ["format"] output,
        ← group ["drop_obsolete"] sync with
    | [disabled, failOn], [format], [dropObsolete] =>
      pure {
        includeUnfinished := ← Source.orElse false Source.bool includeUnfinished
        fallbackLanguages := ← Source.orElse [] (Source.listOf Source.text) fallbackLanguages
        disabledNames := ← Source.orElse [] (Source.listOf Source.text) disabled
        failOn := ← Source.orElse .error severity failOn
        formatName := ← Source.orElse "text" Source.text format
        dropObsolete := ← Source.orElse false Source.bool dropObsolete }
    | _, _, _ => Source.refuse
  | _ => Source.refuse

end

/-- Read settings. A blank file changes nothing. -/
def parse (s : List Char) : Except SettingsFault Settings :=
  if Text.isAllBlank s then .ok {}
  else
    match (Yaml.read? s).bind (·.interpret ofData) with
    | none => .error .notReadable
    | some settings => do
      let _ ← settings.disabled
      let _ ← settings.format
      pure settings

def toData (s : Settings) : Value :=
  .record [("include_unfinished", .bool s.includeUnfinished),
    ("fallback_languages", .texts s.fallbackLanguages),
    ("checks", .record [("disabled", .texts s.disabledNames),
      ("fail_on", .text s.failOn.name)]),
    ("output", .record [("format", .text s.formatName)]),
    ("sync", .record [("drop_obsolete", .bool s.dropObsolete)])]

theorem parse_blank {s : List Char} (h : Text.isAllBlank s = true) : parse s = .ok {} := by
  simp [parse, h]

end Settings

end MessageCatalog
