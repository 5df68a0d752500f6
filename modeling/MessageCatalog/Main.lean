import MessageCatalog.Command.Run
import MessageCatalog.Command.Terminal
import MessageCatalog.Report.Instant
import Std.Time.DateTime.Timestamp

/-!
# The program

The files of the system as a world with files, and the program, which carries out its command line
there.
-/

namespace MessageCatalog

open Files

/-- Why the system refuses something. -/
def Files.Refusal.ofError : IO.Error → Refusal
  | .noFileOrDirectory _ _ _ => .missing
  | .alreadyExists _ 17 _ => .present
  | .alreadyExists _ code text | .otherError code text | .resourceBusy code text
  | .resourceVanished code text | .unsupportedOperation code text | .hardwareFault code text
  | .unsatisfiedConstraints code text | .illegalOperation code text | .protocolError code text
  | .timeExpired code text | .interrupted _ code text | .invalidArgument _ code text
  | .permissionDenied _ code text | .resourceExhausted _ code text | .inappropriateType _ code text
  | .noSuchThing _ code text =>
    if code = 20 then .notDirectory
    else if code = 21 then .isDirectory
    else .other (text ++ " (os error " ++ Report.number code.toNat ++ ")")
  | .unexpectedEof => .other "unexpected end of file"
  | .userError text => .other text

/-- Do something that the system may refuse. -/
def attempt {α : Type} (act : IO α) : IO (Except Refusal α) := do
  try return .ok (← act)
  catch e => return .error (.ofError e)

/-- A path as an entry of a directory listing. -/
def entryAt (path : FilePath) : IO.FS.DirEntry where
  root := path.name
  fileName := ""

/-- What a path leads to. -/
def systemKind? (path : FilePath) : IO (Option Kind) := do
  match ← attempt (entryAt path).root.metadata with
  | .ok data =>
    return match data.type with
      | .file => some .file
      | .dir => some .directory
      | _ => none
  | .error _ => return none

/-- The files below a directory. Directories that cannot be read and links are passed over. -/
partial def filesBelow (path : FilePath) : IO (List FilePath) := do
  match ← attempt (entryAt path).root.readDir with
  | .error _ => return []
  | .ok entries =>
    let found ← entries.toList.mapM fun entry => do
      let below := path.join entry.fileName
      match ← attempt entry.path.symlinkMetadata with
      | .ok data =>
        match data.type with
        | .file => return [below]
        | .dir => filesBelow below
        | _ => return []
      | .error _ => return []
    return found.flatten

instance : Access IO where
  read path := attempt do return (← IO.FS.readBinFile path.name).toList
  write path content := attempt (IO.FS.writeBinFile path.name ⟨content.toArray⟩)
  kind? := systemKind?
  below := filesBelow
  makeDirectories path := attempt (IO.FS.createDirAll path.name)

/-- The point in time at which the program runs. -/
def now : IO Report.Instant := do
  let passed := (← Std.Time.Timestamp.now).toDurationSinceUnixEpoch
  return { seconds := passed.second.val.toNat, nanoseconds := passed.nano.val.toNat }

/-- The terminal of the program. -/
def terminal : IO Command.Terminal := do
  return {
    isTerminal := ← (← IO.getStdout).isTty
    wanted := ← IO.getEnv "CLICOLOR"
    unwanted := ← IO.getEnv "NO_COLOR"
    forced := ← IO.getEnv "CLICOLOR_FORCE" }

end MessageCatalog

open MessageCatalog in
def main (args : List String) : IO UInt32 := do
  let color := (← terminal).hasColor
  let outcome ← Command.run color (← now).render args
  IO.print outcome.output
  match outcome.fault with
  | some fault => IO.eprint (Command.faultText fault)
  | none => if outcome.exit = 2 then IO.eprint Command.helpText
  return outcome.exit.toUInt32
