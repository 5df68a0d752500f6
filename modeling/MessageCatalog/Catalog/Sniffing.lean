import MessageCatalog.Encoding.Label
import MessageCatalog.Text.Blank

/-!
# Telling catalogs from other files

Other kinds of files share the extension of catalogs, so a file is taken for a catalog by how it
begins: after blanks, byte order marks, instructions, comments and document types there has to be a
root tag `TS`. Only the first sixty-four kibibytes are looked at, and bytes that are no text are
replaced.
-/

namespace MessageCatalog.Sniffing

/-- How many bytes of a file are looked at. -/
def reach : Nat := 64 * 1024

/-- The characters of the beginning of a file. -/
def beginning (bytes : List UInt8) : List Char :=
  let bytes := bytes.take reach
  match Encoding.ofByteOrderMark? bytes with
  | some (.utf16 order, rest) =>
    (Encoding.Utf16.decode order rest).map (·.getD Encoding.Utf8.replacement)
  | some (_, rest) => Encoding.Utf8.decodeLossy rest
  | none => Encoding.Utf8.decodeLossy bytes

/-- The text after the first place where some characters stand. -/
def afterFirst? (wanted : List Char) : List Char → Option (List Char)
  | [] => if wanted.isEmpty then some [] else none
  | c :: s => if wanted.isPrefixOf (c :: s) then some ((c :: s).drop wanted.length)
    else afterFirst? wanted s

theorem length_of_afterFirst?_cons {first : Char} {wanted s rest : List Char}
    (h : afterFirst? (first :: wanted) s = some rest) : rest.length < s.length := by
  induction s with
  | nil => simp [afterFirst?] at h
  | cons c s ih =>
    simp only [afterFirst?] at h
    split at h
    · simp only [Option.some.injEq] at h
      rw [← h, List.length_drop, List.length_cons, List.length_cons]
      omega
    · exact Nat.lt_succ_of_lt (ih h)

/-- What ends the markup that stands in front of the root: its first character and the others. -/
def closing? (s : List Char) : Option (Char × List Char) :=
  if "<?".toList.isPrefixOf s then some ('?', ['>'])
  else if "<!--".toList.isPrefixOf s then some ('-', ['-', '>'])
  else if "<!DOCTYPE".toList.isPrefixOf s then some ('>', [])
  else none

/-- Drop byte order marks, and then blanks. -/
def dropBlanks (s : List Char) : List Char :=
  Text.trimStart (s.dropWhile (· == Char.ofNat 0xFEFF))

theorem length_dropBlanks (s : List Char) : (dropBlanks s).length ≤ s.length :=
  Nat.le_trans (List.dropWhile_suffix _).length_le (List.dropWhile_suffix _).length_le

/-- What is left after the markup in front of the root, unless it goes on to the end. -/
def root? (s : List Char) : Option (List Char) :=
  match closing? (dropBlanks s) with
  | none => some (dropBlanks s)
  | some (first, others) =>
    match _found : afterFirst? (first :: others) (dropBlanks s) with
    | none => none
    | some rest => root? rest
  termination_by s.length
  decreasing_by
    exact Nat.lt_of_lt_of_le (length_of_afterFirst?_cons _found) (length_dropBlanks s)

/-- The text begins with the root tag of a catalog. -/
def isRoot : List Char → Bool
  | '<' :: 'T' :: 'S' :: c :: _ => Text.isBlank c || c == '>' || c == '/'
  | _ => false

/-- The file looks like a catalog. -/
def sniff (bytes : List UInt8) : Bool :=
  match root? (beginning bytes) with
  | some s => isRoot s
  | none => false

end MessageCatalog.Sniffing
