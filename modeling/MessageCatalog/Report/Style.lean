import MessageCatalog.Text.Numeral

/-!
# Styled lines

A report is a list of lines, and a line is a list of pieces, some of which have a style. On a
terminal with colours a styled piece stands between the code of its style and a reset; without
colours only the text remains.
-/

namespace MessageCatalog.Report

inductive Style where
  | heading
  | error
  | warning
  | strong
  | green
  | yellow
  | red
  | blue
  deriving DecidableEq, Repr

/-- The numbers that switch a style on. -/
def Style.code : Style → String
  | heading => "1;36"
  | error => "1;31"
  | warning => "1;33"
  | strong => "1"
  | green => "32"
  | yellow => "33"
  | red => "31"
  | blue => "34"

/-- A control sequence of a terminal. -/
def control (code : String) : String :=
  "\x1b[" ++ code ++ "m"

/-- What ends every style. -/
def reset : String := control "0"

/-- A part of a line. -/
structure Piece where
  style : Option Style := none
  text : String
  deriving DecidableEq, Repr

/-- A line of a report. -/
abbrev Line := List Piece

/-- A part of a line without a style. -/
def plain (text : String) : Piece := ⟨none, text⟩

/-- A part of a line with a style. -/
def styled (style : Style) (text : String) : Piece := ⟨some style, text⟩

/-- The text of a piece on a terminal. A reset within a styled text is followed by the code of the
style, so that the style goes on. -/
def Piece.render (color : Bool) (p : Piece) : String :=
  match p.style with
  | none => p.text
  | some style =>
    if color then
      let start := control style.code
      start ++ (reset ++ start).intercalate (p.text.splitOn reset) ++ reset
    else p.text

/-- A line as text. -/
def Line.render (color : Bool) (line : Line) : String :=
  String.join (line.map (·.render color))

/-- The lines of a report as text, without a line break at the end. -/
def renderLines (color : Bool) (lines : List Line) : String :=
  "\n".intercalate (lines.map (·.render color))

end MessageCatalog.Report
