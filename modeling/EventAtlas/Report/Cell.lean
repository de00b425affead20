import EventAtlas.Text.Escape
import EventAtlas.Text.Field

/-!
# Table cells

A cell shows a list of texts, each escaped for markup, with line breaks between them. An empty
list is shown as a word of its own.
-/

namespace EventAtlas.Report

/-- What an empty cell shows. -/
def emptyCell : String := "_none_"

/-- What stands between the texts of a cell. -/
def cellBreak : String := "<br/>"

/-- A text as a cell shows it. -/
def cellText (value : String) : String :=
  String.ofList (Text.escape value.toList)

/-- The cell that shows a list of texts. -/
def cell (values : List String) : String :=
  if values = [] then emptyCell else Text.join cellBreak (values.map cellText)

end EventAtlas.Report
