/-!
# Layouts of structured values

A value that is shown for diagnosis has two layouts: on one line, or as a block in which every
component stands on a line of its own, indented by four columns and followed by a comma. Both
are built together, so that a component may be placed in either.
-/

namespace BinaryImage.Text

structure Layout where
  line : String
  block : List String
  deriving DecidableEq, Repr

namespace Layout

def atom (text : String) : Layout := ⟨text, [text]⟩

/-- A value that is shown by a text, which may break its lines itself. -/
def verbatim (text : String) : Layout := ⟨text, (text.toList.splitOn '\n').map String.ofList⟩

/-- Puts a label before the first line of a block. -/
def labelled (label : String) : List String → List String
  | [] => [label]
  | first :: rest => (label ++ first) :: rest

/-- Puts a comma after the last line of a block. -/
def terminated : List String → List String
  | [] => []
  | [last] => [last ++ ","]
  | first :: rest => first :: terminated rest

/-- Moves a block four columns to the right. -/
def indented (block : List String) : List String := block.map ("    " ++ ·)

/-- A name followed by components in parentheses. -/
def tuple (name : String) (items : List Layout) : Layout where
  line := name ++ "(" ++ ", ".intercalate (items.map line) ++ ")"
  block :=
    [name ++ "("] ++ items.flatMap (fun item => indented (terminated item.block)) ++ [")"]

/-- A name followed by labelled components in braces. -/
def record (name : String) (fields : List (String × Layout)) : Layout where
  line :=
    name ++ " \x7b " ++
      ", ".intercalate (fields.map fun field => field.1 ++ ": " ++ field.2.line) ++ " \x7d"
  block :=
    [name ++ " \x7b"] ++
      fields.flatMap (fun field =>
        indented (terminated (labelled (field.1 ++ ": ") field.2.block))) ++ ["\x7d"]

def optional : Option Layout → Layout
  | none => atom "None"
  | some item => tuple "Some" [item]

def bool (value : Bool) : Layout := atom (if value then "true" else "false")

def blockText (layout : Layout) : String := "\n".intercalate layout.block

theorem blockText_verbatim (text : String) : (verbatim text).blockText = text := by
  apply String.toList_injective
  rw [blockText, verbatim, String.toList_intercalate, List.map_map]
  have kept : String.toList ∘ String.ofList = id := funext fun _ => String.toList_ofList
  rw [kept, List.map_id]
  exact List.intercalate_splitOn '\n'

end Layout

end BinaryImage.Text
