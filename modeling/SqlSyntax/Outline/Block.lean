/-!
# Blocks of text

A block is a text that does not break, or a bracket around items. Each item has a label in
front, which may be empty. A block is written on one line, or with an item a line.
-/
namespace SqlSyntax

inductive Block where
  | atom (text : String)
  | group (opening closing : String) (spaced : Bool) (items : List (String × Block))

namespace Block

mutual

/-- On one line, with a space inside the brackets if the group is spaced. -/
def inline : Block → String
  | atom text => text
  | group opening closing spaced items =>
    let pad := if spaced then " " else ""
    opening ++ pad ++ ", ".intercalate (inlineItems items) ++ pad ++ closing

def inlineItems : List (String × Block) → List String
  | [] => []
  | (label, block) :: items => (label ++ block.inline) :: inlineItems items

end

/-- How groups are broken into lines. -/
structure Indentation where
  step : String
  lastComma : Bool

mutual

/-- With each item on lines of its own, all lines after the first after the margin. A group
without items stays closed. -/
def indented (i : Indentation) (margin : String) : Block → String
  | atom text => text
  | group opening closing _ [] => opening ++ closing
  | group opening closing _ (item :: items) =>
    opening ++ "\n" ++ ",\n".intercalate (indentedItems i (margin ++ i.step) (item :: items)) ++
      (if i.lastComma then ",\n" else "\n") ++ margin ++ closing

def indentedItems (i : Indentation) (margin : String) : List (String × Block) → List String
  | [] => []
  | (label, block) :: items =>
    (margin ++ label ++ block.indented i margin) :: indentedItems i margin items

end

end Block

end SqlSyntax
