import SqlSyntax.Number.Text
import SqlSyntax.Text.Quoted
import SqlSyntax.Outline.Block

/-!
# Outlines

An outline is a value as its constructors and fields show it, free of its type. It has
three written forms: on one line, with a field a line, and as JSON.
-/
namespace SqlSyntax

inductive Outline where
  | text (value : String)
  | integer (value : Int)
  | float (value : Double)
  | boolean (value : Bool)
  | absent
  | present (value : Outline)
  | list (items : List Outline)
  /-- A record of a named type. -/
  | record (name : String) (fields : List (String × Outline))
  /-- A constructor without arguments. -/
  | unit (name : String)
  /-- A constructor with one argument that has no name. -/
  | tagged (name : String) (argument : Outline)
  /-- A constructor with named arguments. -/
  | variant (name : String) (fields : List (String × Outline))

/-- Numbers in JSON: positional from `0.00001` up to sixteen digits before the point. -/
def jsonNumbers : NumberStyle where
  leastPlain := -5
  mostPlain := 15
  plus := "+"
  tie := .even

namespace Outline

def truthText (b : Bool) : String := if b then "true" else "false"

mutual

/-- The outline as constructors applied to their arguments. -/
def block : Outline → Block
  | text value => .atom (visibleString value)
  | integer value => .atom (toString value)
  | float value => .atom (value.text .standard)
  | boolean value => .atom (truthText value)
  | absent => .atom "None"
  | present value => .group "Some(" ")" false [("", value.block)]
  | list items => .group "[" "]" false (blockItems items)
  | record name fields | variant name fields =>
    .group (name ++ " \x7b") "\x7d" true (blockFields fields)
  | unit name => .atom name
  | tagged name argument => .group (name ++ "(") ")" false [("", argument.block)]

def blockItems : List Outline → List (String × Block)
  | [] => []
  | item :: items => ("", item.block) :: blockItems items

def blockFields : List (String × Outline) → List (String × Block)
  | [] => []
  | (name, value) :: fields => (name ++ ": ", value.block) :: blockFields fields

end

def jsonObject (fields : List (String × Block)) : Block := .group "\x7b" "\x7d" false fields

def jsonKey (name : String) : String := jsonString name ++ ": "

mutual

/-- The outline as JSON. A constructor is the key of an object with one field, and its
name alone if it has no arguments. A number that is not finite is `null`. -/
def jsonBlock : Outline → Block
  | text value => .atom (jsonString value)
  | integer value => .atom (toString value)
  | float value => .atom (if value.isFinite then value.text jsonNumbers else "null")
  | boolean value => .atom (truthText value)
  | absent => .atom "null"
  | present value => value.jsonBlock
  | list items => .group "[" "]" false (jsonItems items)
  | record _ fields => jsonObject (jsonFields fields)
  | unit name => .atom (jsonString name)
  | tagged name argument => jsonObject [(jsonKey name, argument.jsonBlock)]
  | variant name fields => jsonObject [(jsonKey name, jsonObject (jsonFields fields))]

def jsonItems : List Outline → List (String × Block)
  | [] => []
  | item :: items => ("", item.jsonBlock) :: jsonItems items

def jsonFields : List (String × Outline) → List (String × Block)
  | [] => []
  | (name, value) :: fields => (jsonKey name, value.jsonBlock) :: jsonFields fields

end

/-- On one line. -/
def inline (o : Outline) : String := o.block.inline

/-- With each field and item on lines of its own, four spaces deeper, and a comma after
each. -/
def indented (o : Outline) : String := o.block.indented ⟨"    ", true⟩ ""

/-- JSON with each field and item on lines of its own, two spaces deeper. -/
def json (o : Outline) : String := o.jsonBlock.indented ⟨"  ", false⟩ ""

end Outline

end SqlSyntax
