import RequestBinding.Schema.Basic

/-! Lists cut at separators, and collections in one text: items joined by a separator. -/

namespace RequestBinding

/-- The stretches of a list between separators, of which the first has begun with some items, in reverse. -/
def stretchesFrom {α : Type} [DecidableEq α] (separator : α) (begun : List α) : List α → List (List α)
  | [] => [begun.reverse]
  | a :: rest =>
    if a = separator then begun.reverse :: stretchesFrom separator [] rest
    else stretchesFrom separator (a :: begun) rest

def stretches {α : Type} [DecidableEq α] (separator : α) (items : List α) : List (List α) :=
  stretchesFrom separator [] items

/-- The items that the texts given for a parameter stand for. Without a separator each text is an item;
otherwise only the first text counts. A lone empty text stands for no items. -/
def CollectionFormat.split (format : CollectionFormat) (texts : List String) : List String :=
  match format.separator?, texts with
  | none, [text] => if text = "" then [] else [text]
  | none, _ => texts
  | some _, [] => []
  | some separator, text :: _ =>
    if text = "" then [] else (stretches separator text.toList).map String.ofList

/-- How items are joined in one text: where the format has no separator, by commas. -/
def CollectionFormat.inOneText : CollectionFormat → CollectionFormat
  | .multi => .csv
  | format => format

end RequestBinding
