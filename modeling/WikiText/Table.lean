import WikiText.Text.Basic

/-!
# Tables

A table stands between an opening and a closing delimiter, a brace and a bar each way, and tables
nest. Every complete table becomes one newline, together with what is inside it. The scan keeps the
text since the innermost open delimiter apart from the texts before it, so that a closing delimiter
only has to forget the former. Delimiters without a partner stay in the text.
-/

namespace WikiText.Table

/-- Puts opening delimiters that were never closed back before a text. `outside` are the texts before
each of them, innermost first and each in reverse. -/
def restoreOpen (text : Text) : List Text → Text
  | [] => text
  | before :: outside => restoreOpen (before.reverseAux ('{' :: '|' :: text)) outside

/-- Removes the complete tables of a text. `inside` is the text since the innermost open delimiter
and `outside` are the texts before each open one, innermost first, all of them in reverse. -/
def removeFrom (inside : Text) (outside : List Text) : Text → Text
  | [] => restoreOpen inside.reverse outside
  | '{' :: '|' :: rest => removeFrom [] (inside :: outside) rest
  | '|' :: '}' :: rest =>
    match outside with
    | before :: others => removeFrom ('\n' :: before) others rest
    | [] => removeFrom ('}' :: '|' :: inside) [] rest
  | c :: rest => removeFrom (c :: inside) outside rest

/-- Replaces every complete table by a newline. -/
def removeAll (text : Text) : Text :=
  removeFrom [] [] text

end WikiText.Table
