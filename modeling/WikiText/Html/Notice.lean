import WikiText.Html.Tag

/-!
# Notices

Messages of the wiki software to the editor: superscript notes that only a preview shows, and error
messages in strong type. Both are recognised by a word in the class of their tag, and removed with
their content, which is at least one character.
-/

namespace WikiText.Html

open Scanner

/-- Reads on inside an opening tag up to a class list that holds the given word. The list is written
with characters that satisfy `p`. -/
def classWord (word : String) (p : Char → Bool) : Scanner Char Unit :=
  seek true (· ≠ '>') do
    caseless "class"
    exactly "=\""
    seek false p do
      caseless word
      wordEnd

/-- An element of the given name whose class list holds the given word, with its content. -/
def noticeElement (name word : String) (p : Char → Bool) : Pattern Unit where
  opening := '<'
  body := do
    caseless name
    wordEnd
    classWord word p
    skipWhile (· ≠ '>')
    one '>'
    -- the content is not empty, even if it is the beginning of a closing tag
    let _ ← any
    let _ ← upTo (closeTag name)

/-- A note that only a preview shows. Its class list stays inside the tag. -/
def previewNote : Pattern Unit :=
  noticeElement "sup" "previewonly" fun c => c ≠ '"' && c ≠ '<' && c ≠ '>'

/-- An error message. Its class list ends at a quotation mark only. -/
def errorMessage : Pattern Unit :=
  noticeElement "strong" "error" (· ≠ '"')

/-- Removes notes for the preview, then error messages. -/
def removeNotices (text : Text) : Text :=
  errorMessage.remove (previewNote.remove text)

end WikiText.Html
