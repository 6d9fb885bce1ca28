import WikiText.Clean

/-!
# Arguments of templates

The arguments of a template are texts under names, in the order in which the names were first given.
A name given again takes the later text and keeps its place. Names and texts are both cleaned, tags
are kept in both, and names that become equal are one.
-/

namespace WikiText

/-- Arguments in order, each a name and a text. -/
abbrev Arguments := List (Text × Text)

namespace Arguments

/-- Arguments with a text under a name: in the place of the name if it is there, else at the end. -/
def put (name text : Text) : Arguments → Arguments
  | [] => [(name, text)]
  | (other, old) :: rest =>
    if other = name then (other, text) :: rest else (other, old) :: put name text rest

/-- The arguments that pairs of names and texts give one after the other. -/
def ofPairs (pairs : List (Text × Text)) : Arguments :=
  pairs.foldl (fun arguments (name, text) => put name text arguments) []

/-- Arguments with names and texts cleaned. White space around texts may be kept, that around names
is not. -/
def clean (namespaces : Namespaces) (keepSpace : Bool) (arguments : Arguments) :
    Traced Event Arguments := do
  let pairs ← Traced.traverse
    (fun (name, text) => do
      let name ← WikiText.clean namespaces .tagged name
      let text ← WikiText.clean namespaces { Options.tagged with keepSpace } text
      return (name, text))
    arguments
  return ofPairs pairs

end Arguments

end WikiText
