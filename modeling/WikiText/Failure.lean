import WikiText.Unicode.Printable

/-!
# Failures

Cleaning a text never fails; loading the namespaces of a wiki and the work with files can. A failure
has a sentence for people and a form that shows its kind and the quoted text in it.
-/

namespace WikiText

/-- Why something outside of cleaning failed. -/
inductive Failure where
  /-- The data of the namespaces cannot be read. -/
  | invalidConfig (message : String)
  /-- The data lack a namespace. -/
  | missingNamespace (name : String)
  /-- A file or stream cannot be read or written. -/
  | io (message : String)
  deriving DecidableEq, Repr

/-! ## Quoted texts -/

namespace Quoted

/-- The digits of a number in base 16, in small letters. -/
def hexDigits (n : Nat) : List Char :=
  Nat.toDigits 16 n

/-- A character as it stands between quotation marks. -/
def escape (c : Char) : List Char :=
  match c with
  | '"' => ['\\', '"']
  | '\\' => ['\\', '\\']
  | '\n' => ['\\', 'n']
  | '\r' => ['\\', 'r']
  | '\t' => ['\\', 't']
  | '\x00' => ['\\', '0']
  | c =>
    if Unicode.isPrintable c then [c] else '\\' :: 'u' :: '{' :: hexDigits c.toNat ++ ['}']

/-- A text between quotation marks. -/
def encode (text : String) : String :=
  String.ofList ('"' :: text.toList.flatMap escape ++ ['"'])

end Quoted

namespace Failure

/-- The sentence for a failure. -/
def message : Failure → String
  | invalidConfig message => "Invalid namespace configuration: " ++ message
  | missingNamespace name => "Namespace '" ++ name ++ "' missing from configuration"
  | io message => "IO error: " ++ message

/-- A kind of failure with one named text. -/
def structured (kind field text : String) : String :=
  kind ++ " \x7b " ++ field ++ ": " ++ Quoted.encode text ++ " \x7d"

/-- The form of a failure that shows its kind. -/
def describe : Failure → String
  | invalidConfig message => structured "InvalidConfig" "message" message
  | missingNamespace name => structured "MissingNamespace" "name" name
  | io message => structured "IoError" "message" message

end Failure

end WikiText
