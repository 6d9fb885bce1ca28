import WikiText.Text.Basic

/-!
# Hosts

What a run needs of the system it runs on: to read files and the standard input, to create files, and to
write to them.
-/

namespace WikiText.Cli

/-- Why a file or stream cannot be read or written. -/
inductive Fault where
  /-- There is no such file, or no such directory to put it in. -/
  | notFound
  /-- There is a directory in its place. -/
  | isDirectory
  /-- A file stands where the path needs a directory. -/
  | notDirectory
  /-- The path or a part of it is too long. -/
  | nameTooLong
  /-- The content is not a text. -/
  | notText
  /-- Another reason of the system. -/
  | other (message : String)
  deriving DecidableEq, Repr

/-- What is said about a fault. -/
def Fault.message : Fault → String
  | notFound => "No such file or directory (os error 2)"
  | isDirectory => "Is a directory (os error 21)"
  | notDirectory => "Not a directory (os error 20)"
  | nameTooLong => "File name too long (os error 36)"
  | notText => "stream did not contain valid UTF-8"
  | other message => message

/-- The system that a run works on. -/
structure Host (m : Type → Type) where
  /-- Reads a file as a text. -/
  readFile : String → m (Except Fault Text)
  /-- Reads the standard input as a text. -/
  readInput : m (Except Fault Text)
  /-- Creates a file, or empties the one that is there. -/
  createFile : String → m (Except Fault Unit)
  /-- Writes a text to a file that has been created. -/
  writeFile : String → Text → m (Except Fault Unit)

/-- Creates a file and writes a text to it. -/
def Host.store {m : Type → Type} [Monad m] (host : Host m) (path : String) (content : Text) :
    m (Except Fault Unit) := do
  match ← host.createFile path with
  | .error fault => return .error fault
  | .ok () => host.writeFile path content

/-- The text that bytes are the UTF-8 form of. -/
def textOfBytes (bytes : ByteArray) : Except Fault Text :=
  match String.fromUTF8? bytes with
  | some text => .ok text.toList
  | none => .error .notText

end WikiText.Cli
