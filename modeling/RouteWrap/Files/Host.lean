import RouteWrap.Files.Path

/-!
What a program asks of the system around it: to read a file, to write one, whether there is one,
where the program runs, and to print. Files have names, which need not be texts.
-/

namespace RouteWrap

/-- Names of files. Every text is a name; one that is no text is shown with replacements. -/
class FileName (N : Type) where
  ofText : String → N
  text? : N → Option String
  shown : N → String
  isAbsolute : N → Bool
  /-- A name inside a directory; an absolute one stands alone. -/
  within : String → N → N
  text?_ofText (s : String) : text? (ofText s) = some s
  shown_of_text? {n : N} {s : String} (spelled : text? n = some s) : shown n = s

instance : FileName String where
  ofText := id
  text? := some
  shown := id
  isAbsolute := Path.isAbsolute
  within := Path.join
  text?_ofText _ := rfl
  shown_of_text? spelled := Option.some.inj spelled

/-- A name that is no text. -/
structure UnspelledName (N : Type) [FileName N] where
  name : N
  unspelled : FileName.text? name = none

inductive FileError
  | notFound
  | isDirectory
  | notDirectory
  /-- A name in the path has more than 255 bytes. -/
  | longName
  /-- The path holds the character with the number zero. -/
  | zeroInPath
  | notText
  | other (message : String)
deriving DecidableEq, Repr, Inhabited

def FileError.text : FileError → String
  | notFound => "No such file or directory (os error 2)"
  | isDirectory => "Is a directory (os error 21)"
  | notDirectory => "Not a directory (os error 20)"
  | longName => "File name too long (os error 36)"
  | zeroInPath => "file name contained an unexpected NUL byte"
  | notText => "stream did not contain valid UTF-8"
  | other message => message

/-- The text that the bytes of a file are. -/
def decode (content : ByteArray) : Except FileError String :=
  match String.fromUTF8? content with
  | some text => .ok text
  | none => .error .notText

theorem decode_toUTF8 (text : String) : decode text.toUTF8 = .ok text := by
  have valid : text.toUTF8.IsValidUTF8 := text.isValidUTF8
  rw [decode, String.fromUTF8?, dif_pos valid]
  rfl

theorem decode_eq_ok {content : ByteArray} {text : String} (decoded : decode content = .ok text) :
    content = text.toUTF8 := by
  rw [decode, String.fromUTF8?] at decoded
  by_cases valid : content.IsValidUTF8
  · simp only [dif_pos valid, Except.ok.injEq] at decoded
    subst decoded
    rfl
  · simp [dif_neg valid] at decoded

/-- A system; `print` goes to the standard output, which may break off after a part of the text. -/
structure Host (N : Type) (m : Type → Type) where
  read : N → m (Except FileError ByteArray)
  write : N → String → m (Except FileError Unit)
  isFile : N → m Bool
  workingDirectory : m String
  print : String → m (Except FileError Unit)

def Host.readText {N : Type} {m : Type → Type} [Monad m] (host : Host N m) (path : N) :
    m (Except FileError String) :=
  return (← host.read path).bind decode

end RouteWrap
