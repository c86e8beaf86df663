import RouteWrap.Files.Host

/-!
Names of files as a system has them: bytes, which are mostly those of a text. What is no text in
them is shown as replacement characters, one for as much as could have begun a character.
-/

namespace RouteWrap

structure ByteName where
  bytes : List UInt8
deriving DecidableEq, Repr, Inhabited

namespace ByteName

/-- How many bytes a character has that begins with the byte; none begins with some bytes. -/
def width (first : UInt8) : Nat :=
  if first < 0x80 then 1
  else if 0xc2 ≤ first && first ≤ 0xdf then 2
  else if 0xe0 ≤ first && first ≤ 0xef then 3
  else if 0xf0 ≤ first && first ≤ 0xf4 then 4
  else 0

def continues (byte : UInt8) : Bool := 0x80 ≤ byte && byte ≤ 0xbf

/-- The byte can be the second of a character that begins with the first. -/
def follows (first second : UInt8) : Bool :=
  continues second &&
    match first with
    | 0xe0 => 0xa0 ≤ second
    | 0xed => second ≤ 0x9f
    | 0xf0 => 0x90 ≤ second
    | 0xf4 => second ≤ 0x8f
    | _ => true

/-- The bytes after the first that belong to its character, as far as they are there. -/
def others (first : UInt8) : List UInt8 → List UInt8
  | second :: rest =>
      if 2 ≤ width first && follows first second then
        second :: (rest.take (width first - 2)).takeWhile continues
      else []
  | [] => []

def character (first : UInt8) (others : List UInt8) : Char :=
  let head := first.toNat % (if others.isEmpty then 128 else 64 >>> others.length)
  Char.ofNat (others.foldl (fun code byte => 64 * code + byte.toNat % 64) head)

/-- What the bytes show, after some that belong to the character before. -/
def shownAfter : Nat → List UInt8 → List Char
  | _, [] => []
  | n + 1, _ :: rest => shownAfter n rest
  | 0, first :: rest =>
      let more := others first rest
      let c := if more.length + 1 = width first then character first more else '\ufffd'
      c :: shownAfter more.length rest

def text? (n : ByteName) : Option String := (decode ⟨n.bytes.toArray⟩).toOption

def shown (n : ByteName) : String := n.text?.getD (String.ofList (shownAfter 0 n.bytes))

def ofText (s : String) : ByteName := ⟨s.toUTF8.data.toList⟩

/-- A name inside a directory; one that begins at the root stands alone. -/
def within (directory : String) (n : ByteName) : ByteName :=
  if n.bytes.head? = some '/'.toUInt8 || directory.isEmpty then n
  else if directory.toList.getLast? == some '/' then ⟨(ofText directory).bytes ++ n.bytes⟩
  else ⟨(ofText directory).bytes ++ '/'.toUInt8 :: n.bytes⟩

instance : FileName ByteName where
  ofText := ofText
  text? := text?
  shown := shown
  isAbsolute n := n.bytes.head? = some '/'.toUInt8
  within := within
  text?_ofText s := by
    rw [text?, ofText, Array.toArray_toList]
    exact congrArg Except.toOption (decode_toUTF8 s)
  shown_of_text? spelled := by
    rw [shown, spelled, Option.getD_some]

example : FileName.text? (⟨[0x61, 0xf0, 0x9f, 0x8e, 0xff, 0xc3, 0xa9]⟩ : ByteName) = none ∧
    FileName.shown (⟨[0x61, 0xf0, 0x9f, 0x8e, 0xff, 0xc3, 0xa9]⟩ : ByteName) =
      "a\ufffd\ufffdé" := by
  decide +kernel

end ByteName

end RouteWrap
