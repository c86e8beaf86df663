/-!
Text as it is shown inside messages: between double quotes, with every character that cannot be
seen on its own written as an escape.
-/

namespace RouteWrap.Visible

/-- Characters without a shape of their own: controls, format characters, private and unassigned
ones, and marks that join the character before them. -/
def isHidden (c : Char) : Bool :=
  let n := c.toNat
  n < 0x20 || (0x7f ≤ n && n ≤ 0x9f) || n == 0xad || (0x300 ≤ n && n ≤ 0x36f)
    || (0x483 ≤ n && n ≤ 0x489) || (0x591 ≤ n && n ≤ 0x5bd) || (0x64b ≤ n && n ≤ 0x65f)
    || n == 0x61c || n == 0x180e || (0x200b ≤ n && n ≤ 0x200f) || (0x2028 ≤ n && n ≤ 0x202e)
    || (0x2060 ≤ n && n ≤ 0x206f) || (0x20d0 ≤ n && n ≤ 0x20f0) || (0x302a ≤ n && n ≤ 0x302f)
    || n == 0x3099 || n == 0x309a || (0xe000 ≤ n && n ≤ 0xf8ff) || (0xfe00 ≤ n && n ≤ 0xfe0f)
    || (0xfe20 ≤ n && n ≤ 0xfe2f) || n == 0xfeff || (0xfff0 ≤ n && n ≤ 0xfffb)
    || n == 0xfffe || n == 0xffff || 0xe0000 ≤ n

/-- Blank characters other than the space are hidden too. -/
def isWideBlank (c : Char) : Bool :=
  let n := c.toNat
  n == 0xa0 || n == 0x1680 || (0x2000 ≤ n && n ≤ 0x200a) || n == 0x202f || n == 0x205f
    || n == 0x3000

def char (c : Char) : List Char :=
  match c with
  | '\x00' => ['\\', '0']
  | '\t' => ['\\', 't']
  | '\n' => ['\\', 'n']
  | '\r' => ['\\', 'r']
  | '"' => ['\\', '"']
  | '\\' => ['\\', '\\']
  | c =>
      if isHidden c || isWideBlank c then
        ['\\', 'u', '\x7b'] ++ Nat.toDigits 16 c.toNat ++ ['\x7d']
      else [c]

def quoted (s : String) : String :=
  String.ofList (['"'] ++ s.toList.flatMap char ++ ['"'])

end RouteWrap.Visible
