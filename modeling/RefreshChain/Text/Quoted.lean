import RefreshChain.Text.Combining

/-!
# Quoted texts

`quote` shows a text between quotation marks, with nothing in it that could not be told from
something else: quotation marks, backslashes and line ends have a backslash in front, and
unprintable or combining characters are shown as numbers.
-/

namespace RefreshChain.Text

/-- A character as its number in hex digits. -/
def numbered (c : Char) : List Char :=
  '\\' :: 'u' :: '\x7b' :: (Nat.toDigits 16 c.toNat ++ ['\x7d'])

def escape (c : Char) : List Char :=
  match c with
  | '"' => ['\\', '"']
  | '\\' => ['\\', '\\']
  | '\x00' => ['\\', '0']
  | '\t' => ['\\', 't']
  | '\n' => ['\\', 'n']
  | '\r' => ['\\', 'r']
  | c => if isUnprintable c || isCombining c then numbered c else [c]

def quote (s : String) : String := String.ofList ('"' :: (s.toList.flatMap escape ++ ['"']))

end RefreshChain.Text
