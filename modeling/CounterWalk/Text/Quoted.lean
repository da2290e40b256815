import CounterWalk.Text.Unseen

/-!
# Quoted text

Text is quoted so that each character of it can be seen: a character that does not show by itself
stands as its code point, and the few with a short name of their own stand as that.
-/

namespace CounterWalk.Text

/-- The digits of a number to base sixteen, in small letters and without leading zeros. -/
def hexDigits (n : Nat) : List Char := Nat.toDigits 16 n

/-- How a character stands between quotes. -/
def quoteChar (c : Char) : List Char :=
  match c with
  | '"' => ['\\', '"']
  | '\\' => ['\\', '\\']
  | '\n' => ['\\', 'n']
  | '\r' => ['\\', 'r']
  | '\t' => ['\\', 't']
  | '\x00' => ['\\', '0']
  | c =>
    if isUnseen c then '\\' :: 'u' :: '\x7b' :: hexDigits c.toNat ++ ['\x7d'] else [c]

/-- The text between quotes. -/
def quoted (s : String) : String :=
  String.ofList ('"' :: s.toList.flatMap quoteChar ++ ['"'])

/-- The text between backticks, which set a name or a value off in a sentence. -/
def ticked (s : String) : String := "\x60" ++ s ++ "\x60"

end CounterWalk.Text
