import GraphBatch.Text.Invisible

/-!
# Quoted texts

A text between double quotes on one line: quotes, backslashes and the common control characters
behind a backslash, characters without a visible form as their number.
-/

namespace GraphBatch.Text

def hexDigits (n : Nat) : List Char :=
  Nat.toDigits 16 n

def quotedChar (c : Char) : List Char :=
  match c with
  | '"' => ['\\', '"']
  | '\\' => ['\\', '\\']
  | '\n' => ['\\', 'n']
  | '\r' => ['\\', 'r']
  | '\t' => ['\\', 't']
  | _ =>
    if c.toNat = 0 then ['\\', '0']
    else if isInvisible c then '\\' :: 'u' :: '{' :: hexDigits c.toNat ++ ['}']
    else [c]

def quoted (s : String) : String :=
  String.ofList ('"' :: s.toList.flatMap quotedChar ++ ['"'])

end GraphBatch.Text
