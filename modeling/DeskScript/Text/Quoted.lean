import DeskScript.Text.Numeral
import DeskScript.Text.Printable

namespace DeskScript.Text

/-- Double quotes are used only around a text that has single ones and no double ones. -/
def quoteMark (t : Text) : Char :=
  if '\'' ∈ t ∧ '"' ∉ t then '"' else '\''

def escapeUnprintable (c : Char) : Text :=
  let n := c.toNat
  if n ≤ 0xff then "\\x".toList ++ hex 2 n
  else if n ≤ 0xffff then "\\u".toList ++ hex 4 n
  else "\\U".toList ++ hex 8 n

def quotedCharBefore (mark c : Char) (rest : Text) : Text :=
  if c = mark ∨ c = '\\' then '\\' :: c :: rest
  else if c = '\n' then '\\' :: 'n' :: rest
  else if c = '\r' then '\\' :: 'r' :: rest
  else if c = '\t' then '\\' :: 't' :: rest
  else if isPrintable c then c :: rest
  else escapeUnprintable c ++ rest

def escapeBefore (mark : Char) (rest : Text) : Text → Text
  | [] => rest
  | c :: t => quotedCharBefore mark c (escapeBefore mark rest t)

def quotedBefore (t rest : Text) : Text :=
  let mark := quoteMark t
  mark :: escapeBefore mark (mark :: rest) t

def quoted (t : Text) : Text := t.quotedBefore []

end DeskScript.Text
