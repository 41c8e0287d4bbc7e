import PostfixCalc.Text.Printable

/-!
# Quoted text

A quoted text stands between two quotation marks on one line of printable
characters.  The marks are single, unless the text has single marks and no
double ones.  A backslash announces an escape: of the mark, of itself, of a tab
or line break by a letter, and of any other unprintable character by its code
point in two, four or eight hexadecimal digits.
-/

namespace PostfixCalc

namespace Text

/-- The mark that a text is quoted with. -/
def quotationMark (text : List Char) : Char :=
  if text.contains '\'' && !text.contains '"' then '"' else '\''

/-- A number in hexadecimal, with zeros in front up to the given width. -/
def paddedHex (width n : Nat) : List Char :=
  let digits := Nat.toDigits 16 n
  List.replicate (width - digits.length) '0' ++ digits

/-- The escape of an unprintable character. -/
def escapeCode (c : Char) : List Char :=
  let n := c.toNat
  if n < 0x100 then
    '\\' :: 'x' :: paddedHex 2 n
  else
    if n < 0x10000 then '\\' :: 'u' :: paddedHex 4 n else '\\' :: 'U' :: paddedHex 8 n

/-- One character of a quoted text. -/
def quoteChar (mark c : Char) : List Char :=
  if c = mark ∨ c = '\\' then
    ['\\', c]
  else
    match c with
    | '\t' => ['\\', 't']
    | '\n' => ['\\', 'n']
    | '\r' => ['\\', 'r']
    | _ => if isPrintable c then [c] else escapeCode c

/-- The quoted form of a text. -/
def quoteChars (text : List Char) : List Char :=
  let mark := quotationMark text
  mark :: (text.flatMap (quoteChar mark) ++ [mark])

/-- The quoted form of a text. -/
def quote (text : String) : String :=
  String.ofList (quoteChars text.toList)

end Text

end PostfixCalc
