/-!
# Blank characters

Two classes of blank characters are at work.  White space, in the sense of the
Unicode property, divides tokens.  Trimming takes the four information
separators off the ends as well, so that these can stand inside a token but
never at the end of a text.
-/

namespace PostfixCalc

namespace Text

/-- Does the character have the Unicode property White_Space? -/
def isWhiteSpace (c : Char) : Bool :=
  let n := c.toNat
  (0x09 ≤ n && n ≤ 0x0D) || n = 0x20 || n = 0x85 || n = 0xA0 || n = 0x1680 ||
    (0x2000 ≤ n && n ≤ 0x200A) || n = 0x2028 || n = 0x2029 || n = 0x202F ||
    n = 0x205F || n = 0x3000

/-- Is the character one of the four information separators? -/
def isSeparator (c : Char) : Bool :=
  0x1C ≤ c.toNat && c.toNat ≤ 0x1F

/-- Is the character taken off the ends of a text? -/
def isTrimmed (c : Char) : Bool :=
  isWhiteSpace c || isSeparator c

theorem isTrimmed_of_isWhiteSpace {c : Char} (h : isWhiteSpace c = true) :
    isTrimmed c = true := by
  simp [isTrimmed, h]

/-- The text without the blank characters at its ends. -/
def trimChars (text : List Char) : List Char :=
  ((text.dropWhile isTrimmed).reverse.dropWhile isTrimmed).reverse

/-- The text without the blank characters at its ends. -/
def trim (text : String) : String :=
  String.ofList (trimChars text.toList)

/-- The maximal runs of characters that are no white space, in order. -/
def words : List Char → List (List Char)
  | [] => []
  | c :: rest =>
      if isWhiteSpace c then
        words rest
      else
        match rest with
        | [] => [[c]]
        | d :: _ =>
            if isWhiteSpace d then
              [c] :: words rest
            else
              match words rest with
              | [] => [[c]]
              | word :: more => (c :: word) :: more

end Text

end PostfixCalc
