import PostfixCalc.Text.Quoted

/-!
# Quoted text reads back

`unquote?` reads a text in quotes, and it knows more than is ever written: escapes by letters
and by octal digits, and hexadecimal digits of either case.  What is written reads back as the
text that was quoted (`unquote?_quoteChars`), because each of its characters does, whatever
follows (`readBody?_quoteChar`).  All that is written is printable
(`isPrintable_of_mem_quoteChars`), so that there is no tab in it and no line break of any kind.
-/

namespace PostfixCalc

-- Powers of whole numbers are those of the core library.
attribute [local instance (high)] instPowNat

namespace Text

/-! ## Reading -/

/-- The value of a hexadecimal digit of either case. -/
def hexDigit? (c : Char) : Option Nat :=
  if c.isDigit then
    some (c.toNat - '0'.toNat)
  else
    if 'a' ≤ c ∧ c ≤ 'f' then
      some (c.toNat - 'a'.toNat + 10)
    else
      if 'A' ≤ c ∧ c ≤ 'F' then some (c.toNat - 'A'.toNat + 10) else none

/-- The whole number that hexadecimal digits spell after those that spell `start`. -/
def hexNumber? (start : Nat) (digits : List Char) : Option Nat :=
  digits.foldlM (fun n c => (hexDigit? c).map (16 * n + ·)) start

/-- The character of a code point, unless that is one half of a surrogate pair or beyond the
last one. -/
def ofCodePoint? (n : Nat) : Option Char :=
  if n.isValidChar then some (Char.ofNat n) else none

/-- How many hexadecimal digits follow a letter that announces a code point. -/
def codeWidth? : Char → Option Nat
  | 'x' => some 2
  | 'u' => some 4
  | 'U' => some 8
  | _ => none

/-- The character that a backslash and this one stand for. -/
def ofEscaped? : Char → Option Char
  | '\\' => some '\\'
  | '\'' => some '\''
  | '"' => some '"'
  | 'a' => some '\x07'
  | 'b' => some '\x08'
  | 't' => some '\t'
  | 'n' => some '\n'
  | 'v' => some '\x0b'
  | 'f' => some '\x0c'
  | 'r' => some '\r'
  | _ => none

def isOctal (c : Char) : Bool :=
  '0' ≤ c && c ≤ '7'

/-- Can the character not stand in a line of text? -/
def endsText (c : Char) : Bool :=
  c = '\n' || c = '\r' || c = '\x00'

/-- What a backslash and the first character stand for, and how many of the characters after
that one belong to the escape.  At most three octal digits make up a character.  A character
that announces nothing stands for itself and the backslash; names of characters are not
known, and a backslash does not join two lines. -/
def readEscape? (c : Char) (rest : List Char) : Option (List Char × Nat) :=
  match codeWidth? c with
  | some width =>
      if rest.length < width then
        none
      else
        ((hexNumber? 0 (rest.take width)).bind ofCodePoint?).map fun d => ([d], width)
  | none =>
      match ofEscaped? c with
      | some d => some ([d], 0)
      | none =>
          if isOctal c then
            let digits := (rest.take 2).takeWhile isOctal
            some ([Char.ofNat (Nat.ofDigitChars 8 (c :: digits) 0)], digits.length)
          else
            if c = 'N' || endsText c then none else some (['\\', c], 0)

/-- The text up to the closing mark, after which nothing may stand. -/
def readBody? (mark : Char) (text : List Char) : Option (List Char) :=
  match text with
  | [] => none
  | [c] => if c = mark then some [] else none
  | c :: d :: rest =>
      if c = mark then
        none
      else
        if c = '\\' then
          match readEscape? d rest with
          | none => none
          | some (chars, taken) => (readBody? mark (rest.drop taken)).map (chars ++ ·)
        else
          if endsText c then none else (readBody? mark (d :: rest)).map (c :: ·)
termination_by text.length
decreasing_by
  · simp only [List.length_drop, List.length_cons]
    omega
  · simp

/-- The text that a text in quotes stands for, if it is in quotes. -/
def unquote? : List Char → Option (List Char)
  | [] => none
  | mark :: rest => if mark = '\'' ∨ mark = '"' then readBody? mark rest else none

variable {mark c : Char} {rest chars : List Char} {n width taken : Nat}

theorem readBody?_closing (mark : Char) : readBody? mark [mark] = some [] := by
  rw [readBody?]
  exact if_pos rfl

/-- A character that is no mark, and ends no line, stands for itself. -/
theorem readBody?_plain (hmark : c ≠ mark) (hback : c ≠ '\\') (hend : endsText c = false)
    (hrest : rest ≠ []) : readBody? mark (c :: rest) = (readBody? mark rest).map (c :: ·) := by
  obtain ⟨d, rest, rfl⟩ := List.exists_cons_of_ne_nil hrest
  rw [readBody?]
  simp [hmark, hback, hend]

theorem readBody?_escape (hmark : mark ≠ '\\') (h : readEscape? c rest = some (chars, taken)) :
    readBody? mark ('\\' :: c :: rest) =
      (readBody? mark (rest.drop taken)).map (chars ++ ·) := by
  rw [readBody?, if_neg hmark.symm, if_pos rfl, h]

theorem readBody?_letter (hmark : mark ≠ '\\') {d : Char} (hcode : codeWidth? c = none)
    (h : ofEscaped? c = some d) (rest : List Char) :
    readBody? mark ('\\' :: c :: rest) = (readBody? mark rest).map (d :: ·) := by
  have hescape : readEscape? c rest = some ([d], 0) := by
    simp only [readEscape?, hcode, h]
  exact readBody?_escape hmark hescape

/-! ## Code points -/

theorem hexNumber?_append (start : Nat) (digits more : List Char) :
    hexNumber? start (digits ++ more) = (hexNumber? start digits).bind (hexNumber? · more) :=
  List.foldlM_append

theorem hexDigit?_digitChar (h : n < 16) : hexDigit? n.digitChar = some n := by
  have hall : ∀ d : Fin 16, hexDigit? d.val.digitChar = some d.val := by
    decide
  exact hall ⟨n, h⟩

theorem hexNumber?_zeros (k : Nat) : hexNumber? 0 (List.replicate k '0') = some 0 := by
  induction k with
  | zero => rfl
  | succ k ih => exact ih

theorem hexNumber?_toDigits (n : Nat) : hexNumber? 0 (Nat.toDigits 16 n) = some n := by
  -- The last digit is the remainder, and those before it are the digits of the quotient.
  induction n using Nat.strongRecOn with
  | ind n ih =>
      rw [Nat.toDigits_eq_if (by decide)]
      split
      · rename_i hsmall
        simp [hexNumber?, hexDigit?_digitChar hsmall]
      · rename_i hlarge
        have hdigit := hexDigit?_digitChar (Nat.mod_lt n (show 0 < 16 by decide))
        have hdiv : 16 * (n / 16) + n % 16 = n := Nat.div_add_mod n 16
        rw [hexNumber?_append, ih (n / 16) (by omega)]
        simp [hexNumber?, hdigit, hdiv]

theorem hexNumber?_paddedHex (width n : Nat) : hexNumber? 0 (paddedHex width n) = some n := by
  rw [paddedHex, hexNumber?_append, hexNumber?_zeros]
  exact hexNumber?_toDigits n

theorem length_paddedHex (hwidth : 0 < width) (h : n < 16 ^ width) :
    (paddedHex width n).length = width := by
  have hle : (Nat.toDigits 16 n).length ≤ width :=
    (Nat.length_toDigits_le_iff (by decide) hwidth).2 h
  simp only [paddedHex, List.length_append, List.length_replicate]
  omega

theorem ofCodePoint?_toNat (c : Char) : ofCodePoint? c.toNat = some c := by
  have hvalid : c.toNat.isValidChar := c.valid
  rw [ofCodePoint?, if_pos hvalid, Char.ofNat_toNat]

/-- The escape of a code point in its width. -/
theorem readBody?_code {letter : Char} (hletter : codeWidth? letter = some width)
    (hwidth : 0 < width) (hmark : mark ≠ '\\') (hc : c.toNat < 16 ^ width) (rest : List Char) :
    readBody? mark ('\\' :: letter :: (paddedHex width c.toNat ++ rest)) =
      (readBody? mark rest).map (c :: ·) := by
  have hlength := length_paddedHex hwidth hc
  have htake : (paddedHex width c.toNat ++ rest).take width = paddedHex width c.toNat :=
    List.take_left' hlength
  have hdrop : (paddedHex width c.toNat ++ rest).drop width = rest :=
    List.drop_left' hlength
  have hescape : readEscape? letter (paddedHex width c.toNat ++ rest) = some ([c], width) := by
    have hlong : ¬ (paddedHex width c.toNat ++ rest).length < width := by
      rw [List.length_append, hlength]
      omega
    simp only [readEscape?, hletter, if_neg hlong, htake, hexNumber?_paddedHex, Option.bind_some,
      ofCodePoint?_toNat, Option.map_some]
  rw [readBody?_escape hmark hescape, hdrop]
  rfl

theorem readBody?_escapeCode (hmark : mark ≠ '\\') (c : Char) (rest : List Char) :
    readBody? mark (escapeCode c ++ rest) = (readBody? mark rest).map (c :: ·) := by
  have hvalid : c.toNat.isValidChar := c.valid
  simp only [escapeCode]
  split
  · exact readBody?_code rfl (by decide) hmark (by omega) rest
  · split
    · exact readBody?_code rfl (by decide) hmark (by omega) rest
    · refine readBody?_code rfl (by decide) hmark ?_ rest
      simp only [Nat.isValidChar] at hvalid
      omega

/-! ## Quoted text -/

theorem quotationMark_cases (text : List Char) :
    quotationMark text = '\'' ∨ quotationMark text = '"' := by
  unfold quotationMark
  split
  · exact .inr rfl
  · exact .inl rfl

theorem endsText_of_isPrintable (h : isPrintable c = true) : endsText c = false := by
  cases hend : endsText c with
  | false => rfl
  | true =>
      simp only [endsText, Bool.or_eq_true, decide_eq_true_eq] at hend
      rcases hend with (rfl | rfl) | rfl
      all_goals contradiction

/-- A character reads back from its quoted form, whatever follows. -/
theorem readBody?_quoteChar (hmark : mark = '\'' ∨ mark = '"') (hrest : rest ≠ []) (c : Char) :
    readBody? mark (quoteChar mark c ++ rest) = (readBody? mark rest).map (c :: ·) := by
  have hback : mark ≠ '\\' := by
    rcases hmark with rfl | rfl
    · decide
    · decide
  unfold quoteChar
  split
  · rename_i hc
    rcases hc with rfl | rfl
    · rcases hmark with rfl | rfl
      · exact readBody?_letter hback rfl rfl rest
      · exact readBody?_letter hback rfl rfl rest
    · exact readBody?_letter hback rfl rfl rest
  · rename_i hc
    obtain ⟨hne, hneBack⟩ := not_or.1 hc
    split
    · exact readBody?_letter hback rfl rfl rest
    · exact readBody?_letter hback rfl rfl rest
    · exact readBody?_letter hback rfl rfl rest
    · split
      · rename_i hprintable
        exact readBody?_plain hne hneBack (endsText_of_isPrintable hprintable) hrest
      · exact readBody?_escapeCode hback c rest

theorem readBody?_flatMap (hmark : mark = '\'' ∨ mark = '"') (text : List Char) :
    readBody? mark (text.flatMap (quoteChar mark) ++ [mark]) = some text := by
  induction text with
  | nil => exact readBody?_closing mark
  | cons c text ih =>
      rw [List.flatMap_cons, List.append_assoc, readBody?_quoteChar hmark (by simp), ih]
      rfl

/-- Reading a quoted text gives the text back. -/
theorem unquote?_quoteChars (text : List Char) : unquote? (quoteChars text) = some text := by
  have hmark := quotationMark_cases text
  simp only [unquote?, quoteChars, if_pos hmark]
  exact readBody?_flatMap hmark text

/-! ## Printable characters -/

theorem isPrintable_of_mem_toDigits (h : c ∈ Nat.toDigits 16 n) : isPrintable c = true := by
  have hall : ∀ d : Fin 16, isPrintable d.val.digitChar = true := by
    decide
  induction n using Nat.strongRecOn with
  | ind n ih =>
      rw [Nat.toDigits_eq_if (by decide)] at h
      split at h
      · rename_i hsmall
        rw [List.mem_singleton.1 h]
        exact hall ⟨n, hsmall⟩
      · rcases List.mem_append.1 h with h | h
        · exact ih (n / 16) (by omega) h
        · rw [List.mem_singleton.1 h]
          exact hall ⟨n % 16, Nat.mod_lt n (by decide)⟩

theorem isPrintable_of_mem_paddedHex (h : c ∈ paddedHex width n) : isPrintable c = true := by
  rcases List.mem_append.1 h with h | h
  · rw [List.eq_of_mem_replicate h]
    decide
  · exact isPrintable_of_mem_toDigits h

/-- An escape is printable if what follows its backslash is. -/
theorem isPrintable_of_mem_cons_backslash (hrest : ∀ d ∈ rest, isPrintable d = true)
    (h : c ∈ '\\' :: rest) : isPrintable c = true := by
  rcases List.mem_cons.1 h with rfl | h
  · decide
  · exact hrest c h

theorem isPrintable_of_mem_escapeCode {d : Char} (h : c ∈ escapeCode d) :
    isPrintable c = true := by
  have hcode : ∀ letter : Char, isPrintable letter = true → ∀ width n,
      ∀ e ∈ letter :: paddedHex width n, isPrintable e = true := by
    intro letter hletter width n
    exact List.forall_mem_cons.2 ⟨hletter, fun e he => isPrintable_of_mem_paddedHex he⟩
  simp only [escapeCode] at h
  split at h
  · exact isPrintable_of_mem_cons_backslash (hcode 'x' (by decide) _ _) h
  · split at h
    · exact isPrintable_of_mem_cons_backslash (hcode 'u' (by decide) _ _) h
    · exact isPrintable_of_mem_cons_backslash (hcode 'U' (by decide) _ _) h

theorem isPrintable_of_mark (hmark : mark = '\'' ∨ mark = '"') : isPrintable mark = true := by
  rcases hmark with rfl | rfl
  · decide
  · decide

theorem isPrintable_of_mem_quoteChar (hmark : mark = '\'' ∨ mark = '"') {d : Char}
    (h : c ∈ quoteChar mark d) : isPrintable c = true := by
  have hletter : ∀ letter : Char, isPrintable letter = true →
      ∀ e ∈ [letter], isPrintable e = true := by
    simp
  unfold quoteChar at h
  split at h
  · rename_i hd
    have hprintable : isPrintable d = true := by
      rcases hd with rfl | rfl
      · exact isPrintable_of_mark hmark
      · decide
    exact isPrintable_of_mem_cons_backslash (hletter d hprintable) h
  · split at h
    · exact isPrintable_of_mem_cons_backslash (hletter 't' (by decide)) h
    · exact isPrintable_of_mem_cons_backslash (hletter 'n' (by decide)) h
    · exact isPrintable_of_mem_cons_backslash (hletter 'r' (by decide)) h
    · split at h
      · rename_i hprintable
        rwa [List.mem_singleton.1 h]
      · exact isPrintable_of_mem_escapeCode h

/-- All characters of a quoted text are printable, its marks too. -/
theorem isPrintable_of_mem_quoteChars {text : List Char} (h : c ∈ quoteChars text) :
    isPrintable c = true := by
  have hmark := quotationMark_cases text
  simp only [quoteChars, List.mem_cons, List.mem_append, List.mem_flatMap, List.not_mem_nil,
    or_false] at h
  rcases h with rfl | ⟨d, -, hd⟩ | rfl
  · exact isPrintable_of_mark hmark
  · exact isPrintable_of_mem_quoteChar hmark hd
  · exact isPrintable_of_mark hmark

end Text

end PostfixCalc
