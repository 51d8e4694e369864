import Listing.Sql.Text

/-!
# The Tokens of a Statement

A text is cut into **tokens** by the lexical rules of PostgreSQL: a name stands in double
quotes and a text in single quotes, either with each quote inside written twice; within
quotes nothing else has a meaning, neither a backslash nor what begins a comment; words,
numbers and operators are as long as they can be; blanks only part tokens.

`lex` answers only where these rules are the whole story. It refuses comments, quotes
behind a word or an `&` (they may be of another kind), texts that are continued behind a
blank, numbers with a power of ten, and operators of several signs that end in a sign of a
number. How long a name may be is not a matter of tokens.

## Main results

* `suffix_of_read` — what is behind a token is the end of the text that it begins.
* `lex_space`, `lex_token` — a blank is skipped, and a token in front is the first one.
-/

namespace Listing.Sql

/-- A **token** of a text. -/
inductive Token where
  /-- A keyword, or a name without quotes, as it is written. -/
  | word (w : String)
  /-- A name that is written in double quotes, without them. -/
  | name (s : String)
  /-- A text that is written in single quotes, without them. -/
  | text (s : String)
  /-- A number without a sign, as it is written. -/
  | number (digits : String)
  /-- An operator, a parenthesis, a comma or another sign. -/
  | symbol (s : String)
deriving DecidableEq, Repr

namespace Token

/-! ### Characters -/

/-- Whether a character parts tokens. -/
def isSpace (c : Char) : Bool := c == ' ' || (9 ≤ c.toNat && c.toNat ≤ 13)

/-- Whether a word can begin with a character. -/
def startsWord (c : Char) : Bool := c.isAlpha || c == '_' || 128 ≤ c.toNat

/-- Whether a word can go on with a character. -/
def isWordPart (c : Char) : Bool := startsWord c || c.isDigit || c == '$'

/-- Whether a character can be in an operator. -/
def isOperatorPart (c : Char) : Bool := "+-*/<>=~!@#%^&|`?".toList.contains c

/-- Whether a character is a token of its own. -/
def isDelimiter (c : Char) : Bool := "()[],;".toList.contains c

/-- The characters that part tokens. -/
theorem isSpace_iff {c : Char} : isSpace c ↔ c.toNat = 32 ∨ (9 ≤ c.toNat ∧ c.toNat ≤ 13) := by
  have h : c = ' ' ↔ c.toNat = 32 := Char.toNat_inj.symm
  simp [isSpace, h]

/-- The digits. -/
theorem isDigit_iff {c : Char} : c.isDigit ↔ 48 ≤ c.toNat ∧ c.toNat ≤ 57 := by
  simp [Char.isDigit, UInt32.le_iff_toNat_le]

/-- The characters that can begin a word: letters, the underscore and all beyond ASCII. -/
theorem startsWord_iff {c : Char} : startsWord c ↔
    (65 ≤ c.toNat ∧ c.toNat ≤ 90) ∨ (97 ≤ c.toNat ∧ c.toNat ≤ 122) ∨ c.toNat = 95 ∨
      128 ≤ c.toNat := by
  have h : c = '_' ↔ c.toNat = 95 := Char.toNat_inj.symm
  have hupper : c.isUpper = decide (65 ≤ c.val ∧ c.val ≤ 90) := rfl
  have hlower : c.isLower = (decide (97 ≤ c.val) && decide (c.val ≤ 122)) := rfl
  have halpha : c.isAlpha = (c.isUpper || c.isLower) := rfl
  simp [startsWord, halpha, hupper, hlower, UInt32.le_iff_toNat_le, h]
  omega

/-- A character that begins a word begins nothing else. -/
theorem ne_of_startsWord {c : Char} (h : startsWord c) :
    isSpace c = false ∧ c ≠ '"' ∧ c ≠ '\'' := by
  have hnat := startsWord_iff.mp h
  refine ⟨?_, ?_, ?_⟩
  · rw [Bool.eq_false_iff, ne_eq, isSpace_iff]
    omega
  · rintro rfl
    exact absurd h (by decide)
  · rintro rfl
    exact absurd h (by decide)

/-- A digit begins nothing but a number. -/
theorem ne_of_isDigit {c : Char} (h : c.isDigit) :
    isSpace c = false ∧ c ≠ '"' ∧ c ≠ '\'' ∧ startsWord c = false := by
  have hnat := isDigit_iff.mp h
  refine ⟨?_, ?_, ?_, ?_⟩
  · rw [Bool.eq_false_iff, ne_eq, isSpace_iff]
    omega
  · rintro rfl
    exact absurd h (by decide)
  · rintro rfl
    exact absurd h (by decide)
  · rw [Bool.eq_false_iff, ne_eq, startsWord_iff]
    omega

/-- A sign of an operator begins nothing but an operator. -/
theorem ne_of_isOperatorPart {c : Char} (h : isOperatorPart c) :
    isSpace c = false ∧ c ≠ '"' ∧ c ≠ '\'' ∧ startsWord c = false ∧ c.isDigit = false := by
  have hall : "+-*/<>=~!@#%^&|`?".toList.all fun d =>
      isSpace d = false ∧ d ≠ '"' ∧ d ≠ '\'' ∧ startsWord d = false ∧ d.isDigit = false := by
    decide
  exact of_decide_eq_true (List.all_eq_true.mp hall c (List.contains_iff_mem.mp h))

/-! ### Reading one token -/

/-- The text up to the quote that ends it, and what is behind that quote. -/
def readQuoted (quote : Char) : List Char → Option (List Char × List Char)
  | [] => none
  | [c] => if c = quote then some ([], []) else none
  | c :: next :: rest =>
    if c ≠ quote then (readQuoted quote (next :: rest)).map fun (s, tail) => (c :: s, tail)
    else if next = quote then (readQuoted quote rest).map fun (s, tail) => (quote :: s, tail)
    else some ([], next :: rest)

/-- The name that is in quotes; `rest` is what is behind the first one. -/
def readName (rest : List Char) : Option (Token × List Char) :=
  match readQuoted '"' rest with
  | some (s, tail) => some (name (String.ofList s), tail)
  | none => none

/-- The text that is in quotes; `rest` is what is behind the first one. -/
def readText (rest : List Char) : Option (Token × List Char) :=
  match readQuoted '\'' rest with
  | some (s, tail) =>
    if (tail.dropWhile isSpace).head? = some '\'' then none
    else some (text (String.ofList s), tail)
  | none => none

/-- The word that begins with a character. -/
def readWord (c : Char) (rest : List Char) : Option (Token × List Char) :=
  if (rest.dropWhile isWordPart).head? ∈ [some '\'', some '&'] then none
  else some (word (String.ofList (c :: rest.takeWhile isWordPart)), rest.dropWhile isWordPart)

/-- Digits behind the digits of a number, if there is a decimal point between them, and what
is behind them. -/
def readFraction : List Char → List Char × List Char
  | [] => ([], [])
  | c :: rest =>
    if c = '.' then (c :: rest.takeWhile Char.isDigit, rest.dropWhile Char.isDigit)
    else ([], c :: rest)

/-- The number that begins with a digit. Nothing that a word or a number could go on with may
be right behind it. -/
def readNumber (c : Char) (rest : List Char) : Option (Token × List Char) :=
  let (fraction, tail) := readFraction (rest.dropWhile Char.isDigit)
  if tail.head?.any fun d => isWordPart d || d == '.' then none
  else some (number (String.ofList (c :: rest.takeWhile Char.isDigit ++ fraction)), tail)

/-- Whether two signs begin a comment. -/
def beginsComment (pair : Char × Char) : Bool := pair == ('-', '-') || pair == ('/', '*')

/-- Whether a run of operator signs is one operator. -/
def isOperator (run : List Char) : Bool :=
  !(run.zip run.tail).any beginsComment &&
    (run.length == 1 || (run.getLast? != some '+' && run.getLast? != some '-'))

/-- The operator that begins with a character. -/
def readOperator (c : Char) (rest : List Char) : Option (Token × List Char) :=
  let run := c :: rest.takeWhile isOperatorPart
  if isOperator run then
    some (symbol (String.ofList run), rest.dropWhile isOperatorPart)
  else none

/-- A dot between names. -/
def readDot (rest : List Char) : Option (Token × List Char) :=
  if rest.head?.any fun d => d.isDigit || d == '.' then none else some (symbol ".", rest)

/-- The token that begins with a character other than a blank, and what is behind it. -/
def read (c : Char) (rest : List Char) : Option (Token × List Char) :=
  if c = '"' then readName rest
  else if c = '\'' then readText rest
  else if startsWord c then readWord c rest
  else if c.isDigit then readNumber c rest
  else if isOperatorPart c then readOperator c rest
  else if c = '.' then readDot rest
  else if isDelimiter c then some (symbol (String.singleton c), rest)
  else none

/-- What is behind a text in quotes is the end of what is behind the first quote. -/
theorem suffix_of_readQuoted {quote : Char} {cs s tail : List Char}
    (h : readQuoted quote cs = some (s, tail)) : tail <:+ cs := by
  fun_induction readQuoted quote cs generalizing s with
  | case1 => cases h
  | case2 =>
    obtain ⟨-, rfl⟩ := Prod.mk.inj (Option.some.inj h)
    exact List.nil_suffix
  | case3 => cases h
  | case4 c next rest hc ih =>
    obtain ⟨⟨s', tail'⟩, hread, heq⟩ := Option.map_eq_some_iff.mp h
    obtain ⟨-, rfl⟩ := Prod.mk.inj heq
    exact (ih hread).trans (List.suffix_cons ..)
  | case5 c rest hc ih =>
    obtain ⟨⟨s', tail'⟩, hread, heq⟩ := Option.map_eq_some_iff.mp h
    obtain ⟨-, rfl⟩ := Prod.mk.inj heq
    exact (ih hread).trans ⟨[_, _], rfl⟩
  | case6 next rest hnext =>
    obtain ⟨-, rfl⟩ := Prod.mk.inj (Option.some.inj h)
    exact List.suffix_cons ..

/-- What is behind a fraction is the end of the text that may begin with it. -/
theorem suffix_readFraction (cs : List Char) : (readFraction cs).2 <:+ cs := by
  fun_cases readFraction cs with
  | case1 => exact List.nil_suffix
  | case2 rest => exact (List.dropWhile_suffix _).trans (List.suffix_cons ..)
  | case3 c rest hc => exact List.suffix_rfl

/-- What is behind a token is the end of what is behind its first character. -/
theorem suffix_of_read {c : Char} {rest tail : List Char} {t : Token}
    (h : read c rest = some (t, tail)) : tail <:+ rest := by
  unfold read readName readText readWord readNumber readOperator readDot at h
  -- one case for each kind of token: what is behind it is cut off by one of three functions
  grind [suffix_of_readQuoted, suffix_readFraction, List.dropWhile_suffix, List.IsSuffix.trans]

end Token

open Token

/-! ### Reading all tokens -/

/-- The tokens of a text, if it has nothing but tokens and blanks. -/
def lex : List Char → Option (List Token)
  | [] => some []
  | c :: rest =>
    if isSpace c then lex rest
    else
      match _h : Token.read c rest with
      | none => none
      | some (t, tail) => (lex tail).map (t :: ·)
termination_by cs => cs.length
decreasing_by
  · simp
  · exact Nat.lt_succ_of_le (suffix_of_read _h).length_le

@[simp] theorem lex_nil : lex [] = some [] := by
  rw [lex]

/-- A blank in front of a text is no token. -/
theorem lex_space {c : Char} (hc : isSpace c) (rest : List Char) : lex (c :: rest) = lex rest := by
  rw [lex, if_pos hc]

/-- A token in front of a text is its first one. -/
theorem lex_token {c : Char} {rest tail : List Char} {t : Token} (hc : isSpace c = false)
    (h : Token.read c rest = some (t, tail)) : lex (c :: rest) = (lex tail).map (t :: ·) := by
  rw [lex, if_neg (by simp [hc])]
  split
  · next hnone => rw [h] at hnone; cases hnone
  · next hsome =>
    rw [h] at hsome
    obtain ⟨rfl, rfl⟩ := Prod.mk.inj (Option.some.inj hsome)
    rfl

end Listing.Sql
