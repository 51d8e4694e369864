import Listing.Proofs.Sql.Token
import Listing.Proofs.Text.Splitting

/-!
# Texts That Are Read as Tokens

Where a token ends hangs on what is behind it. `Reads Behind cs ts` says that the text `cs`
is cut into the tokens `ts` in front of every text of the kind `Behind`; of these kinds,
`EndsExpr` is what can stand behind an expression of a statement.

## Main results

* `Reads.append` — texts that are read as tokens can be put together, if the second one is
  of the kind that may stand behind the first.
* `reads_quoteName`, `reads_quoteText` — a name and a text in quotes are one token each,
  whatever is inside.
* `reads_word`, `reads_number`, `reads_operator` — words, numbers and operators are one token
  each.
* `reads_separated`, `reads_words`, `reads_spaced` — lists with commas or blanks between
  their items.
-/

namespace Listing.Sql

open Token
open Text (takeWhile_run dropWhile_run)

/-! ### Texts that are read as tokens -/

/-- A text is **read as** some tokens in front of every text of a kind. -/
def Reads (Behind : List Char → Prop) (cs : List Char) (ts : List Token) : Prop :=
  ∀ rest, Behind rest → lex (cs ++ rest) = (lex rest).map (ts ++ ·)

/-- Any text. -/
def Anything : List Char → Prop := fun _ => True

/-- A text that is not read as a part of a word in front of it, and that does not make the
word the kind of a quote. -/
def EndsWord (rest : List Char) : Prop :=
  ∀ c ∈ rest.head?, isWordPart c = false ∧ c ≠ '\'' ∧ c ≠ '&'

/-- A text that can stand behind an expression. -/
inductive EndsExpr : List Char → Prop
  /-- Nothing. -/
  | nil : EndsExpr []
  /-- A closing parenthesis. -/
  | parenthesis (rest : List Char) : EndsExpr (')' :: rest)
  /-- A comma. -/
  | comma (rest : List Char) : EndsExpr (',' :: rest)
  /-- A blank in front of something that is neither a blank nor a text in quotes. -/
  | space {c : Char} (rest : List Char) (hc : isSpace c = false) (hquote : c ≠ '\'') :
    EndsExpr (' ' :: c :: rest)

namespace Reads

variable {F G : List Char → Prop} {cs ds : List Char} {ts us : List Token}

/-- Texts that are read as tokens can be **put together**, if the second one ends the first. -/
theorem append (h : Reads F cs ts) (h' : Reads G ds us) (hF : ∀ rest, G rest → F (ds ++ rest)) :
    Reads G (cs ++ ds) (ts ++ us) := by
  intro rest hrest
  rw [List.append_assoc, h _ (hF rest hrest), h' rest hrest, Option.map_map]
  simp [Function.comp_def]

/-- Any text can be put behind one that is read in front of anything. -/
theorem before (h : Reads Anything cs ts) (h' : Reads G ds us) : Reads G (cs ++ ds) (ts ++ us) :=
  h.append h' fun _ _ => trivial

/-- What is read in front of some texts is read in front of fewer. -/
theorem mono (h : Reads F cs ts) (hF : ∀ rest, G rest → F rest) : Reads G cs ts :=
  fun rest hrest => h rest (hF rest hrest)

/-- The whole text is read as its tokens. -/
theorem lex_eq (h : Reads F cs ts) (hF : F []) : lex cs = some ts := by
  simpa using h [] hF

/-- Nothing is no token. -/
theorem nil : Reads F [] [] := fun rest _ => by simp

end Reads

/-- A blank is no token. -/
theorem reads_space : Reads Anything [' '] [] :=
  fun rest _ => by simp [lex_space (show isSpace ' ' from rfl) rest]

/-- A delimiter is a token of its own. -/
theorem reads_delimiter {c : Char} (hc : c = '(' ∨ c = ')' ∨ c = ',') :
    Reads Anything [c] [symbol (String.singleton c)] := by
  intro rest _
  rcases hc with rfl | rfl | rfl <;> exact lex_token rfl rfl

/-! ### Quotes -/

/-- A text in quotes is read up to the quote that ends it. -/
theorem readQuoted_doubled (quote : Char) (s : List Char) {rest : List Char}
    (hrest : rest.head? ≠ some quote) :
    readQuoted quote ((s.flatMap fun c => if c = quote then [c, c] else [c]) ++ quote :: rest) =
      some (s, rest) := by
  induction s with
  | nil =>
    cases rest with
    | nil => simp [readQuoted]
    | cons c rest =>
      have hc : c ≠ quote := fun h => hrest (by rw [h]; rfl)
      simp [readQuoted, hc]
  | cons c s ih =>
    by_cases hc : c = quote
    · subst hc
      simp [readQuoted, ih]
    · -- behind `c` stands at least the closing quote, so that a next character can be looked at
      obtain ⟨next, more, hmore⟩ : ∃ next more,
          (s.flatMap fun c => if c = quote then [c, c] else [c]) ++ quote :: rest = next :: more :=
        List.exists_cons_of_ne_nil (by simp)
      rw [hmore] at ih
      simp [hc, hmore, readQuoted, ih]

/-- A name in quotes is one token, whatever is inside. -/
theorem reads_quoteName (s : String) :
    Reads (fun rest => rest.head? ≠ some '"') (quoteName s).toList [name s] := by
  intro rest hrest
  have h := readQuoted_doubled '"' s.toList hrest
  simp only [quoteName, enclose, String.toList_ofList, List.cons_append, List.append_assoc,
    List.nil_append]
  exact lex_token rfl (by simp [Token.read, readName, h])

/-- A text in quotes is one token, whatever is inside. -/
theorem reads_quoteText (s : String) : Reads EndsExpr (quoteText s).toList [text s] := by
  intro rest hrest
  have hquote : rest.head? ≠ some '\'' ∧ (rest.dropWhile isSpace).head? ≠ some '\'' := by
    cases hrest with
    | nil => simp
    | parenthesis rest => simp [isSpace]
    | comma rest => simp [isSpace]
    | space rest hc hquote =>
      simp [show isSpace ' ' from rfl, hc, hquote]
  have h := readQuoted_doubled '\'' s.toList hquote.1
  simp only [quoteText, enclose, String.toList_ofList, List.cons_append, List.append_assoc,
    List.nil_append]
  exact lex_token rfl (by simp [Token.read, readText, h, hquote.2])

/-! ### Words -/

/-- Whether a text is a word. -/
def isPlainWord : List Char → Bool
  | [] => false
  | c :: cs => startsWord c && cs.all isWordPart

/-- A word is one token. -/
theorem reads_word (w : List Char) (hw : isPlainWord w) :
    Reads EndsWord w [word (String.ofList w)] := by
  intro rest hrest
  cases w with
  | nil => cases hw
  | cons c w =>
    rw [isPlainWord, Bool.and_eq_true, List.all_eq_true] at hw
    obtain ⟨hspace, hname, htext⟩ := ne_of_startsWord hw.1
    have hpart : ∀ d ∈ rest.head?, isWordPart d = false := fun d hd => (hrest d hd).1
    have hquote : rest.head? ∉ [some '\'', some '&'] := by
      intro hmem
      rcases List.mem_cons.mp hmem with h | h
      · exact (hrest _ h).2.1 rfl
      · exact (hrest _ (List.mem_singleton.mp h)).2.2 rfl
    refine lex_token hspace ?_
    change Token.read c (w ++ rest) = _
    simp only [Token.read, readWord, hname, htext, hw.1, if_false, if_true,
      takeWhile_run hw.2 hpart, dropWhile_run hw.2 hpart, hquote]

/-- What is behind an expression ends a word. -/
theorem EndsExpr.endsWord {rest : List Char} (h : EndsExpr rest) : EndsWord rest := by
  intro c hc
  cases h <;> cases hc <;> decide

/-- A word that is **cut off** a text is one. -/
theorem isPlainWord_of_read {c : Char} {rest tail : List Char} {w : String}
    (h : Token.read c rest = some (.word w, tail)) : isPlainWord w.toList := by
  have hword : readWord c rest = some (.word w, tail) ∧ startsWord c := by
    unfold Token.read readName readText readNumber readOperator readDot at h
    grind
  obtain ⟨h, hc⟩ := hword
  unfold readWord at h
  split at h
  · cases h
  · obtain ⟨hw, -⟩ := Prod.mk.inj (Option.some.inj h)
    obtain rfl := Token.word.inj hw
    rw [String.toList_ofList, isPlainWord, hc, Bool.true_and, List.all_eq_true]
    exact fun d hd => List.mem_takeWhile_imp hd

/-- The **words of a text** are words. -/
theorem isPlainWord_of_lex {cs : List Char} {ts : List Token} (h : lex cs = some ts) {w : String}
    (hw : .word w ∈ ts) : isPlainWord w.toList := by
  fun_induction lex cs generalizing ts with
  | case1 => cases h; cases hw
  | case2 c rest hc ih => exact ih h hw
  | case3 => cases h
  | case4 c rest hc t tail hread ih =>
    obtain ⟨us, hus, rfl⟩ := Option.map_eq_some_iff.mp h
    rcases List.mem_cons.mp hw with rfl | hw
    · exact isPlainWord_of_read hread
    · exact ih hus hw

/-! ### Numbers -/

/-- A **fraction**: nothing, or a decimal point and digits. -/
inductive IsFraction : List Char → Prop
  /-- No fraction. -/
  | none : IsFraction []
  /-- Some places behind the point. -/
  | places {digits : List Char} (h : ∀ c ∈ digits, c.isDigit) : IsFraction ('.' :: digits)

/-- A **number** as it is written: digits, perhaps with a fraction behind them. -/
def IsNumber (cs : List Char) : Prop :=
  ∃ whole fraction, cs = whole ++ fraction ∧ whole ≠ [] ∧ (∀ c ∈ whole, c.isDigit) ∧
    IsFraction fraction

/-- A fraction is read up to what ends the number. -/
theorem readFraction_append {fraction rest : List Char} (h : IsFraction fraction)
    (hdigit : ∀ c ∈ rest.head?, c.isDigit = false) (hpoint : rest.head? ≠ some '.') :
    readFraction (fraction ++ rest) = (fraction, rest) := by
  cases h with
  | none =>
    cases rest with
    | nil => rfl
    | cons c rest =>
      have hc : c ≠ '.' := fun h => hpoint (by rw [h]; rfl)
      simp [readFraction, hc]
  | places h => simp [readFraction, takeWhile_run h hdigit, dropWhile_run h hdigit]

/-- What is behind an expression ends a number. -/
theorem EndsExpr.endsNumber {rest : List Char} (h : EndsExpr rest) :
    ∀ c ∈ rest.head?, isWordPart c = false ∧ c ≠ '.' := by
  intro c hc
  cases h <;> cases hc <;> decide

/-- Digits are parts of words. -/
theorem isDigit_eq_false {c : Char} (h : isWordPart c = false) : c.isDigit = false := by
  rw [isWordPart, Bool.or_eq_false_iff, Bool.or_eq_false_iff] at h
  exact h.1.2

/-- A number is one token. -/
theorem reads_number {cs : List Char} (h : IsNumber cs) :
    Reads EndsExpr cs [number (String.ofList cs)] := by
  obtain ⟨whole, fraction, rfl, hne, hwhole, hfraction⟩ := h
  intro rest hrest
  have hend := hrest.endsNumber
  have hdigit : ∀ c ∈ rest.head?, c.isDigit = false :=
    fun c hc => isDigit_eq_false (hend c hc).1
  have hpoint : rest.head? ≠ some '.' := fun h => (hend _ h).2 rfl
  have htail : rest.head?.any (fun d => isWordPart d || d == '.') = false := by
    rw [Option.any_eq_false]
    intro c hc
    simp [hend c hc]
  obtain ⟨c, w, rfl⟩ := List.exists_cons_of_ne_nil hne
  rw [List.forall_mem_cons] at hwhole
  have hbehind : ∀ d ∈ (fraction ++ rest).head?, d.isDigit = false := by
    intro d hd
    cases hfraction with
    | none => exact hdigit d hd
    | places => cases hd; rfl
  obtain ⟨hspace, hname, htext, hword⟩ := ne_of_isDigit hwhole.1
  refine lex_token hspace ?_
  change Token.read c ((w ++ fraction) ++ rest) = _
  rw [List.append_assoc]
  simp only [Token.read, readNumber, hname, htext, hword, hwhole.1, if_false, if_true,
    takeWhile_run hwhole.2 hbehind, dropWhile_run hwhole.2 hbehind,
    readFraction_append hfraction hdigit hpoint, htail, List.cons_append, Bool.false_eq_true]

/-! ### Operators -/

/-- A text that does not go on with an operator. -/
def EndsOperator (rest : List Char) : Prop := ∀ c ∈ rest.head?, isOperatorPart c = false

/-- An operator is one token. -/
theorem reads_operator (run : List Char) (hne : run ≠ []) (hparts : run.all isOperatorPart)
    (hrun : isOperator run) : Reads EndsOperator run [symbol (String.ofList run)] := by
  intro rest hrest
  obtain ⟨c, w, rfl⟩ := List.exists_cons_of_ne_nil hne
  rw [List.all_eq_true, List.forall_mem_cons] at hparts
  obtain ⟨hspace, hname, htext, hword, hdigit⟩ := ne_of_isOperatorPart hparts.1
  refine lex_token hspace ?_
  change Token.read c (w ++ rest) = _
  simp only [Token.read, readOperator, hname, htext, hword, hdigit, hparts.1, if_false, if_true,
    takeWhile_run hparts.2 hrest, dropWhile_run hparts.2 hrest, hrun, Bool.false_eq_true]

/-- What is behind an expression ends an operator. -/
theorem EndsExpr.endsOperator {rest : List Char} (h : EndsExpr rest) : EndsOperator rest := by
  intro c hc
  cases h <;> cases hc <;> decide

/-- A digit ends an operator. -/
theorem isOperatorPart_of_isDigit {c : Char} (h : c.isDigit) : isOperatorPart c = false := by
  rw [Bool.eq_false_iff]
  intro hc
  rw [(ne_of_isOperatorPart hc).2.2.2.2] at h
  cases h

/-! ### Lists -/

/-- **Items between commas** are read as their tokens between commas. -/
theorem reads_separated {α : Type} {f : α → String} {g : α → List Token} {xs : List α}
    (h : ∀ x ∈ xs, Reads EndsExpr (f x).toList (g x)) :
    Reads EndsExpr (", ".intercalate (xs.map f)).toList ([symbol ","].intercalate (xs.map g)) := by
  rw [String.toList_intercalate, List.map_map]
  induction xs with
  | nil => exact Reads.nil
  | cons x xs ih =>
    rw [List.forall_mem_cons] at h
    cases xs with
    | nil => simpa using h.1
    | cons y ys =>
      have hcomma : Reads Anything ", ".toList [symbol ","] :=
        (reads_delimiter (.inr (.inr rfl))).before reads_space
      have hrest := h.1.append (hcomma.before (ih h.2)) fun rest _ => .comma _
      simpa [List.intercalate_cons_cons] using hrest

/-- **Words between blanks** are read as they are. -/
theorem reads_words {ws : List (List Char)} (h : ∀ w ∈ ws, isPlainWord w) :
    Reads EndsWord (" ".toList.intercalate ws) (ws.map fun w => word (String.ofList w)) := by
  induction ws with
  | nil => exact Reads.nil
  | cons w ws ih =>
    rw [List.forall_mem_cons] at h
    cases ws with
    | nil => simpa using reads_word w h.1
    | cons v vs =>
      have hrest := (reads_word w h.1).append (reads_space.before (ih h.2))
        fun rest _ c hc => by cases hc; decide
      simpa [List.intercalate_cons_cons] using hrest

/-- A blank and then a word end an expression. -/
theorem endsExpr_word {c : Char} (hc : startsWord c) (cs : List Char) :
    EndsExpr (' ' :: c :: cs) :=
  .space cs (ne_of_startsWord hc).1 (ne_of_startsWord hc).2.2

/-- **Clauses between blanks** are read as their tokens, if each begins with a word. -/
theorem reads_spaced {α : Type} {f : α → String} {g : α → List Token} {xs : List α}
    (h : ∀ x ∈ xs, Reads EndsExpr (f x).toList (g x) ∧ (f x).toList.head?.any startsWord) :
    Reads EndsExpr (" ".intercalate (xs.map f)).toList (xs.flatMap g) := by
  rw [String.toList_intercalate, List.map_map]
  induction xs with
  | nil => exact Reads.nil
  | cons x xs ih =>
    rw [List.forall_mem_cons] at h
    cases xs with
    | nil => simpa using h.1.1
    | cons y ys =>
      obtain ⟨c, hc, hword⟩ := (Option.any_eq_true _ _).mp (h.2 y List.mem_cons_self).2
      obtain ⟨w, hw⟩ :
          ∃ w, " ".toList.intercalate ((y :: ys).map (String.toList ∘ f)) = c :: w := by
        obtain ⟨w, hw⟩ := List.head?_eq_some_iff.mp hc
        cases ys <;> simp [List.intercalate_cons_cons, hw]
      have hrest := h.1.1.append (reads_space.before (ih h.2)) fun rest _ => by
        rw [hw]
        exact endsExpr_word hword _
      simpa [List.intercalate_cons_cons] using hrest

end Listing.Sql
