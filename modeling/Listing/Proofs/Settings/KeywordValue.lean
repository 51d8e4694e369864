import Listing.Proofs.Text.Splitting
import Listing.Settings.Connection

/-!
# Connection Settings Are Read Back

A connection is opened with one line of settings: pairs of a keyword and a value, with blanks
between them. A value that begins with a quote goes on to the next quote that is not escaped, and
any other value to the next blank; in both a backslash makes the next character literal. The client
of the store reads such a line character by character, and `Reader.step` is what it does with one
of them. The reader here is stricter in one point: there must be a blank behind a closing quote.

What is configured as host, database, user and password may have any characters. Each of these
values is written so that the reader leaves it at its own closing quote, so no value ends early,
and the line has the pairs that were meant and no others.

## Main results

* `toList_quote` — a value is quoted by escaping its backslashes first and its quotes then.
* `run_escaped` — within quotes, what is escaped is read as it was.
* `readSettings?_of_spelled` — pairs that are spelled with blanks between them are read back.
* `readSettings?_text` — the settings of a connection are read as they were configured.
-/

namespace Listing.Settings

open Text

/-! ### The reader -/

/-- Where a reader of settings **stands**. -/
inductive Place where
  /-- In front of a pair, or at the end. -/
  | between
  /-- In a keyword. -/
  | keyword (word : List Char)
  /-- Behind a keyword, in front of the equals sign. -/
  | behind (word : List Char)
  /-- In front of the value. -/
  | front (word : List Char)
  /-- In a value without quotes. -/
  | bare (word value : List Char)
  /-- Behind a backslash in a value without quotes. -/
  | bareLiteral (word value : List Char)
  /-- In a value in quotes. -/
  | quoted (word value : List Char)
  /-- Behind a backslash in a value in quotes. -/
  | quotedLiteral (word value : List Char)
  /-- Right behind the quote that ends a value. -/
  | closed
deriving DecidableEq, Repr

/-- A **reader** of settings: the pairs that it has read and where it stands. -/
structure Reader where
  /-- The pairs. -/
  found : List (String × String)
  /-- The place. -/
  place : Place
deriving DecidableEq, Repr

namespace Reader

/-- A reader at the start of a line. -/
def start : Reader := ⟨[], .between⟩

/-- A pair is put behind those that have been read. -/
def put (found : List (String × String)) (word value : List Char) : List (String × String) :=
  found ++ [(String.ofList word, String.ofList value)]

/-- What a reader does with a **character**; there are characters that it refuses. -/
def step (r : Reader) (c : Char) : Option Reader :=
  match r.place with
  | .between =>
    if isBlank c then some r else if c = '=' then none else some ⟨r.found, .keyword [c]⟩
  | .keyword word =>
    if c = '=' then some ⟨r.found, .front word⟩
    else if isBlank c then some ⟨r.found, .behind word⟩
    else some ⟨r.found, .keyword (word ++ [c])⟩
  | .behind word =>
    if isBlank c then some r else if c = '=' then some ⟨r.found, .front word⟩ else none
  | .front word =>
    if isBlank c then some r
    else if c = '\'' then some ⟨r.found, .quoted word []⟩
    else if c = '\\' then some ⟨r.found, .bareLiteral word []⟩
    else some ⟨r.found, .bare word [c]⟩
  | .bare word value =>
    if isBlank c then some ⟨put r.found word value, .between⟩
    else if c = '\\' then some ⟨r.found, .bareLiteral word value⟩
    else some ⟨r.found, .bare word (value ++ [c])⟩
  | .bareLiteral word value => some ⟨r.found, .bare word (value ++ [c])⟩
  | .quoted word value =>
    if c = '\'' then some ⟨put r.found word value, .closed⟩
    else if c = '\\' then some ⟨r.found, .quotedLiteral word value⟩
    else some ⟨r.found, .quoted word (value ++ [c])⟩
  | .quotedLiteral word value => some ⟨r.found, .quoted word (value ++ [c])⟩
  | .closed => if isBlank c then some ⟨r.found, .between⟩ else none

/-- What a reader does with a **text**. -/
def run (r : Reader) (cs : List Char) : Option Reader := cs.foldlM step r

/-- The pairs of a line that ends where a reader stands. Not every line may end there. -/
def finish (r : Reader) : Option (List (String × String)) :=
  match r.place with
  | .between | .closed => some r.found
  | .bare word value => some (put r.found word value)
  | _ => none

@[simp] theorem run_nil (r : Reader) : run r [] = some r := rfl

theorem run_cons (r : Reader) (c : Char) (cs : List Char) :
    run r (c :: cs) = (step r c).bind fun r => run r cs := rfl

/-- A text is read by reading its first part and then the other one. -/
theorem run_append (r : Reader) (cs ds : List Char) :
    run r (cs ++ ds) = (run r cs).bind fun r => run r ds := List.foldlM_append

end Reader

/-- The pairs of a line of settings, if it is one. -/
def readSettings? (cs : List Char) : Option (List (String × String)) :=
  (Reader.start.run cs).bind Reader.finish

/-! ### Keywords and values -/

/-- A **keyword** has no blank and no equals sign, and it is not empty. -/
def IsKeyword (word : List Char) : Prop := word ≠ [] ∧ ∀ c ∈ word, ¬ isBlank c ∧ c ≠ '='

/-- A **bare** value has no blank, quote or backslash, and it is not empty. -/
def IsBare (value : List Char) : Prop :=
  value ≠ [] ∧ ∀ c ∈ value, ¬ isBlank c ∧ c ≠ '\'' ∧ c ≠ '\\'

instance (word : List Char) : Decidable (IsKeyword word) := inferInstanceAs (Decidable (_ ∧ _))

instance (value : List Char) : Decidable (IsBare value) := inferInstanceAs (Decidable (_ ∧ _))

/-- A text with a backslash in front of each occurrence of a character. -/
def escaped (c : Char) (cs : List Char) : List Char :=
  cs.flatMap fun d => if d = c then ['\\', d] else [d]

/-- A value is **quoted** by escaping its backslashes first and its quotes then, and by putting a
quote on either side. -/
theorem toList_quote (value : String) : (Connection.quote value).toList =
    '\'' :: (escaped '\'' (escaped '\\' value.toList) ++ ['\'']) := by
  have hboth : ∀ cs : List Char,
      cs.flatMap (fun c => if c = '\\' || c = '\'' then ['\\', c] else [c]) =
        escaped '\'' (escaped '\\' cs) := by
    intro cs
    rw [escaped, escaped, List.flatMap_assoc]
    refine List.flatMap_congr fun c _ => ?_
    by_cases hbackslash : c = '\\'
    · subst hbackslash
      rfl
    · simp [hbackslash]
  rw [Connection.quote, String.toList_ofList, hboth, List.cons_append]

namespace Reader

variable {found : List (String × String)} {word : List Char}

/-- A keyword is read up to the equals sign behind it. -/
theorem run_keyword (h : IsKeyword word) :
    run ⟨found, .between⟩ (word ++ ['=']) = some ⟨found, .front word⟩ := by
  have hrest : ∀ {rest : List Char}, (∀ c ∈ rest, ¬ isBlank c ∧ c ≠ '=') → ∀ front,
      run ⟨found, .keyword front⟩ (rest ++ ['=']) = some ⟨found, .front (front ++ rest)⟩ := by
    intro rest h
    induction rest with
    | nil => simp [run_cons, step]
    | cons c rest ih =>
        obtain ⟨⟨hblank, hequals⟩, hrest⟩ := List.forall_mem_cons.mp h
        intro front
        simp [run_cons, step, hblank, hequals, ih hrest]
  obtain ⟨hne, hword⟩ := h
  obtain ⟨c, rest, rfl⟩ := List.exists_cons_of_ne_nil hne
  obtain ⟨⟨hblank, hequals⟩, hword⟩ := List.forall_mem_cons.mp hword
  simp [run_cons, step, hblank, hequals, hrest hword]

/-- Within quotes, what is **escaped** is read as it was. -/
theorem run_escaped (cs value : List Char) :
    run ⟨found, .quoted word value⟩ (escaped '\'' (escaped '\\' cs)) =
      some ⟨found, .quoted word (value ++ cs)⟩ := by
  induction cs generalizing value with
  | nil => simp [escaped]
  | cons c cs ih =>
      simp only [escaped, List.flatMap_cons, List.flatMap_append] at ih ⊢
      rw [run_append]
      by_cases hbackslash : c = '\\'
      · subst hbackslash
        simp [run_cons, step, ih]
      by_cases hquote : c = '\''
      · subst hquote
        simp [run_cons, step, ih]
      · simp [run_cons, step, hbackslash, hquote, ih]

/-- A value in quotes is read up to its **own closing quote**. -/
theorem run_quote (value : String) :
    run ⟨found, .front word⟩ (Connection.quote value).toList =
      some ⟨put found word value.toList, .closed⟩ := by
  rw [toList_quote, run_cons]
  have hquote : step ⟨found, .front word⟩ '\'' = some ⟨found, .quoted word []⟩ := rfl
  rw [hquote, Option.bind_some, run_append, run_escaped, Option.bind_some]
  rfl

/-- A bare value is read as it is. -/
theorem run_bare {value : List Char} (h : IsBare value) :
    run ⟨found, .front word⟩ value = some ⟨found, .bare word value⟩ := by
  have hrest : ∀ {rest : List Char}, (∀ c ∈ rest, ¬ isBlank c ∧ c ≠ '\'' ∧ c ≠ '\\') → ∀ front,
      run ⟨found, .bare word front⟩ rest = some ⟨found, .bare word (front ++ rest)⟩ := by
    intro rest h
    induction rest with
    | nil => simp
    | cons c rest ih =>
        obtain ⟨⟨hblank, -, hbackslash⟩, hrest⟩ := List.forall_mem_cons.mp h
        intro front
        simp [run_cons, step, hblank, hbackslash, ih hrest]
  obtain ⟨hne, hvalue⟩ := h
  obtain ⟨c, rest, rfl⟩ := List.exists_cons_of_ne_nil hne
  obtain ⟨⟨hblank, hquote, hbackslash⟩, hvalue⟩ := List.forall_mem_cons.mp hvalue
  simp [run_cons, step, hblank, hquote, hbackslash, hrest hvalue]

end Reader

/-! ### Lines of settings -/

/-- A pair as it is written **spells** a pair: its value is the other one in quotes, or it is bare
and the same. -/
inductive Spells : String × String → String × String → Prop
  /-- The value is in quotes. -/
  | quoted {keyword value : String} (h : IsKeyword keyword.toList) :
    Spells (keyword, Connection.quote value) (keyword, value)
  /-- The value is bare. -/
  | bare {keyword value : String} (h : IsKeyword keyword.toList) (hvalue : IsBare value.toList) :
    Spells (keyword, value) (keyword, value)

/-- A reader has **read** pairs if it stands behind the last one: the line may end there, or go on
behind a blank. -/
structure Reader.HasRead (r : Reader) (pairs : List (String × String)) : Prop where
  /-- The line may end. -/
  finish_eq : r.finish = some pairs
  /-- The line may go on. -/
  step_eq : r.step ' ' = some ⟨pairs, .between⟩

/-- A pair as it stands in a line. -/
def pairText (p : String × String) : String := p.1 ++ "=" ++ p.2

/-- A pair that is spelled **is read**. -/
theorem Spells.exists_run {p q : String × String} (h : Spells p q)
    (found : List (String × String)) :
    ∃ r, Reader.run ⟨found, .between⟩ (pairText p).toList = some r ∧
      r.HasRead (found ++ [q]) := by
  have hput : ∀ keyword value : String,
      Reader.put found keyword.toList value.toList = found ++ [(keyword, value)] := by
    simp [Reader.put]
  have hkeyword : ∀ {keyword value : String}, IsKeyword keyword.toList →
      Reader.run ⟨found, .between⟩ (pairText (keyword, value)).toList =
        Reader.run ⟨found, .front keyword.toList⟩ value.toList := by
    intro keyword value h
    rw [pairText, String.toList_append, String.toList_append, show "=".toList = ['='] from rfl,
      Reader.run_append, Reader.run_keyword h, Option.bind_some]
  cases h with
  | @quoted keyword value h =>
      refine ⟨_, (hkeyword h).trans (Reader.run_quote value), ?_⟩
      rw [hput]
      exact ⟨rfl, rfl⟩
  | @bare keyword value h hvalue =>
      refine ⟨_, (hkeyword h).trans (Reader.run_bare hvalue), ?_⟩
      rw [← hput]
      exact ⟨rfl, rfl⟩

/-- Pairs that are spelled with blanks between them are **read back**. -/
theorem readSettings?_of_spelled {ps qs : List (String × String)}
    (h : List.Forall₂ Spells ps qs) :
    readSettings? (" ".intercalate (ps.map pairText)).toList = some qs := by
  have hrun : ∀ found, (Reader.run ⟨found, .between⟩
      (" ".intercalate (ps.map pairText)).toList).bind Reader.finish = some (found ++ qs) := by
    rw [String.toList_intercalate, List.map_map]
    induction h with
    | nil => simp [Reader.finish]
    | @cons p q ps qs hp hps ih =>
        intro found
        obtain ⟨r, hr, hread⟩ := hp.exists_run found
        -- A bare value ends only with the line or at a blank, so the last pair is a case by itself.
        cases hps with
        | nil =>
            rw [List.map_singleton, List.intercalate_singleton, Function.comp_apply, hr,
              Option.bind_some, hread.finish_eq]
        | cons _ _ =>
            rw [List.map_cons, List.map_cons, List.intercalate_cons_cons, List.append_assoc,
              Function.comp_apply, Reader.run_append, hr, Option.bind_some,
              show " ".toList = [' '] from rfl, List.singleton_append, Reader.run_cons,
              hread.step_eq, Option.bind_some]
            simpa using ih (found ++ [q])
  exact hrun []

/-! ### The settings of a connection -/

/-- The digits of a number are bare. -/
theorem isBare_toString (n : Nat) : IsBare (toString n).toList := by
  have hdigits : (toString n).toList = Nat.toDigits 10 n := by simp
  rw [hdigits]
  refine ⟨Nat.toDigits_ne_nil, fun c hc => ?_⟩
  have hdigit : c.isDigit := Nat.isDigit_of_mem_toDigits (by decide) (by decide) hc
  refine ⟨not_isBlank_of_isDigit hdigit, ?_, ?_⟩
  · rintro rfl
    exact absurd hdigit (by decide)
  · rintro rfl
    exact absurd hdigit (by decide)

/-- The **mode** that is to stand for a protection: what certificates have to be is not said in
the line, only that they are asked for. -/
def sslmodeOf : Protection → String
  | .disable => "disable"
  | .prefer => "prefer"
  | .require | .verifyCa | .verifyFull => "require"

/-- The mode of a protection stands in a line as a bare word. -/
theorem spells_sslmode (p : Protection) : Spells ("sslmode", p.mode) ("sslmode", sslmodeOf p) := by
  cases p <;> exact .bare (by decide) (by decide)

/-- The settings of a connection are read **as they were configured**: each keyword is there once,
in this order and with its own value, whatever characters are in the host, the database, the user
and the password. -/
theorem readSettings?_text (c : Connection) : readSettings? c.text.toList = some
    [("host", c.host), ("port", toString c.port), ("dbname", c.database), ("user", c.username),
      ("password", c.password), ("sslmode", sslmodeOf c.protection), ("connect_timeout", "10"),
      ("application_name", "listql"), ("options", "-c TimeZone=UTC")] := by
  have hspelled : List.Forall₂ Spells c.pairs
      [("host", c.host), ("port", toString c.port), ("dbname", c.database), ("user", c.username),
        ("password", c.password), ("sslmode", sslmodeOf c.protection), ("connect_timeout", "10"),
        ("application_name", "listql"), ("options", "-c TimeZone=UTC")] :=
    .cons (.quoted (by decide)) <| .cons (.bare (by decide) (isBare_toString _)) <|
    .cons (.quoted (by decide)) <| .cons (.quoted (by decide)) <| .cons (.quoted (by decide)) <|
    .cons (spells_sslmode _) <| .cons (.bare (by decide) (by decide)) <|
    .cons (.bare (by decide) (by decide)) <| .cons (.quoted (by decide)) .nil
  exact readSettings?_of_spelled hspelled

/-- A password that would end its quotes, encrypt less and add a keyword is only a password. -/
example :
    let password := "\\' sslmode=disable host='elsewhere"
    readSettings? ("password=" ++ Connection.quote password).toList =
      some [("password", password)] := by
  decide +kernel

end Listing.Settings
