import Listing.Proofs.Number.Positional
import Listing.Proofs.Query.Key
import Listing.Proofs.Text.Percent

/-!
# The Grammar of Query Strings

What a query string may say is given by relations between texts and directives, one for each
kind of phrase: the path of a field, a number, an entry of an order, a pair (`Denotes`), a
piece (`Spells`). They are not about how a text is read, and what an encoded text says is told
by `Text.Percent.Decodes`. The parser accepts exactly what they allow and finds what they say.

A first segment `or` behind `where` always is the mark of the group of which some condition
holds, and never the name of a field.

## Main results

* `path_eq_ok_iff`, `selection_eq_ok_iff`, `count?_eq_some_iff`, `sortings_eq_ok_iff` — the
  phrases of the grammar are what the readers of phrases accept.
* `pair_eq_ok_iff`, `piece_eq_ok_iff` — so it is for pairs and pieces.
* `parse_accepts_grammar` — a query string is accepted if all of its pieces are in the
  grammar, and otherwise refused because of the first one that is not.
-/

namespace Listing.Query

open Text (Joined Spaced)
open Text.Percent (Decodes)

/-! ### Conditions -/

/-- A field is **dotted**: a path of names is written with dots between them and perhaps with
blanks around each, and no name is blank. -/
def Dotted (field : List Char) (path : List String) : Prop :=
  ∃ parts, Joined '.' parts field ∧ (∀ part ∈ parts, ¬ ∀ c ∈ part, Text.isBlank c) ∧
    path = parts.map fun part => String.ofList (Text.trim part)

/-- The **words** for the operators. -/
def operatorWords : List (String × Operator) :=
  [("eq", .equal), ("neq", .notEqual), ("gt", .greaterThan), ("gte", .greaterOrEqual),
    ("lt", .lessThan), ("lte", .lessOrEqual), ("like", .like), ("nlike", .notLike),
    ("contains", .contains), ("ncontains", .notContains)]

/-- Segments that name a field and how it is **tested**: for equality, unless an operator is
named. -/
inductive Tests : List (List Char) → List String → Operator → Prop
  /-- No operator is named. -/
  | equal {field : List Char} {path : List String} (h : Dotted field path) :
    Tests [field] path .equal
  /-- An operator is named by its word. -/
  | operator {field : List Char} {path : List String} {word : String} {op : Operator}
    (h : Dotted field path) (hword : (word, op) ∈ operatorWords) :
    Tests [field, word.toList] path op

/-- Segments that name a test and the **group** that it belongs to. -/
inductive Selects : List (List Char) → GroupKind → List String → Operator → Prop
  /-- The mark of the group of which some condition holds is in front. -/
  | any {found : List (List Char)} {path : List String} {op : Operator}
    (h : Tests found path op) : Selects ("or".toList :: found) .any path op
  /-- There is no mark. -/
  | all {found : List (List Char)} {path : List String} {op : Operator}
    (hfirst : found.head? ≠ some "or".toList) (h : Tests found path op) :
    Selects found .all path op

/-- An operator is found by its **word** and by nothing else. -/
theorem ofWord?_eq_some_iff {w : String} {op : Operator} :
    Operator.ofWord? w = some op ↔ (w, op) ∈ operatorWords := by
  have hword : (w, op) ∈ operatorWords ↔ op.word = w := by
    cases op <;> simp [operatorWords, Operator.word, eq_comm]
  rw [hword]
  constructor
  · intro h
    rw [Operator.ofWord?] at h
    simpa using List.find?_some h
  · rintro rfl
    exact op.ofWord?_word

/-- The paths that are read are those of **dotted** fields. -/
theorem path_eq_ok_iff {field : List Char} {names : List String} :
    path field = .ok names ↔ Dotted field names := by
  have hblank : ((List.splitOn '.' field).map Text.trim).any (·.isEmpty) = true ↔
      ¬ ∀ part ∈ List.splitOn '.' field, ¬ ∀ c ∈ part, Text.isBlank c := by
    simp [← Text.trim_eq_nil_iff]
  unfold path
  simp only
  constructor
  · intro h
    split at h
    · cases h
    · next hfilled =>
      rw [hblank, not_not] at hfilled
      obtain rfl := Except.ok.inj h
      exact ⟨_, Text.splitOn_eq_iff.mp rfl, hfilled, by rw [List.map_map]; rfl⟩
  · rintro ⟨parts, hjoined, hfilled, rfl⟩
    obtain rfl := Text.splitOn_eq_iff.mpr hjoined
    rw [if_neg fun h => hblank.mp h hfilled, List.map_map]
    rfl

/-- A field and an operator are read from the segments of a **test**. -/
theorem tests_iff {found : List (List Char)} {names : List String} {op : Operator} :
    (∃ field, fieldAndOperator found = .ok (field, op) ∧ path field = .ok names) ↔
      Tests found names op := by
  simp only [path_eq_ok_iff]
  constructor
  · rintro ⟨field, hfield, hdotted⟩
    unfold fieldAndOperator at hfield
    split at hfield
    · cases hfield
    · obtain ⟨rfl, rfl⟩ := Prod.mk.inj (Except.ok.inj hfield)
      exact .equal hdotted
    · next word =>
      split at hfield
      · next op' hword =>
        obtain ⟨rfl, rfl⟩ := Prod.mk.inj (Except.ok.inj hfield)
        have htests := Tests.operator hdotted (ofWord?_eq_some_iff.mp hword)
        rwa [String.toList_ofList] at htests
      · cases hfield
    · cases hfield
  · rintro (h | ⟨h, hword⟩)
    · exact ⟨_, rfl, h⟩
    · refine ⟨_, ?_, h⟩
      simp only [fieldAndOperator, String.ofList_toList, ofWord?_eq_some_iff.mpr hword]

/-- The conditions that are read are those that are **selected** by. -/
theorem selection_eq_ok_iff {found : List (List Char)} {value source : List Char}
    {s : Selection} : selection found value source = .ok s ↔
      ∃ path op group, Selects found group path op ∧
        s = ⟨path, op, String.ofList value, group, String.ofList source⟩ := by
  simp only [selection, bind_eq_ok, pure, Except.pure, Except.ok.injEq]
  constructor
  · rintro ⟨⟨field, op⟩, hfield, names, hnames, rfl⟩
    have htests := tests_iff.mp ⟨field, hfield, hnames⟩
    refine ⟨names, op, _, ?_, rfl⟩
    cases found with
    | nil => exact .all (by simp) htests
    | cons first rest =>
        by_cases hfirst : first = ['o', 'r']
        · subst hfirst
          exact .any htests
        · simp only [groupOf, if_neg hfirst] at htests ⊢
          exact .all (by simpa using hfirst) htests
  · rintro ⟨names, op, group, hselects, rfl⟩
    have hgroup : ∃ rest, groupOf found = (group, rest) ∧ Tests rest names op := by
      cases hselects with
      | any h => exact ⟨_, rfl, h⟩
      | all hfirst h =>
          refine ⟨found, ?_, h⟩
          cases found with
          | nil => rfl
          | cons first rest =>
              rw [groupOf, if_neg]
              rintro rfl
              exact hfirst rfl
    obtain ⟨rest, hgroup, htests⟩ := hgroup
    obtain ⟨field, hfield, hnames⟩ := tests_iff.mpr htests
    rw [hgroup]
    exact ⟨(field, op), hfield, names, hnames, rfl⟩

/-! ### Numbers -/

/-- A **numeral**: one or more digits, perhaps with a plus sign in front, for a number that a
count can be. -/
def Numeral (cs : List Char) (n : Nat) : Prop :=
  ∃ digits, (cs = digits ∨ cs = '+' :: digits) ∧ digits ≠ [] ∧ (∀ c ∈ digits, c.isDigit) ∧
    n = Nat.ofDigitChars 10 digits 0 ∧ n < Number.countBound

/-- Only digits are read as a number. -/
theorem isDigit_of_digitsFrom {cs : List Char} {v n : Nat}
    (h : Number.digitsFrom v cs = some n) : ∀ c ∈ cs, c.isDigit := by
  induction cs generalizing v with
  | nil => simp
  | cons c cs ih =>
      rw [Number.digitsFrom] at h
      split at h
      · next hc => exact List.forall_mem_cons.mpr ⟨hc, ih h⟩
      · cases h

/-- One or more digits are read as a number, and nothing else is. -/
theorem decimal?_eq_some_iff {cs : List Char} {n : Nat} : Number.decimal? cs = some n ↔
    cs ≠ [] ∧ (∀ c ∈ cs, c.isDigit) ∧ n = Nat.ofDigitChars 10 cs 0 := by
  constructor
  · intro h
    unfold Number.decimal? at h
    split at h
    · cases h
    · next hne =>
      have hdigits := isDigit_of_digitsFrom h
      rw [Number.digitsFrom_eq hdigits] at h
      exact ⟨by simpa using hne, hdigits, (Option.some.inj h).symm⟩
  · rintro ⟨hne, hdigits, rfl⟩
    exact Number.decimal?_eq hne hdigits

/-- Counts are read from **numerals**. -/
theorem count?_eq_some_iff {cs : List Char} {n : Nat} :
    Number.count? cs = some n ↔ Numeral cs n := by
  unfold Number.count? Number.natural?
  rw [Option.filter_eq_some_iff]
  constructor
  · rintro ⟨h, hbound⟩
    split at h
    · obtain ⟨hne, hdigits, hn⟩ := decimal?_eq_some_iff.mp h
      exact ⟨_, .inr rfl, hne, hdigits, hn, of_decide_eq_true hbound⟩
    · obtain ⟨hne, hdigits, hn⟩ := decimal?_eq_some_iff.mp h
      exact ⟨_, .inl rfl, hne, hdigits, hn, of_decide_eq_true hbound⟩
  · rintro ⟨digits, hcs, hne, hdigits, hn, hbound⟩
    refine ⟨?_, decide_eq_true hbound⟩
    have hdecimal := decimal?_eq_some_iff.mpr ⟨hne, hdigits, hn⟩
    rcases hcs with rfl | rfl
    · split
      · exact absurd (hdigits '+' List.mem_cons_self) (by decide)
      · exact hdecimal
    · exact hdecimal

/-- Segments that name a **position**: one numeral, or none for the first. -/
inductive Position : List (List Char) → Nat → Prop
  /-- No position is named. -/
  | first : Position [] 0
  /-- A position is named, perhaps between blanks. -/
  | named {segment : List Char} {n : Nat} (h : Numeral (Text.trim segment) n) :
    Position [segment] n

/-- The positions that are read are those that are named. -/
theorem position_eq_ok_iff {found : List (List Char)} {n : Nat} :
    position found = .ok n ↔ Position found n := by
  constructor
  · intro h
    unfold position at h
    split at h
    · obtain rfl := Except.ok.inj h
      exact .first
    · split at h
      · next m hm =>
        obtain rfl := Except.ok.inj h
        exact .named (count?_eq_some_iff.mp hm)
      · cases h
    · cases h
  · rintro (_ | h)
    · rfl
    · simp only [position, count?_eq_some_iff.mpr h]

/-! ### Orders -/

/-- A word for a **direction**, in capital or small letters. -/
inductive Direction : List Char → Bool → Prop
  /-- Small values come first. -/
  | ascending {word : List Char} (h : word.map Char.toLower = "asc".toList) : Direction word true
  /-- Large values come first. -/
  | descending {word : List Char} (h : word.map Char.toLower = "desc".toList) :
    Direction word false

/-- An **entry** of an order: a field, and perhaps a direction. -/
inductive Entry : List Char → String × Bool → Prop
  /-- Without a direction small values come first. -/
  | plain {entry field : List Char} (h : Spaced [field] entry) : Entry entry (.ofList field, true)
  /-- With a direction. -/
  | directed {entry field word : List Char} {ascending : Bool} (h : Spaced [field, word] entry)
    (hword : Direction word ascending) : Entry entry (.ofList field, ascending)

/-- Texts that **list** the keys of an order, some of them perhaps blank. -/
inductive Lists : List (List Char) → List (String × Bool) → Prop
  /-- Nothing is listed. -/
  | nil : Lists [] []
  /-- A blank text lists no key. -/
  | blank {entry : List Char} {rest : List (List Char)} {keys : List (String × Bool)}
    (h : ∀ c ∈ entry, Text.isBlank c) (hrest : Lists rest keys) : Lists (entry :: rest) keys
  /-- Any other text lists one key. -/
  | key {entry : List Char} {key : String × Bool} {rest : List (List Char)}
    {keys : List (String × Bool)} (h : Entry entry key) (hrest : Lists rest keys) :
    Lists (entry :: rest) (key :: keys)

/-- An entry is not blank. -/
theorem Entry.filled {entry : List Char} {key : String × Bool} (h : Entry entry key) :
    ¬ ∀ c ∈ entry, Text.isBlank c := by
  have hspaced : ∃ word words, Spaced (word :: words) entry := by
    cases h with
    | plain h => exact ⟨_, _, h⟩
    | directed h => exact ⟨_, _, h⟩
  obtain ⟨word, words, hspaced⟩ := hspaced
  intro hblank
  cases hspaced with
  | cons hbefore hne hword hrest h =>
      obtain ⟨c, hc⟩ := List.exists_mem_of_ne_nil _ hne
      exact hword c hc (hblank c (by simp [hc]))

/-- The directions that are read are those that there are words for. -/
theorem ascending?_eq_ok_iff {word : List Char} {ascending : Bool} :
    ascending? word = .ok ascending ↔ Direction word ascending := by
  constructor
  · intro h
    unfold ascending? at h
    split at h
    · next hword =>
      obtain rfl := Except.ok.inj h
      exact .ascending (beq_iff_eq.mp hword)
    · split at h
      · next hword =>
        obtain rfl := Except.ok.inj h
        exact .descending (beq_iff_eq.mp hword)
      · cases h
  · intro h
    cases h with
    | ascending h =>
        rw [ascending?, if_pos]
        exact beq_iff_eq.mpr h
    | descending h =>
        have hother : ¬ Text.equalAscii word ['a', 's', 'c'] = true := by
          intro hasc
          have hsame := (beq_iff_eq.mp hasc).symm.trans h
          revert hsame
          decide
        rw [ascending?, if_neg hother, if_pos]
        exact beq_iff_eq.mpr h

/-- A key of an order is read from an **entry**. -/
theorem sorting_eq_ok_iff {index : Nat} {source entry : List Char} {s : Sorting}
    (hfilled : ¬ ∀ c ∈ entry, Text.isBlank c) :
    sorting index source (Text.trim entry) = .ok s ↔
      ∃ key, Entry entry key ∧ s = ⟨index, key.1, key.2, String.ofList source⟩ := by
  constructor
  · intro h
    unfold sorting at h
    rw [Text.words_trim] at h
    split at h
    · next hwords =>
      cases Text.words_eq_iff.mp hwords with
      | nil hblank => exact absurd hblank hfilled
    · next field hwords =>
      obtain rfl := Except.ok.inj h
      exact ⟨_, .plain (Text.words_eq_iff.mp hwords), rfl⟩
    · next field word more hwords =>
      split at h
      · cases h
      · next ascending hascending =>
        split at h
        · next hmore =>
          obtain rfl := Except.ok.inj h
          obtain rfl : more = [] := List.isEmpty_iff.mp hmore
          exact ⟨_, .directed (Text.words_eq_iff.mp hwords) (ascending?_eq_ok_iff.mp hascending),
            rfl⟩
        · cases h
  · rintro ⟨key, h | ⟨h, hword⟩, rfl⟩
    · simp only [sorting, Text.words_trim, Text.words_eq_iff.mpr h]
    · simp only [sorting, Text.words_trim, Text.words_eq_iff.mpr h,
        ascending?_eq_ok_iff.mpr hword]
      rfl

/-- The keys of an order are read from the texts that **list** them. -/
theorem lists_iff {index : Nat} {source : List Char} {parts : List (List Char)}
    {ss : List Sorting} :
    ((parts.map Text.trim).filter (!·.isEmpty)).mapM (sorting index source) = .ok ss ↔
      ∃ keys, Lists parts keys ∧
        ss = keys.map fun key => ⟨index, key.1, key.2, String.ofList source⟩ := by
  rw [mapM_eq_ok]
  induction parts generalizing ss with
  | nil =>
      constructor
      · rintro ⟨⟩
        exact ⟨[], .nil, rfl⟩
      · rintro ⟨keys, ⟨⟩, rfl⟩
        exact .nil
  | cons part rest ih =>
      by_cases hblank : ∀ c ∈ part, Text.isBlank c
      · rw [List.map_cons, Text.trim_eq_nil_iff.mpr hblank, List.filter_cons_of_neg (by simp), ih]
        constructor
        · rintro ⟨keys, hkeys, rfl⟩
          exact ⟨keys, .blank hblank hkeys, rfl⟩
        · rintro ⟨keys, hkeys, rfl⟩
          cases hkeys with
          | blank h hrest => exact ⟨_, hrest, rfl⟩
          | key h hrest => exact absurd hblank h.filled
      · have htrim := mt Text.trim_eq_nil_iff.mp hblank
        rw [List.map_cons, List.filter_cons_of_pos (by simpa using htrim),
          List.forall₂_cons_left_iff]
        constructor
        · rintro ⟨s, more, hs, hmore, rfl⟩
          obtain ⟨key, hkey, rfl⟩ := (sorting_eq_ok_iff hblank).mp hs
          obtain ⟨keys, hkeys, rfl⟩ := ih.mp hmore
          exact ⟨key :: keys, .key hkey hkeys, rfl⟩
        · rintro ⟨keys, hkeys, rfl⟩
          cases hkeys with
          | blank h hrest => exact absurd h hblank
          | key h hrest =>
              exact ⟨_, _, (sorting_eq_ok_iff hblank).mpr ⟨_, h, rfl⟩, ih.mpr ⟨_, hrest, rfl⟩, rfl⟩

/-- The orders that are read have a position and one or more keys between commas. -/
theorem sortings_eq_ok_iff {found : List (List Char)} {value source : List Char}
    {ss : List Sorting} : sortings found value source = .ok ss ↔
      ∃ index entries keys, Position found index ∧ keys ≠ [] ∧ Joined ',' entries value ∧
        Lists entries keys ∧
        ss = keys.map fun key => ⟨index, key.1, key.2, String.ofList source⟩ := by
  simp only [sortings, bind_eq_ok, position_eq_ok_iff, entries, lists_iff]
  constructor
  · rintro ⟨index, hindex, ss, ⟨keys, hkeys, rfl⟩, h⟩
    by_cases hne : keys = []
    · subst hne
      cases h
    · rw [if_neg (by simpa using hne)] at h
      obtain rfl := Except.ok.inj h
      exact ⟨index, _, keys, hindex, hne, Text.splitOn_eq_iff.mp rfl, hkeys, rfl⟩
  · rintro ⟨index, entries, keys, hindex, hne, hentries, hkeys, rfl⟩
    obtain rfl := Text.splitOn_eq_iff.mpr hentries
    refine ⟨index, hindex, _, ⟨keys, hkeys, rfl⟩, ?_⟩
    rw [if_neg (by simpa using hne)]
    rfl

/-! ### Counts and lists -/

/-- The counts that are read have no segments and a numeral for a value. -/
theorem count_eq_ok_iff {found : List (List Char)} {value : List Char} {n : Nat} :
    count found value = .ok n ↔ found = [] ∧ Numeral (Text.trim value) n := by
  rw [← count?_eq_some_iff]
  unfold count
  cases found with
  | nil => cases Number.count? (Text.trim value) <;> simp
  | cons segment rest => simp

/-- The names that are read may have a position and are not blank. -/
theorem listed_eq_ok_iff {found : List (List Char)} {value : List Char} {name : String} :
    listed found value = .ok name ↔ (∃ index, Position found index) ∧
      (¬ ∀ c ∈ value, Text.isBlank c) ∧ name = .ofList (Text.trim value) := by
  simp only [listed, bind_eq_ok, position_eq_ok_iff, ← Text.trim_eq_nil_iff]
  constructor
  · rintro ⟨index, hindex, h⟩
    by_cases hne : Text.trim value = []
    · rw [if_pos (by simpa using hne)] at h
      cases h
    · rw [if_neg (by simpa using hne)] at h
      exact ⟨⟨index, hindex⟩, hne, (Except.ok.inj h).symm⟩
  · rintro ⟨⟨index, hindex⟩, hne, rfl⟩
    refine ⟨index, hindex, ?_⟩
    rw [if_neg (by simpa using hne)]
    rfl

/-! ### Pairs -/

/-- What a **filter** asks for, by the segments behind its name and its value. -/
inductive Filters (source : String) :
    String → List (List Char) → List Char → List Directive → Prop
  /-- Only the records that meet a condition. -/
  | selection {found : List (List Char)} {value : List Char} {group : GroupKind}
    {path : List String} {op : Operator} (h : Selects found group path op) :
    Filters source "where" found value [.selection ⟨path, op, .ofList value, group, source⟩]
  /-- The records in an order of one or more keys. -/
  | order {found entries : List (List Char)} {value : List Char} {index : Nat}
    {keys : List (String × Bool)} (hindex : Position found index) (hne : keys ≠ [])
    (hentries : Joined ',' entries value) (hkeys : Lists entries keys) :
    Filters source "order" found value
      (keys.map fun key => .sorting ⟨index, key.1, key.2, source⟩)
  /-- Without the first records. -/
  | skip {value : List Char} {n : Nat} (h : Numeral (Text.trim value) n) :
    Filters source "skip" [] value [.skip n source]
  /-- No more than some records. -/
  | limit {value : List Char} {n : Nat} (h : Numeral (Text.trim value) n) :
    Filters source "limit" [] value [.limit n source]
  /-- With the related records of a relation. -/
  | relation {found : List (List Char)} {value : List Char} {index : Nat}
    (hindex : Position found index) (hfilled : ¬ ∀ c ∈ value, Text.isBlank c) :
    Filters source "include" found value [.relation (.ofList (Text.trim value)) source]
  /-- With a field, and without those that are not asked for. -/
  | field {found : List (List Char)} {value : List Char} {index : Nat}
    (hindex : Position found index) (hfilled : ¬ ∀ c ∈ value, Text.isBlank c) :
    Filters source "select" found value [.field (.ofList (Text.trim value)) source]

/-- What a key and a value **ask for**: for records with a text, or for what a filter does. -/
inductive Asks (source : String) : Key → List Char → List Directive → Prop
  /-- A text to find. -/
  | freeText (value : List Char) :
    Asks source ⟨"query".toList, []⟩ value [.freeText (.ofList value)]
  /-- A filter, whose name is the first segment. -/
  | filter {name : String} {found : List (List Char)} {value : List Char}
    {ds : List Directive} (h : Filters source name found value ds) :
    Asks source ⟨"filter".toList, name.toList :: found⟩ value ds

/-- A pair of texts **denotes** directives if the first one is the text of a proper key that
asks for them. -/
def Denotes (key value : String) (ds : List Directive) : Prop :=
  ∃ k : Key, k.Proper ∧ k.text = key.toList ∧ Asks (key ++ "=" ++ value) k value.toList ds

/-- What is read from a filter is what it **asks for**. -/
theorem filter_eq_ok_iff {name value source : List Char} {found : List (List Char)}
    {ds : List Directive} : filter name found value source = .ok ds ↔
      Filters (.ofList source) (.ofList name) found value ds := by
  unfold filter
  simp only
  generalize String.ofList name = word
  constructor
  · intro h
    split at h
    · next hword =>
      obtain ⟨s, hs, rfl⟩ := map_eq_ok.mp h
      obtain ⟨path, op, group, hselects, rfl⟩ := selection_eq_ok_iff.mp hs
      exact hword ▸ .selection hselects
    split at h
    · next hword =>
      obtain ⟨ss, hss, rfl⟩ := map_eq_ok.mp h
      obtain ⟨index, entries, keys, hindex, hne, hentries, hkeys, rfl⟩ := sortings_eq_ok_iff.mp hss
      rw [hword, List.map_map]
      exact .order hindex hne hentries hkeys
    split at h
    · next hword =>
      obtain ⟨n, hcount, rfl⟩ := map_eq_ok.mp h
      obtain ⟨rfl, hn⟩ := count_eq_ok_iff.mp hcount
      exact hword ▸ .skip hn
    split at h
    · next hword =>
      obtain ⟨n, hcount, rfl⟩ := map_eq_ok.mp h
      obtain ⟨rfl, hn⟩ := count_eq_ok_iff.mp hcount
      exact hword ▸ .limit hn
    split at h
    · next hword =>
      obtain ⟨name, hname, rfl⟩ := map_eq_ok.mp h
      obtain ⟨⟨index, hindex⟩, hfilled, rfl⟩ := listed_eq_ok_iff.mp hname
      exact hword ▸ .relation hindex hfilled
    split at h
    · next hword =>
      obtain ⟨name, hname, rfl⟩ := map_eq_ok.mp h
      obtain ⟨⟨index, hindex⟩, hfilled, rfl⟩ := listed_eq_ok_iff.mp hname
      exact hword ▸ .field hindex hfilled
    · cases h
  · intro h
    cases h with
    | selection h => exact map_eq_ok.mpr ⟨_, selection_eq_ok_iff.mpr ⟨_, _, _, h, rfl⟩, rfl⟩
    | order hindex hne hentries hkeys =>
        refine map_eq_ok.mpr
          ⟨_, sortings_eq_ok_iff.mpr ⟨_, _, _, hindex, hne, hentries, hkeys, rfl⟩, ?_⟩
        rw [List.map_map]
        rfl
    | skip h => exact map_eq_ok.mpr ⟨_, count_eq_ok_iff.mpr ⟨rfl, h⟩, rfl⟩
    | limit h => exact map_eq_ok.mpr ⟨_, count_eq_ok_iff.mpr ⟨rfl, h⟩, rfl⟩
    | relation hindex hfilled =>
        exact map_eq_ok.mpr ⟨_, listed_eq_ok_iff.mpr ⟨⟨_, hindex⟩, hfilled, rfl⟩, rfl⟩
    | field hindex hfilled =>
        exact map_eq_ok.mpr ⟨_, listed_eq_ok_iff.mpr ⟨⟨_, hindex⟩, hfilled, rfl⟩, rfl⟩

/-- What is read from a pair is what it **denotes**. -/
theorem pair_eq_ok_iff {key value : String} {ds : List Directive} :
    pair key.toList value.toList = .ok ds ↔ Denotes key value ds := by
  have hsource : String.ofList (key.toList ++ '=' :: value.toList) = key ++ "=" ++ value := by
    apply String.toList_inj.mp
    simp
  unfold pair
  simp only [bind_eq_ok, Key.read_eq_ok_iff]
  constructor
  · rintro ⟨⟨head, segments⟩, ⟨hproper, htext⟩, h⟩
    refine ⟨_, hproper, htext, ?_⟩
    split at h
    · next hhead =>
      obtain rfl : head = "query".toList := by rw [← hhead, String.toList_ofList]
      split at h
      · next hempty =>
        obtain rfl := Except.ok.inj h
        obtain rfl : segments = [] := List.isEmpty_iff.mp hempty
        exact .freeText _
      · cases h
    split at h
    · next hhead =>
      obtain rfl : head = "filter".toList := by rw [← hhead, String.toList_ofList]
      split at h
      · cases h
      · next name found hsegments =>
        obtain rfl : segments = name :: found := hsegments
        have hfilter := filter_eq_ok_iff.mp h
        rw [hsource] at hfilter
        simpa using Asks.filter hfilter
    · cases h
  · rintro ⟨k, hproper, htext, h⟩
    refine ⟨k, ⟨hproper, htext⟩, ?_⟩
    cases h with
    | freeText => rfl
    | @filter name found _ _ h =>
        refine filter_eq_ok_iff.mpr ?_
        rw [hsource, String.ofList_toList]
        exact h

/-! ### Query strings -/

/-- A piece of a query string **spells** directives if the texts that are encoded in front of
the first equals sign and behind it denote them. -/
def Spells (cs : List Char) (ds : List Directive) : Prop :=
  ∃ rawKey rawValue key value, cs = rawKey ++ '=' :: rawValue ∧ '=' ∉ rawKey ∧
    Decodes rawKey key ∧ Decodes rawValue value ∧ Denotes key value ds

/-- A query string without the question mark that may be in front. -/
def unmarked : List Char → List Char
  | '?' :: rest => rest
  | cs => cs

/-- The pieces of a query string are what is there between ampersands. -/
theorem pieces_eq (cs : List Char) :
    pieces cs = (List.splitOn '&' (unmarked cs)).filter (!·.isEmpty) := by
  unfold pieces
  split
  · rfl
  · next hmark =>
    rw [unmarked]
    exact hmark

/-- A text is decoded as a whole, to what it **decodes** to. -/
theorem decode_eq_ok_iff {cs decoded : List Char} :
    decode cs = .ok decoded ↔ ∃ s, Decodes cs s ∧ s.toList = decoded := by
  have hdecodes : ∀ s, Decodes cs s ↔ decode? cs = some s := fun s =>
    Text.Percent.decode_eq_some_iff.symm
  simp only [hdecodes, decode]
  cases decode? cs <;> simp

/-- What is read from a piece is what it **spells**. -/
theorem piece_eq_ok_iff {cs : List Char} {ds : List Directive} :
    piece cs = .ok ds ↔ Spells cs ds := by
  constructor
  · intro h
    unfold piece at h
    split at h
    · cases h
    · next c rawValue hdrop =>
      have hmem : c ∈ (cs.dropWhile (· ≠ '=')).head? := by
        rw [hdrop]
        rfl
      obtain rfl : c = '=' := Text.eq_of_mem_head?_dropWhile hmem
      simp only [bind_eq_ok, decode_eq_ok_iff] at h
      obtain ⟨-, ⟨key, hkey, rfl⟩, -, ⟨value, hvalue, rfl⟩, h⟩ := h
      refine ⟨_, rawValue, key, value, ?_, Text.notMem_takeWhile _ _, hkey, hvalue, ?_⟩
      · rw [← hdrop, List.takeWhile_append_dropWhile]
      · rw [← pair_eq_ok_iff]
        cases hpair : pair key.toList value.toList with
        | error fault =>
            rw [hpair] at h
            cases h
        | ok found =>
            rw [hpair] at h
            exact congrArg Except.ok (Except.ok.inj h)
  · rintro ⟨rawKey, rawValue, key, value, rfl, hraw, hkey, hvalue, hdenotes⟩
    have hequals : ∀ c ∈ ('=' :: rawValue).head?, c = '=' := by simp
    obtain ⟨htake, hdrop⟩ := Text.takeWhile_delimiter hraw hequals
    simp only [piece, htake, hdrop, bind_eq_ok, decode_eq_ok_iff]
    refine ⟨_, ⟨key, hkey, rfl⟩, _, ⟨value, hvalue, rfl⟩, ?_⟩
    rw [pair_eq_ok_iff.mpr hdenotes]
    rfl

/-- What is read from a query string is what its pieces spell, in order. -/
theorem parse_eq_ok_iff {text : String} {ds : List Directive} :
    Directive.parse text = .ok ds ↔
      ∃ found, List.Forall₂ Spells (pieces text.toList) found ∧ found.flatten = ds := by
  simp only [Directive.parse, map_eq_ok, mapM_eq_ok, piece_eq_ok_iff]

/-- A query string is accepted if each of its pieces spells something. -/
theorem parse_isOk_iff {text : String} :
    (∃ ds, Directive.parse text = .ok ds) ↔ ∀ p ∈ pieces text.toList, ∃ ds, Spells p ds := by
  simp only [← piece_eq_ok_iff, ← exists_mapM_eq_ok, Directive.parse, map_eq_ok]
  constructor
  · rintro ⟨-, found, hfound, -⟩
    exact ⟨found, hfound⟩
  · rintro ⟨found, hfound⟩
    exact ⟨_, found, hfound, rfl⟩

/-- A query string is refused because of the first piece that is. -/
theorem parse_eq_error_iff {text : String} {e : ParseError} :
    Directive.parse text = .error e ↔ ∃ before p after,
      pieces text.toList = before ++ p :: after ∧ (∀ q ∈ before, ∃ ds, Spells q ds) ∧
        piece p = .error e := by
  simp only [← piece_eq_ok_iff, ← mapM_eq_error, Directive.parse]
  cases (pieces text.toList).mapM piece <;> simp [Except.map]

/-- A query string that is one piece is read as the piece is. -/
theorem parse_single {p : List Char} (hne : p ≠ []) (hampersand : '&' ∉ p) :
    Directive.parse (.ofList ('?' :: p)) = piece p := by
  have hpieces : pieces ('?' :: p) = [p] := by
    rw [pieces_eq, unmarked, List.splitOn_eq_singleton hampersand]
    simpa using hne
  rw [Directive.parse, String.toList_ofList, hpieces, List.mapM_cons]
  cases piece p with
  | error e => rfl
  | ok ds => simp [bind, Except.bind, pure, Except.pure, Except.map]

/-- A query string is **accepted exactly if it is in the grammar**: if each of its pieces that
is not empty spells directives, and then the directives of the pieces are found, in order.
Otherwise the error is that of the first piece that spells nothing, which is the error that
there is if the piece is sent alone. -/
theorem parse_accepts_grammar (text : String) :
    ∃ parts, Joined '&' parts (unmarked text.toList) ∧
      (∀ ds, Directive.parse text = .ok ds ↔
        ∃ found, List.Forall₂ Spells (parts.filter (!·.isEmpty)) found ∧ found.flatten = ds) ∧
      ((∃ ds, Directive.parse text = .ok ds) ↔ ∀ p ∈ parts, p ≠ [] → ∃ ds, Spells p ds) ∧
      ∀ e, Directive.parse text = .error e ↔ ∃ before p after,
        parts.filter (!·.isEmpty) = before ++ p :: after ∧ (∀ q ∈ before, ∃ ds, Spells q ds) ∧
          (¬ ∃ ds, Spells p ds) ∧ Directive.parse (.ofList ('?' :: p)) = .error e := by
  have hparts := Text.splitOn_eq_iff.mp (rfl : List.splitOn '&' (unmarked text.toList) = _)
  refine ⟨_, hparts, ?_, ?_, ?_⟩
  · intro ds
    rw [parse_eq_ok_iff, pieces_eq]
  · rw [parse_isOk_iff, pieces_eq]
    simp
  · intro e
    rw [parse_eq_error_iff, pieces_eq]
    have hsingle : ∀ {before p after},
        (List.splitOn '&' (unmarked text.toList)).filter (!·.isEmpty) = before ++ p :: after →
        Directive.parse (.ofList ('?' :: p)) = piece p := by
      intro before p after hpieces
      have hmem : p ∈ (List.splitOn '&' (unmarked text.toList)).filter (!·.isEmpty) := by
        rw [hpieces]
        simp
      obtain ⟨hmem, hne⟩ := List.mem_filter.mp hmem
      exact parse_single (by simpa using hne) (hparts.notMem p hmem)
    constructor
    · rintro ⟨before, p, after, hpieces, hbefore, hp⟩
      refine ⟨before, p, after, hpieces, hbefore, ?_, (hsingle hpieces).trans hp⟩
      rintro ⟨ds, hds⟩
      rw [piece_eq_ok_iff.mpr hds] at hp
      cases hp
    · rintro ⟨before, p, after, hpieces, hbefore, -, hp⟩
      exact ⟨before, p, after, hpieces, hbefore, (hsingle hpieces).symm.trans hp⟩

/-! ### Examples -/

namespace Sample

/-- A condition with an encoded bracket and letter and with a blank, behind an empty piece. -/
def readable : String := "?&filter%5Bwhere][Name][like]=caf%C3%A9+10%25%"

/-- What it asks for. -/
def asked : Directive :=
  .selection ⟨["Name"], .like, "café 10%%", .all, "filter[where][Name][like]=café 10%%"⟩

/-- The second piece spells it. -/
theorem spells_asked : Spells "filter%5Bwhere][Name][like]=caf%C3%A9+10%25%".toList [asked] := by
  have hkey : Decodes "filter%5Bwhere][Name][like]".toList "filter[where][Name][like]" :=
    Text.Percent.standsFor_iff.mpr (by decide +kernel)
  have hvalue : Decodes "caf%C3%A9+10%25%".toList "café 10%%" :=
    Text.Percent.standsFor_iff.mpr (by decide +kernel)
  refine ⟨_, _, _, _, rfl, by decide, hkey, hvalue, ⟨"filter".toList, ["where".toList,
    "Name".toList, "like".toList]⟩, ⟨by decide, by decide, by decide, by decide⟩, by decide, ?_⟩
  refine .filter (.selection (.all (by decide) (.operator ?_ (by decide))))
  exact ⟨["Name".toList], ⟨by decide, by decide, by decide⟩, by decide, by decide⟩

end Sample

/-- A query string with encoded parts is accepted, and one whose bytes are no UTF-8 is not. -/
theorem parse_accepts_grammar_encoded :
    Directive.parse Sample.readable = .ok [Sample.asked] ∧
      ¬∃ ds, Directive.parse "query=%C3" = .ok ds := by
  constructor
  · obtain ⟨parts, hparts, haccepts, -⟩ := parse_accepts_grammar Sample.readable
    obtain rfl : parts = [[], "filter%5Bwhere][Name][like]=caf%C3%A9+10%25%".toList] :=
      (Text.splitOn_eq_iff.mpr hparts).symm.trans (by decide)
    exact (haccepts _).mpr ⟨[[Sample.asked]], .cons Sample.spells_asked .nil, rfl⟩
  · obtain ⟨parts, hparts, -, haccepts, -⟩ := parse_accepts_grammar "query=%C3"
    obtain rfl : parts = ["query=%C3".toList] :=
      (Text.splitOn_eq_iff.mpr hparts).symm.trans (by decide)
    rw [haccepts]
    intro hall
    obtain ⟨ds, rawKey, rawValue, key, value, hpiece, hraw, -, hvalue, -⟩ :=
      hall _ (List.mem_singleton_self _) (by decide)
    have hequals : ∀ c ∈ ('=' :: rawValue).head?, c = '=' := by simp
    have hdrop := (Text.takeWhile_delimiter hraw hequals).2
    rw [← hpiece] at hdrop
    obtain rfl : "%C3".toList = rawValue := (List.cons.inj hdrop).2
    have hnone : Text.Percent.decode (String.ofList ("%C3".toList.map Text.Percent.unplus)) =
        none := by decide +kernel
    rw [Text.Percent.decode_eq_some_iff.mpr hvalue] at hnone
    cases hnone

end Listing.Query
