import Listing.Proofs.Query.Grammar
import Listing.Proofs.Text.Percent

/-!
# The Canonical Query String of Directives

Many query strings ask for the same things: there are several ways to encode a text, an equality
needs no operator, a list may be one pair or many. One of them is **canonical**
(`Directive.canonical`): it has one pair for each directive, names what can be left out and
encodes both halves of each pair.

Not all directives can be asked for: a path has no blank name, a field of an order no comma.
Those that can are **readable** (`Directive.Readable`), and every directive that is read is.

## Main results

* `Denotes.readable`, `readable_of_parse` — what is read from a query string is readable.
* `Directive.Readable.denotes` — the canonical pair of a readable directive denotes it.
* `parse_canonical_of_readable` — the canonical query string of readable directives is read
  as these directives.
* `parse_canonical` — a query string that is accepted may be replaced by the canonical one.
-/

namespace Listing

open Query Text

/-! ### Writing directives -/

/-- The text of the path of a condition. A path that could be taken for the mark of a group has
a blank in front. -/
def Selection.fieldText (s : Selection) : List Char :=
  let joined := ['.'].intercalate (s.path.map String.toList)
  if s.group = .all ∧ s.path = ["or"] then ' ' :: joined else joined

/-- The segments that name a condition. The operator is always there. -/
def Selection.segments (s : Selection) : List (List Char) :=
  match s.group with
  | .all => [s.fieldText, s.operator.word.toList]
  | .any => ["or".toList, s.fieldText, s.operator.word.toList]

namespace Directive

/-- The key of the pair that asks for a directive. The position in an order is always there. -/
def key : Directive → Key
  | selection s => ⟨"filter".toList, "where".toList :: s.segments⟩
  | sorting s => ⟨"filter".toList, ["order".toList, Nat.toDigits 10 s.index]⟩
  | skip _ _ => ⟨"filter".toList, ["skip".toList]⟩
  | limit _ _ => ⟨"filter".toList, ["limit".toList]⟩
  | relation _ _ => ⟨"filter".toList, ["include".toList]⟩
  | field _ _ => ⟨"filter".toList, ["select".toList]⟩
  | freeText _ => ⟨"query".toList, []⟩

/-- The value of the pair that asks for a directive. The direction of an order is always
there. -/
def value : Directive → String
  | selection s => s.rawValue
  | sorting s => s.field ++ if s.ascending then " ASC" else " DESC"
  | skip n _ | limit n _ => .ofList (Nat.toDigits 10 n)
  | relation name _ | field name _ => name
  | freeText text => text

/-- The pair that asks for a directive, before it is encoded. -/
def pairText (d : Directive) : String := .ofList d.key.text ++ "=" ++ d.value

/-- The pair that asks for a directive, with both halves encoded. -/
def encoded (d : Directive) : String :=
  Percent.encode (.ofList d.key.text) ++ "=" ++ Percent.encode d.value

/-- The **canonical** query string of directives: a pair for each of them. -/
def canonical (ds : List Directive) : String := "&".intercalate (ds.map encoded)

/-- A directive as it would be if it came from another text. -/
def withSource (d : Directive) (source : String) : Directive :=
  match d with
  | selection s => selection { s with source }
  | sorting s => sorting { s with source }
  | skip n _ => skip n source
  | limit n _ => limit n source
  | relation name _ => relation name source
  | field name _ => field name source
  | freeText text => freeText text

end Directive

/-! ### Readable directives -/

namespace Query

/-- A text that is **trimmed**: there is something, and no blank at its ends. -/
structure IsTrimmed (cs : List Char) : Prop where
  /-- Something is there. -/
  ne_nil : cs ≠ []
  /-- The ends are not blank. -/
  trim : Text.trim cs = cs

/-- A **name** of a path: what can stand between dots and in brackets. -/
structure IsName (cs : List Char) : Prop extends IsTrimmed cs, IsSegment cs where
  /-- There is no dot. -/
  dot : '.' ∉ cs

/-- A **word** of an order: what can stand between blanks and commas. -/
structure IsWord (cs : List Char) : Prop where
  /-- Something is there. -/
  ne_nil : cs ≠ []
  /-- Nothing is blank. -/
  notBlank : ∀ c ∈ cs, ¬ isBlank c
  /-- There is no comma. -/
  comma : ',' ∉ cs

end Query

/-- A directive is **readable** if there are texts that ask for it. -/
inductive Directive.Readable : Directive → Prop
  /-- The path of a condition has one or more names. -/
  | selection {s : Selection} (hne : s.path ≠ []) (hnames : ∀ name ∈ s.path, IsName name.toList) :
    Readable (.selection s)
  /-- The field of an order is a word. -/
  | sorting {s : Sorting} (hindex : s.index < Number.countBound) (hfield : IsWord s.field.toList) :
    Readable (.sorting s)
  /-- The number of records that are left out is a count. -/
  | skip {n : Nat} {source : String} (h : n < Number.countBound) : Readable (.skip n source)
  /-- The number of records that are taken is a count. -/
  | limit {n : Nat} {source : String} (h : n < Number.countBound) : Readable (.limit n source)
  /-- The name of a relation is trimmed. -/
  | relation {name source : String} (h : IsTrimmed name.toList) : Readable (.relation name source)
  /-- The name of a field is trimmed. -/
  | field {name source : String} (h : IsTrimmed name.toList) : Readable (.field name source)
  /-- Any text can be looked for. -/
  | freeText {text : String} : Readable (.freeText text)

namespace Query

/-! ### What is read is readable -/

/-- What is left of a text that is not blank is trimmed. -/
theorem isTrimmed_trim {cs : List Char} (h : ¬ ∀ c ∈ cs, isBlank c) : IsTrimmed (Text.trim cs) :=
  ⟨mt trim_eq_nil_iff.mp h, trim_trim cs⟩

/-- A trimmed text is not blank. -/
theorem IsTrimmed.filled {cs : List Char} (h : IsTrimmed cs) : ¬ ∀ c ∈ cs, isBlank c := by
  rw [← trim_eq_nil_iff, h.trim]
  exact h.ne_nil

/-- The names of a path that stands in brackets can stand there too. -/
theorem Dotted.names {segment : List Char} {path : List String} (h : Dotted segment path)
    (hopening : '[' ∉ segment) (hclosing : ']' ∉ segment) :
    path ≠ [] ∧ ∀ name ∈ path, IsName name.toList := by
  obtain ⟨parts, hjoined, hfilled, rfl⟩ := h
  refine ⟨by simpa using hjoined.ne_nil, ?_⟩
  intro name hname
  obtain ⟨part, hpart, rfl⟩ := List.mem_map.mp hname
  rw [String.toList_ofList]
  have htrimmed := isTrimmed_trim (hfilled part hpart)
  have hsub : ∀ c ∈ Text.trim part, c ∈ segment := by
    intro c hc
    rw [hjoined.eq]
    exact mem_intercalate_of_mem hpart (mem_of_mem_trim hc)
  exact {
    toIsTrimmed := htrimmed
    opening := fun h => hopening (hsub _ h)
    closing := fun h => hclosing (hsub _ h)
    filled := htrimmed.filled
    dot := fun h => hjoined.notMem part hpart (mem_of_mem_trim h) }

/-- So it is for the segments of a condition. -/
theorem Selects.names {found : List (List Char)} {group : GroupKind} {path : List String}
    {op : Operator} (h : Selects found group path op) (hfound : ∀ s ∈ found, IsSegment s) :
    path ≠ [] ∧ ∀ name ∈ path, IsName name.toList := by
  have htests : ∃ rest, Tests rest path op ∧ ∀ s ∈ rest, IsSegment s := by
    cases h with
    | any h => exact ⟨_, h, (List.forall_mem_cons.mp hfound).2⟩
    | all hfirst h => exact ⟨_, h, hfound⟩
  obtain ⟨rest, htests, hrest⟩ := htests
  have hdotted : ∃ field more, rest = field :: more ∧ Dotted field path := by
    cases htests with
    | equal hdotted => exact ⟨_, _, rfl, hdotted⟩
    | operator hdotted => exact ⟨_, _, rfl, hdotted⟩
  obtain ⟨field, more, rfl, hdotted⟩ := hdotted
  have hfield := (List.forall_mem_cons.mp hrest).1
  exact hdotted.names hfield.opening hfield.closing

/-- The field of an entry between commas is a word. -/
theorem Entry.isWord {entry : List Char} {key : String × Bool} (h : Entry entry key)
    (hcomma : ',' ∉ entry) : IsWord key.1.toList := by
  have hspaced : ∃ words, Spaced (key.1.toList :: words) entry := by
    cases h with
    | plain h => exact ⟨_, by rwa [String.toList_ofList]⟩
    | directed h => exact ⟨_, by rwa [String.toList_ofList]⟩
  obtain ⟨words, hspaced⟩ := hspaced
  have hsub := fun c hc => hspaced.mem List.mem_cons_self (c := c) hc
  cases hspaced with
  | cons hbefore hne hword hrest h => exact ⟨hne, hword, fun hc => hcomma (hsub _ hc)⟩

/-- The fields of the entries that are listed between commas are words. -/
theorem Lists.isWord {entries : List (List Char)} {keys : List (String × Bool)}
    (h : Lists entries keys) (hcomma : ∀ entry ∈ entries, ',' ∉ entry) :
    ∀ key ∈ keys, IsWord key.1.toList := by
  induction h with
  | nil => simp
  | blank hblank hrest ih => exact ih (List.forall_mem_cons.mp hcomma).2
  | key h hrest ih =>
      obtain ⟨hentry, hentries⟩ := List.forall_mem_cons.mp hcomma
      exact List.forall_mem_cons.mpr ⟨h.isWord hentry, ih hentries⟩

/-- The value of a numeral is a count. -/
theorem Numeral.lt {cs : List Char} {n : Nat} (h : Numeral cs n) : n < Number.countBound := by
  obtain ⟨digits, -, -, -, -, hbound⟩ := h
  exact hbound

/-- A position is a count. -/
theorem Position.lt {found : List (List Char)} {n : Nat} (h : Position found n) :
    n < Number.countBound := by
  cases h with
  | first => decide
  | named h => exact h.lt

/-- The directives of a filter are readable. -/
theorem Filters.readable {source name : String} {found : List (List Char)} {value : List Char}
    {ds : List Directive} (h : Filters source name found value ds)
    (hfound : ∀ s ∈ found, IsSegment s) : ∀ d ∈ ds, d.Readable := by
  cases h with
  | selection h =>
      obtain ⟨hne, hnames⟩ := h.names hfound
      simpa using Directive.Readable.selection hne hnames
  | order hindex hne hentries hkeys =>
      intro d hd
      obtain ⟨key, hkey, rfl⟩ := List.mem_map.mp hd
      exact .sorting hindex.lt (hkeys.isWord hentries.notMem key hkey)
  | skip h => simpa using Directive.Readable.skip h.lt
  | limit h => simpa using Directive.Readable.limit h.lt
  | relation hindex hfilled =>
      rw [List.forall_mem_singleton]
      exact .relation (by simpa using isTrimmed_trim hfilled)
  | field hindex hfilled =>
      rw [List.forall_mem_singleton]
      exact .field (by simpa using isTrimmed_trim hfilled)

/-- The directives that a pair denotes are **readable**. -/
theorem Denotes.readable {key value : String} {ds : List Directive} (h : Denotes key value ds) :
    ∀ d ∈ ds, d.Readable := by
  obtain ⟨k, hproper, -, hasks⟩ := h
  cases hasks with
  | freeText => simpa using Directive.Readable.freeText
  | filter h => exact h.readable (List.forall_mem_cons.mp hproper.segments).2

/-- What is read from a query string is **readable**. -/
theorem readable_of_parse {text : String} {ds : List Directive}
    (h : Directive.parse text = .ok ds) : ∀ d ∈ ds, d.Readable := by
  obtain ⟨found, hfound, rfl⟩ := parse_eq_ok_iff.mp h
  have hparts : ∀ part ∈ found, ∀ d ∈ part, d.Readable := by
    clear h
    generalize pieces text.toList = ps at hfound
    induction hfound with
    | nil => simp
    | cons hspells hrest ih =>
        obtain ⟨-, -, key, value, -, -, -, -, hdenotes⟩ := hspells
        exact List.forall_mem_cons.mpr ⟨hdenotes.readable, ih⟩
  intro d hd
  obtain ⟨part, hpart, hd⟩ := List.mem_flatten.mp hd
  exact hparts part hpart d hd

/-! ### What is readable is read -/

/-- Names with dots between them are joined by the dots. -/
theorem joined_names {path : List String} (hne : path ≠ [])
    (hnames : ∀ name ∈ path, IsName name.toList) :
    Joined '.' (path.map String.toList) (['.'].intercalate (path.map String.toList)) := by
  refine ⟨by simpa using hne, ?_, rfl⟩
  rw [List.forall_mem_map]
  exact fun name hname => (hnames name hname).dot

/-- What is in the text of a path is a blank in front, a dot or of a name. -/
theorem mem_fieldText {s : Selection} {c : Char} (h : c ∈ s.fieldText) :
    c = ' ' ∨ c = '.' ∨ ∃ name ∈ s.path, c ∈ name.toList := by
  have hjoined : ∀ {c : Char}, c ∈ ['.'].intercalate (s.path.map String.toList) →
      c = '.' ∨ ∃ name ∈ s.path, c ∈ name.toList := by
    intro c hc
    simpa using mem_intercalate hc
  unfold Selection.fieldText at h
  simp only at h
  split at h
  · rcases List.mem_cons.mp h with hc | hc
    · exact .inl hc
    · exact .inr (hjoined hc)
  · exact .inr (hjoined h)

/-- All of a name is in the text of the path. -/
theorem mem_fieldText_of_mem {s : Selection} {name : String} (hname : name ∈ s.path) {c : Char}
    (hc : c ∈ name.toList) : c ∈ s.fieldText := by
  have hjoined : c ∈ ['.'].intercalate (s.path.map String.toList) :=
    mem_intercalate_of_mem (List.mem_map_of_mem hname) hc
  unfold Selection.fieldText
  simp only
  split
  · exact List.mem_cons_of_mem _ hjoined
  · exact hjoined

section Condition

variable {s : Selection} (hne : s.path ≠ []) (hnames : ∀ name ∈ s.path, IsName name.toList)
include hne hnames

/-- The text of a path can stand in brackets. -/
theorem isSegment_fieldText : IsSegment s.fieldText := by
  have hbracket : ∀ {c : Char}, c ≠ ' ' → c ≠ '.' → (∀ name ∈ s.path, c ∉ name.toList) →
      c ∉ s.fieldText := by
    intro c hblank hdot hnot hc
    rcases mem_fieldText hc with h | h | ⟨name, hname, h⟩
    · exact hblank h
    · exact hdot h
    · exact hnot name hname h
  refine ⟨?_, ?_, ?_⟩
  · exact hbracket (by decide) (by decide) fun name hname => (hnames name hname).opening
  · exact hbracket (by decide) (by decide) fun name hname => (hnames name hname).closing
  · obtain ⟨name, hname⟩ := List.exists_mem_of_ne_nil _ hne
    exact fun h => (hnames name hname).filled fun c hc => h c (mem_fieldText_of_mem hname hc)

/-- The text of a path names the path. -/
theorem dotted_fieldText : Dotted s.fieldText s.path := by
  unfold Selection.fieldText
  simp only
  split
  · next hmark =>
    rw [hmark.2]
    exact ⟨[" or".toList], ⟨by decide, by decide, by decide⟩, by decide, by decide⟩
  · refine ⟨_, joined_names hne hnames, ?_, ?_⟩
    · rw [List.forall_mem_map]
      exact fun name hname => (hnames name hname).filled
    · rw [List.map_map]
      refine (List.map_id _).symm.trans (List.map_congr_left fun name hname => ?_)
      simp [(hnames name hname).trim]

/-- The text of a path is not taken for the mark of a group. -/
theorem fieldText_ne_or (hgroup : s.group = .all) : s.fieldText ≠ "or".toList := by
  unfold Selection.fieldText
  simp only
  split
  · exact fun h => absurd (List.cons.inj h).1 (by decide)
  · next hmark =>
    intro hor
    have hjoined := joined_names hne hnames
    rw [hor] at hjoined
    have hpath : ["or".toList] = s.path.map String.toList :=
      (List.splitOn_eq_singleton (by decide)).symm.trans (splitOn_eq_iff.mpr hjoined)
    have hmap : s.path.map String.toList = ["or"].map String.toList := hpath.symm
    exact hmark ⟨hgroup, List.map_injective_iff.mpr (fun _ _ => String.toList_inj.mp) hmap⟩

/-- The segments of a condition select it. -/
theorem selects_segments : Selects s.segments s.group s.path s.operator := by
  have hword : (s.operator.word, s.operator) ∈ operatorWords := by cases s.operator <;> decide
  have htests := Tests.operator (dotted_fieldText hne hnames) hword
  unfold Selection.segments
  cases hgroup : s.group with
  | all => exact .all (by simpa using fieldText_ne_or hne hnames hgroup) htests
  | any => exact .any htests

/-- They can all stand in brackets. -/
theorem isSegment_segments : ∀ segment ∈ s.segments, IsSegment segment := by
  have hfield := isSegment_fieldText hne hnames
  have hword : IsSegment s.operator.word.toList := by cases s.operator <;> decide
  have hor : IsSegment "or".toList := by decide
  unfold Selection.segments
  cases s.group with
  | all => simpa using ⟨hfield, hword⟩
  | any => simpa using ⟨hor, hfield, hword⟩

end Condition

/-- A number is written in digits. -/
theorem isDigit_of_mem_toDigits {n : Nat} {c : Char} (h : c ∈ Nat.toDigits 10 n) : c.isDigit :=
  Nat.isDigit_of_mem_toDigits (by decide) (by decide) h

/-- The digits of a number are a numeral. -/
theorem numeral_toDigits {n : Nat} (h : n < Number.countBound) :
    Numeral (Text.trim (Nat.toDigits 10 n)) n := by
  rw [trim_of_forall_not fun c hc => not_isBlank_of_isDigit (isDigit_of_mem_toDigits hc)]
  exact ⟨_, .inl rfl, Nat.toDigits_ne_nil, fun c hc => isDigit_of_mem_toDigits hc,
    (Nat.ofDigitChars_toDigits (by decide) (by decide)).symm, h⟩

/-- So is a value that they are. -/
theorem numeral_value {n : Nat} (h : n < Number.countBound) :
    Numeral (Text.trim (String.ofList (Nat.toDigits 10 n)).toList) n := by
  rw [String.toList_ofList]
  exact numeral_toDigits h

/-- Digits can stand in brackets. -/
theorem isSegment_toDigits (n : Nat) : IsSegment (Nat.toDigits 10 n) := by
  refine ⟨fun h => absurd (isDigit_of_mem_toDigits h) (by decide),
    fun h => absurd (isDigit_of_mem_toDigits h) (by decide), ?_⟩
  obtain ⟨c, hc⟩ := List.exists_mem_of_ne_nil _ (@Nat.toDigits_ne_nil n 10)
  exact fun h => not_isBlank_of_isDigit (isDigit_of_mem_toDigits hc) (h c hc)

/-- A field with a direction is an entry of an order. -/
theorem IsWord.entry {field : String} (h : IsWord field.toList) {word : List Char}
    {ascending : Bool} (hword : Direction word ascending) (hne : word ≠ [])
    (hblank : ∀ c ∈ word, ¬ isBlank c) :
    Entry (field.toList ++ ' ' :: word) (field, ascending) := by
  have hlast := @Spaced.cons [' '] word [] [] (by decide) hne hblank (by simp) (.nil (by simp))
  have hspace : ∀ c, (' ' :: word).head? = some c → isBlank c := by
    rintro c ⟨⟩
    decide
  have hspaced : Spaced [field.toList, word] (field.toList ++ ' ' :: word) := by
    rw [List.append_nil] at hlast
    exact @Spaced.cons [] field.toList _ _ (by simp) h.ne_nil h.notBlank hspace hlast
  have hentry := Entry.directed hspaced hword
  rwa [String.ofList_toList] at hentry

/-- The value of a key of an order lists this key. -/
theorem lists_value {s : Sorting} (h : IsWord s.field.toList) :
    ∃ entries, Joined ',' entries (Directive.sorting s).value.toList ∧
      Lists entries [(s.field, s.ascending)] := by
  have hvalue : ∃ word, Direction word s.ascending ∧ word ≠ [] ∧ (∀ c ∈ word, ¬ isBlank c) ∧
      ',' ∉ word ∧ (Directive.sorting s).value.toList = s.field.toList ++ ' ' :: word := by
    simp only [Directive.value, String.toList_append]
    cases s.ascending with
    | true =>
        exact ⟨"ASC".toList, .ascending (by decide), by decide, by decide, by decide, rfl⟩
    | false =>
        exact ⟨"DESC".toList, .descending (by decide), by decide, by decide, by decide, rfl⟩
  obtain ⟨word, hword, hne, hblank, hcomma, hvalue⟩ := hvalue
  rw [hvalue]
  refine ⟨[s.field.toList ++ ' ' :: word], ⟨by simp, ?_, by simp⟩,
    .key (h.entry hword hne hblank) .nil⟩
  simpa using ⟨h.comma, hcomma⟩

/-- A filter has a proper key if its segments can stand in brackets. -/
theorem proper_filter {segments : List (List Char)} (h : ∀ s ∈ segments, IsSegment s) :
    Key.Proper ⟨"filter".toList, segments⟩ where
  head_ne_nil := show "filter".toList ≠ [] by decide
  opening := show '[' ∉ "filter".toList by decide
  closing := show ']' ∉ "filter".toList by decide
  segments := h

end Query

/-- The key and the value of a **readable** directive ask for it. -/
theorem Directive.Readable.asks {d : Directive} (h : d.Readable) (source : String) :
    d.key.Proper ∧ Asks source d.key d.value.toList [d.withSource source] := by
  cases h with
  | @selection s hne hnames =>
      have hwhere : IsSegment "where".toList := by decide
      have hfilter := @Filters.selection source _ s.rawValue.toList _ _ _
        (selects_segments hne hnames)
      rw [String.ofList_toList] at hfilter
      exact ⟨proper_filter (List.forall_mem_cons.mpr ⟨hwhere, isSegment_segments hne hnames⟩),
        .filter hfilter⟩
  | @sorting s hindex hfield =>
      have horder : IsSegment "order".toList := by decide
      obtain ⟨entries, hentries, hkeys⟩ := lists_value hfield
      exact ⟨proper_filter (by simpa using ⟨horder, isSegment_toDigits _⟩),
        .filter (.order (.named (numeral_toDigits hindex)) (List.cons_ne_nil _ _) hentries hkeys)⟩
  | skip h => exact ⟨proper_filter (by decide), .filter (.skip (numeral_value h))⟩
  | limit h => exact ⟨proper_filter (by decide), .filter (.limit (numeral_value h))⟩
  | @relation name _ h =>
      have hfilter := @Filters.relation source [] _ 0 .first h.filled
      rw [h.trim, String.ofList_toList] at hfilter
      exact ⟨proper_filter (by decide), .filter hfilter⟩
  | @field name _ h =>
      have hfilter := @Filters.field source [] _ 0 .first h.filled
      rw [h.trim, String.ofList_toList] at hfilter
      exact ⟨proper_filter (by decide), .filter hfilter⟩
  | @freeText text =>
      have hasks := @Asks.freeText source text.toList
      rw [String.ofList_toList] at hasks
      refine ⟨⟨?_, ?_, ?_, List.forall_mem_nil _⟩, hasks⟩
      · show "query".toList ≠ []
        decide
      · show '[' ∉ "query".toList
        decide
      · show ']' ∉ "query".toList
        decide

/-- The canonical pair of a **readable** directive denotes it. -/
theorem Directive.Readable.denotes {d : Directive} (h : d.Readable) :
    Denotes (.ofList d.key.text) d.value [d.withSource d.pairText] := by
  obtain ⟨hproper, hasks⟩ := h.asks d.pairText
  exact ⟨d.key, hproper, (String.toList_ofList).symm, hasks⟩

/-! ### Canonical query strings -/

namespace Query

/-- What is written for a text has none of the characters that hold a query string together. -/
theorem notMem_encode (s : String) {c : Char} (hc : Percent.isPlain c = false) :
    c ∉ (Percent.encode s).toList := by
  intro h
  rw [Percent.isPlain_of_mem_encode h] at hc
  cases hc

/-- The encoded pair of a readable directive spells it. -/
theorem spells_encoded {d : Directive} (h : d.Readable) :
    Spells d.encoded.toList [d.withSource d.pairText] := by
  refine ⟨_, _, _, _, ?_, notMem_encode _ (by decide), Percent.decodes_encode _,
    Percent.decodes_encode _, h.denotes⟩
  simp [Directive.encoded]

/-- No character of an encoded pair is an ampersand or a question mark. -/
theorem notMem_encoded (d : Directive) {c : Char} (hc : Percent.isPlain c = false)
    (hequals : c ≠ '=') : c ∉ d.encoded.toList := by
  simp [Directive.encoded, notMem_encode _ hc, hequals]

/-- A text without a question mark has none in front. -/
theorem unmarked_of_notMem {cs : List Char} (h : '?' ∉ cs) : unmarked cs = cs := by
  unfold unmarked
  split
  · exact absurd List.mem_cons_self h
  · rfl

/-- The pieces of a canonical query string are the encoded pairs. -/
theorem pieces_canonical (ds : List Directive) :
    pieces (Directive.canonical ds).toList = ds.map fun d => d.encoded.toList := by
  by_cases hds : ds = []
  · subst hds
    rfl
  have hampersand : ∀ p ∈ ds.map fun d => d.encoded.toList, '&' ∉ p := by
    rw [List.forall_mem_map]
    exact fun d _ => notMem_encoded d (by decide) (by decide)
  have htext : (Directive.canonical ds).toList =
      ['&'].intercalate (ds.map fun d => d.encoded.toList) := by
    rw [Directive.canonical, String.toList_intercalate, List.map_map]
    rfl
  have hmark : '?' ∉ (Directive.canonical ds).toList := by
    rw [htext]
    intro h
    rcases mem_intercalate h with h | ⟨p, hp, h⟩
    · exact absurd h (by decide)
    · obtain ⟨d, -, rfl⟩ := List.mem_map.mp hp
      exact notMem_encoded d (by decide) (by decide) h
  rw [pieces_eq, unmarked_of_notMem hmark,
    splitOn_eq_iff.mpr ⟨by simpa using hds, hampersand, htext⟩, List.filter_eq_self,
    List.forall_mem_map]
  intro d _
  simp [Directive.encoded]

/-- The canonical query string of **readable** directives is read as these directives. -/
theorem parse_canonical_of_readable {ds : List Directive} (h : ∀ d ∈ ds, d.Readable) :
    Directive.parse (Directive.canonical ds) = .ok (ds.map fun d => d.withSource d.pairText) := by
  rw [parse_eq_ok_iff, pieces_canonical]
  refine ⟨ds.map fun d => [d.withSource d.pairText], ?_, ?_⟩
  · rw [List.forall₂_map_left_iff, List.forall₂_map_right_iff, List.forall₂_same]
    exact fun d hd => spells_encoded (h d hd)
  · rw [← List.flatMap_def, ← List.map_eq_flatMap]

/-- A query string that is accepted may be replaced by the **canonical** one: the same
directives are read from it, in the same order. Only the texts that they come from are others:
each now comes from its own pair. -/
theorem parse_canonical {text : String} {ds : List Directive}
    (h : Directive.parse text = .ok ds) :
    Directive.parse (Directive.canonical ds) = .ok (ds.map fun d => d.withSource d.pairText) :=
  parse_canonical_of_readable (readable_of_parse h)

namespace Sample

/-- Has names that look like the mark of a group, an equals sign and brackets where they can
be mistaken, and a list of keys in one pair. -/
def tangled : String :=
  "?filter[where][+or]=a%26b&&filter[where][or][or+.%3d]=+%25&filter%5Border%5D=%5b1%5d%09DESC,,Id"

/-- What it asks for. -/
def untangled : List Directive :=
  [.selection ⟨["or"], .equal, "a&b", .all, "filter[where][ or]=a&b"⟩,
    .selection ⟨["or", "="], .equal, " %", .any, "filter[where][or][or .=]= %"⟩,
    .sorting ⟨0, "[1]", false, "filter[order]=[1]\tDESC,,Id"⟩,
    .sorting ⟨0, "Id", true, "filter[order]=[1]\tDESC,,Id"⟩]

/-- It is read. -/
theorem parse_tangled : Directive.parse tangled = .ok untangled := by decide +kernel

end Sample

/-- A tangled query string is replaced by one with a pair for each directive, from which the
same is read. -/
theorem parse_canonical_tangled :
    Directive.canonical Sample.untangled =
        "filter%5Bwhere%5D%5B%20or%5D%5Beq%5D=a%26b" ++
        "&filter%5Bwhere%5D%5Bor%5D%5Bor.%3D%5D%5Beq%5D=%20%25" ++
        "&filter%5Border%5D%5B0%5D=%5B1%5D%20DESC&filter%5Border%5D%5B0%5D=Id%20ASC" ∧
      Directive.parse (Directive.canonical Sample.untangled) = .ok
        (Sample.untangled.map fun d => d.withSource d.pairText) :=
  ⟨by decide +kernel, parse_canonical Sample.parse_tangled⟩

end Query

end Listing
