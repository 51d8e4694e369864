import Listing.Proofs.Pattern.Anchors
import Listing.Proofs.Pattern.Dialects

/-!
# The Wildcard Language of Contains Values

A *contains* value is no expression: an asterisk in it is a run of any characters, unless a
backslash in front of it makes it an asterisk, and everything else stands for itself. The texts
that fit it are its **wildcard language** (`Wild`). Each store is sent an expression for it in which
the characters that the store reserves are escaped, and the two reserve different ones.

What both stores make of their expressions are the same `items`, one for each character or run of
the value. The reader of the relational store is followed character by character; the dialect of
the search index is known by its signs, of which only characters, points and runs are given a
meaning here.

## Main results

* `body_ofContains` — the expression of a value is the value **spelled** with escapes.
* `read_posix_ofContains` — the relational store reads the items of the value between anchors.
* `items?_lucene_ofContains` — the search index reads the same items.
* `fitsAll_items_iff` — the items fit a text if it is in the wildcard language.
* `contains_iff_wild` — both stores select the texts of the wildcard language.
-/

namespace Listing.Pattern

/-- The **wildcard language** of a value, read from left to right. -/
inductive Wild : List Char → List Char → Prop
  /-- Nothing is left of the value or the text. -/
  | nil : Wild [] []
  /-- An asterisk takes any characters, or none. -/
  | run {v s : List Char} (taken : List Char) (h : Wild v s) : Wild ('*' :: v) (taken ++ s)
  /-- An asterisk behind a backslash takes an asterisk. -/
  | escaped {v s : List Char} (h : Wild v s) : Wild ('\\' :: '*' :: v) ('*' :: s)
  /-- Any other character takes itself. -/
  | char {c : Char} {v s : List Char} (hrun : c ≠ '*')
    (hescape : c = '\\' → v.head? ≠ some '*') (h : Wild v s) : Wild (c :: v) (c :: s)

/-! ### Values spelled as expressions -/

/-- A contains value **spelled** as an expression, in which the reserved characters are escaped. -/
def spelled (reserved : List Char) : List Char → List Char
  | [] => []
  | '\\' :: '*' :: cs => escape reserved ['*'] ++ spelled reserved cs
  | '*' :: cs => '.' :: '*' :: spelled reserved cs
  | c :: cs => escape reserved [c] ++ spelled reserved cs

/-- The **items** of a contains value. -/
def items : List Char → List Expression
  | [] => []
  | '\\' :: '*' :: cs => .char (.plain '*') :: items cs
  | '*' :: cs => .repetition 0 none false .anyChar :: items cs
  | c :: cs => .char (.plain c) :: items cs

variable {reserved : List Char}

/-- Pending characters are escaped. -/
theorem body_flush_literal (pending : List Char) (p : Pattern) :
    body reserved (flush .literal pending ++ p) =
      escape reserved pending.reverse ++ body reserved p := by
  cases pending <;> simp [flush, body, Segment.write, escape]

/-- A text is escaped character by character. -/
theorem escape_reverse_cons (c : Char) (pending cs : List Char) :
    escape reserved (c :: pending).reverse ++ cs =
      escape reserved pending.reverse ++ (escape reserved [c] ++ cs) := by
  simp [escape]

/-- The segments of the rest of a value are written as the rest spelled. -/
theorem body_containsFrom (pending cs : List Char) :
    body reserved (containsFrom pending cs) =
      escape reserved pending.reverse ++ spelled reserved cs := by
  fun_induction containsFrom pending cs with
  | case1 pending =>
    have hflush : body reserved (flush .literal pending ++ []) = _ := body_flush_literal pending []
    simpa [spelled, body] using hflush
  | case2 pending cs ih => rw [ih, escape_reverse_cons, spelled]
  | case3 pending cs ih =>
    have hrun : body reserved (.anyRun :: containsFrom [] cs) =
        '.' :: '*' :: spelled reserved cs := by
      have hrest : body reserved (containsFrom [] cs) = spelled reserved cs := by
        simpa [escape] using ih
      rw [← hrest]
      rfl
    rw [body_flush_literal, hrun, spelled]
  | case4 pending c cs hescape hrun ih => rw [ih, escape_reverse_cons, spelled] <;> assumption

/-- The expression of a contains value is the value **spelled**. -/
theorem body_ofContains (v : List Char) : body reserved (ofContains v) = spelled reserved v :=
  body_containsFrom [] v

/-- The two stores reserve different characters. -/
example : (ofContains "*\\*@-".toList).posix = "^.*\\*@\\-$".toList ∧
    (ofContains "*\\*@-".toList).lucene = ".*\\*\\@-".toList := by decide

/-! ### The relational store -/

variable {p : Progress} {fuel : Nat} {c : Char} {rest : List Char}

/-- A reserved character is read behind its backslash, and any other one as it is. -/
theorem readFrom_escape (h : p.verbose = false) :
    p.readFrom (fuel + 1) (escape posixReserved [c] ++ rest) =
      (p.push (.char (.plain c))).readFrom fuel rest := by
  by_cases hc : c ∈ posixReserved
  · have hsign : c.isAlphanum = false ∧ isPlainEscape c = true := by
      have hall : ∀ c ∈ posixReserved, c.isAlphanum = false ∧ isPlainEscape c = true := by decide
      exact hall c hc
    have hstep : p.step '\\' (c :: rest) = .ok (p.push (.char (.plain c)), rest) := by
      simp only [Progress.step, h, escape?_of_not_alphanum hsign.1, hsign.2, if_true]
      rfl
    have hescape : escape posixReserved [c] ++ rest = '\\' :: c :: rest := by simp [escape, hc]
    rw [hescape, readFrom_cons h, hstep]
    rfl
  · have hstep : p.step c rest = .ok (p.push (.char (.plain c)), rest) := by
      unfold Progress.step
      split <;> first | rfl | exact absurd (by decide) hc
    have hescape : escape posixReserved [c] ++ rest = c :: rest := by simp [escape, hc]
    rw [hescape, readFrom_cons h, hstep]
    rfl

/-- A run is read as a repetition, unless a question mark behind it makes it reluctant. -/
theorem readFrom_run (h : p.verbose = false) (hrest : rest.head? ≠ some '?') :
    p.readFrom (fuel + 2) ('.' :: '*' :: rest) =
      (p.push (.repetition 0 none false .anyChar)).readFrom fuel rest := by
  have hreluctance : reluctance rest = (false, rest) := by
    unfold reluctance
    split
    next => simp at hrest
    next => rfl
  have hstep : (p.push .anyChar).step '*' rest =
      .ok (p.push (.repetition 0 none false .anyChar), rest) := by
    simp only [Progress.step, Progress.uncounted, hreluctance]
    rfl
  rw [readFrom_cons h]
  show (p.push .anyChar).readFrom (fuel + 1) ('*' :: rest) = _
  rw [readFrom_cons (by exact h), hstep]
  rfl

/-- No value that is spelled starts with a question mark, for the relational store reserves it. -/
theorem head?_spelled_posix (v : List Char) :
    (spelled posixReserved v ++ ['$']).head? ≠ some '?' := by
  fun_cases spelled posixReserved v with
  | case1 => decide
  | case2 cs => simp [escape, posixReserved]
  | case3 cs => simp
  | case4 c cs =>
    by_cases hc : c ∈ posixReserved
    · simp [escape, hc]
    · have hne : c ≠ '?' := fun h => hc (h ▸ by decide)
      simpa [escape, hc] using hne

/-- A text **reads as** items if the reader takes it, with a dollar sign behind it, for these items
and the end of the text, whatever it has read before. -/
def ReadsAs (cs : List Char) (es : List Expression) : Prop :=
  ∀ ⦃p : Progress⦄ ⦃fuel : Nat⦄, p.verbose = false → cs.length + 2 ≤ fuel →
    p.readFrom fuel (cs ++ ['$']) =
      ((es ++ [Expression.position .lineFinish]).foldl Progress.push p).finish

namespace ReadsAs

variable {cs : List Char} {es : List Expression}

/-- Nothing but the dollar sign is left. -/
theorem nil : ReadsAs [] [] := by
  intro p fuel hquiet hfuel
  obtain ⟨fuel, rfl⟩ := Nat.exists_eq_add_of_le' (show 2 ≤ fuel from hfuel)
  have hstep : p.step '$' [] = .ok (p.push (.position .lineFinish), []) := rfl
  rw [List.nil_append, readFrom_cons hquiet, hstep]
  exact readFrom_nil (p := p.push (.position .lineFinish)) hquiet

/-- A character in front. -/
theorem char (h : ReadsAs cs es) (c : Char) :
    ReadsAs (escape posixReserved [c] ++ cs) (.char (.plain c) :: es) := by
  intro p fuel hquiet hfuel
  have hpos : 0 < (escape posixReserved [c]).length := by
    by_cases hc : c ∈ posixReserved <;> simp [escape, hc]
  rw [List.length_append] at hfuel
  obtain ⟨fuel, rfl⟩ := Nat.exists_eq_add_of_le' (show 1 ≤ fuel by omega)
  rw [List.append_assoc, readFrom_escape hquiet]
  exact h hquiet (by omega)

/-- A run in front. -/
theorem run (h : ReadsAs cs es) (hcs : (cs ++ ['$']).head? ≠ some '?') :
    ReadsAs ('.' :: '*' :: cs) (.repetition 0 none false .anyChar :: es) := by
  intro p fuel hquiet hfuel
  rw [List.length_cons, List.length_cons] at hfuel
  obtain ⟨fuel, rfl⟩ := Nat.exists_eq_add_of_le' (show 2 ≤ fuel by omega)
  rw [List.cons_append, List.cons_append, readFrom_run hquiet hcs]
  exact h hquiet (by omega)

/-- A value that is spelled reads **as its items**. -/
theorem of_value (v : List Char) : ReadsAs (spelled posixReserved v) (items v) := by
  fun_induction items v with
  | case1 => exact nil
  | case2 cs ih => exact ih.char '*'
  | case3 cs ih => exact ih.run (head?_spelled_posix cs)
  | case4 c cs hescape hrun ih =>
    rw [spelled]
    · exact ih.char c
    · exact hescape
    · exact hrun

end ReadsAs

/-- Items that are read are all that is read. -/
theorem items_foldl_push (es : List Expression) (p : Progress) :
    es.foldl Progress.push p =
      { p with level := { p.level with items := es.reverse ++ p.level.items } } := by
  induction es generalizing p with
  | nil => rfl
  | cons e es ih => simp [ih, Progress.push, Level.push]

/-- Expressions are nested as deep as the deepest of them. -/
theorem depthOfAll_le_iff {es : List Expression} {n : Nat} :
    Expression.depthOfAll es ≤ n ↔ ∀ e ∈ es, e.depth ≤ n := by
  induction es with
  | nil => simp [Expression.depthOfAll]
  | cons e es ih => rw [Expression.depthOfAll, Nat.max_le, ih, List.forall_mem_cons]

/-- The items of a value are characters and runs of them. -/
theorem depth_le_of_mem_items {v : List Char} : ∀ e ∈ items v, e.depth ≤ 1 := by
  fun_induction items v with
  | case1 => simp
  | case2 cs ih => exact List.forall_mem_cons.mpr ⟨Nat.zero_le _, ih⟩
  | case3 cs ih => exact List.forall_mem_cons.mpr ⟨Nat.le_refl _, ih⟩
  | case4 c cs hescape hrun ih => exact List.forall_mem_cons.mpr ⟨Nat.zero_le _, ih⟩

/-- The relational store reads the items of a value **between anchors**. -/
theorem read_posix_ofContains (v : List Char) :
    Expression.read (ofContains v).posix =
      .ok (.ofItems (.position .lineStart :: (items v ++ [.position .lineFinish]))) := by
  have hread : Progress.start.readFrom (ofContains v).posix.length.succ (ofContains v).posix =
      .ok (.ofItems (.position .lineStart :: (items v ++ [.position .lineFinish]))) := by
    rw [posix, body_ofContains, List.cons_append, readFrom_cons rfl]
    have hstart : Progress.start.step '^' (spelled posixReserved v ++ ['$']) =
        .ok (Progress.start.push (.position .lineStart), spelled posixReserved v ++ ['$']) :=
      rfl
    rw [hstart]
    refine (ReadsAs.of_value v (p := Progress.start.push (.position .lineStart)) rfl ?_).trans ?_
    · simp
    · rw [items_foldl_push]
      simp [Progress.finish, Progress.start, Progress.push, Level.push, Level.close, Level.fresh]
  have hdepth : (Expression.ofItems
      (.position .lineStart :: (items v ++ [.position .lineFinish]))).depth ≤ 2 := by
    have hall : ∀ e ∈ items v ++ [.position .lineFinish], e.depth ≤ 1 := by
      simpa [or_imp, forall_and, Expression.depth] using depth_le_of_mem_items
    cases hitems : items v ++ [Expression.position .lineFinish] with
    | nil => exact Nat.zero_le 2
    | cons e es =>
      rw [hitems] at hall
      exact Nat.succ_le_succ
        (depthOfAll_le_iff.mpr (List.forall_mem_cons.mpr ⟨Nat.zero_le 1, hall⟩))
  rw [Expression.read, hread]
  exact if_neg (Nat.not_lt.mpr (hdepth.trans (by decide)))

/-! ### The search index -/

/-- The items of signs, behind those that have been read, last one first. Only characters, points
and runs of them are given a meaning: groups, branches, sets and what just one dialect knows are
none. -/
def itemsFrom (es : List Expression) : List Sign → Option (List Expression)
  | [] => some es.reverse
  | .itself c :: rest => itemsFrom (.char (.plain c) :: es) rest
  | .operator '.' :: rest => itemsFrom (.anyChar :: es) rest
  | .operator '*' :: rest =>
    match es with
    | [] => none
    | e :: es => itemsFrom (.repetition 0 none false e :: es) rest
  | _ => none

/-- The **items** that a dialect reads, if it is given a meaning. -/
def Dialect.items? (d : Dialect) (cs : List Char) : Option (List Expression) :=
  itemsFrom [] (d.signs cs)

/-- Whether an expression in a dialect **matches** a text as a whole. -/
def Dialect.Matches (d : Dialect) (M : Meaning) (expression s : List Char) : Prop :=
  ∃ es, d.items? expression = some es ∧ Expression.FitsAll M s es 0 s.length

/-- A character that is spelled is the sign of itself. -/
theorem signsFrom_escape_lucene (c : Char) (cs : List Char) :
    Dialect.lucene.signsFrom .outside (marks (escape luceneReserved [c] ++ cs)) =
      .itself c :: Dialect.lucene.signsFrom .outside (marks cs) := by
  by_cases hc : c ∈ luceneReserved
  · have hescape : escape luceneReserved [c] ++ cs = '\\' :: c :: cs := by simp [escape, hc]
    rw [hescape, marks, lucene_signsFrom_cons (by simp)]
    simp [Dialect.sign, Dialect.lucene, Bracket.next]
  · have hescape : escape luceneReserved [c] ++ cs = c :: cs := by simp [escape, hc]
    have hback : c ≠ '\\' := fun h => hc (h ▸ by decide)
    have hopen : c ≠ '[' := fun h => hc (h ▸ by decide)
    have hplain : c ∉ Dialect.lucene.operators := by
      have hall : ∀ c ∈ Dialect.lucene.operators, c ∈ luceneReserved := by decide
      exact mt (hall c) hc
    have hsign (following : Option Mark) :
        Dialect.lucene.sign .outside following (.bare c) = .itself c := by
      rw [Dialect.sign, if_neg (by simp), if_neg (by simp [Dialect.lucene]), if_neg hplain]
    rw [hescape, marks_cons hback, lucene_signsFrom_cons (by simp), hsign]
    simp [Bracket.next, hopen]

/-- A run is a point and the sign that repeats it. -/
theorem signsFrom_run_lucene (cs : List Char) :
    Dialect.lucene.signsFrom .outside (marks ('.' :: '*' :: cs)) =
      .operator '.' :: .operator '*' :: Dialect.lucene.signsFrom .outside (marks cs) := by
  rw [marks_cons (by decide), marks_cons (by decide), lucene_signsFrom_cons (by simp),
    lucene_signsFrom_cons (by simp [Bracket.next])]
  simp [Dialect.sign, Dialect.lucene, Bracket.next]

/-- The signs of a value that is spelled are those of its items. -/
theorem itemsFrom_spelled_lucene (es : List Expression) (v : List Char) :
    itemsFrom es (Dialect.lucene.signsFrom .outside (marks (spelled luceneReserved v))) =
      some (es.reverse ++ items v) := by
  fun_induction items v generalizing es with
  | case1 => simp [spelled, Dialect.signsFrom, itemsFrom]
  | case2 cs ih => simp [spelled, signsFrom_escape_lucene, itemsFrom, ih]
  | case3 cs ih => simp [spelled, signsFrom_run_lucene, itemsFrom, ih]
  | case4 c cs hescape hrun ih =>
    rw [spelled, signsFrom_escape_lucene, itemsFrom, ih]
    · simp
    · exact hescape
    · exact hrun

/-- The search index reads the same **items** of a value. -/
theorem items?_lucene_ofContains (v : List Char) :
    Dialect.lucene.items? (ofContains v).lucene = some (items v) := by
  rw [lucene, body_ofContains]
  exact itemsFrom_spelled_lucene [] v

/-! ### The texts that fit -/

namespace Wild

variable {v s : List Char}

/-- At its end a value takes nothing. -/
theorem nil_iff : Wild [] s ↔ s = [] := by
  constructor
  · rintro ⟨⟩
    rfl
  · rintro rfl
    exact .nil

/-- An asterisk takes a beginning of the text. -/
theorem run_iff : Wild ('*' :: v) s ↔ ∃ taken rest, s = taken ++ rest ∧ Wild v rest := by
  constructor
  · intro h
    cases h with
    | run taken h => exact ⟨taken, _, rfl, h⟩
    | char hrun => exact absurd rfl hrun
  · rintro ⟨taken, rest, rfl, h⟩
    exact .run taken h

/-- An asterisk behind a backslash takes an asterisk. -/
theorem escaped_iff : Wild ('\\' :: '*' :: v) s ↔ ∃ rest, s = '*' :: rest ∧ Wild v rest := by
  constructor
  · intro h
    cases h with
    | escaped h => exact ⟨_, rfl, h⟩
    | char _ hescape => exact absurd rfl (hescape rfl)
  · rintro ⟨rest, rfl, h⟩
    exact .escaped h

/-- Any other character takes itself. -/
theorem char_iff {c : Char} (hrun : c ≠ '*') (hescape : c = '\\' → v.head? ≠ some '*') :
    Wild (c :: v) s ↔ ∃ rest, s = c :: rest ∧ Wild v rest := by
  constructor
  · intro h
    cases h with
    | run => exact absurd rfl hrun
    | escaped => exact absurd rfl (hescape rfl)
    | char _ _ h => exact ⟨_, rfl, h⟩
  · rintro ⟨rest, rfl, h⟩
    exact .char hrun hescape h

end Wild

section Fits

variable {M : Meaning} {s : List Char} {i j : Nat} {es : List Expression} {v : List Char}

/-- Any characters **several times** reach as far as there are some. -/
theorem times_anyChar_iff (hpoint : ∀ c, M.point c) {n : Nat} (hi : i ≤ s.length) :
    Times (Expression.Fits M s .anyChar) n i j ↔ j = i + n ∧ j ≤ s.length := by
  induction n generalizing i with
  | zero =>
    simp only [Times]
    omega
  | succ n ih =>
    simp only [Times, Expression.Fits]
    constructor
    · rintro ⟨k, ⟨⟨c, hc, -⟩, rfl⟩, h⟩
      have hlt := (List.getElem?_eq_some_iff.mp hc).1
      have := (ih hlt).mp h
      omega
    · rintro ⟨rfl, hj⟩
      have hlt : i < s.length := by omega
      exact ⟨i + 1, ⟨⟨s[i], List.getElem?_eq_getElem hlt, hpoint _⟩, rfl⟩,
        (ih hlt).mpr ⟨by omega, hj⟩⟩

/-- A character in front of items takes itself from what is left of a text. -/
theorem fitsAll_char_iff {c : Char} (hi : i ≤ s.length)
    (ih : ∀ {i}, i ≤ s.length → (Expression.FitsAll M s es i s.length ↔ Wild v (s.drop i))) :
    Expression.FitsAll M s (.char (.plain c) :: es) i s.length ↔
      ∃ rest, s.drop i = c :: rest ∧ Wild v rest := by
  simp only [Expression.FitsAll, Expression.Fits, Literal.plain]
  constructor
  · rintro ⟨k, ⟨hc, rfl⟩, h⟩
    obtain ⟨hlt, rfl⟩ := List.getElem?_eq_some_iff.mp hc
    exact ⟨s.drop (i + 1), List.drop_eq_getElem_cons hlt, (ih hlt).mp h⟩
  · rintro ⟨rest, hdrop, h⟩
    have hlt : i < s.length := by
      by_contra hge
      rw [List.drop_eq_nil_of_le (by omega)] at hdrop
      cases hdrop
    rw [List.drop_eq_getElem_cons hlt] at hdrop
    obtain ⟨rfl, rfl⟩ := List.cons.inj hdrop
    exact ⟨i + 1, ⟨List.getElem?_eq_getElem hlt, rfl⟩, (ih hlt).mpr h⟩

/-- A run in front of items takes a beginning of what is left of a text. -/
theorem fitsAll_run_iff (hpoint : ∀ c, M.point c) (hi : i ≤ s.length)
    (ih : ∀ {i}, i ≤ s.length → (Expression.FitsAll M s es i s.length ↔ Wild v (s.drop i))) :
    Expression.FitsAll M s (.repetition 0 none false .anyChar :: es) i s.length ↔
      ∃ taken rest, s.drop i = taken ++ rest ∧ Wild v rest := by
  simp only [Expression.FitsAll, Expression.Fits]
  constructor
  · rintro ⟨k, ⟨n, -, -, hn⟩, h⟩
    obtain ⟨rfl, hk⟩ := (times_anyChar_iff hpoint hi).mp hn
    refine ⟨(s.drop i).take n, s.drop (i + n), ?_, (ih hk).mp h⟩
    rw [← List.drop_drop, List.take_append_drop]
  · rintro ⟨taken, rest, hdrop, h⟩
    have hlength := congrArg List.length hdrop
    rw [List.length_drop, List.length_append] at hlength
    have hk : i + taken.length ≤ s.length := by omega
    refine ⟨i + taken.length, ⟨taken.length, Nat.zero_le _, by simp,
      (times_anyChar_iff hpoint hi).mpr ⟨rfl, hk⟩⟩, (ih hk).mpr ?_⟩
    rwa [← List.drop_drop, hdrop, List.drop_left]

/-- The items of a value fit what is left of a text if it is in the **wildcard language** of the
value. -/
theorem fitsAll_items_iff (hpoint : ∀ c, M.point c) (v : List Char) {i : Nat}
    (hi : i ≤ s.length) :
    Expression.FitsAll M s (items v) i s.length ↔ Wild v (s.drop i) := by
  fun_induction items v generalizing i with
  | case1 =>
    rw [Wild.nil_iff, List.drop_eq_nil_iff]
    exact ⟨fun h => Nat.le_of_eq h.symm, fun h => Nat.le_antisymm hi h⟩
  | case2 cs ih => rw [Wild.escaped_iff, fitsAll_char_iff hi ih]
  | case3 cs ih => rw [Wild.run_iff, fitsAll_run_iff hpoint hi ih]
  | case4 c cs hescape hrun ih =>
    have hhead : c = '\\' → cs.head? ≠ some '*' := by
      rintro hback hhead
      obtain ⟨rest, rfl⟩ := List.head?_eq_some_iff.mp hhead
      exact hescape rest hback rfl
    rw [Wild.char_iff hrun hhead, fitsAll_char_iff hi ih]

/-- No item of a value is a choice. -/
theorem isChoice_of_mem_items (v : List Char) : ∀ e ∈ items v, e.isChoice = false := by
  fun_induction items v with
  | case1 => simp
  | case2 cs ih | case3 cs ih | case4 c cs hescape hrun ih =>
    exact List.forall_mem_cons.mpr ⟨rfl, ih⟩

end Fits

/-- The expressions of a value in both dialects select the texts of its **wildcard language** and
no others, if the point fits any character. -/
theorem contains_iff_wild (v s : List Char) (member : CharSet → Char → Prop)
    (word : WordPosition → List Char → Nat → Prop) :
    let M : Meaning := ⟨fun _ => True, member, word⟩
    (Finds M (ofContains v).posix s ↔ Wild v s) ∧
      (Dialect.lucene.Matches M (ofContains v).lucene s ↔ Wild v s) := by
  intro M
  have hitems : Expression.FitsAll M s (items v) 0 s.length ↔ Wild v s :=
    fitsAll_items_iff (fun _ => trivial) v (Nat.zero_le _)
  have hchoice := isChoice_of_mem_items v
  constructor
  · calc Finds M (ofContains v).posix s
        ↔ ∃ i j, i ≤ s.length ∧ (Expression.ofItems
            (.position .lineStart :: (items v ++ [.position .lineFinish]))).Fits M s i j := by
          simp only [Finds, read_posix_ofContains, Except.ok.injEq, exists_eq_left']
      _ ↔ (Expression.ofItems (items v)).Fits M s 0 s.length :=
          (Anchored.whole _ hchoice).finds_iff (Expression.isChoice_ofItems hchoice)
      _ ↔ Wild v s := Expression.fits_ofItems.trans hitems
  · calc Dialect.lucene.Matches M (ofContains v).lucene s
        ↔ Expression.FitsAll M s (items v) 0 s.length := by
          simp only [Dialect.Matches, items?_lucene_ofContains, Option.some.injEq,
            exists_eq_left']
      _ ↔ Wild v s := hitems

end Listing.Pattern
