import Listing.Proofs.Pattern.Like

/-!
# Expressions That Go On

A store is handed an expression with a dollar sign behind it. What the reader finds in the
expression must not change by that, and this depends on the check: behind an escaped letter or a
question mark in parentheses the reader looks at more than one character. A part of the reader
**goes on** if it finds the same in a portable text with a dollar sign at its end, and leaves the
same with the dollar sign. Blanks and comments play no part, for only a group with a question mark
lets them in.

## Main results

* `goesOn_set?` — a set goes on, and so do all the functions that read its parts.
* `goesOn_counts` — so do the counts of a repetition.
-/

namespace Listing.Pattern

open Text (trimStart isBlank)

/-! ### Texts -/

@[simp] theorem skip_false (cs : List Char) : skip false cs = cs := rfl

/-- Without blanks and comments a run is a beginning of the text. -/
@[simp] theorem run_false (belongs : Char → Bool) (cs : List Char) :
    run false belongs cs = (cs.takeWhile belongs, cs.dropWhile belongs) := by
  have hrun (taken : List Char) (cs : List Char) :
      runFrom false belongs taken cs.length cs =
        (taken.reverse ++ cs.takeWhile belongs, cs.dropWhile belongs) := by
    induction cs generalizing taken with
    | nil => simp [runFrom]
    | cons c cs ih =>
      by_cases hc : belongs c <;> simp [runFrom, hc, ih]
  exact hrun [] cs

/-- A dollar sign ends a run that it does not belong to. -/
theorem takeWhile_dollar {belongs : Char → Bool} (h : belongs '$' = false) (cs : List Char) :
    (cs ++ ['$']).takeWhile belongs = cs.takeWhile belongs := by
  induction cs with
  | nil => simp [h]
  | cons c cs ih => simp only [List.cons_append, List.takeWhile_cons, ih]

/-- What is behind a run that a dollar sign does not belong to. -/
theorem dropWhile_dollar {belongs : Char → Bool} (h : belongs '$' = false) (cs : List Char) :
    (cs ++ ['$']).dropWhile belongs = cs.dropWhile belongs ++ ['$'] := by
  induction cs with
  | nil => simp [h]
  | cons c cs ih =>
    simp only [List.cons_append, List.dropWhile_cons, ih]
    split <;> rfl

/-! ### Portable texts -/

/-- What is behind a character other than a backslash. -/
theorem portable_tail {c : Char} {cs : List Char} (hc : c ≠ '\\')
    (h : portableFault? (c :: cs) = none) : portableFault? cs = none := by
  by_cases hgroup : ∃ rest, c = '(' ∧ cs = '?' :: rest
  · obtain ⟨rest, rfl, rfl⟩ := hgroup
    cases h
  · rwa [portableFault?] at h
    · exact fun hback _ => hc hback
    · exact fun _ _ hback _ => hc hback
    · exact fun rest hopen hrest => hgroup ⟨rest, hopen, hrest⟩

/-- What is behind characters other than backslashes. -/
theorem portable_right {cs ds : List Char} (hcs : '\\' ∉ cs)
    (h : portableFault? (cs ++ ds) = none) : portableFault? ds = none := by
  induction cs with
  | nil => exact h
  | cons c cs ih =>
    obtain ⟨hc, hrest⟩ := not_or.mp (mt List.mem_cons.mpr hcs)
    exact ih hrest (portable_tail (Ne.symm hc) h)

/-- What is behind a run that backslashes do not belong to. -/
theorem portable_dropWhile {belongs : Char → Bool} {cs : List Char} (hback : belongs '\\' = false)
    (h : portableFault? cs = none) : portableFault? (cs.dropWhile belongs) = none := by
  induction cs with
  | nil => exact h
  | cons c cs ih =>
    rw [List.dropWhile_cons]
    split
    next hc =>
      have hplain : c ≠ '\\' := by
        rintro rfl
        rw [hback] at hc
        cases hc
      exact ih (portable_tail hplain h)
    next => exact h

/-- A backslash stands in front of a sign. -/
theorem portable_escaped {c : Char} {cs : List Char} (h : portableFault? ('\\' :: c :: cs) = none) :
    c.isAlphanum = false ∧ portableFault? cs = none := by
  rw [portableFault?] at h
  split at h
  · cases h
  next halnum => exact ⟨by simpa using halnum, h⟩

/-! ### Parts of the reader -/

variable {α : Type}

/-- A part of the reader **goes on**: with a dollar sign behind a portable text it finds the same
and leaves the same. -/
def GoesOn (f : List Char → Reading (α × List Char)) : Prop :=
  ∀ ⦃cs x rest⦄, portableFault? cs = none → f cs = .ok (x, rest) →
    portableFault? rest = none ∧ f (cs ++ ['$']) = .ok (x, rest ++ ['$'])

/-- Behind a backslash a sign is a character or the edge of a word, whatever follows. -/
theorem escape?_of_not_alphanum {c : Char} (h : c.isAlphanum = false) (verbose : Bool)
    (rest : List Char) :
    escape? verbose (c :: rest) =
      if isPlainEscape c then .ok (.plain c, rest)
      else if c = '<' then .ok (.position (.word .start), rest)
      else if c = '>' then .ok (.position (.word .finish), rest)
      else .error .unknownEscape := by
  have hdigit : c.isDigit = false := by
    simp only [Char.isAlphanum, Bool.or_eq_false_iff] at h
    exact h.2
  have hne (d : Char) (hd : d.isAlphanum = true) : c ≠ d := by
    rintro rfl
    rw [h] at hd
    cases hd
  simp [escape?, hdigit, hne 'x' rfl, hne 'u' rfl, hne 'U' rfl, hne 'p' rfl, hne 'P' rfl,
    hne 'd' rfl, hne 'D' rfl, hne 's' rfl, hne 'S' rfl, hne 'w' rfl, hne 'W' rfl, hne 'a' rfl,
    hne 'f' rfl, hne 't' rfl, hne 'n' rfl, hne 'r' rfl, hne 'v' rfl, hne 'A' rfl, hne 'z' rfl,
    hne 'b' rfl, hne 'B' rfl]

/-- What stands behind a backslash goes on. -/
theorem escape?_dollar {cs : List Char} {e : Escape} {rest : List Char}
    (hcs : portableFault? ('\\' :: cs) = none) (h : escape? false cs = .ok (e, rest)) :
    portableFault? rest = none ∧ escape? false (cs ++ ['$']) = .ok (e, rest ++ ['$']) := by
  cases cs with
  | nil => cases h
  | cons c more =>
    obtain ⟨halnum, hmore⟩ := portable_escaped hcs
    simp only [List.cons_append, escape?_of_not_alphanum halnum] at h ⊢
    split_ifs at h ⊢ <;> cases h
    all_goals exact ⟨hmore, rfl⟩

/-! ### Sets -/

/-- An item of a set goes on. -/
theorem goesOn_setItem : GoesOn (setItem false) := by
  intro cs e rest hcs h
  cases cs with
  | nil => cases h
  | cons c more =>
    by_cases hc : c = '\\'
    · subst hc
      exact escape?_dollar hcs h
    · have hitem (more : List Char) : setItem false (c :: more) = .ok (.plain c, more) := by
        rw [setItem]
        exact hc
      rw [hitem] at h
      cases h
      exact ⟨portable_tail hc hcs, hitem _⟩

/-- A named set of ASCII characters behind its colon and its circumflex. -/
def namedSet? (negated : Bool) (cs : List Char) : Option (CharSet × List Char) :=
  match cs.dropWhile (· ≠ ':') with
  | ':' :: ']' :: tail =>
    (CharSet.asciiNamed.lookup (String.ofList (cs.takeWhile (· ≠ ':')))).map fun ranges =>
      (.ascii ranges negated, tail)
  | _ => none

/-- What is behind the colon of a named set. -/
theorem asciiSet?_colon (cs : List Char) :
    asciiSet? (':' :: cs) =
      if cs.head? = some '^' then namedSet? true cs.tail else namedSet? false cs := by
  cases cs with
  | nil => rfl
  | cons c cs =>
    by_cases hc : c = '^'
    · subst hc
      rfl
    · have hhead : (c :: cs).head? ≠ some '^' := fun hhead => hc (Option.some.inj hhead)
      rw [if_neg hhead, asciiSet?]
      · rfl
      · exact fun _ heq => hc (List.cons.inj heq).1

/-- A named set goes on, and so does its absence. -/
theorem namedSet?_dollar (negated : Bool) (cs : List Char) :
    namedSet? negated (cs ++ ['$']) =
      (namedSet? negated cs).map fun (s, rest) => (s, rest ++ ['$']) := by
  cases hdrop : cs.dropWhile (· ≠ ':') with
  | nil =>
    rw [namedSet?, namedSet?, List.dropWhile_append, hdrop]
    rfl
  | cons c tail =>
    have htake : (cs ++ ['$']).takeWhile (· ≠ ':') = cs.takeWhile (· ≠ ':') := by
      rw [List.takeWhile_append, if_neg]
      intro hlength
      have hcs := congrArg List.length (List.takeWhile_append_dropWhile (p := (· ≠ ':')) (l := cs))
      rw [List.length_append, hlength, hdrop, List.length_cons] at hcs
      omega
    have hbehind : (cs ++ ['$']).dropWhile (· ≠ ':') = c :: (tail ++ ['$']) := by
      rw [List.dropWhile_append, hdrop]
      rfl
    simp only [namedSet?, htake, hbehind, hdrop]
    split
    next more heq =>
      cases tail with
      | nil => simp at heq
      | cons d tail =>
        obtain ⟨rfl, rfl, rfl⟩ : c = ':' ∧ d = ']' ∧ more = tail ++ ['$'] := by
          simpa [eq_comm] using heq
        simp [Function.comp_def]
    next hnone =>
      split
      next more heq => exact absurd (congrArg (· ++ ['$']) heq) (hnone (more ++ ['$']))
      next => rfl

/-- What is behind a named set, for no name has a backslash. -/
theorem portable_of_namedSet? {negated : Bool} {cs : List Char} {s : CharSet} {rest : List Char}
    (hcs : portableFault? cs = none) (h : namedSet? negated cs = some (s, rest)) :
    portableFault? rest = none := by
  simp only [namedSet?] at h
  split at h
  next tail hdrop =>
    obtain ⟨ranges, hlookup, heq⟩ := Option.map_eq_some_iff.mp h
    obtain ⟨-, rfl⟩ := Prod.mk.inj heq
    obtain ⟨before, behind, hnamed, -⟩ := List.lookup_eq_some_iff.mp hlookup
    have hname : ∀ named ∈ CharSet.asciiNamed, '\\' ∉ named.1.toList := by decide
    have hback := hname _ (hnamed ▸ List.mem_append_right _ (.head _))
    rw [String.toList_ofList] at hback
    rw [← List.takeWhile_append_dropWhile (p := (· ≠ ':')) (l := cs), hdrop] at hcs
    exact portable_tail (by decide) (portable_tail (by decide) (portable_right hback hcs))
  next => cases h

/-- A named set of ASCII characters goes on, and so does its absence. -/
theorem asciiSet?_dollar (cs : List Char) :
    asciiSet? (cs ++ ['$']) = (asciiSet? cs).map fun (s, rest) => (s, rest ++ ['$']) := by
  cases cs with
  | nil => rfl
  | cons c cs =>
    by_cases hc : c = ':'
    · subst hc
      cases cs with
      | nil => rfl
      | cons d cs =>
        rw [List.cons_append, asciiSet?_colon, asciiSet?_colon, List.cons_append, List.head?_cons,
          List.head?_cons, List.tail_cons, List.tail_cons, ← List.cons_append]
        split <;> exact namedSet?_dollar _ _
    · rw [List.cons_append, asciiSet?, asciiSet?]
      · rfl
      · exact fun _ hcolon => hc (List.cons.inj hcolon).1
      · exact fun _ hcolon => hc (List.cons.inj hcolon).1

/-- What is behind a named set of ASCII characters. -/
theorem portable_of_asciiSet? {cs : List Char} {s : CharSet} {rest : List Char}
    (hcs : portableFault? cs = none) (h : asciiSet? cs = some (s, rest)) :
    portableFault? rest = none := by
  cases cs with
  | nil => cases h
  | cons c cs =>
    by_cases hc : c = ':'
    · subst hc
      have hrest := portable_tail (by decide) hcs
      rw [asciiSet?_colon] at h
      split at h
      next hhead =>
        obtain ⟨tail, rfl⟩ := List.head?_eq_some_iff.mp hhead
        exact portable_of_namedSet? (portable_tail (by decide) hrest) h
      next => exact portable_of_namedSet? hrest h
    · rw [asciiSet?] at h
      · cases h
      · exact fun _ hcolon => hc (List.cons.inj hcolon).1

/-- The start of a set behind its circumflex: minus signs or a closing bracket that stand for
themselves. -/
def openItems (negated : Bool) (cs : List Char) : Reading (OpenSet × List Char) :=
  match cs.dropWhile (· = '-') with
  | [] => .error .unclosedSet
  | c :: tail =>
    if c = ']' && (cs.takeWhile (· = '-')).isEmpty then
      match tail with
      | [] => .error .unclosedSet
      | rest => .ok (⟨negated, [.char (.plain ']')], none⟩, rest)
    else
      .ok (⟨negated, (cs.takeWhile (· = '-')).map fun c => .char (.plain c), none⟩,
        cs.dropWhile (· = '-'))

/-- The start of a set. -/
theorem openSet_cons (c : Char) (cs : List Char) :
    openSet false (c :: cs) = if c = '^' then openItems true cs else openItems false (c :: cs) := by
  by_cases hc : c = '^'
  · subst hc
    simp only [openSet, skip_false, run_false, if_true]
    rfl
  · have hopen : openSet false (c :: cs) = openItems false (c :: cs) := by
      simp only [openSet, skip_false, run_false, List.cons.injEq, hc, false_and, false_imp_iff,
        implies_true]
      rfl
    rw [hopen, if_neg hc]

/-- The start of a set behind its circumflex goes on. -/
theorem goesOn_openItems (negated : Bool) : GoesOn (openItems negated) := by
  intro cs o rest hcs h
  have hrest := @portable_dropWhile (· = '-') cs (by decide) hcs
  simp only [openItems, @dropWhile_dollar (· = '-') (by decide),
    @takeWhile_dollar (· = '-') (by decide)] at h ⊢
  cases hdrop : cs.dropWhile (· = '-') with
  | nil =>
    rw [hdrop] at h
    cases h
  | cons c tail =>
    rw [hdrop] at h hrest
    simp only [List.cons_append] at h ⊢
    split at h
    next hbracket =>
      cases tail with
      | nil => cases h
      | cons d tail =>
        cases h
        exact ⟨portable_tail (by simp_all) hrest, if_pos hbracket⟩
    next hbracket =>
      cases h
      exact ⟨hrest, if_neg hbracket⟩

/-- The start of a set goes on. -/
theorem goesOn_openSet : GoesOn (openSet false) := by
  intro cs o rest hcs h
  cases cs with
  | nil => cases h
  | cons c cs =>
    rw [openSet_cons] at h
    rw [List.cons_append, openSet_cons]
    split at h
    next hc =>
      rw [if_pos hc]
      exact goesOn_openItems true (portable_tail (by simp [hc]) hcs) h
    next hc =>
      rw [if_neg hc]
      exact goesOn_openItems false hcs h

/-- A set item or a range without blanks and comments. -/
theorem setRange_false (cs : List Char) :
    setRange false cs = do
      let (first, rest) ← setItem false cs
      match rest with
      | [] => .error .unclosedSet
      | '-' :: tail =>
        if tail.head? = some ']' || tail.head? = some '-' then
          return (← first.toSet, '-' :: tail)
        else
          match tail with
          | [] => .error .unclosedSet
          | tail =>
            let (last, tail) ← setItem false tail
            let low ← first.toLiteral
            let high ← last.toLiteral
            if high.char < low.char then .error .emptyRange else return (.range low high, tail)
      | rest => return (← first.toSet, rest) :=
  rfl

/-- An item of a set or a range goes on. -/
theorem goesOn_setRange : GoesOn (setRange false) := by
  intro cs s rest hcs h
  rw [setRange_false] at h ⊢
  obtain ⟨⟨first, behind⟩, hfirst, h⟩ := bind_eq_ok.mp h
  obtain ⟨hbehind, hfirst'⟩ := goesOn_setItem hcs hfirst
  suffices hgoal : portableFault? rest = none ∧ _ = _ from
    ⟨hgoal.1, bind_eq_ok.mpr ⟨_, hfirst', hgoal.2⟩⟩
  dsimp only at h ⊢
  split at h
  next => cases h
  next tail =>
    cases tail with
    | nil => simp at h
    | cons d tail =>
      have htail := portable_tail (by decide) hbehind
      simp only [List.cons_append] at h ⊢
      by_cases hend : ((d :: tail).head? = some ']' || (d :: tail).head? = some '-') = true
      · rw [if_pos hend] at h
        rw [if_pos (by exact hend)]
        obtain ⟨t, ht, h⟩ := bind_eq_ok.mp h
        cases h
        exact ⟨hbehind, bind_eq_ok.mpr ⟨_, ht, rfl⟩⟩
      · rw [if_neg hend] at h
        rw [if_neg (by exact hend)]
        obtain ⟨⟨last, behind⟩, hlast, h⟩ := bind_eq_ok.mp h
        obtain ⟨low, hlow, h⟩ := bind_eq_ok.mp h
        obtain ⟨high, hhigh, h⟩ := bind_eq_ok.mp h
        obtain ⟨hbehind, hlast'⟩ := goesOn_setItem htail hlast
        by_cases horder : high.char < low.char
        · rw [if_pos horder] at h
          cases h
        · rw [if_neg horder] at h
          cases h
          refine ⟨hbehind, bind_eq_ok.mpr ⟨_, hlast', bind_eq_ok.mpr ⟨low, hlow, ?_⟩⟩⟩
          exact bind_eq_ok.mpr ⟨high, hhigh, if_neg horder⟩
  next hne hminus =>
    obtain ⟨t, ht, h⟩ := bind_eq_ok.mp h
    cases h
    refine ⟨hbehind, ?_⟩
    split
    next hnil => simp at hnil
    next tail htail =>
      cases rest with
      | nil => exact absurd rfl hne
      | cons c tail =>
        exact absurd (by rw [(List.cons.inj htail).1]) (hminus tail)
    next => exact bind_eq_ok.mpr ⟨_, ht, rfl⟩

/-- The rest of a set **goes on**, with as many steps and with more. -/
theorem setFrom_dollar {outer : List OpenSet} {o : OpenSet} {fuel : Nat} {cs : List Char}
    {s : CharSet} {rest : List Char} (hcs : portableFault? cs = none)
    (h : setFrom false outer o fuel cs = .ok (s, rest)) :
    portableFault? rest = none ∧ ∀ extra,
      setFrom false outer o (extra + fuel) (cs ++ ['$']) = .ok (s, rest ++ ['$']) := by
  fun_induction setFrom false outer o fuel cs with
  | case1 | case2 | case5 | case12 => cases h
  | case3 outer o fuel cs more hmore set tail hset ih =>
    obtain rfl : cs = '[' :: more := hmore
    obtain ⟨hrest, hread⟩ := ih (portable_of_asciiSet? (portable_tail (by decide) hcs) hset) h
    refine ⟨hrest, fun extra => ?_⟩
    simp [setFrom, asciiSet?_dollar, hset, hread]
  | case4 outer o fuel cs more hmore hset inner tail hinner ih =>
    obtain rfl : cs = '[' :: more := hmore
    obtain ⟨htail, hinner⟩ := goesOn_openSet (portable_tail (by decide) hcs) hinner
    obtain ⟨hrest, hread⟩ := ih htail h
    refine ⟨hrest, fun extra => ?_⟩
    simp [setFrom, asciiSet?_dollar, hset, hinner, hread]
  | case6 o fuel cs more hmore =>
    obtain rfl : cs = ']' :: more := hmore
    cases h
    exact ⟨portable_tail (by decide) hcs, fun extra => by simp [setFrom]⟩
  | case7 o fuel cs more hmore around outer ih =>
    obtain rfl : cs = ']' :: more := hmore
    obtain ⟨hrest, hread⟩ := ih (portable_tail (by decide) hcs) h
    exact ⟨hrest, fun extra => by simp [setFrom, hread]⟩
  | case8 outer o fuel cs more hmore ih | case9 outer o fuel cs more hmore ih
  | case10 outer o fuel cs more hmore ih =>
    rw [skip_false] at hmore
    subst hmore
    obtain ⟨hrest, hread⟩ := ih (portable_tail (by decide) (portable_tail (by decide) hcs)) h
    exact ⟨hrest, fun extra => by simp [setFrom, hread]⟩
  | case11 outer o fuel cs c more hopen hclose hboth hminus hone hmore set tail hset ih =>
    obtain rfl : cs = c :: more := hmore
    obtain ⟨htail, hset⟩ := goesOn_setRange hcs hset
    obtain ⟨hrest, hread⟩ := ih htail h
    refine ⟨hrest, fun extra => ?_⟩
    -- A dollar sign makes no operation of a sign at the end.
    have hsigns (d : Char) (hd : d ≠ '$') (h : ∀ rest, c = d → more = d :: rest → False)
        (rest : List Char) (hc : c = d) (hrest : more ++ ['$'] = d :: rest) : False := by
      cases more with
      | nil => exact hd (by simpa [eq_comm] using (List.cons.inj hrest).1)
      | cons e more =>
        obtain ⟨rfl, -⟩ := List.cons.inj hrest
        exact h more hc rfl
    rw [setFrom.eq_def]
    simp only [skip_false, List.cons_append]
    split
    next hnil => cases hnil
    next heq => exact absurd (List.cons.inj heq).1 hopen
    next heq => exact absurd (List.cons.inj heq).1 hclose
    next heq =>
      obtain ⟨hc, hbehind⟩ := List.cons.inj heq
      exact (hsigns '&' (by decide) hboth _ hc hbehind).elim
    next heq =>
      obtain ⟨hc, hbehind⟩ := List.cons.inj heq
      exact (hsigns '-' (by decide) hminus _ hc hbehind).elim
    next heq =>
      obtain ⟨hc, hbehind⟩ := List.cons.inj heq
      exact (hsigns '~' (by decide) hone _ hc hbehind).elim
    next heq =>
      obtain ⟨rfl, rfl⟩ := List.cons.inj heq
      rw [← List.cons_append, hset]
      exact hread extra

/-- **A set goes on.** -/
theorem goesOn_set? : GoesOn (set? false) := by
  intro cs s rest hcs h
  unfold set? at h ⊢
  split at h
  next o behind hopen =>
    obtain ⟨hbehind, hopen⟩ := goesOn_openSet hcs hopen
    obtain ⟨hrest, hread⟩ := setFrom_dollar hbehind h
    refine ⟨hrest, ?_⟩
    rw [hopen]
    simpa [Nat.add_comm] using hread 1
  next => cases h

/-! ### Repetitions -/

/-- The digits of a count go on. -/
theorem countText_dollar (cs : List Char) :
    countText false (cs ++ ['$']) = ((countText false cs).1, (countText false cs).2 ++ ['$']) := by
  have hblank : isBlank '$' = false := by decide
  have hdigit : '$'.isDigit = false := by decide
  simp only [countText, trimStart, run_false, dropWhile_dollar hblank, dropWhile_dollar hdigit,
    takeWhile_dollar hdigit]

/-- What is behind the digits of a count. -/
theorem portable_countText {cs : List Char} (hcs : portableFault? cs = none) :
    portableFault? (countText false cs).2 = none := by
  rw [countText, run_false]
  exact portable_dropWhile (by decide) (portable_dropWhile (by decide)
    (portable_dropWhile (by decide) hcs))

/-- Nothing is repeated reluctantly because of a dollar sign. -/
theorem reluctance_dollar (cs : List Char) :
    reluctance (cs ++ ['$']) = ((reluctance cs).1, (reluctance cs).2 ++ ['$']) := by
  cases cs with
  | nil => rfl
  | cons c cs =>
    by_cases hc : c = '?'
    · subst hc
      rfl
    · simp [reluctance, hc]

/-- What is behind the sign of a reluctant repetition. -/
theorem portable_reluctance {cs : List Char} (hcs : portableFault? cs = none) :
    portableFault? (reluctance cs).2 = none := by
  fun_cases reluctance cs with
  | case1 rest => exact portable_tail (by decide) hcs
  | case2 => exact hcs

/-- The closing brace of a repetition goes on. -/
theorem goesOn_closeCounts (least : Nat) (most : Option Nat) : GoesOn (closeCounts least most) := by
  intro cs counts rest hcs h
  unfold closeCounts at h
  split at h
  next =>
    cases h
    exact ⟨portable_tail (by decide) hcs, rfl⟩
  next => cases h

/-- **The counts of a repetition go on.** -/
theorem goesOn_counts : GoesOn (counts false) := by
  intro cs counted rest hcs h
  have hdigits := countText_dollar cs
  have hbehind := portable_countText hcs
  rcases hcount : countText false cs with ⟨first, behind⟩
  rw [hcount] at hdigits hbehind
  simp only [counts, skip_false, hcount] at h
  simp only [counts, skip_false, hdigits]
  rw [if_neg (by simp)]
  split at h
  next => cases h
  next =>
    split at h
    next => cases h
    next tail =>
      have htail := portable_tail (by decide) hbehind
      split at h
      next => cases h
      next more =>
        obtain ⟨least, hleast, h⟩ := bind_eq_ok.mp h
        obtain ⟨hrest, hclose⟩ := goesOn_closeCounts _ _ htail h
        exact ⟨hrest, bind_eq_ok.mpr ⟨least, hleast, hclose⟩⟩
      next hne hbrace =>
        obtain ⟨least, hleast, h⟩ := bind_eq_ok.mp h
        obtain ⟨most, hmost, h⟩ := bind_eq_ok.mp h
        obtain ⟨hrest, hclose⟩ := goesOn_closeCounts _ _ (portable_countText htail) h
        refine ⟨hrest, ?_⟩
        cases tail with
        | nil => exact absurd rfl hne
        | cons d tail =>
          have hd : d ≠ '\x7d' := fun hd => hbrace tail (by rw [hd])
          simp only [List.cons_append]
          split
          next hnil => cases hnil
          next heq => exact absurd (List.cons.inj heq).1 hd
          next =>
            refine bind_eq_ok.mpr ⟨least, hleast, ?_⟩
            rw [← List.cons_append, countText_dollar]
            exact bind_eq_ok.mpr ⟨most, hmost, hclose⟩
    next hne hcomma =>
      obtain ⟨n, hn, h⟩ := bind_eq_ok.mp h
      obtain ⟨hrest, hclose⟩ := goesOn_closeCounts _ _ hbehind h
      refine ⟨hrest, ?_⟩
      cases behind with
      | nil => exact absurd rfl hne
      | cons c tail =>
        have hc : c ≠ ',' := fun hc => hcomma tail (by rw [hc])
        split
        next hnil => cases hnil
        next heq => exact absurd (List.cons.inj heq).1 hc
        next => exact bind_eq_ok.mpr ⟨n, hn, hclose⟩

end Listing.Pattern
