import Listing.Proofs.Pattern.Continuation
import Listing.Proofs.Pattern.Matching

/-!
# The Anchors of the Relational Store

The relational store looks for any part of a text that fits an expression, so a circumflex and a
dollar sign are put around it. They bind tighter than a bar: with a bar outside all parentheses the
circumflex belongs to the first branch alone and the dollar sign to the last one, and what is
between them is found anywhere.

The proof runs the reader on an expression and on the same expression between its anchors. At each
step the two are **led**: they have read the same, but for the circumflex in front of the first
branch of the outermost level. At the end the dollar sign joins the last branch.

## Main results

* `Led.step`, `Led.readFrom` — a step and a run of the reader keep the two together.
* `anchored_of_read` — what the anchors make of an accepted expression.
* `finds_posix_iff_matches` — an expression without a bar outside parentheses is found exactly in
  the texts that it matches as a whole.
* `finds_posix_alternation` — of several branches, the first one is found at the start, the last one
  at the end, and any other one anywhere.
-/

namespace Listing.Pattern

/-! ### What the anchors become part of -/

/-- Whether an expression is a choice between branches. -/
def Expression.isChoice : Expression → Bool
  | .alternation _ => true
  | _ => false

/-- Items none of which is a choice are no choice. -/
theorem Expression.isChoice_ofItems {es : List Expression} (h : ∀ e ∈ es, e.isChoice = false) :
    (ofItems es).isChoice = false := by
  match es with
  | [] => rfl
  | [e] => exact h e (.head _)
  | _ :: _ :: _ => rfl

/-- Two expressions of which the second is the first **between anchors**: they surround its items,
or the circumflex is in front of its first branch and the dollar sign behind its last one. -/
inductive Anchored : Expression → Expression → Prop
  | whole (es : List Expression) (hes : ∀ e ∈ es, e.isChoice = false) :
      Anchored (.ofItems es)
        (.ofItems (.position .lineStart :: (es ++ [.position .lineFinish])))
  | choice (first last middle : List Expression) :
      Anchored (.alternation (.ofItems first :: (middle ++ [.ofItems last])))
        (.alternation (.ofItems (.position .lineStart :: first) ::
          (middle ++ [.ofItems (last ++ [.position .lineFinish])])))

/-! ### Two readers side by side -/

/-- At the end of the text. -/
theorem readFrom_nil {p : Progress} (h : p.verbose = false) {fuel : Nat} :
    p.readFrom (fuel + 1) [] = p.finish := by
  rw [Progress.readFrom, h, skip_false]

/-- In front of a character. -/
theorem readFrom_cons {p : Progress} (h : p.verbose = false) {fuel : Nat} {c : Char}
    {cs : List Char} :
    p.readFrom (fuel + 1) (c :: cs) = p.step c cs >>= fun (p, rest) => p.readFrom fuel rest := by
  rw [Progress.readFrom, h, skip_false]
  cases hstep : p.step c cs <;> simp only [hstep] <;> rfl

/-- Two levels of which the second has a circumflex in front of its **first branch**. -/
inductive Level.Led : Level → Level → Prop
  | first {kind : GroupKind} {verboseBehind : Bool} (items : List Expression)
      (hitems : ∀ e ∈ items, e.isChoice = false) :
      Led ⟨kind, verboseBehind, [], items⟩
        ⟨kind, verboseBehind, [], items ++ [.position .lineStart]⟩
  | later {kind : GroupKind} {verboseBehind : Bool} (es alternatives items : List Expression) :
      Led ⟨kind, verboseBehind, alternatives ++ [.ofItems es], items⟩
        ⟨kind, verboseBehind, alternatives ++ [.ofItems (.position .lineStart :: es)], items⟩

namespace Level.Led

variable {l l' : Level}

/-- One more item. -/
theorem push (h : l.Led l') {e : Expression} (he : e.isChoice = false) :
    (l.push e).Led (l'.push e) := by
  cases h with
  | first items hitems => exact .first (e :: items) (List.forall_mem_cons.mpr ⟨he, hitems⟩)
  | later es alternatives items => exact .later es alternatives (e :: items)

/-- A bar, which may complete the first branch. -/
theorem bar (h : l.Led l') : l.bar.Led l'.bar := by
  cases h with
  | first items hitems =>
    simp only [Level.bar, List.reverse_append, List.reverse_singleton, List.singleton_append]
    exact .later items.reverse [] []
  | later es alternatives items => exact .later es (.ofItems items.reverse :: alternatives) []

/-- The last item is the same. -/
theorem takeLast (h : l.Led l') {e : Expression} {m : Level} (hl : l.takeLast = .ok (e, m)) :
    ∃ m', l'.takeLast = .ok (e, m') ∧ m.Led m' := by
  cases h with
  | first items hitems =>
    cases items with
    | nil => cases hl
    | cons e items =>
      simp only [Level.takeLast, List.cons_append] at hl ⊢
      split at hl
      next hrepeat =>
        cases hl
        exact ⟨_, by rw [if_pos hrepeat], .first items (List.forall_mem_cons.mp hitems).2⟩
      next => cases hl
  | later es alternatives items =>
    cases items with
    | nil => cases hl
    | cons e items =>
      simp only [Level.takeLast] at hl ⊢
      split at hl
      next hrepeat =>
        cases hl
        exact ⟨_, by rw [if_pos hrepeat], .later es alternatives items⟩
      next => cases hl

end Level.Led

/-- Without its last item a level is closed in the same way. -/
theorem verboseBehind_takeLast {l m : Level} {e : Expression} (h : l.takeLast = .ok (e, m)) :
    m.verboseBehind = l.verboseBehind := by
  simp only [Level.takeLast] at h
  split at h
  next =>
    split at h
    next =>
      cases h
      rfl
    next => cases h
  next => cases h

/-- Open groups that are the same but for the **outermost** level. No group lets in blanks and
comments behind it. -/
inductive StackLed : List Level → List Level → Prop
  | root {l l' : Level} (h : l.Led l') : StackLed [l] [l']
  | inner {l : Level} {ls ls' : List Level} (hl : l.verboseBehind = false) (h : StackLed ls ls') :
      StackLed (l :: ls) (l :: ls')

namespace StackLed

variable {l l' : Level} {ls ls' : List Level}

/-- What changes the innermost level in the same way keeps the levels together. -/
theorem map_head {f : Level → Level} (hled : ∀ {l l'}, l.Led l' → (f l).Led (f l'))
    (hquiet : ∀ l, (f l).verboseBehind = l.verboseBehind)
    (h : StackLed (l :: ls) (l' :: ls')) : StackLed (f l :: ls) (f l' :: ls') := by
  cases h with
  | root h => exact .root (hled h)
  | inner hl h => exact .inner ((hquiet l).trans hl) h

/-- The last item of the innermost level is the same. -/
theorem takeLast (h : StackLed (l :: ls) (l' :: ls')) {e : Expression} {m : Level}
    (hl : l.takeLast = .ok (e, m)) :
    ∃ m', l'.takeLast = .ok (e, m') ∧ StackLed (m :: ls) (m' :: ls') := by
  cases h with
  | root h =>
    obtain ⟨m', hm', hled⟩ := h.takeLast hl
    exact ⟨m', hm', .root hled⟩
  | inner hquiet h =>
    exact ⟨m, hl, .inner ((verboseBehind_takeLast hl).trans hquiet) h⟩

end StackLed

/-- Two readers that have read the same, the second of them behind a **circumflex**. No group has
let in blanks and comments. -/
structure Led (p q : Progress) : Prop where
  /-- The open groups. -/
  levels : StackLed (p.level :: p.outer) (q.level :: q.outer)
  /-- The names of groups. -/
  names : q.names = p.names
  /-- The number of groups. -/
  captures : q.captures = p.captures
  /-- No blanks and comments between the parts for the first reader. -/
  quiet : p.verbose = false
  /-- No blanks and comments between the parts for the second reader. -/
  quiet' : q.verbose = false

namespace Led

variable {p q p' : Progress}

/-- One more item. -/
theorem push (h : Led p q) {e : Expression} (he : e.isChoice = false) :
    Led (p.push e) (q.push e) where
  levels := h.levels.map_head (·.push he) fun _ => rfl
  names := h.names
  captures := h.captures
  quiet := h.quiet
  quiet' := h.quiet'

/-- A bar. -/
theorem bar (h : Led p q) :
    Led { p with level := p.level.bar } { q with level := q.level.bar } where
  levels := h.levels.map_head (·.bar) fun _ => rfl
  names := h.names
  captures := h.captures
  quiet := h.quiet
  quiet' := h.quiet'

/-- A group is closed. -/
theorem leave (h : Led p q) (hp : p.leave = .ok p') : ∃ q', q.leave = .ok q' ∧ Led p' q' := by
  obtain ⟨level, outer, names, captures, verbose⟩ := p
  obtain ⟨level', outer', names', captures', verbose'⟩ := q
  obtain ⟨hlevels, hnames, hcaptures, hquiet, hquiet'⟩ := h
  cases hlevels with
  | root h => cases hp
  | @inner _ ls ls' hl hrest =>
    cases hrest with
    | root h =>
      cases hp
      exact ⟨_, rfl, .root (h.push rfl), hnames, hcaptures, hl, hl⟩
    | inner haround hrest =>
      cases hp
      exact ⟨_, rfl, .inner haround hrest, hnames, hcaptures, hl, hl⟩

/-- An item is repeated. -/
theorem repetition (h : Led p q) {least : Nat} {most : Option Nat} {reluctant : Bool}
    (hp : p.repetition least most reluctant = .ok p') :
    ∃ q', q.repetition least most reluctant = .ok q' ∧ Led p' q' := by
  obtain ⟨⟨e, l⟩, hl, hp⟩ := bind_eq_ok.mp hp
  obtain ⟨l', hl', hlevels⟩ := h.levels.takeLast hl
  cases hp
  exact ⟨_, bind_eq_ok.mpr ⟨_, hl', rfl⟩, hlevels.map_head (·.push rfl) fun _ => rfl, h.names,
    h.captures, h.quiet, h.quiet'⟩

/-- A group behind its parenthesis, in which no question mark follows. -/
theorem group (h : Led p q) {cs rest : List Char} (hcs : portableFault? ('(' :: cs) = none)
    (hp : p.group cs = .ok (p', rest)) :
    portableFault? rest = none ∧
      ∃ q', q.group (cs ++ ['$']) = .ok (q', rest ++ ['$']) ∧ Led p' q' := by
  have hstart (names : List (List Char)) (more : List Char) (hmore : more.head? ≠ some '?') :
      groupStart names more = .ok (.capture none, more) := by
    unfold groupStart
    split
    next => simp at hmore
    next => rfl
  have hquestion : cs.head? ≠ some '?' := by
    intro hhead
    obtain ⟨tail, rfl⟩ := List.head?_eq_some_iff.mp hhead
    cases hcs
  have hquestion' : (cs ++ ['$']).head? ≠ some '?' := by
    cases cs with
    | nil => decide
    | cons c cs => exact hquestion
  obtain ⟨level, outer, names, captures, verbose⟩ := p
  obtain ⟨level', outer', names', captures', verbose'⟩ := q
  obtain ⟨hlevels, rfl, rfl, rfl, rfl⟩ := h
  rw [Progress.group, skip_false, hstart _ _ hquestion] at hp
  rw [Progress.group, skip_false, hstart _ _ hquestion']
  cases hp
  exact ⟨portable_tail (by decide) hcs, _, rfl, .inner rfl hlevels, rfl, rfl, rfl, rfl⟩

/-- A repetition without counts. -/
theorem uncounted (h : Led p q) {least : Nat} {most : Option Nat} {cs rest : List Char}
    (hcs : portableFault? cs = none) (hp : p.uncounted least most cs = .ok (p', rest)) :
    portableFault? rest = none ∧
      ∃ q', q.uncounted least most (cs ++ ['$']) = .ok (q', rest ++ ['$']) ∧ Led p' q' := by
  obtain ⟨m, hm, hp⟩ := bind_eq_ok.mp hp
  obtain ⟨q', hq', hled⟩ := h.repetition hm
  cases hp
  refine ⟨portable_reluctance hcs, q', ?_, hled⟩
  rw [Progress.uncounted, reluctance_dollar]
  exact bind_eq_ok.mpr ⟨_, hq', rfl⟩

/-- A repetition with counts. -/
theorem counted (h : Led p q) {cs rest : List Char} (hcs : portableFault? cs = none)
    (hp : p.counted cs = .ok (p', rest)) :
    portableFault? rest = none ∧
      ∃ q', q.counted (cs ++ ['$']) = .ok (q', rest ++ ['$']) ∧ Led p' q' := by
  obtain ⟨⟨e, l⟩, hl, hp⟩ := bind_eq_ok.mp hp
  obtain ⟨⟨⟨least, most⟩, behind⟩, hcounts, hp⟩ := bind_eq_ok.mp hp
  obtain ⟨l', hl', -⟩ := h.levels.takeLast hl
  rw [h.quiet] at hcounts hp
  obtain ⟨hbehind, hcounts'⟩ := goesOn_counts hcs hcounts
  dsimp only at hp
  split at hp
  next => cases hp
  next horder =>
    rw [skip_false] at hp
    obtain ⟨m, hm, hp⟩ := bind_eq_ok.mp hp
    obtain ⟨q', hq', hled⟩ := h.repetition hm
    cases hp
    refine ⟨portable_reluctance hbehind, q', ?_, hled⟩
    refine bind_eq_ok.mpr ⟨_, hl', ?_⟩
    rw [h.quiet']
    refine bind_eq_ok.mpr ⟨_, hcounts', ?_⟩
    dsimp only
    rw [if_neg horder, skip_false, reluctance_dollar]
    exact bind_eq_ok.mpr ⟨_, hq', rfl⟩

/-- **A step** keeps the two readers together, with a dollar sign behind what the second one
reads. -/
theorem step (h : Led p q) {c : Char} {cs rest : List Char}
    (hcs : portableFault? (c :: cs) = none) (hp : p.step c cs = .ok (p', rest)) :
    portableFault? rest = none ∧
      ∃ q', q.step c (cs ++ ['$']) = .ok (q', rest ++ ['$']) ∧ Led p' q' := by
  by_cases hback : c = '\\'
  · subst hback
    obtain ⟨⟨e, behind⟩, he, hp⟩ := bind_eq_ok.mp hp
    rw [h.quiet] at he
    obtain ⟨hbehind, he⟩ := escape?_dollar hcs he
    have hpart : e.toExpression.isChoice = false := by cases e <;> rfl
    cases hp
    refine ⟨hbehind, _, ?_, h.push hpart⟩
    simp only [Progress.step, h.quiet', he]
    rfl
  have htail := portable_tail hback hcs
  unfold Progress.step at hp
  split at hp
  next => exact h.group hcs hp
  next =>
    obtain ⟨m, hm, hp⟩ := bind_eq_ok.mp hp
    obtain ⟨q', hq', hled⟩ := h.leave hm
    cases hp
    exact ⟨htail, q', bind_eq_ok.mpr ⟨_, hq', rfl⟩, hled⟩
  next =>
    cases hp
    exact ⟨htail, _, rfl, h.bar⟩
  next =>
    obtain ⟨⟨set, behind⟩, hset, hp⟩ := bind_eq_ok.mp hp
    rw [h.quiet] at hset
    obtain ⟨hbehind, hset⟩ := goesOn_set? htail hset
    cases hp
    refine ⟨hbehind, _, ?_, h.push rfl⟩
    simp only [Progress.step, h.quiet', hset]
    rfl
  next => exact h.uncounted htail hp
  next => exact h.uncounted htail hp
  next => exact h.uncounted htail hp
  next => exact h.counted htail hp
  next => exact absurd rfl hback
  next =>
    cases hp
    exact ⟨htail, _, rfl, h.push rfl⟩
  next =>
    cases hp
    exact ⟨htail, _, rfl, h.push rfl⟩
  next =>
    cases hp
    exact ⟨htail, _, rfl, h.push rfl⟩
  next =>
    cases hp
    refine ⟨htail, _, ?_, h.push rfl⟩
    simp [Progress.step, *]

/-- At the end the dollar sign joins the last branch. -/
theorem finish (h : Led p q) {r : Expression} (hp : p.finish = .ok r) :
    ∃ r', (q.push (.position .lineFinish)).finish = .ok r' ∧ Anchored r r' := by
  obtain ⟨level, outer, names, captures, verbose⟩ := p
  obtain ⟨level', outer', names', captures', verbose'⟩ := q
  obtain ⟨hlevels, -⟩ := h
  cases hlevels with
  | inner hl hrest => cases hrest <;> cases hp
  | root h =>
    cases hp
    refine ⟨_, rfl, ?_⟩
    cases h with
    | first items hitems =>
      have hwhole := Anchored.whole items.reverse (by simpa using hitems)
      simpa [Level.close, Progress.push, Level.push] using hwhole
    | later es alternatives items =>
      have hchoice := Anchored.choice es items.reverse alternatives.reverse
      simpa [Level.close, Level.bar, Progress.push, Level.push] using hchoice

/-- **A run** reads the same but for the anchors. -/
theorem readFrom (h : Led p q) {fuel : Nat} {cs : List Char} {r : Expression}
    (hcs : portableFault? cs = none) (hp : p.readFrom fuel cs = .ok r) :
    ∃ r', q.readFrom (fuel + 1) (cs ++ ['$']) = .ok r' ∧ Anchored r r' := by
  induction fuel generalizing p q cs with
  | zero => cases hp
  | succ fuel ih =>
    cases cs with
    | nil =>
      rw [readFrom_nil h.quiet] at hp
      obtain ⟨r', hr', hanchored⟩ := h.finish hp
      refine ⟨r', ?_, hanchored⟩
      rw [List.nil_append, readFrom_cons h.quiet']
      exact bind_eq_ok.mpr ⟨_, rfl, (readFrom_nil (p := q.push _) h.quiet').trans hr'⟩
    | cons c cs =>
      rw [readFrom_cons h.quiet] at hp
      obtain ⟨⟨p', rest⟩, hstep, hp⟩ := bind_eq_ok.mp hp
      obtain ⟨hrest, q', hstep', hled⟩ := h.step hcs hstep
      obtain ⟨r', hr', hanchored⟩ := ih hled hrest hp
      refine ⟨r', ?_, hanchored⟩
      rw [List.cons_append, readFrom_cons h.quiet']
      exact bind_eq_ok.mpr ⟨_, hstep', hr'⟩

end Led

/-! ### Expressions between anchors -/

/-- An expression that is read has been read to its end. -/
theorem readFrom_of_read {cs : List Char} {r : Expression} (h : Expression.read cs = .ok r) :
    Progress.start.readFrom cs.length.succ cs = .ok r := by
  obtain ⟨e, he, h⟩ := bind_eq_ok.mp h
  split at h
  next => cases h
  next =>
    cases h
    exact he

/-- What the anchors make of a portable expression, if it can be read without them and with
them. -/
theorem anchored_of_read {cs : List Char} {r r' : Expression} (hcs : portableFault? cs = none)
    (hr : Expression.read cs = .ok r) (hr' : Expression.read ('^' :: cs ++ ['$']) = .ok r') :
    Anchored r r' := by
  have hled : Led Progress.start (Progress.start.push (.position .lineStart)) :=
    ⟨.root (.first [] (by simp)), rfl, rfl, rfl, rfl⟩
  obtain ⟨e, he, hanchored⟩ := hled.readFrom hcs (readFrom_of_read hr)
  have hread := readFrom_of_read hr'
  rw [List.cons_append, readFrom_cons rfl] at hread
  have hstep : Progress.start.step '^' (cs ++ ['$']) =
      .ok (Progress.start.push (.position .lineStart), cs ++ ['$']) := rfl
  obtain ⟨_, heq, hread⟩ := bind_eq_ok.mp hread
  cases hstep.symm.trans heq
  have hlength : ('^' :: (cs ++ ['$'])).length = cs.length.succ + 1 := by simp
  rw [hlength] at hread
  cases he.symm.trans hread
  exact hanchored

variable {M : Meaning} {s : List Char}

/-- Between anchors items fit **the whole text** or nothing. -/
theorem Anchored.finds_iff {r r' : Expression} (h : Anchored r r') (hr : r.isChoice = false) :
    (∃ i j, i ≤ s.length ∧ r'.Fits M s i j) ↔ r.Fits M s 0 s.length := by
  cases h with
  | choice => cases hr
  | whole =>
    rw [← List.cons_append]
    simp only [Expression.fits_anchored_last, List.cons_append, Expression.fits_anchored_first]
    constructor
    · rintro ⟨i, j, -, rfl, rfl, h⟩
      exact h
    · exact fun h => ⟨0, s.length, Nat.zero_le _, rfl, rfl, h⟩

/-- Of several branches the anchors tie the first one to the start and the last one to the end. -/
theorem Anchored.finds_alternation_iff {first last r' : Expression} {middle : List Expression}
    (h : Anchored (.alternation (first :: (middle ++ [last]))) r') :
    (∃ i j, i ≤ s.length ∧ r'.Fits M s i j) ↔
      (∃ j, first.Fits M s 0 j) ∨ (∃ e ∈ middle, ∃ i j, i ≤ s.length ∧ e.Fits M s i j) ∨
        ∃ i, i ≤ s.length ∧ last.Fits M s i s.length := by
  generalize hr : Expression.alternation (first :: (middle ++ [last])) = r at h
  cases h with
  | whole es hes =>
    have hchoice := Expression.isChoice_ofItems hes
    rw [← hr] at hchoice
    cases hchoice
  | choice =>
    obtain ⟨rfl, hbehind⟩ := List.cons.inj (Expression.alternation.inj hr)
    obtain ⟨rfl, hlast⟩ := List.append_inj' hbehind rfl
    obtain rfl := List.singleton_inj.mp hlast
    simp only [Expression.Fits, Expression.fitsSome_iff, List.mem_cons, List.mem_append,
      List.not_mem_nil, or_false]
    constructor
    · rintro ⟨i, j, hi, e, rfl | he | rfl, h⟩
      · obtain ⟨rfl, h⟩ := Expression.fits_anchored_first.mp h
        exact .inl ⟨j, h⟩
      · exact .inr (.inl ⟨e, he, i, j, hi, h⟩)
      · obtain ⟨rfl, h⟩ := Expression.fits_anchored_last.mp h
        exact .inr (.inr ⟨i, hi, h⟩)
    · rintro (⟨j, h⟩ | ⟨e, he, i, j, hi, h⟩ | ⟨i, hi, h⟩)
      · exact ⟨0, j, Nat.zero_le _, _, .inl rfl, Expression.fits_anchored_first.mpr ⟨rfl, h⟩⟩
      · exact ⟨i, j, hi, e, .inr (.inl he), h⟩
      · exact ⟨i, s.length, hi, _, .inr (.inr rfl), Expression.fits_anchored_last.mpr ⟨rfl, h⟩⟩

/-! ### Like values -/

variable {v : List Char}

/-- What the anchors make of an accepted value that is an expression by itself. -/
theorem anchored_of_check {r : Expression} (h : (ofLike v).check = .ok ())
    (hr : Expression.read (body posixReserved (ofLike v)) = .ok r) :
    ∃ r', Expression.read (ofLike v).posix = .ok r' ∧ Anchored r r' := by
  obtain ⟨hportable, r', hr'⟩ := exists_read_of_check h
  refine ⟨r', hr', anchored_of_read ?_ hr hr'⟩
  rw [body_ofLike]
  exact portableFault?_starred hportable

/-- Of several branches the first one is found at the start, the last one at the end, and any other
one **anywhere**. -/
theorem finds_posix_alternation {first last : Expression} {middle : List Expression}
    (h : (ofLike v).check = .ok ())
    (hr : Expression.read (body posixReserved (ofLike v)) =
      .ok (.alternation (first :: (middle ++ [last])))) :
    Finds M (ofLike v).posix s ↔
      (∃ j, first.Fits M s 0 j) ∨ (∃ e ∈ middle, ∃ i j, i ≤ s.length ∧ e.Fits M s i j) ∨
        ∃ i, i ≤ s.length ∧ last.Fits M s i s.length := by
  obtain ⟨r', hr', hanchored⟩ := anchored_of_check h hr
  simp only [Finds, hr', Except.ok.injEq, exists_eq_left']
  exact hanchored.finds_alternation_iff

end Listing.Pattern
