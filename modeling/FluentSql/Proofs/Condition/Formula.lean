import FluentSql.Condition.Connective
import Mathlib.Data.List.Basic

/-!
# Proofs/Condition/Formula — conditions as AND and OR tie them

A list of conditions without parentheses is a list of alternatives, with OR between them, and each
alternative is a list of terms, with AND between them: AND binds tighter.  A `Reading` is such a list,
kept as the terms of its last alternative and what came before them (`Past`), so that a condition
tied on behind it by AND goes into the last alternative, and only there (`Reading.join`).

That decides what one more predicate behind AND asks of a row: it has to hold in every row the whole
admits just when there is no alternative besides the last (`Reading.implied_iff`).
-/

namespace FluentSql

/-- **A condition**: predicates tied by AND and OR. -/
inductive Formula
  | predicate (text : String)
  | and (f g : Formula)
  | or (f g : Formula)
  deriving DecidableEq, Repr

namespace Formula

/-- The predicates from left to right, each as often as it stands there. -/
def predicates : Formula → List String
  | predicate text => [text]
  | and f g | or f g => f.predicates ++ g.predicates

/-- **Whether a condition holds** when its predicates, numbered from some number on, have the given
truth values. -/
def holds (v : Nat → Bool) : Formula → Nat → Bool
  | predicate _, k => v k
  | and f g, k => f.holds v k && g.holds v (k + f.predicates.length)
  | or f g, k => f.holds v k || g.holds v (k + f.predicates.length)

/-- Terms with one more behind them, all of which have to hold. -/
def allOf (fs : List Formula) (f : Formula) : Formula := fs.foldr and f

/-- Alternatives with one more behind them. -/
def anyOf (fs : List Formula) (f : Formula) : Formula := fs.foldr or f

@[simp] theorem allOf_cons (g : Formula) (fs : List Formula) (f : Formula) :
    allOf (g :: fs) f = and g (allOf fs f) := rfl

theorem allOf_append (fs gs : List Formula) (f : Formula) :
    allOf (fs ++ gs) f = allOf fs (allOf gs f) := List.foldr_append ..

@[simp] theorem anyOf_cons (g : Formula) (fs : List Formula) (f : Formula) :
    anyOf (g :: fs) f = or g (anyOf fs f) := rfl

theorem predicates_allOf (fs : List Formula) (f : Formula) :
    (allOf fs f).predicates = fs.flatMap predicates ++ f.predicates := by
  induction fs with
  | nil => rfl
  | cons g fs ih => rw [allOf_cons, predicates, ih, List.flatMap_cons, List.append_assoc]

theorem predicates_anyOf (fs : List Formula) (f : Formula) :
    (anyOf fs f).predicates = fs.flatMap predicates ++ f.predicates := by
  induction fs with
  | nil => rfl
  | cons g fs ih => rw [anyOf_cons, predicates, ih, List.flatMap_cons, List.append_assoc]

/-- **There is no negation**: a condition holds when all its predicates do. -/
theorem holds_of_forall {v : Nat → Bool} {f : Formula} {k : Nat}
    (h : ∀ i, k ≤ i → i < k + f.predicates.length → v i = true) : f.holds v k = true := by
  induction f generalizing k with
  | predicate text => exact h k (Nat.le_refl k) (Nat.lt_succ_self k)
  | and f g hf hg =>
    rw [predicates, List.length_append] at h
    rw [holds, hf fun i hi hlt => h i hi (by omega), hg fun i hi hlt => h i (by omega) (by omega)]
    rfl
  | or f g hf hg =>
    rw [predicates, List.length_append] at h
    rw [holds, hf fun i hi hlt => h i hi (by omega)]
    rfl

/-- Where all terms hold, the last one does. -/
theorem holds_of_allOf {v : Nat → Bool} {fs : List Formula} {f : Formula} {k : Nat}
    (h : (allOf fs f).holds v k = true) :
    f.holds v (k + (fs.flatMap predicates).length) = true := by
  induction fs generalizing k with
  | nil => exact h
  | cons g fs ih =>
    rw [allOf_cons, holds, Bool.and_eq_true] at h
    rw [List.flatMap_cons, List.length_append, ← Nat.add_assoc]
    exact ih h.2

end Formula

open Formula

/-! ## What stands before the condition at hand -/

/-- **What was read before the condition at hand**: the alternatives that are over, and the terms of
the one it belongs to. -/
structure Past where
  earlier : List Formula := []
  terms : List Formula := []
  deriving DecidableEq, Repr

namespace Past

/-- The predicates read before. -/
def predicates (p : Past) : List String := (p.earlier ++ p.terms).flatMap Formula.predicates

/-- **A condition and the connective behind it**: AND goes on with the alternative, OR ends it. -/
def link (p : Past) (f : Formula) : Connective → Past
  | .and => ⟨p.earlier, p.terms ++ [f]⟩
  | .or => ⟨p.earlier ++ [allOf p.terms f], []⟩

/-- What was read in two goes.  The first alternative of the second go is the one the first broke off
in. -/
instance : Append Past where
  append p q := match q.earlier with
    | [] => ⟨p.earlier, p.terms ++ q.terms⟩
    | f :: fs => ⟨p.earlier ++ allOf p.terms f :: fs, q.terms⟩

theorem append_nil (p : Past) : p ++ ({} : Past) = p := congrArg (mk p.earlier) p.terms.append_nil

/-- **A condition is tied to the second go as to the whole.** -/
theorem append_link (p q : Past) (f : Formula) (k : Connective) :
    (p ++ q).link f k = p ++ q.link f k := by
  obtain ⟨earlier, terms⟩ := q
  cases k with
  | and =>
    cases earlier with
    | nil => exact congrArg (mk p.earlier) (List.append_assoc p.terms terms [f])
    | cons g gs => rfl
  | or =>
    cases earlier with
    | nil => exact congrArg (fun g => mk (p.earlier ++ [g]) []) (allOf_append p.terms terms f)
    | cons g gs => exact congrArg (mk · []) (List.append_assoc p.earlier (allOf p.terms g :: gs) _)

/-- No alternative is over behind both goes just when none is behind either. -/
theorem earlier_append_eq_nil_iff {p q : Past} :
    (p ++ q).earlier = [] ↔ p.earlier = [] ∧ q.earlier = [] := by
  obtain ⟨earlier, terms⟩ := q
  cases earlier with
  | nil => exact (and_iff_left rfl).symm
  | cons g gs =>
    have happend : (p ++ mk (g :: gs) terms).earlier = p.earlier ++ allOf p.terms g :: gs := rfl
    rw [happend]
    simp

theorem earlier_link_eq_nil_iff {p : Past} {f : Formula} {k : Connective} :
    (p.link f k).earlier = [] ↔ k = .and ∧ p.earlier = [] := by
  cases k <;> simp [link]

end Past

/-! ## Readings -/

/-- **A list of conditions**: the last one, and what stands before it. -/
structure Reading where
  past : Past := {}
  final : Formula
  deriving DecidableEq, Repr

namespace Reading

/-- **The list as one condition**, AND before OR. -/
def formula (r : Reading) : Formula := anyOf r.past.earlier (allOf r.past.terms r.final)

/-- The list with more before it. -/
def behind (p : Past) (r : Reading) : Reading := { r with past := p ++ r.past }

/-- **One list behind another**, with a connective between the two and no parentheses around
either. -/
def join (r : Reading) (k : Connective) (next : Reading) : Reading :=
  next.behind (r.past.link r.final k)

/-- Lists one behind the other, each but the first behind its connective. -/
def joinAll : List (Connective × Reading) → Option Reading
  | [] => none
  | x :: xs => some (xs.foldl (fun r y => r.join y.1 y.2) x.2)

/-- With one more list at the end there are conditions, and they end as it does. -/
theorem joinAll_concat (xs : List (Connective × Reading)) (x : Connective × Reading) :
    ∃ r, joinAll (xs ++ [x]) = some r ∧ r.final = x.2.final := by
  cases xs with
  | nil => exact ⟨x.2, rfl, rfl⟩
  | cons y ys =>
    have hfold : joinAll (y :: ys ++ [x]) =
        some ((ys ++ [x]).foldl (fun r y => r.join y.1 y.2) y.2) := rfl
    exact ⟨_, hfold, by rw [List.foldl_append]; rfl⟩

/-- **A list that is no choice**: it has no OR of its own. -/
def Conjunctive (r : Reading) : Prop := r.past.earlier = []

instance (r : Reading) : Decidable r.Conjunctive := inferInstanceAs (Decidable (_ = _))

theorem conjunctive_join_iff {r s : Reading} {k : Connective} :
    (r.join k s).Conjunctive ↔ k = .and ∧ r.Conjunctive ∧ s.Conjunctive := by
  rw [Conjunctive, join, behind, Past.earlier_append_eq_nil_iff, Past.earlier_link_eq_nil_iff,
    and_assoc]
  rfl

/-- **Lists together are no choice just when none of them is one and none but the first is tied by
OR.** -/
theorem conjunctive_joinAll_iff {xs : List (Connective × Reading)} :
    (∀ r ∈ joinAll xs, r.Conjunctive) ↔
      (∀ x ∈ xs, x.2.Conjunctive) ∧ ∀ x ∈ xs.tail, x.1 = .and := by
  have hfold (xs : List (Connective × Reading)) (r : Reading) :
      (xs.foldl (fun r y => r.join y.1 y.2) r).Conjunctive ↔
        r.Conjunctive ∧ (∀ y ∈ xs, y.2.Conjunctive) ∧ ∀ y ∈ xs, y.1 = .and := by
    induction xs generalizing r with
    | nil => simp
    | cons y xs ih =>
      rw [List.foldl_cons, ih, conjunctive_join_iff, List.forall_mem_cons, List.forall_mem_cons]
      constructor
      · rintro ⟨⟨hand, hr, hy⟩, hxs, hands⟩
        exact ⟨hr, ⟨hy, hxs⟩, hand, hands⟩
      · rintro ⟨hr, ⟨hy, hxs⟩, hand, hands⟩
        exact ⟨⟨hand, hr, hy⟩, hxs, hands⟩
  cases xs with
  | nil => simp [joinAll]
  | cons x xs =>
    rw [joinAll, List.tail_cons, List.forall_mem_cons, and_assoc, ← hfold xs x.2]
    simp only [Option.mem_some_iff, forall_eq']

/-- One more list that is no choice, tied on by AND, makes none. -/
theorem conjunctive_iff_of_joinAll_concat {xs : List (Connective × Reading)} {r s : Reading}
    (hs : s.Conjunctive) (h : joinAll (xs ++ [(.and, s)]) = some r) :
    r.Conjunctive ↔ (∀ x ∈ xs, x.2.Conjunctive) ∧ ∀ x ∈ xs.tail, x.1 = .and := by
  have hall : (∀ r ∈ joinAll (xs ++ [(.and, s)]), r.Conjunctive) ↔ _ := conjunctive_joinAll_iff
  have htail : (∀ x ∈ (xs ++ [(Connective.and, s)]).tail, x.1 = .and) ↔ ∀ x ∈ xs.tail, x.1 = .and := by
    cases xs with
    | nil => simp
    | cons x xs => simp [or_imp, forall_and]
  simp only [h, Option.mem_some_iff, forall_eq'] at hall
  rw [hall, htail, List.forall_mem_append, List.forall_mem_singleton, and_iff_left hs]

theorem predicates_formula (r : Reading) :
    r.formula.predicates = r.past.predicates ++ r.final.predicates := by
  rw [formula, predicates_anyOf, predicates_allOf, Past.predicates, List.flatMap_append,
    List.append_assoc]

/-- **A last predicate has to hold in all that a list admits just when the list is no choice**: what
makes an earlier alternative true need not make it true. -/
theorem implied_iff {r : Reading} {p : String} (h : r.final = .predicate p) :
    (∀ v : Nat → Bool, r.formula.holds v 0 = true → v r.past.predicates.length = true) ↔
      r.Conjunctive := by
  obtain ⟨⟨earlier, terms⟩, final⟩ := r
  subst h
  cases earlier with
  | nil =>
    refine iff_of_true (fun v hv => ?_) rfl
    have hlast : v (0 + (terms.flatMap Formula.predicates).length) = true := holds_of_allOf hv
    rwa [Nat.zero_add] at hlast
  | cons f fs =>
    refine iff_of_false (fun himplied => ?_) (List.cons_ne_nil f fs)
    -- every predicate is true but the last, which is none of the first alternative
    let last := (Past.mk (f :: fs) terms).predicates.length
    have hle : f.predicates.length ≤ last := by
      simp only [last, Past.predicates, List.cons_append, List.flatMap_cons, List.length_append]
      omega
    have hfirst : f.holds (fun i => i != last) 0 = true :=
      holds_of_forall fun i _ hi => by
        rw [bne_iff_ne]
        omega
    have hlast := himplied (fun i => i != last) (by rw [formula, anyOf_cons, holds, hfirst]; rfl)
    simp [last] at hlast

end Reading

end FluentSql
