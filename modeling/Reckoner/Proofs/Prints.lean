import Mathlib.Data.List.Forall2
import Reckoner.Proofs.LineResults
import Reckoner.Session

/-!
# What is printed for a line

Each term of a line is answered by one print, its value or what is wrong with it, which only dim
prints may precede.  The prints of a line are those of its terms, one behind the other, unless one
of them ends early: then a finite value has to be written with a number of places that cannot be
had.

## Key results

- `display_eq_error_iff`: which values cannot be written
- `showResult_eq`: the prints of a line, put together from those of its terms
- `failure_showResult_eq_some_iff`: when the prints of a line end early
- `forall₂_answers_showResult`: each term has its answer otherwise
-/

namespace Reckoner

namespace Number

open Binary64 (datum)

/-! ## Values that cannot be written -/

/-- Whether a double is a number, and not infinite. -/
def IsFinite (x : Float) : Prop := ∃ negative n, datum x = .finite negative n

/-- What `display` finds wrong with a number of places, if something is. -/
def placesError? (places : Int) : Option PlacesError :=
  if places < 0 then some (.negative places)
  else if 2147483647 < places then some (.tooMany places)
  else none

/-- `placesError?` finds places that are not negative too many, or nothing wrong. -/
theorem placesError?_eq_some_iff {places : Int} (h : 0 ≤ places) (e : PlacesError) :
    placesError? places = some e ↔ 2147483647 < places ∧ e = .tooMany places := by
  rw [placesError?, if_neg (by omega)]
  split <;> simp_all [eq_comm]

/-- `display` cannot write a value if it is finite and something is wrong with the places. -/
theorem display_eq_error_iff (places : Option Int) (x : Float) (e : PlacesError) :
    display places x = .error e ↔ IsFinite x ∧ places.bind placesError? = some e := by
  cases places with
  | none => simp [display]
  | some p =>
    -- The places do not matter to what is not a number or is infinite.
    cases hx : datum x with
    | nan | infinite _ => simp [display, IsFinite, hx]
    | finite negative n =>
      have hfinite : IsFinite x := ⟨negative, n, hx⟩
      simp only [display, hx, hfinite, true_and, Option.bind_some, placesError?]
      split
      · simp
      · split <;> simp

end Number

/-- `findSome?` finds one thing or nothing, where all that can be found is the same. -/
theorem findSome?_eq_some_iff_of_same {α β : Type} {f : α → Option β} {found : Option β}
    {P : α → Prop} {as : List α} (h : ∀ a ∈ as, ∀ b, f a = some b ↔ found = some b ∧ P a) (b : β) :
    as.findSome? f = some b ↔ found = some b ∧ ∃ a ∈ as, P a := by
  constructor
  · intro hfind
    obtain ⟨a, ha, hb⟩ := List.exists_of_findSome?_eq_some hfind
    obtain ⟨hfound, hP⟩ := (h a ha b).mp hb
    exact ⟨hfound, a, ha, hP⟩
  · intro ⟨hfound, a, ha, hP⟩
    have hb := (h a ha b).mpr ⟨hfound, hP⟩
    cases hfind : as.findSome? f with
    | none =>
      rw [List.findSome?_eq_none_iff.mp hfind a ha] at hb
      cases hb
    | some b' =>
      -- Something is found, be it for `a` or in front of it, and it is the same.
      obtain ⟨a', ha', hb'⟩ := List.exists_of_findSome?_eq_some hfind
      exact ((h a' ha' b').mp hb').1.symm.trans hfound

/-! ## Prints behind one another -/

namespace Printed

variable {a b c : Printed}

/-- Nothing follows prints that ended early. -/
theorem append_of_failure {e : Number.PlacesError} (h : a.failure = some e) : a ++ b = a := by
  show a.append b = a
  rw [append, h]

/-- Prints follow those that did not end early. -/
theorem append_of_failure_eq_none (h : a.failure = none) :
    a ++ b = { b with prints := a.prints ++ b.prints } := by
  show a.append b = _
  rw [append, h]

/-- Prints without any behind them stay as they are. -/
theorem append_empty (a : Printed) : a ++ ({} : Printed) = a := by
  cases h : a.failure with
  | some e => exact append_of_failure h
  | none =>
    rw [append_of_failure_eq_none h, List.append_nil, ← h]

/-- Prints behind one another end early as the first of them does, and else as the second. -/
theorem failure_append (a b : Printed) : (a ++ b).failure = a.failure.or b.failure := by
  cases h : a.failure with
  | some e =>
    rw [append_of_failure h, h]
    rfl
  | none =>
    rw [append_of_failure_eq_none h]
    rfl

/-- Prints may be put behind one another in any order of doing so. -/
theorem append_assoc (a b c : Printed) : a ++ b ++ c = a ++ (b ++ c) := by
  -- What ends early hides all behind it, on either side.
  cases ha : a.failure with
  | some e => rw [append_of_failure ha, append_of_failure ha, append_of_failure ha]
  | none =>
    have hab := append_of_failure_eq_none (b := b) ha
    rw [append_of_failure_eq_none (b := b ++ c) ha]
    cases hb : b.failure with
    | some e =>
      have hfailure : (a ++ b).failure = some e := by rw [hab, hb]
      rw [append_of_failure hfailure, append_of_failure hb, hab]
    | none =>
      have hfailure : (a ++ b).failure = none := by rw [hab, hb]
      rw [append_of_failure_eq_none hfailure, append_of_failure_eq_none hb, hab, List.append_assoc]

/-- Prints, one behind the other up to the first that ends early. -/
def join (ps : List Printed) : Printed := ps.foldr (· ++ ·) {}

/-- The loop that adds prints from the left makes what `join` makes from the right. -/
theorem foldl_append {α : Type} (f : α → Printed) (as : List α) (a : Printed) :
    as.foldl (fun printed x => printed ++ f x) a = a ++ join (as.map f) := by
  -- On the list, where `append_assoc` moves the parentheses.
  induction as generalizing a with
  | nil => exact (append_empty a).symm
  | cons x as ih =>
    rw [List.foldl_cons, ih, append_assoc]
    rfl

/-- `join` ends early as the first does that ends early. -/
theorem failure_join (ps : List Printed) : (join ps).failure = ps.findSome? Printed.failure := by
  -- On the prints, of which the first that fails counts.
  induction ps with
  | nil => rfl
  | cons p ps ih =>
    have hcons : join (p :: ps) = p ++ join ps := rfl
    rw [hcons, failure_append, ih, List.findSome?_cons]
    cases p.failure <;> rfl

/-- `join` has all prints if none of them ends early. -/
theorem prints_join {ps : List Printed} (h : ∀ p ∈ ps, p.failure = none) :
    (join ps).prints = ps.flatMap Printed.prints := by
  induction ps with
  | nil => rfl
  | cons p ps ih =>
    obtain ⟨hp, hps⟩ := List.forall_mem_cons.mp h
    have hcons : join (p :: ps) = p ++ join ps := rfl
    rw [hcons, append_of_failure_eq_none hp, ih hps, List.flatMap_cons]

end Printed

/-! ## Prints of a line -/

namespace Line

variable {output : OutputSettings} {t : TermResult} {r : LineResult}

/-- The prints of `showResult` in front of a line: its tokens, if that is asked for and there are
any. -/
def tokenPrints (output : OutputSettings) (r : LineResult) : List Print :=
  if output.showTokens && !r.tokens.isEmpty then
    [.line .dim ("tokens: " ++ Token.shownAll r.tokens)]
  else []

/-- The prints of `showTerm` in front of the answer to a term: its tree, if that is asked for and
there is one. -/
def treePrints (output : OutputSettings) (t : TermResult) : List Print :=
  match t.expr with
  | some e => if output.showAst then [.line .dim ("ast: " ++ e.render)] else []
  | none => []

/-- `tokenPrints` are dim. -/
theorem filter_tokenPrints (output : OutputSettings) (r : LineResult) :
    (tokenPrints output r).filter (fun p => p.style ≠ .dim) = [] := by
  unfold tokenPrints
  split <;> rfl

/-- `treePrints` are dim. -/
theorem filter_treePrints (output : OutputSettings) (t : TermResult) :
    (treePrints output t).filter (fun p => p.style ≠ .dim) = [] := by
  unfold treePrints
  split
  · split <;> rfl
  · rfl

/-- The answer to a term: its value, as it is written, or what is wrong. -/
inductive Answers (output : OutputSettings) : TermResult → Print → Prop
  | value {t : TermResult} {v : Float} {text : String} (hv : t.value? = some v)
      (htext : Number.display output.precision v = .ok text) :
      Answers output t (.line .plain text)
  | error {t : TermResult} {r : Report} (hr : t.error? = some r) : Answers output t (.report r)

/-- An answer is not dim. -/
theorem Answers.style_ne_dim {p : Print} (h : Answers output t p) : p.style ≠ .dim := by
  cases h <;> exact Style.noConfusion

/-- `showTerm` prints an answer behind the tree of a term, or nothing but the tree if its value
cannot be written. -/
theorem showTerm_cases (output : OutputSettings) (t : TermResult) :
    (∃ p, Answers output t p ∧ showTerm output t = { prints := treePrints output t ++ [p] }) ∨
    ∃ v e, t.value? = some v ∧ Number.display output.precision v = .error e ∧
      showTerm output t = { prints := treePrints output t, failure := some e } := by
  -- The tree comes first, whatever comes of the term.
  have htree : ∀ outcome : Printed,
      (match t.expr with
        | some e => if output.showAst then .one (.line .dim ("ast: " ++ e.render)) else {}
        | none => {} : Printed) ++ outcome =
      { outcome with prints := treePrints output t ++ outcome.prints } := by
    intro outcome
    rw [treePrints]
    cases t.expr with
    | none => exact Printed.append_of_failure_eq_none rfl
    | some e => cases output.showAst <;> exact Printed.append_of_failure_eq_none rfl
  rw [showTerm]
  cases houtcome : t.outcome with
  | error r =>
    exact Or.inl ⟨_, .error ((t.error?_eq_some_iff r).mpr houtcome), htree _⟩
  | ok v =>
    have hv := (t.value?_eq_some_iff v).mpr houtcome
    -- A value is written, or its places are refused.
    cases htext : Number.display output.precision v with
    | ok text =>
      simp only [htext]
      exact Or.inl ⟨_, .value hv htext, htree _⟩
    | error e =>
      simp only [htext]
      refine Or.inr ⟨v, e, hv, htext, (htree _).trans ?_⟩
      rw [List.append_nil]

/-- `showTerm` ends early if the term has a value that `display` cannot write. -/
theorem failure_showTerm_eq_some_iff (e : Number.PlacesError) :
    (showTerm output t).failure = some e ↔
      ∃ v, t.value? = some v ∧ Number.display output.precision v = .error e := by
  -- Either the answer is printed, or its value cannot be written.
  rcases showTerm_cases output t with ⟨p, hp, hterm⟩ | ⟨v, e', hv, he, hterm⟩
  · rw [hterm]
    constructor
    · intro h
      cases h
    · intro ⟨v, hv, he⟩
      -- What has been answered has either been written or has no value.
      cases hp with
      | value hv' htext =>
        obtain rfl := Option.some.inj (hv'.symm.trans hv)
        rw [htext] at he
        cases he
      | error hr =>
        rw [TermResult.error?_eq_some_iff] at hr
        rw [TermResult.value?_eq_some_iff, hr] at hv
        cases hv
  · rw [hterm, hv]
    simp [he]

/-- `showResult` prints the tokens of a line and behind them what `showTerm` prints for its terms.
-/
theorem showResult_eq (output : OutputSettings) (r : LineResult) :
    showResult output r =
      { prints := tokenPrints output r } ++ Printed.join (r.terms.map (showTerm output)) := by
  rw [showResult, Printed.foldl_append, tokenPrints]
  cases output.showTokens && !r.tokens.isEmpty <;> rfl

/-- `showResult` ends early as the first term does that ends early. -/
theorem failure_showResult (output : OutputSettings) (r : LineResult) :
    (showResult output r).failure = r.terms.findSome? fun t => (showTerm output t).failure := by
  rw [showResult_eq, Printed.failure_append, Printed.failure_join, List.findSome?_map]
  rfl

/-- `showResult` does not end early if no term does. -/
theorem failure_showResult_eq_none_iff :
    (showResult output r).failure = none ↔ ∀ t ∈ r.terms, (showTerm output t).failure = none := by
  rw [failure_showResult, List.findSome?_eq_none_iff]

/-- `showResult` ends early if the line has a finite value and something is wrong with the places.
-/
theorem failure_showResult_eq_some_iff (e : Number.PlacesError) :
    (showResult output r).failure = some e ↔
      output.precision.bind Number.placesError? = some e ∧ ∃ v ∈ r.values, Number.IsFinite v := by
  have hterm : ∀ t ∈ r.terms, ∀ e, (showTerm output t).failure = some e ↔
      output.precision.bind Number.placesError? = some e ∧
        ∃ v, t.value? = some v ∧ Number.IsFinite v := by
    intro t _ e
    simp only [failure_showTerm_eq_some_iff, Number.display_eq_error_iff]
    constructor
    · exact fun ⟨v, hv, hfinite, hplaces⟩ => ⟨hplaces, v, hv, hfinite⟩
    · exact fun ⟨hplaces, v, hv, hfinite⟩ => ⟨v, hv, hfinite, hplaces⟩
  -- The error depends on the places alone, so that it is the same for all terms.
  rw [failure_showResult, findSome?_eq_some_iff_of_same hterm]
  refine and_congr_right fun _ => ?_
  constructor
  · intro ⟨t, ht, v, hv, hfinite⟩
    exact ⟨v, List.mem_filterMap.mpr ⟨t, ht, hv⟩, hfinite⟩
  · intro ⟨v, hv, hfinite⟩
    obtain ⟨t, ht, hvalue⟩ := List.mem_filterMap.mp hv
    exact ⟨t, ht, v, hvalue, hfinite⟩

/-- Unless it ends early, the prints of `showResult` that are not dim answer the terms of a line,
one by one. -/
theorem forall₂_answers_showResult (h : (showResult output r).failure = none) :
    List.Forall₂ (Answers output) r.terms
      ((showResult output r).prints.filter fun p => p.style ≠ .dim) := by
  have hnone := failure_showResult_eq_none_iff.mp h
  -- No term ends early, so that each is answered behind its dim tree.
  have hterm : ∀ t ∈ r.terms, ∃ p, Answers output t p ∧
      (showTerm output t).prints.filter (fun p => p.style ≠ .dim) = [p] := by
    intro t ht
    rcases showTerm_cases output t with ⟨p, hp, hshow⟩ | ⟨_, e, _, _, hshow⟩
    · refine ⟨p, hp, ?_⟩
      rw [hshow, List.filter_append, filter_treePrints, List.nil_append]
      exact List.filter_cons_of_pos (decide_eq_true hp.style_ne_dim)
    · have hfailure := hnone t ht
      rw [hshow] at hfailure
      cases hfailure
  have hprints : (showResult output r).prints.filter (fun p => p.style ≠ .dim) =
      r.terms.flatMap fun t => (showTerm output t).prints.filter fun p => p.style ≠ .dim := by
    rw [showResult_eq, Printed.append_of_failure_eq_none rfl, List.filter_append,
      filter_tokenPrints, Printed.prints_join (List.forall_mem_map.mpr hnone), List.nil_append,
      List.flatMap_map, List.filter_flatMap]
  rw [hprints]
  -- Each term has one print that is not dim, so that the lists go in step.
  generalize r.terms = terms at hterm
  induction terms with
  | nil => exact .nil
  | cons t ts ih =>
    obtain ⟨⟨p, hp, hfilter⟩, hts⟩ := List.forall_mem_cons.mp hterm
    rw [List.flatMap_cons, hfilter]
    exact .cons hp (ih hts)

end Line

end Reckoner
