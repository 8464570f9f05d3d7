import Mathlib.Data.List.Basic

/-!
# Topics and topic filters of MQTT

A topic is cut into levels at each `/`.  A client subscribes to a filter, which looks like a topic.
In a filter the level `+` stands for any one level, and `#`, which comes last, for any number of
them; neither stands for a first level that begins with `$`, which brokers keep for themselves.

`matchesTopic` is the test a broker makes, on the strings themselves.  Programs put topics together
from constant parts and identities, so the facts here are about topics in this form.

* `levels_append` — the levels of a topic put together from parts, provided the first part has no
  slash.
* `matches_iff_eq` — **a filter without wildcards** matches itself and nothing else.
* `not_matches_of_head_ne` — nor does a filter match a topic under another first level.
* `matches_plus_iff` — what a filter `a/+/c` matches among the topics of three levels: those with
  the same first and last level, whatever the middle one is.

An identity with a slash in it would add a level, and one that is `+` or `#` a wildcard; hence the
hypotheses of these.
-/

namespace Lib

namespace Topics

/-- The levels of a topic or filter.  There is always at least one, and a level may be empty. -/
def levels (topic : String) : List (List Char) := topic.toList.splitOn '/'

/-- The filter matches the topic level by level; `#` stands for all the levels that are left. -/
def matchLevels : List (List Char) → List (List Char) → Bool
  | [['#']], _ => true
  | f :: filter, t :: topic => (f = ['+'] || f = t) && matchLevels filter topic
  | [], [] => true
  | _, _ => false

/-- A first level that no wildcard stands for, such as that of the broker's own topics. -/
def reserved (topic : String) : Bool := topic.toList.head? = some '$'

/-- The filter begins with a wildcard, so that it passes over reserved topics. -/
def startsWild (filter : String) : Bool :=
  filter.toList.head? = some '+' || filter.toList.head? = some '#'

/-- `matchesTopic filter topic`: a client subscribed to the filter gets what is published on the
topic. -/
def matchesTopic (filter topic : String) : Bool :=
  !(reserved topic && startsWild filter) && matchLevels (levels filter) (levels topic)

lemma reserved_append {s : String} (hs : s ≠ "") (t : String) : reserved (s ++ t) = reserved s := by
  cases hchars : s.toList with
  | nil => exact absurd (String.toList_injective (hchars.trans String.toList_empty.symm)) hs
  | cons c cs => simp [reserved, String.toList_append, hchars]

/-- A level that stands for itself, being neither of the two wildcards. -/
def Plain (level : List Char) : Prop := level ≠ ['+'] ∧ level ≠ ['#']

/-! ## Levels -/

lemma levels_injective {s t : String} (h : levels s = levels t) : s = t := by
  have hchars : s.toList = t.toList := by
    calc s.toList = ['/'].intercalate (levels s) := (List.intercalate_splitOn '/').symm
      _ = ['/'].intercalate (levels t) := by rw [h]
      _ = t.toList := List.intercalate_splitOn '/'
  exact String.toList_injective hchars

lemma levels_of_not_mem {s : String} (h : '/' ∉ s.toList) : levels s = [s.toList] :=
  List.splitOn_eq_singleton h

/-- The first level ends at the first slash. -/
lemma levels_append {s t : String} (h : '/' ∉ s.toList) :
    levels (s ++ "/" ++ t) = s.toList :: levels t := by
  have hslash : "/".toList = ['/'] := rfl
  rw [levels, String.toList_append, String.toList_append, hslash, List.append_assoc]
  exact List.splitOn_append_cons_self_of_not_mem h _

lemma levels_three {a b c : String} (ha : '/' ∉ a.toList) (hb : '/' ∉ b.toList)
    (hc : '/' ∉ c.toList) :
    levels (a ++ "/" ++ b ++ "/" ++ c) = [a.toList, b.toList, c.toList] := by
  have hparts : a ++ "/" ++ b ++ "/" ++ c = a ++ "/" ++ (b ++ "/" ++ c) := by
    simp only [String.append_assoc]
  rw [hparts, levels_append ha, levels_append hb, levels_of_not_mem hc]

/-! ## Matching -/

lemma matchLevels_cons {f t : List Char} {filter topic : List (List Char)} (hf : Plain f) :
    matchLevels (f :: filter) (t :: topic) = true ↔ f = t ∧ matchLevels filter topic = true := by
  rw [matchLevels]
  · simp [hf.1]
  · rintro h -
    exact hf.2 h

/-- When no level of the filter is a wildcard, the levels must be the same, one by one and in
number. -/
theorem matchLevels_iff_eq : ∀ {filter topic : List (List Char)}, (∀ f ∈ filter, Plain f) →
    (matchLevels filter topic = true ↔ filter = topic)
  | [], [], _ => by simp [matchLevels]
  | [], t :: topic, _ => by simp [matchLevels]
  | f :: filter, [], h => by
      have hf := (List.forall_mem_cons.mp h).1
      rw [matchLevels]
      · simp
      · intro h
        exact hf.2 (List.cons.inj h).1
      · simp
      · simp
  | f :: filter, t :: topic, h => by
      obtain ⟨hf, hfilter⟩ := List.forall_mem_cons.mp h
      rw [matchLevels_cons hf, matchLevels_iff_eq hfilter, List.cons.injEq]

/-- **A filter without wildcards** is a topic, and gets what is published there. -/
theorem matches_iff_eq {filter topic : String} (h : ∀ f ∈ levels filter, Plain f) :
    matchesTopic filter topic = true ↔ filter = topic := by
  rw [matchesTopic, Bool.and_eq_true, matchLevels_iff_eq h]
  constructor
  · rintro ⟨-, hlevels⟩
    exact levels_injective hlevels
  · rintro rfl
    refine ⟨?_, rfl⟩
    cases hr : reserved filter with
    | false => rfl
    | true =>
        have hhead : filter.toList.head? = some '$' := by simpa [reserved] using hr
        simp [startsWild, hhead]

/-- Under another first level nothing is matched, if the filter's own first level stands for
itself. -/
theorem not_matches_of_head_ne {filter topic : String} {f t : List Char} {fs ts : List (List Char)}
    (hfilter : levels filter = f :: fs) (htopic : levels topic = t :: ts) (hf : Plain f)
    (hne : f ≠ t) : matchesTopic filter topic = false := by
  rw [matchesTopic, hfilter, htopic, Bool.and_eq_false_iff]
  refine Or.inr (Bool.eq_false_iff.mpr fun h => ?_)
  exact hne ((matchLevels_cons hf).mp h).1

/-- **A filter with `+` in the middle**, and a topic of three levels: they match just when the other
two levels are the same. -/
theorem matches_plus_iff {a b c a' c' : String} (ha : '/' ∉ a.toList) (hc : '/' ∉ c.toList)
    (ha' : '/' ∉ a'.toList) (hb : '/' ∉ b.toList) (hc' : '/' ∉ c'.toList)
    (hplain : Plain a.toList ∧ Plain c.toList)
    (hfirst : reserved (a' ++ "/" ++ b ++ "/" ++ c') = false) :
    matchesTopic (a ++ "/" ++ "+" ++ "/" ++ c) (a' ++ "/" ++ b ++ "/" ++ c') = true
      ↔ a = a' ∧ c = c' := by
  have hlast : ∀ l : List Char, matchLevels [c.toList] [l] = true ↔ c.toList = l := by
    intro l
    rw [matchLevels_cons hplain.2]
    exact and_iff_left rfl
  have hmiddle : matchLevels ["+".toList, c.toList] [b.toList, c'.toList] = true
      ↔ matchLevels [c.toList] [c'.toList] = true := by
    rw [matchLevels]
    · simp
    · simp
  rw [matchesTopic, hfirst, levels_three ha (by decide) hc, levels_three ha' hb hc', Bool.false_and,
    Bool.not_false, Bool.true_and, matchLevels_cons hplain.1, hmiddle, hlast, String.toList_inj,
    String.toList_inj]

end Topics

end Lib
