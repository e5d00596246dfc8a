import SyncScript.Proofs.Shell.HereDoc

/-!
# The search for a delimiter

The search starts at `EOF`. As long as it stands at a line of the content it moves on to the next of
`EOF_1`, `EOF_2` and so on. The names are distinct, so every step uses up another line, and the
search is over after at most as many steps as there are lines.
-/

namespace SyncScript.Shell

/-- One step of the search. It moves on from a name that is a line of the content, and is over at
any other name. -/
def nextName? (content : List String) (n : Nat) : Option Nat :=
  if delimiterName n ∈ content then some (n + 1) else none

/-- The number of the name that the search stands at after so many steps, if it gets that far. -/
def nameAfter? (content : List String) : Nat → Option Nat
  | 0 => some 0
  | steps + 1 => (nameAfter? content steps).bind (nextName? content)

variable {content : List String}

lemma nextName?_eq_some_iff {n m : Nat} :
    nextName? content n = some m ↔ delimiterName n ∈ content ∧ m = n + 1 := by
  unfold nextName?
  split
  · rename_i htaken
    simp [htaken, eq_comm]
  · rename_i hfree
    simp [hfree]

lemma nextName?_eq_none_iff {n : Nat} :
    nextName? content n = none ↔ delimiterName n ∉ content := by
  unfold nextName?
  split
  · rename_i htaken
    simp [htaken]
  · rename_i hfree
    simp [hfree]

/-- The search gets past a name exactly when that name and all names before it are lines. -/
lemma nameAfter?_eq_some_iff {steps n : Nat} :
    nameAfter? content steps = some n ↔ n = steps ∧ ∀ m < steps, delimiterName m ∈ content := by
  induction steps generalizing n with
  | zero => simp [nameAfter?, eq_comm]
  | succ steps ih =>
    rw [nameAfter?, Option.bind_eq_some_iff]
    constructor
    · rintro ⟨k, hbefore, hstep⟩
      obtain ⟨rfl, htaken⟩ := ih.1 hbefore
      obtain ⟨hlast, rfl⟩ := nextName?_eq_some_iff.1 hstep
      refine ⟨rfl, fun m hm => ?_⟩
      rcases Nat.lt_succ_iff_lt_or_eq.1 hm with hlt | rfl
      · exact htaken m hlt
      · exact hlast
    · rintro ⟨rfl, htaken⟩
      have hbefore := ih.2 ⟨rfl, fun m hm => htaken m (Nat.lt_succ_of_lt hm)⟩
      exact ⟨steps, hbefore, nextName?_eq_some_iff.2 ⟨htaken steps (Nat.lt_succ_self steps), rfl⟩⟩

/-- From a free name on, there is nothing that the search could reach. -/
lemma nameAfter?_eq {n : Nat} (hfree : delimiterName n ∉ content)
    (htaken : ∀ m < n, delimiterName m ∈ content) (steps : Nat) :
    nameAfter? content steps = if steps ≤ n then some steps else none := by
  split
  · rename_i hle
    exact nameAfter?_eq_some_iff.2 ⟨rfl, fun m hm => htaken m (by omega)⟩
  · rename_i hgt
    refine Option.eq_none_iff_forall_ne_some.2 fun k hk => hfree ?_
    exact (nameAfter?_eq_some_iff.1 hk).2 n (by omega)

lemma delimiterName_zero : delimiterName 0 = "EOF" :=
  rfl

lemma delimiterName_of_pos {n : Nat} (h : 1 ≤ n) : delimiterName n = "EOF_" ++ toString n :=
  if_neg (by omega)

/-- For every content the search stands at each of a number of names in turn, no more of them than
there are lines, and is over at the last one, which becomes the delimiter. No line equals it: it
is `EOF` if this is free, and else `EOF_n` for the least `n` from 1 on for which this is free. -/
theorem delimiter_search (content : List String) :
    delimiter content ∉ content ∧
    ∃ n ≤ content.length,
      (∀ steps, nameAfter? content steps = if steps ≤ n then some steps else none) ∧
      nextName? content n = none ∧
      delimiter content = delimiterName n ∧
      (("EOF" ∉ content ∧ n = 0 ∧ delimiter content = "EOF") ∨
        ("EOF" ∈ content ∧ 1 ≤ n ∧ delimiter content = "EOF_" ++ toString n ∧
          "EOF_" ++ toString n ∉ content ∧
          ∀ m, 1 ≤ m → m < n → "EOF_" ++ toString m ∈ content)) := by
  obtain ⟨n, hn, heq, hfree, htaken⟩ := delimiter_eq content
  refine ⟨delimiter_not_mem content, n, hn, nameAfter?_eq hfree htaken,
    nextName?_eq_none_iff.2 hfree, heq, ?_⟩
  rcases Nat.eq_zero_or_pos n with rfl | hpos
  · rw [delimiterName_zero] at heq hfree
    exact Or.inl ⟨hfree, rfl, heq⟩
  · have hfirst := htaken 0 hpos
    rw [delimiterName_zero] at hfirst
    rw [delimiterName_of_pos hpos] at heq hfree
    refine Or.inr ⟨hfirst, hpos, heq, hfree, fun m hm hlt => ?_⟩
    rw [← delimiterName_of_pos hm]
    exact htaken m hlt

example : delimiter ["EOF_1", "EOF", "EOF_3"] = "EOF_2" := by decide

end SyncScript.Shell
