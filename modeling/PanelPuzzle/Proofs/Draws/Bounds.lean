import PanelPuzzle.Proofs.Making.Keeping
import PanelPuzzle.Making.Session
/-!
# What draws can come out as

A number below a span is below it, whatever the words are.  The word of lower weight carries only where
the product of the word leaves room for that, `keeps_below`.  So a list with items has one to choose, and
a color that is drawn is never the neutral one.

Colors are drawn again until one can be used, and the draws are counted only so that they end.
`DrawnUntil` is the loop without a count: what it gives within the count is what is drawn,
`drawColor_eq` and `drawOtherColor_eq`.
-/

namespace PanelPuzzle

variable {α : Type}

namespace Draws

/-- **A number below a span is below it.** -/
lemma keeps_below {span : Nat} (hspan : 0 < span) :
    Keeps (fun _ => True) (below span) (· < span) := by
  refine .bind (R := fun _ => True) (.always _) fun word _ => ?_
  have hword : (word.toNat + 1) * span ≤ wordCount * span :=
    Nat.mul_le_mul_right span (Nat.succ_le_of_lt word.toNat_lt)
  rw [Nat.succ_mul] at hword
  rw [if_neg (Nat.ne_of_gt hspan)]
  generalize word.toNat * span = product at *
  have hsplit := Nat.div_add_mod product wordCount
  have hlt := Nat.mod_lt product (show 0 < wordCount by decide)
  unfold wordCount at *
  extract_lets whole fraction
  split
  · -- the whole part is not the greatest one, for then the fraction would be small
    refine .bind (R := fun _ => True) (.always _) fun lower _ => .pure ?_
    split <;> omega
  · exact .pure (by omega)

/-- A number of a range is in it. -/
lemma keeps_inRange_of_le {low high : Nat} (h : low ≤ high) :
    Keeps (fun _ => True) (inRange low high) fun n => low ≤ n ∧ n ≤ high :=
  .bind (keeps_below (Nat.succ_pos _)) fun offset hoffset => .pure (by omega)

/-- **A list with items has one to choose.** -/
lemma keeps_choose_of_ne_nil {items : List α} (h : items ≠ []) :
    Keeps (fun _ => True) (choose items) fun found => ∃ a ∈ items, found = some a := by
  have hpos := List.length_pos_iff.mpr h
  unfold choose
  rw [if_neg (Nat.ne_of_gt hpos)]
  refine .bind (keeps_below hpos) fun i hi => .pure ⟨items[i], List.getElem_mem hi, ?_⟩
  exact List.getElem?_eq_getElem hi

/-- **What is drawn when a draw is repeated while it is refused,** and after how many draws. -/
inductive DrawnUntil (act : StateM Draws α) (refused : α → Prop) : Nat → Draws → α × Draws → Prop
  | now {d : Draws} (h : ¬refused (act d).1) : DrawnUntil act refused 1 d (act d)
  | again {d : Draws} {count : Nat} {drawn : α × Draws} (h : refused (act d).1)
      (rest : DrawnUntil act refused count (act d).2 drawn) :
      DrawnUntil act refused (count + 1) d drawn

/-- **A bound that is not met makes no difference.** -/
lemma DrawnUntil.run_eq {act : StateM Draws α} {refused : α → Prop} [DecidablePred refused]
    {run : Nat → StateM Draws α}
    (hrun : ∀ tries, run (tries + 1) = act >>= fun a => if refused a then run tries else pure a)
    {count tries : Nat} {d : Draws} {drawn : α × Draws}
    (h : DrawnUntil act refused count d drawn) (hcount : count ≤ tries) :
    run tries d = drawn := by
  induction h generalizing tries with
  | @now d h =>
    obtain ⟨tries, rfl⟩ : ∃ n, tries = n + 1 := ⟨tries - 1, by omega⟩
    rw [hrun]
    exact congrFun (if_neg h) (act d).2
  | @again d count drawn h _ ih =>
    obtain ⟨tries, rfl⟩ : ∃ n, tries = n + 1 := ⟨tries - 1, by omega⟩
    calc run (tries + 1) d = run tries (act d).2 := by
          rw [hrun]
          exact congrFun (if_pos h) (act d).2
      _ = drawn := ih (by omega)

/-- Nothing is chosen only if there is nothing to choose. -/
lemma keeps_choose_cases (items : List α) : Keeps (fun _ => True) (choose items) fun found =>
    (items = [] ∧ found = none) ∨ ∃ a ∈ items, found = some a := by
  by_cases h : items = []
  · subst h
    exact .pure (Or.inl ⟨rfl, rfl⟩)
  · exact (keeps_choose_of_ne_nil h).weaken fun _ hfound => Or.inr hfound

end Draws

namespace Session

/-- **A color that is drawn is not the neutral one.** -/
lemma keeps_drawColor : ∀ tries, Keeps (fun _ => True) (drawColor tries) (· ≠ Palette.neutral)
  | 0 => .pure (by decide)
  | tries + 1 => by
    refine .bind (.always _) fun number _ => ?_
    dsimp only
    split
    · exact keeps_drawColor tries
    · rename_i hcolor
      exact .pure hcolor

variable {count tries : Nat} {d : Draws} {drawn : UInt8 × Draws}

/-- **A color that comes in time is drawn,** however many more draws there could have been. -/
lemma drawColor_eq
    (h : Draws.DrawnUntil (UInt8.ofNat <$> Draws.below Palette.colors.length) (· = Palette.neutral)
      count d drawn) (hcount : count ≤ tries) : drawColor tries d = drawn :=
  h.run_eq (fun _ => rfl) hcount

/-- So is a color other than the given one. -/
lemma drawOtherColor_eq {given : UInt8}
    (h : Draws.DrawnUntil (drawColor colorTries) (· = given) count d drawn)
    (hcount : count ≤ tries) : drawOtherColor given tries d = drawn :=
  h.run_eq (fun _ => rfl) hcount

end Session

end PanelPuzzle
