import Mathlib.Tactic.Common
import PanelPuzzle.Draws.Basic
/-!
# What a computation keeps

Making a puzzle is state passing, and what is to be known of its results is the same at every step:
the state stays good, and the answer is good.  `Keeps` says so of one computation, and `Keeps.bind`
of two in a row, so that a fact about a whole making is read off it line by line.
-/

namespace PanelPuzzle

variable {σ α β : Type}

/-- **From a state with `I` a computation leaves a state with `I`,** and its answer satisfies `R`. -/
def Keeps (I : σ → Prop) (act : StateM σ α) (R : α → Prop) : Prop :=
  ∀ s : σ, I s → R (act s).1 ∧ I (act s).2

namespace Keeps

variable {I : σ → Prop} {R : α → Prop} {Q : β → Prop}

lemma pure {a : α} (h : R a) : Keeps I (Pure.pure a) R := fun _ hs => ⟨h, hs⟩

/-- Nothing is asked of the state, and nothing is known of the answer. -/
lemma always (act : StateM σ α) : Keeps (fun _ => True) act fun _ => True :=
  fun _ _ => ⟨trivial, trivial⟩

lemma bind {act : StateM σ α} {next : α → StateM σ β} (h : Keeps I act R)
    (hnext : ∀ a, R a → Keeps I (next a) Q) : Keeps I (act >>= next) Q :=
  fun s hs => hnext _ (h s hs).1 _ (h s hs).2

lemma weaken {R' : α → Prop} {act : StateM σ α} (h : Keeps I act R) (hR : ∀ a, R a → R' a) :
    Keeps I act R' := fun s hs => ⟨hR _ (h s hs).1, (h s hs).2⟩

/-- Two things are kept together. -/
lemma and {J : σ → Prop} {T : α → Prop} {act : StateM σ α} (h : Keeps I act R)
    (h' : Keeps J act T) : Keeps (fun s => I s ∧ J s) act fun a => R a ∧ T a :=
  fun s hs => ⟨⟨(h s hs.1).1, (h' s hs.2).1⟩, (h s hs.1).2, (h' s hs.2).2⟩

/-- From a state with more than `I` it may be easier to keep `I`. -/
lemma of_imp {J : σ → Prop} {act : StateM σ α} (h : Keeps J act R) (hI : ∀ s, J s → I s) {s : σ}
    (hs : J s) : R (act s).1 ∧ I (act s).2 := ⟨(h s hs).1, hI _ (h s hs).2⟩

end Keeps

/-- What is chosen is a member of the list. -/
lemma Draws.keeps_choose (items : List α) :
    Keeps (fun _ => True) (choose items) fun found => ∀ a ∈ found, a ∈ items := by
  unfold choose
  split
  · exact .pure fun a ha => absurd ha (Option.not_mem_none a)
  · exact .bind (.always _) fun i _ => .pure fun a ha => List.mem_of_getElem? ha

end PanelPuzzle
