import PanelPuzzle.Proofs.Generation.Laying
import PanelPuzzle.Proofs.Generation.Turns
import PanelPuzzle.Proofs.Grid.Search
import PanelPuzzle.Proofs.Making.Traps
/-!
# Traps are never repeated

Whatever is made on a panel, in whatever order: as long as covers are applied only where they are legal, each
socket has one trap at most, and only a socket on which the player acts, or which is filled at the start,
has one.  A cover that is not legal could lock such a socket.

* `Operation.IsLegal`, `Workbench.Legal` — what may be done to a panel, and what is reached by it.
* `Making.works_legal`, `Making.Turning.addCoverings` — what may be done is turns.
* `Making.works_resetTrap` — when a trap is placed.
* `Workbench.Legal.traps_in_order` — **the traps of what is reached, and whether there is one more.**
-/

namespace PanelPuzzle

open Generation

/-! ## What may be done -/

/-- A cover is legal if its style may be chosen for the coverable, and all else is. -/
def Operation.IsLegal (d : Draft) : Operation → Prop
  | cover style target => style ∈ Cover.legalStyles d target
  | technique _ | plugs _ | trap => True

/-- **A workbench that is reached by what may be done,** in whatever order and whatever is drawn. -/
inductive Workbench.Legal : Workbench → Prop
  | start (index : Nat) (theme : String) {s : Session} : s.pool = {} → Legal ⟨.new index theme, s⟩
  | run {b : Workbench} (op : Operation) : op.IsLegal b.draft → Legal b → Legal (op.run b).2
  | addCoverings {b : Workbench} (probability : Number) : Legal b →
    Legal (Cover.addCoverings probability b).2
  /-- A draft goes on with any session in which the plugs of the same or another one wait. -/
  | resume {b b' : Workbench} {s : Session} : Legal b → Legal b' →
    s.pool.plugs.Perm b'.session.pool.plugs → Legal ⟨b.draft, s⟩

namespace Making

open Desk

variable {d : Desk}

/-- **Legal operations are turns.** -/
lemma works_legal (hd : d.Sound) {op : Operation} (hlegal : op.IsLegal d.draft) :
    Works d op.run fun _ d' => d.Turns d' := by
  cases op with
  | technique kind => exact .bind (Turning.technique kind d hd) fun _ _ h => .pure h
  | plugs quota => exact .bind (works_distributePlugs quota hd) fun _ _ h => .pure h.1
  | cover style target => exact .bind (works_style hd hlegal) fun _ _ h => .pure h
  | trap => exact .bind (Turning.resetTrap d hd) fun _ _ h => .pure h

/-- **The covering of a panel** is turns. -/
lemma Turning.addCoverings (probability : Number) : Turning (Cover.addCoverings probability) :=
  .of_keeping fun d₀ => (closed_turns d₀).addCoverings probability

/-! ## One more trap -/

/-- **A button needs one free cell.** -/
lemma works_addButton (action : Action) (d : Desk) : Works d (Remote.addButton action) fun place _ =>
    place ≠ none ↔ 0 < d.draft.grid.freeCells := by
  have hcells : Shape.circle.footprint Remote.buttonSize Remote.buttonSize = (1, 1) := by
    decide +kernel
  refine .allocate (fun hfull => ?_) fun r grid hclaims hw hh => ?_
  · rw [hcells] at hfull
    exact .pure (iff_of_false (absurd rfl) fun hpos => Grid.blocked_one_iff.mp (hfull rfl) hpos)
  · rw [hcells] at hw hh
    refine .newElement (.skip .randomColor fun color _ => .push (.pure (iff_of_true nofun ?_)))
    by_contra hnone
    exact Bool.false_ne_true ((Grid.blocked_one_iff.mpr hnone r hw hh).symm.trans hclaims.free)

/-- **A trap is placed** if a socket may get one and there is a free cell for its button. -/
lemma works_resetTrap (d : Desk) : Works d Cover.resetTrap fun placed _ =>
    placed = true ↔ Cover.trapCandidates d.draft ≠ [] ∧ 0 < d.draft.grid.freeCells := by
  refine .draft (.skip (.draws (Draws.keeps_choose_cases _)) fun chosen hchosen => ?_)
  rcases hchosen with ⟨hnil, rfl⟩ | ⟨id, hid, rfl⟩
  · exact .pure (iff_of_false nofun fun h => h.1 hnil)
  · refine .bind (works_addButton (.reset id) d) fun place d' hplace => ?_
    have hsome := List.ne_nil_of_mem hid
    cases place with
    | none => exact .pure (iff_of_false nofun fun h => hplace.mpr h.2 rfl)
    | some place =>
      exact .skip (.note _) fun _ _ => .modifyDraft (.pure (iff_of_true rfl ⟨hsome, hplace.mp nofun⟩))

end Making

/-! ## The result -/

/-- While no plug waits, nothing is asked of the plugs that wait. -/
lemma Workbench.sound_of_pool_eq {b : Workbench} (h : b.session.pool = {}) : b.desk.Sound := by
  have hnone : ∀ p, p ∉ b.desk.pool := fun p hp => by
    change p ∈ (b.session.pool.plugs : Multiset Plug) at hp
    rw [h] at hp
    exact Multiset.notMem_zero p hp
  exact ⟨fun p hp => absurd hp (hnone p), fun p hp => absurd hp (hnone p), fun p hp => absurd hp (hnone p)⟩

namespace Workbench.Legal

open Making

variable {b : Workbench}

/-- **What is reached** has its traps in order, and so will what is reached from there. -/
lemma trapped (h : b.Legal) : b.desk.Sound ∧ b.desk.Sourced ∧ b.draft.Trapped := by
  induction h with
  | start index theme hpool =>
    exact ⟨sound_of_pool_eq hpool, fun _ hc => absurd hc List.not_mem_nil, .new index theme⟩
  | run op hlegal _ ih =>
    have hturns := works_legal ih.1 hlegal _ rfl
    exact ⟨hturns.sound ih.1, hturns.trapped ih.2⟩
  | addCoverings probability _ ih =>
    have hturns := Turning.addCoverings probability _ ih.1 _ rfl
    exact ⟨hturns.sound ih.1, hturns.trapped ih.2⟩
  | resume _ _ hperm ih ih' =>
    refine ⟨ih'.1.of_subset fun p hp => ?_, ih.2⟩
    exact Multiset.mem_coe.mpr (hperm.mem_iff.mp (Multiset.mem_coe.mp hp))

/-- **Traps are never repeated.**  No socket is listed twice; the actions of the panel that bring sockets
back are one for each entry of the list, in its order; and each entry is a socket of the panel on which the
player acts or that is filled at the start.  Whatever the session, one more trap is placed just if such a
socket is not listed yet and a cell is free. -/
theorem traps_in_order (h : b.Legal) : b.draft.Trapped ∧
    ∀ s : Session, (Cover.resetTrap ⟨b.draft, s⟩).1 = true ↔
      (∃ e ∈ b.draft.elements, b.draft.WorthTrap e ∧ e.id ∉ b.draft.resetTargets) ∧
        0 < b.draft.grid.freeCells := by
  refine ⟨h.trapped.2.2, fun s => ?_⟩
  refine (works_resetTrap (Workbench.desk ⟨b.draft, s⟩) ⟨b.draft, s⟩ rfl).trans (and_congr_left' ?_)
  constructor
  · intro hsome
    obtain ⟨id, hid⟩ := List.exists_mem_of_ne_nil _ hsome
    obtain ⟨hnew, e, he, rfl, hworth⟩ := Draft.mem_trapCandidates.mp hid
    exact ⟨e, he, hworth, hnew⟩
  · rintro ⟨e, he, hworth, hnew⟩
    exact List.ne_nil_of_mem (Draft.mem_trapCandidates.mpr ⟨hnew, e, he, rfl, hworth⟩)

/-- The workbench of a panel with a tumbler that has a trap. -/
def trappedBench : Workbench :=
  (Operation.trap.run ((Operation.technique .tumbler).run
    ⟨.new 0 "blue", Config.session {} (.ofWords fun _ => 0)⟩).2).2

/-- A tumbler gets a single trap. -/
theorem traps_in_order_tumbler : trappedBench.Legal ∧ trappedBench.draft.resetTargets = ["u1"] ∧
    trappedBench.draft.Trapped ∧ ∀ s : Session, (Cover.resetTrap ⟨trappedBench.draft, s⟩).1 = false := by
  have hlegal : trappedBench.Legal := .run _ trivial (.run _ trivial (.start 0 "blue" rfl))
  obtain ⟨htrapped, hmore⟩ := traps_in_order hlegal
  refine ⟨hlegal, by decide +kernel, htrapped, fun s => Bool.eq_false_of_not_eq_true fun hplaced => ?_⟩
  obtain ⟨⟨e, he, hworth, hnew⟩, -⟩ := (hmore s).mp hplaced
  have hsockets : ∀ e ∈ trappedBench.draft.elements, e.isSocket = true →
      e.id ∈ trappedBench.draft.resetTargets := by decide +kernel
  exact hnew (hsockets e he hworth.socket)

end Workbench.Legal

end PanelPuzzle
