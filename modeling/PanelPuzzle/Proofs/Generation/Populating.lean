import Mathlib.Data.List.Sort
import PanelPuzzle.Proofs.Generation.Turns
/-!
# What a populated panel has

The techniques of a panel are drawn, and each of them may be refused.  A group is refused without a plug
to hide.  Any other technique is refused only when something finds no room, which cannot be on an empty
panel.  So the first technique that is no group leaves a goal, and goals stay.

The innermost panel has no plug to hide, and of its techniques one makes plugs.  Those that come before
it, by their priority, are groups and mazes: a plug waits at the end, unless there is a maze.

* `Generation.keeps_chooseTechniques` — what is drawn.
* `Making.works_populate` — what becomes of an empty panel.
-/

namespace PanelPuzzle

/-! ## The techniques that are drawn -/

/-- What the mechanisms of a level have in common, so that no choice of them is one of groups alone. -/
structure Profile.Varied (profile : Profile) : Prop where
  nodup : profile.techniques.Nodup
  fewest : profile.fewestTechniques ≤ profile.mostTechniques
  enough : profile.fewestTechniques ≤ profile.techniques.length
  pos : 0 < profile.fewestTechniques
  several : .group ∈ profile.techniques → 2 ≤ profile.fewestTechniques
  plugs : ∃ kind ∈ profile.techniques, kind.makesPlugs = true

/-- **The mechanisms of every level are varied.** -/
lemma Profile.varied_ofDifficulty (difficulty : Difficulty) : (ofDifficulty difficulty).Varied := by
  cases difficulty <;> exact ⟨by decide, by decide, by decide, by decide, by decide, by decide⟩

/-- A technique that makes plugs is no group. -/
lemma TechniqueKind.ne_group_of_makesPlugs {kind : TechniqueKind} (h : kind.makesPlugs = true) :
    kind ≠ .group := by
  rintro rfl
  cases h

namespace Generation

/-- Whether one technique may be applied before another. -/
def Before (a b : TechniqueKind) : Prop := b.priority ≤ a.priority

instance : DecidableRel Before := fun a b => Nat.decLe b.priority a.priority

instance : Std.Total Before := ⟨fun a b => Nat.le_total b.priority a.priority⟩

instance : IsTrans TechniqueKind Before := ⟨fun _ _ _ hab hbc => Nat.le_trans hbc hab⟩

/-- Techniques are sorted by insertion. -/
lemma byPriority_eq (kinds : List TechniqueKind) : byPriority kinds = kinds.insertionSort Before := by
  have hinsert : ∀ (kind : TechniqueKind) (kinds : List TechniqueKind),
      insertByPriority kind kinds = kinds.orderedInsert Before kind := by
    intro kind kinds
    induction kinds with
    | nil => rfl
    | cons other others ih =>
      rw [insertByPriority, List.orderedInsert_cons, ih]
      rfl
  induction kinds with
  | nil => rfl
  | cons kind kinds ih =>
    rw [List.insertionSort_cons, ← ih, ← hinsert]
    rfl

/-- Among different techniques, at least two if groups are among them, there is one that is no group. -/
lemma exists_ne_group {kinds : List TechniqueKind} (hnodup : kinds.Nodup) (hpos : 0 < kinds.length)
    (hseveral : .group ∈ kinds → 2 ≤ kinds.length) : ∃ kind ∈ kinds, kind ≠ .group := by
  by_contra hall
  push Not at hall
  have hreplicate : kinds = List.replicate kinds.length .group := List.eq_replicate_of_mem hall
  have hgroup : .group ∈ kinds := by
    rw [hreplicate]
    exact List.mem_replicate.mpr ⟨Nat.ne_of_gt hpos, rfl⟩
  have hone := List.nodup_replicate.mp (hreplicate ▸ hnodup)
  exact absurd (hseveral hgroup) (Nat.not_le.mpr (Nat.lt_succ_of_le hone))

/-- **What is drawn for a panel.** -/
structure Drawn (profile : Profile) (innermost : Bool) (kinds : List TechniqueKind) : Prop where
  subset : ∀ kind ∈ kinds, kind ∈ profile.techniques
  sorted : kinds.Pairwise Before
  varied : ∃ kind ∈ kinds, kind ≠ .group
  plugs : innermost = true → ∃ kind ∈ kinds, kind.makesPlugs = true

/-- One of the techniques of the innermost panel makes plugs. -/
lemma keeps_requirePlugs {available selected : List TechniqueKind}
    (havailable : ∃ kind ∈ available, kind.makesPlugs = true)
    (hsubset : ∀ kind ∈ selected, kind ∈ available) :
    Keeps (fun _ => True) (requirePlugs available selected) fun kinds =>
      (∀ kind ∈ kinds, kind ∈ available) ∧ ∃ kind ∈ kinds, kind.makesPlugs = true := by
  unfold requirePlugs
  split
  · rename_i hany
    exact .pure ⟨hsubset, List.any_eq_true.mp hany⟩
  · obtain ⟨kind, hkind, hplugs⟩ := havailable
    have hsome : available.filter (·.makesPlugs) ≠ [] :=
      List.ne_nil_of_mem (List.mem_filter.mpr ⟨hkind, hplugs⟩)
    refine .bind (Draws.keeps_choose_of_ne_nil hsome) fun chosen hchosen => ?_
    obtain ⟨kind, hmem, rfl⟩ := hchosen
    obtain ⟨hkind, hplugs⟩ := List.mem_filter.mp hmem
    refine .pure ⟨fun other hother => ?_, kind, List.mem_append_right _ List.mem_cons_self, hplugs⟩
    rcases List.mem_append.mp hother with hother | hother
    · exact hsubset other (List.mem_of_mem_drop hother)
    · exact List.mem_singleton.mp hother ▸ hkind

/-- **The techniques that are drawn** are some of the level, sorted by priority, and not all of them are
groups.  On the innermost panel one of them makes plugs. -/
lemma keeps_chooseTechniques {profile : Profile} (hprofile : profile.Varied) (innermost : Bool) :
    Keeps (fun _ => True) (chooseTechniques profile innermost) (Drawn profile innermost) := by
  refine .bind (Draws.keeps_shuffle _) fun shuffled hperm => ?_
  refine .bind (Draws.keeps_inRange_of_le hprofile.fewest) fun count hcount => ?_
  extract_lets selected answered
  have hsubset : ∀ kind ∈ selected, kind ∈ profile.techniques := fun kind hkind =>
    hperm.mem_iff.mp (List.mem_of_mem_take hkind)
  have hlength : profile.fewestTechniques ≤ selected.length := by
    rw [List.length_take, hperm.length_eq]
    exact le_min hcount.1 hprofile.enough
  have hvaried : ∃ kind ∈ selected, kind ≠ .group := by
    refine exists_ne_group ?_ (hprofile.pos.trans_le hlength) fun hgroup => ?_
    · exact (List.take_sublist count shuffled).nodup (hperm.nodup_iff.mpr hprofile.nodup)
    · exact (hprofile.several (hsubset _ hgroup)).trans hlength
  -- the order in which they are applied is another matter
  have hanswered : ∀ kinds : List TechniqueKind, (∀ kind ∈ kinds, kind ∈ profile.techniques) →
      (∃ kind ∈ kinds, kind ≠ .group) →
      (innermost = true → ∃ kind ∈ kinds, kind.makesPlugs = true) →
      Keeps (fun _ => True) (answered kinds) (Drawn profile innermost) := by
    intro kinds hkinds hvaried hplugs
    have hmem : ∀ kind, kind ∈ byPriority kinds ↔ kind ∈ kinds := fun kind => by
      rw [byPriority_eq]
      exact List.mem_insertionSort _
    refine .pure ⟨fun kind hkind => hkinds kind ((hmem kind).mp hkind), ?_, ?_, fun hinner => ?_⟩
    · rw [byPriority_eq]
      exact List.pairwise_insertionSort Before kinds
    · exact hvaried.imp fun kind h => ⟨(hmem kind).mpr h.1, h.2⟩
    · exact (hplugs hinner).imp fun kind h => ⟨(hmem kind).mpr h.1, h.2⟩
  cases innermost with
  | false =>
    refine .bind (.pure (R := (· = selected)) rfl) fun kinds hkinds => ?_
    rw [hkinds]
    exact hanswered selected hsubset hvaried nofun
  | true =>
    refine .bind (keeps_requirePlugs hprofile.plugs hsubset) fun kinds hkinds => ?_
    obtain ⟨kind, hkind, hplugs⟩ := hkinds.2
    exact hanswered kinds hkinds.1 ⟨kind, hkind, TechniqueKind.ne_group_of_makesPlugs hplugs⟩
      fun _ => hkinds.2

end Generation

namespace Making

open Generation Desk

variable {d d' : Desk}

/-! ## Their application -/

/-- **Techniques in a row** leave a goal.  Otherwise they change nothing, and one that is no group is
refused only where something finds no room. -/
lemma works_applyAll : ∀ (kinds : List TechniqueKind) {d : Desk}, d.Sound →
    Works d (applyAll kinds) fun _ d' => d.Turns d' ∧
      (d'.HasGoal ∨ d' = d ∧ ((∃ kind ∈ kinds, kind ≠ .group) → d.Crowded))
  | [], _, _ => .pure ⟨.refl, .inr ⟨rfl, fun h => absurd h.choose_spec.1 List.not_mem_nil⟩⟩
  | kind :: kinds, d, hd => by
    refine .bind (works_technique hd kind) fun applied d₁ happlied => .skip (.note _) fun _ _ => ?_
    have hsound := happlied.turns.sound hd
    cases applied with
    | true =>
      refine (Turning.applyAll kinds d₁ hsound).weaken fun _ d' hturns => ?_
      exact ⟨happlied.turns.trans hturns, .inl ((happlied.goal rfl).turns hturns)⟩
    | false =>
      obtain rfl := happlied.refused rfl
      refine (works_applyAll kinds hsound).weaken fun _ d' h => ⟨h.1, h.2.imp_right fun h => ⟨h.1, ?_⟩⟩
      rintro ⟨other, hother, hne⟩
      rcases List.mem_cons.mp hother with rfl | hother
      · exact happlied.crowded rfl hne
      · exact h.2 ⟨other, hother, hne⟩

/-- What comes before a technique that makes plugs. -/
lemma makesPlugs_of_before {kind other : TechniqueKind} (hother : other.makesPlugs = true)
    (h : Before kind other) : kind.makesPlugs = true ∨ kind = .maze ∨ kind = .group := by
  revert h
  cases other <;> cases hother <;> cases kind <;> decide

/-- **On a panel that has to leave a plug and has none to hide** a plug waits, unless there is a maze. -/
lemma works_applyAll_plugs : ∀ (kinds : List TechniqueKind) {d : Desk}, d.Sound →
    d.requirePlug = true → ¬ d.Crowded → ¬ d.Serves → kinds.Pairwise Before →
      (∃ kind ∈ kinds, kind.makesPlugs = true) →
        Works d (applyAll kinds) fun _ d' => d'.Leaves ∨ .maze ∈ kinds ∧ d'.HasBall
  | [], _, _, _, _, _, _, hplugs => absurd hplugs.choose_spec.1 List.not_mem_nil
  | kind :: kinds, d, hd, hrequire, hroom, hnone, hsorted, hplugs => by
    obtain ⟨hfirst, hrest⟩ := List.pairwise_cons.mp hsorted
    refine .bind (works_technique hd kind) fun applied d₁ happlied => .skip (.note _) fun _ _ => ?_
    have hsound := happlied.turns.sound hd
    have hkind : kind.makesPlugs = true ∨ kind = .maze ∨ kind = .group := by
      obtain ⟨other, hother, hmakes⟩ := hplugs
      rcases List.mem_cons.mp hother with rfl | hother
      · exact .inl hmakes
      · exact makesPlugs_of_before hmakes (hfirst other hother)
    -- only a group is refused, for it has no plug to hide
    have happlied' : kind ≠ .group → applied = true := fun hne => by
      by_contra hrefused
      exact hroom (happlied.crowded (Bool.eq_false_iff.mpr hrefused) hne)
    rcases hkind with hmakes | rfl | rfl
    · have hyes := happlied' (TechniqueKind.ne_group_of_makesPlugs hmakes)
      have hleaves := happlied.leaves hyes hmakes hrequire
      exact (Turning.applyAll kinds d₁ hsound).weaken fun _ _ hturns => .inl (hleaves.turns hturns)
    · have hball := happlied.ball (happlied' nofun) rfl
      exact (Turning.applyAll kinds d₁ hsound).weaken fun _ _ hturns =>
        .inr ⟨List.mem_cons_self, hball.turns hturns⟩
    · have hrefused : applied = false := by
        by_contra hyes
        exact hnone (happlied.serves (Bool.not_eq_false _ ▸ hyes) rfl)
      obtain rfl := happlied.refused hrefused
      have hplugs' : ∃ kind ∈ kinds, kind.makesPlugs = true := by
        obtain ⟨other, hother, hmakes⟩ := hplugs
        rcases List.mem_cons.mp hother with rfl | hother
        · cases hmakes
        · exact ⟨other, hother, hmakes⟩
      exact (works_applyAll_plugs kinds hd hrequire hroom hnone hrest hplugs').weaken fun _ _ h =>
        h.imp_right fun h => ⟨List.mem_cons_of_mem _ h.1, h.2⟩

/-- **An empty panel is populated** with a goal.  On the innermost one a plug waits, or there is a
maze. -/
lemma works_populate (hd : d.Sound) (hempty : d.draft.grid = Grid.empty) (hprofile : d.profile.Varied) :
    Works d populate fun _ d' => d.Turns d' ∧ d'.HasGoal ∧
      (d.draft.index = 0 → ¬ d.Serves → d'.Leaves ∨ .maze ∈ d.profile.techniques ∧ d'.HasBall) := by
  refine .draft (.readSession fun s hs => ?_)
  rw [show s.profile = d.profile from congrArg Desk.profile hs]
  refine .skip (.draws (keeps_chooseTechniques hprofile _)) fun kinds hkinds => .setRequirePlug ?_
  have hroom : ¬ (d.require (decide (d.draft.index = 0))).Crowded := not_crowded hempty
  have hsound : (d.require (decide (d.draft.index = 0))).Sound := ⟨hd.plain, hd.colored, hd.small⟩
  have hplugs : Works (d.require (decide (d.draft.index = 0))) (applyAll kinds) fun _ d' =>
      d.draft.index = 0 → ¬ d.Serves → d'.Leaves ∨ .maze ∈ kinds ∧ d'.HasBall := by
    by_cases hinner : d.draft.index = 0 ∧ ¬ d.Serves
    · have hrequire : decide (d.draft.index = 0) = true := decide_eq_true hinner.1
      exact (works_applyAll_plugs kinds hsound hrequire hroom hinner.2 hkinds.sorted
        (hkinds.plugs hrequire)).weaken fun _ _ h _ _ => h
    · exact (works_applyAll kinds hsound).weaken fun _ _ _ hindex hnone => absurd ⟨hindex, hnone⟩ hinner
  refine .bind (.and (works_applyAll kinds hsound) hplugs) fun _ d₁ h => ?_
  obtain ⟨⟨hturns, hgoal⟩, hplug⟩ := h
  have hgoal : d₁.HasGoal := hgoal.resolve_right fun h => hroom (h.2 hkinds.varied)
  have hturns : d.Turns d₁ := .head .require hturns
  -- what comes after the techniques are turns
  have hrest : ∀ {act : Making Unit}, Turning act → Works d₁ act fun _ d' =>
      d.Turns d' ∧ d'.HasGoal ∧
        (d.draft.index = 0 → ¬ d.Serves → d'.Leaves ∨ .maze ∈ d.profile.techniques ∧ d'.HasBall) := by
    intro act hact
    refine (hact d₁ (hturns.sound hd)).weaken fun _ d' hturns' => ?_
    refine ⟨hturns.trans hturns', hgoal.turns hturns', fun hinner hnone => ?_⟩
    exact (hplug hinner hnone).imp (·.turns hturns')
      fun h => ⟨hkinds.subset _ h.1, h.2.turns hturns'⟩
  split
  · exact hrest (.bind (.addHoles _) fun _ => .setRequirePlug _)
  · exact hrest (.setRequirePlug _)

end Making

end PanelPuzzle
