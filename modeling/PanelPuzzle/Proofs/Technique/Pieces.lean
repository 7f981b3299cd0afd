import PanelPuzzle.Proofs.Technique.Placing
/-!
# Sockets and switches on a desk

The techniques that put small mechanisms on a panel: holes, screws, round sockets, tumblers and switches,
alone or in a pattern.  All but switches leave a plug for a later panel.

A screw need not have a socket under it.  Only on a panel that has to leave a plug the first one has.
-/

namespace PanelPuzzle

variable {α β : Type} {d d' : Desk}

namespace Making

/-! ## Holes -/

open Technique Desk

lemma sizes_hole : ∀ kind ∈ holeKinds, kind.1.draggable = true ∧
    kind.1.FitsSquare kind.2.1 kind.2.2 := by
  decide +kernel

lemma works_placeHole (d : Desk) : Works d Technique.placeHole (d.Placed True) := by
  refine .skip (.draws (Draws.keeps_choose_of_ne_nil (List.cons_ne_nil _ _))) fun kind hkind => ?_
  obtain ⟨⟨shape, width, height⟩, hmem, rfl⟩ := hkind
  obtain ⟨hdraggable, hsmall⟩ := sizes_hole _ hmem
  refine .allocate (fun hfull => .pure (.refuse hsmall.fitsGrid hfull)) fun r grid hclaims _ _ => ?_
  refine .skip .randomColor fun color hcolor => .newSocket (.skip (.note _) fun _ _ => ?_)
  refine .pushCoverable (.depositTurn hdraggable hcolor hsmall fun d' hdeposit hleaves => .pure ?_)
  exact .socket hclaims rfl rfl rfl (.single hdeposit) hleaves

/-- The first of several numbers from one on. -/
lemma still_inRange {high : Nat} (h : 1 ≤ high) :
    Still (liftM (Draws.inRange 1 high) : Making Nat) (0 < ·) :=
  .draws ((Draws.keeps_inRange_of_le h).weaken fun _ h => h.1)

lemma works_hole (d : Desk) : Works d Technique.hole (d.Placed True) :=
  .skip (still_inRange (by decide)) fun _ hcount =>
    .repeatPlaced (works_placeHole d) (fun d' => (works_placeHole d').weaken fun _ _ h => h.turns) hcount

/-! ## Screws -/

/-- **A screw goes over its hole,** whatever turns have put the hole on the panel. -/
lemma works_placeScrew (first : Bool) (d : Desk) :
    Works d (Technique.placeScrew first) (d.Placed (first = true ∧ d.requirePlug = true)) := by
  have hfits : Grid.fitsGrid (Shape.screw.footprint screwSize screwSize).1
      (Shape.screw.footprint screwSize screwSize).2 = true := by decide +kernel
  refine .allocate (fun hfull => .pure (.refuse hfits hfull)) fun r grid hclaims _ _ => ?_
  refine .skip .randomColor fun color hcolor => .newElement (.readSession fun s hs => ?_)
  have hrequire : s.requirePlug = d.requirePlug := congrArg Desk.requirePlug hs
  extract_lets screwed settled
  have hscrewed : ∀ hole d₁, d.Turns (d₁.push hole) →
      (first = true ∧ d.requirePlug = true → d₁.Leaves) →
      Works d₁ (screwed hole) (d.Placed (first = true ∧ d.requirePlug = true)) := by
    intro hole d₁ hturns hleaves
    refine .push (.newElement (.skip .randomColor fun screwColor _ => ?_))
    refine .skip (.drawn _) fun rotation _ => .skip (.draws (Draws.keeps_inRange_of_le (by decide)))
      fun turns hrange => .skip (.note _) fun _ _ => .pushCoverable (.pure (.apply ?_ ?_ fun hdue => ?_))
    · exact .cover (.addActing hturns rfl rfl rfl) CoverRole.noConfusion
    · refine (hasGoal_push (Element.isGoal_of_target Change.noConfusion ?_)).turns
        (Turns.refl.cover CoverRole.noConfusion)
      exact int32_ofNat_pos (by omega) (by omega)
    · obtain ⟨p, hp, horigin⟩ := hleaves hdue
      exact ⟨p, hp, horigin⟩
  clear_value screwed
  have hsettled : ∀ waits, (first = true ∧ d.requirePlug = true → waits = true) →
      Works (d.withGrid grid).tick (settled waits) (d.Placed (first = true ∧ d.requirePlug = true)) := by
    intro waits hwaits
    unfold settled
    split
    · refine .fillHole hcolor fun c p hp =>
        hscrewed _ _ ?_ fun _ => ⟨p, Multiset.mem_cons_self p _, hp.origin⟩
      have hhole : ∀ {hole : Element}, hole.id = (d.withGrid grid).nextId hole.shape → hole.actions = [] →
          d.Turns ((d.withGrid grid).tick.push hole) := (Turns.refl.claim hclaims).add
      exact ((hhole rfl rfl).tail
        (.deposit ⟨hp.id_eq, hp.origin, hp.plain, hp.colored, hp.small⟩)).tail .fill
    · rename_i hnot
      refine .answer (hscrewed _ _ ?_ fun hdue => absurd (hwaits hdue) hnot)
      exact (Turns.refl.claim hclaims).add rfl rfl
  split
  · exact hsettled true fun _ => rfl
  · rename_i hnot
    refine .skip (.sessionDrawn _) fun waits _ => hsettled waits fun hdue => absurd ?_ hnot
    rw [hrequire, hdue.1, hdue.2, Bool.and_self]

lemma works_screw (d : Desk) :
    Works d Technique.screw (d.Placed (d.requirePlug = true)) := by
  refine .skip (still_inRange (by decide)) fun _ hcount => .repeatPlaced ?_ ?_ hcount
  · exact (works_placeScrew true d).weaken fun _ _ h =>
      ⟨h.turns, h.refused, h.goal, fun happlied hdue => h.leaves happlied ⟨rfl, hdue⟩⟩
  · exact fun d' => (works_placeScrew false d').weaken fun _ _ h => h.turns

/-! ## Round sockets and tumblers -/

lemma sizes_semicircle : ∀ size ∈ semicircleSizes, Shape.circle.FitsSquare size size ∧
    Shape.semicircleLeft.FitsSquare (size / 2) size ∧
    Shape.semicircleRight.FitsSquare (size / 2) size ∧
    Shape.semicircleTop.FitsSquare size (size / 2) ∧
    Shape.semicircleBottom.FitsSquare size (size / 2) := by
  decide +kernel

/-- **Two halves wait.** -/
lemma Works.depositHalves {color : Option UInt8} (hcolor : ∀ c ∈ color, c ≠ Palette.neutral)
    {first second : Shape} {width height width' height' : Number} (hfirst : first.draggable = true)
    (hsecond : second.draggable = true) (hsmall : first.FitsSquare width height)
    (hsmall' : second.FitsSquare width' height') {next : Unit → Making β} {Q : β → Desk → Prop}
    (h : ∀ d', d.Turns d' → d'.Leaves → Works d' (next ()) Q) :
    Works d (Technique.depositHalves color [(first, width, height), (second, width', height')] >>= next)
      Q := by
  cases color with
  | none =>
    refine .assoc (.skip .randomColor fun color₁ hcolor₁ => .assoc ?_)
    refine .depositTurn hfirst hcolor₁ hsmall fun d₁ hturn _ => ?_
    refine .assoc (.skip .randomColor fun color₂ hcolor₂ => .assoc ?_)
    refine .depositTurn hsecond hcolor₂ hsmall' fun d₂ hturn' hleaves => ?_
    exact h _ ((Relation.ReflTransGen.single hturn).tail hturn') hleaves
  | some color =>
    have hcolored := hcolor color rfl
    refine .assoc (.answer (.assoc (.depositTurn hfirst hcolored hsmall fun d₁ hturn _ => ?_)))
    refine .assoc (.answer (.assoc (.depositTurn hsecond hcolored hsmall' fun d₂ hturn' hleaves => ?_)))
    exact h _ ((Relation.ReflTransGen.single hturn).tail hturn') hleaves

lemma works_semicircle (d : Desk) : Works d Technique.semicircle (d.Placed True) := by
  refine .skip (.choose _) fun chosen hchosen => ?_
  have hsize : chosen.getD 1.5 ∈ semicircleSizes := by
    cases chosen with
    | none => exact List.mem_cons_self
    | some size => exact hchosen size rfl
  generalize chosen.getD 1.5 = size at *
  obtain ⟨hcircle, hleft, hright, htop, hbottom⟩ := sizes_semicircle size hsize
  refine .allocate (fun hfull => .skip (.note _) fun _ _ => .pure (.refuse hcircle.fitsGrid hfull))
    fun r grid hclaims _ _ => ?_
  refine .skip .randomColor fun color hcolor => .skip (.sessionDrawn _) fun strict _ => .newSocket ?_
  refine .skip (.note _) fun _ _ => .pushCoverable (.skip (.sessionDrawn _) fun sideways _ => ?_)
  have hcolors : ∀ c ∈ if strict then some color else none, c ≠ Palette.neutral := by
    cases strict with
    | false => exact fun c hc => absurd hc (Option.not_mem_none c)
    | true => exact fun c hc => Option.mem_some_iff.mp hc ▸ hcolor
  cases sideways with
  | false =>
    rw [if_neg Bool.false_ne_true]
    exact .depositHalves hcolors rfl rfl htop hbottom fun d' hturns hleaves =>
      .pure (.socket hclaims rfl rfl rfl hturns hleaves)
  | true =>
    rw [if_pos rfl]
    exact .depositHalves hcolors rfl rfl hleft hright fun d' hturns hleaves =>
      .pure (.socket hclaims rfl rfl rfl hturns hleaves)

lemma works_tumbler (d : Desk) : Works d Technique.tumbler (d.Placed True) := by
  have hfits : Grid.fitsGrid (Shape.tumbler.footprint tumblerSize tumblerSize).1
      (Shape.tumbler.footprint tumblerSize tumblerSize).2 = true := by decide +kernel
  refine .allocate (fun hfull => .skip (.note _) fun _ _ => .pure (.refuse hfits hfull))
    fun r grid hclaims _ _ => ?_
  refine .skip .randomColor fun color hcolor => .newSocket (.skip (.note _) fun _ _ => ?_)
  refine .pushCoverable (.depositTurn rfl hcolor (by decide +kernel) fun d' hdeposit hleaves => .pure ?_)
  exact .socket hclaims rfl rfl rfl (.single hdeposit) hleaves

/-! ## Switches -/

lemma fits_switch : Grid.fitsGrid (Shape.switch.footprint 1 1).1 (Shape.switch.footprint 1 1).2
    = true := by
  decide +kernel

/-- A switch is put on the panel, and the first one is not satisfied from the start. -/
lemma works_placeSwitch (first : Bool) (d : Desk) :
    Works d (Technique.placeSwitch first) fun applied d' => d.Turns d' ∧
      (applied = false → d' = d ∧ d.Crowded) ∧ (applied = true → first = true → d'.HasGoal) := by
  refine .allocate (fun hfull => .pure ?_) fun r grid hclaims _ _ => ?_
  · exact ⟨.refl, fun _ => ⟨rfl, _, _, fits_switch, hfull fits_switch⟩, nofun⟩
  have hrange : (if first then 1 else 0) ≤ switchStates - 1 := by cases first <;> decide
  refine .skip (.draws (Draws.keeps_inRange_of_le hrange)) fun target htarget => ?_
  refine .newSwitch fun color => .skip (.note _) fun _ _ => .pushCoverable (.pure ⟨?_, nofun, fun _ hfirst => ?_⟩)
  · exact ((Relation.ReflTransGen.single (Turn.claim hclaims)).tail
      (.add rfl (Element.inert_of_actions_eq_nil rfl))).tail (.cover CoverRole.noConfusion)
  · have hhigh : target ≤ 3 := htarget.2
    rw [hfirst, if_pos rfl] at htarget
    refine (hasGoal_push (Element.isGoal_of_target Change.noConfusion ?_)).turns
      (.single (.cover CoverRole.noConfusion))
    exact int32_ofNat_pos (by omega) (by omega)

lemma works_switch (d : Desk) : Works d Technique.switch (d.Placed False) := by
  refine .skip (still_inRange (by decide)) fun _ hcount => .repeatPlaced ?_ ?_ hcount
  · exact (works_placeSwitch true d).weaken fun _ _ h =>
      ⟨h.1, h.2.1, fun happlied => h.2.2 happlied rfl, fun _ => False.elim⟩
  · exact fun d' => (works_placeSwitch false d').weaken fun _ _ h => h.1

/-- **The targets of linked switches** are above zero, and there is at least one. -/
lemma keeps_targets (pattern : TargetPattern) {count : Nat} (h : 0 < count) :
    Keeps (fun _ => True) (pattern.targets count) fun targets =>
      targets ≠ [] ∧ ∀ target ∈ targets, 0 < target ∧ target ≤ 3 := by
  have hrange : (List.range (min count 3)) ≠ [] := fun hnil =>
    absurd (List.range_eq_nil.mp hnil) (by omega)
  cases pattern with
  | identical =>
    refine .bind (Draws.keeps_inRange_of_le (by decide)) fun target htarget => .pure ⟨?_, ?_⟩
    · exact fun hnil => absurd (List.replicate_eq_nil_iff _ |>.mp hnil) (Nat.ne_of_gt h)
    · exact fun t ht => List.eq_of_mem_replicate ht ▸ htarget
  | increasing =>
    refine .pure ⟨fun hnil => hrange (List.map_eq_nil_iff.mp hnil), fun target htarget => ?_⟩
    obtain ⟨i, hi, rfl⟩ := List.mem_map.mp htarget
    have hlt : i < min count 3 := List.mem_range.mp hi
    omega
  | decreasing =>
    refine .pure ⟨fun hnil => hrange (List.map_eq_nil_iff.mp hnil), fun target htarget => ?_⟩
    obtain ⟨i, hi, rfl⟩ := List.mem_map.mp htarget
    have hlt : i < min count 3 := List.mem_range.mp hi
    change 0 < 3 - i ∧ 3 - i ≤ 3
    omega
  | themeColored =>
    have hall : ∀ n, Keeps (fun _ => True) (TargetPattern.randomTargets n) fun targets =>
        targets.length = n ∧ ∀ target ∈ targets, 0 < target ∧ target ≤ 3 := by
      intro n
      induction n with
      | zero => exact .pure ⟨rfl, fun t ht => absurd ht List.not_mem_nil⟩
      | succ n ih =>
        refine .bind (Draws.keeps_inRange_of_le (by decide)) fun target htarget => ?_
        refine .bind ih fun others hothers => .pure ⟨congrArg (· + 1) hothers.1, ?_⟩
        exact List.forall_mem_cons.mpr ⟨htarget, hothers.2⟩
    refine (hall count).weaken fun targets htargets => ⟨?_, htargets.2⟩
    exact List.ne_nil_of_length_pos (htargets.1 ▸ h)

/-- A change that comes to the same at the element of its place is the same change. -/
lemma alter_modifyElement_congr {place : Nat} {e : Element} {change change' : Element → Element}
    (he : d.elements[place]? = some e) (h : change e = change' e) :
    d.alter (·.modifyElement place change) = d.alter (·.modifyElement place change') := by
  have hsame : d.elements.modify place change = d.elements.modify place change' := by
    rw [List.modify_eq_set_getElem?, List.modify_eq_set_getElem?, he, Option.map_eq_map,
      Option.map_some, Option.map_eq_map, Option.map_some, h]
  exact congrArg (fun elements => d.alter (·.withElements elements)) hsame

/-- **A switch that taps no longer drive** is locked. -/
lemma Works.undrive {place target : Nat} {e : Element} {next : Unit → Making β} {Q : β → Desk → Prop}
    (he : d.elements[place]? = some e) (hchange : e.change = .state)
    (htarget : e.target = Int32.ofNat target) (h : Works (d.lock place) (next ()) Q) :
    Works d (Making.modifyElement place (·.interact .none .state (Int32.ofNat target)) >>= next) Q := by
  have hlocked : e.interact .none .state (Int32.ofNat target) = e.locked := by
    change { e with method := .none, change := .state, target := Int32.ofNat target } = e.locked
    rw [← hchange, ← htarget]
    rfl
  refine .modifyDraft ?_
  rwa [alter_modifyElement_congr he hlocked]

/-- A linked switch is put on the panel, with a button that drives it or without. -/
lemma works_placeLinked (pattern : TargetPattern) {target : Nat} (htarget : 0 < target ∧ target ≤ 3)
    (d : Desk) : Works d (Technique.placeLinked pattern target) fun placed d' => d.Turns d' ∧
      (placed = none → d' = d ∧ d.Crowded) ∧ (placed ≠ none → d'.HasGoal) := by
  refine .allocate (fun hfull => .pure ?_) fun r grid hclaims _ _ => ?_
  · exact ⟨.refl, fun _ => ⟨rfl, _, _, fits_switch, hfull fits_switch⟩, absurd rfl⟩
  refine .newSwitch fun color => ?_
  extract_lets plain answered
  have hpushed : ∀ {e : Element}, e.id = (d.withGrid grid).nextId e.shape → e.actions = [] →
      d.Turns ((d.withGrid grid).tick.push e) := (Turns.refl.claim hclaims).add
  have hgoal : ∀ {e : Element}, e.change = .state → e.target = Int32.ofNat target →
      ((d.withGrid grid).tick.push e).HasGoal := fun hchange htarget' =>
    hasGoal_push (Element.isGoal_of_target (hchange ▸ Change.noConfusion)
      (htarget' ▸ int32_ofNat_pos htarget.1 (by omega)))
  -- whatever is done to the switch, it becomes coverable at the end
  have hdone : ∀ {d₁ : Desk} {e : Element}, d.Turns d₁ → d₁.elements[d.elements.length]? = some e →
      d₁.HasGoal → Works d₁ (Making.cover d.elements.length .switch >>= answered) fun placed d' =>
        d.Turns d' ∧ (placed = none → d' = d ∧ d.Crowded) ∧ (placed ≠ none → d'.HasGoal) := by
    intro d₁ e hturns he hgoal
    refine .cover he (.pure ⟨.cover hturns CoverRole.noConfusion, nofun, fun _ => ?_⟩)
    exact hgoal.turns (.cover .refl CoverRole.noConfusion)
  have hdriven : ∀ {d₁ : Desk} {e : Element}, d.Turns d₁ → d₁.elements[d.elements.length]? = some e →
      d₁.HasGoal → e.Lockable → e.change = .state → e.target = Int32.ofNat target →
      Works d₁ (Making.modifyElement d.elements.length (·.interact .none .state (Int32.ofNat target)) >>=
        fun _ => Making.cover d.elements.length .switch >>= answered) fun placed d' =>
        d.Turns d' ∧ (placed = none → d' = d ∧ d.Crowded) ∧ (placed ≠ none → d'.HasGoal) := by
    intro d₁ e hturns he hgoal hlockable hchange htarget'
    have hlock := Turn.lock he hlockable
    obtain ⟨e', he', -⟩ := hlock.stays he
    exact .undrive he hchange htarget' (hdone (hturns.tail hlock) he' (hgoal.turns (.single hlock)))
  clear_value answered
  split
  · refine .skip .randomColor fun ball _ => .push (.addButton (fun _ => ?_)
      fun r' grid' button hclaims' hid hactions _ => ?_)
    · exact hdone (hpushed rfl rfl) List.getElem?_concat_length (hgoal rfl rfl)
    · have hbutton := (Turns.refl.claim hclaims').addActing hid hactions trivial
      refine hdriven (.trans (hpushed rfl rfl) hbutton)
        (getElem?_append List.getElem?_concat_length [button]) (.turns ?_ hbutton)
        ⟨⟨rfl, Change.noConfusion⟩, rfl⟩ rfl rfl
      exact hgoal rfl rfl
  · exact .assoc (.push (hdone (hpushed rfl rfl) List.getElem?_concat_length (hgoal rfl rfl)))

lemma works_placeAllLinked (pattern : TargetPattern) : ∀ (targets : List Nat) (d : Desk),
    (∀ target ∈ targets, 0 < target ∧ target ≤ 3) →
      Works d (Technique.placeAllLinked pattern targets) fun ids d' => d.Turns d' ∧
        (targets ≠ [] → ids = [] → d' = d ∧ d.Crowded) ∧ (ids ≠ [] → d'.HasGoal)
  | [], _, _ => .pure ⟨.refl, absurd rfl, absurd rfl⟩
  | target :: targets, d, htargets => by
    obtain ⟨htarget, hothers⟩ := List.forall_mem_cons.mp htargets
    refine .bind (works_placeLinked pattern htarget d) fun placed d₁ hplaced => ?_
    obtain ⟨hturns, hrefused, hgoal⟩ := hplaced
    cases placed with
    | none => exact .pure ⟨hturns, fun _ _ => hrefused rfl, absurd rfl⟩
    | some id =>
      refine .bind (works_placeAllLinked pattern targets d₁ hothers) fun ids d' hmore => .pure ?_
      exact ⟨hturns.trans hmore.1, nofun, fun _ => (hgoal nofun).turns hmore.1⟩

lemma works_placeMaster (linked : List String) (d : Desk) :
    Works d (Technique.placeMaster linked) fun _ d' => d.Turns d' := by
  refine .allocate (fun _ => .last (.skip (.note _) fun _ _ => .pure .refl))
    fun r grid hclaims _ _ => ?_
  refine .newSwitch fun color => .last (.pushCoverable (.pure ?_))
  refine ((Turns.refl.claim hclaims).tail (.add rfl ?_)).cover CoverRole.noConfusion
  intro action haction
  obtain ⟨id, -, rfl⟩ := List.mem_map.mp haction
  trivial

lemma works_switchPattern (d : Desk) : Works d Technique.switchPattern (d.Placed False) := by
  refine .skip (.drawn _) fun number _ => ?_
  refine .skip (.draws (Draws.keeps_inRange_of_le (by decide))) fun count hcount => ?_
  refine .skip (.draws (keeps_targets _ (by omega))) fun targets htargets => .skip (.note _) fun _ _ => ?_
  refine .bind (works_placeAllLinked _ targets d htargets.2) fun linked d₁ hlinked => ?_
  obtain ⟨hturns, hrefused, hgoal⟩ := hlinked
  split
  · rename_i hnone
    exact .pure ⟨hturns, fun _ => hrefused htargets.1 hnone, nofun, nofun⟩
  · rename_i hsome
    refine .bind (works_placeMaster linked d₁) fun _ d' hmaster => .pure ?_
    exact .apply (hturns.trans hmaster) ((hgoal hsome).turns hmaster) False.elim

end Making

end PanelPuzzle
