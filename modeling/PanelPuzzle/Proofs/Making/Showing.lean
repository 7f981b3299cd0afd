import PanelPuzzle.Proofs.Making.Plugs
import PanelPuzzle.Proofs.Making.Scene
/-!
# Following a computation through its scenes

`Making.Shows` follows a computation from a scene to the next one.  There is one rule for each
operation of the workbench.  Most of them say which scene comes next; `Making.Quiet` operations leave
it as it is.  With these rules a computation is read off line by line, in its own order.
-/

namespace PanelPuzzle

variable {α β : Type}

/-! ## The pool -/

/-- **A plug that is taken out of a list** and the others are the list, in another order. -/
lemma PlugPool.perm_of_removeAt? {plugs others : List Plug} {place : Nat} {plug : Plug}
    (h : removeAt? plugs place = some (plug, others)) : plugs.Perm (plug :: others) := by
  unfold removeAt? at h
  split at h
  · rename_i found last hfound hlast
    obtain ⟨rfl, rfl⟩ := Prod.mk.inj (Option.some.inj h)
    obtain ⟨init, rfl⟩ := List.getLast?_eq_some_iff.mp hlast
    by_cases hplace : place < init.length
    · -- the last plug fills the gap
      rw [List.getElem?_append_left hplace] at hfound
      obtain ⟨-, rfl⟩ := List.getElem?_eq_some_iff.mp hfound
      rw [List.set_append_left _ _ hplace, List.dropLast_concat]
      have hgap : (init.set place last).Perm (last :: init.eraseIdx place) :=
        List.set_perm_cons_eraseIdx hplace last
      have hinit : (init[place] :: init.eraseIdx place).Perm init :=
        List.getElem_cons_eraseIdx_perm hplace
      calc init ++ [last]
          |>.Perm (last :: init) := List.perm_append_singleton last init
        _ |>.Perm (last :: init[place] :: init.eraseIdx place) := hinit.symm.cons last
        _ |>.Perm (init[place] :: last :: init.eraseIdx place) := .swap _ _ _
        _ |>.Perm (init[place] :: init.set place last) := hgap.symm.cons _
    · -- the plug is the last one
      rw [List.getElem?_append_right (not_lt.mp hplace)] at hfound
      obtain ⟨hindex, hfound⟩ := List.getElem?_eq_some_iff.mp hfound
      rw [List.length_singleton, Nat.lt_one_iff] at hindex
      simp only [hindex, List.getElem_cons_zero] at hfound
      rw [List.set_append_right _ _ (not_lt.mp hplace), hindex, List.set_cons_zero,
        List.dropLast_concat, hfound]
      exact List.perm_append_singleton _ init
  · cases h

/-- **What a withdrawal answers:** nothing, and the pool is as it was, or a plug from another panel
that satisfies the condition, and the pool is what is left. -/
lemma PlugPool.keeps_pool_withdrawWhere (panel : Nat) (condition : Plug → Bool) (pool : PlugPool) :
    Keeps (fun _ => True) (pool.withdrawWhere panel condition) fun left =>
      (left.1 = none ∧ left.2 = pool) ∨ ∃ plug, left.1 = some plug ∧
        (pool.plugs : Multiset Plug) = plug ::ₘ (left.2.plugs : Multiset Plug) ∧
        plug.origin ≠ panel ∧ condition plug = true := by
  refine .bind (Draws.keeps_choose _) fun chosen hchosen => ?_
  split
  · rename_i plug others hremoved
    obtain ⟨place, hplace, hremoved⟩ := Option.bind_eq_some_iff.mp hremoved
    have hcondition := (List.mem_filter.mp (hchosen place hplace)).2
    rw [(mem_of_removeAt? hremoved).1, Option.any_some, Bool.and_eq_true, decide_eq_true_eq]
      at hcondition
    refine .pure (.inr ⟨plug, rfl, ?_, hcondition⟩)
    exact Multiset.coe_eq_coe.mpr (perm_of_removeAt? hremoved)
  · exact .pure (.inl ⟨rfl, rfl⟩)

namespace Making

lemma bind_apply (act : Making α) (next : α → Making β) (b : Workbench) :
    (act >>= next) b = next (act b).1 (act b).2 := rfl

/-! ## Computations that leave the scene -/

/-- A computation leaves the scene as it is, and its answer satisfies `R`. -/
def Quiet (act : Making α) (R : α → Prop := fun _ => True) : Prop :=
  ∀ b : Workbench, R (act b).1 ∧ (act b).2.scene = b.scene

namespace Quiet

lemma pure {a : α} {R : α → Prop} (h : R a) : Quiet (Pure.pure a) R := fun _ => ⟨h, rfl⟩

lemma bind {act : Making α} {next : α → Making β} {R : α → Prop} {T : β → Prop} (h : Quiet act R)
    (hnext : ∀ a, R a → Quiet (next a) T) : Quiet (act >>= next) T := fun b =>
  ⟨(hnext _ (h b).1 _).1, (hnext _ (h b).1 _).2.trans (h b).2⟩

lemma weaken {act : Making α} {R T : α → Prop} (h : Quiet act R) (hR : ∀ a, R a → T a) :
    Quiet act T := fun b => ⟨hR _ (h b).1, (h b).2⟩

lemma draws {draw : StateM Draws α} {R : α → Prop} (h : Keeps (fun _ => True) draw R) :
    Quiet (liftM draw : Making α) R := fun b => ⟨(h b.session.draws trivial).1, rfl⟩

/-- Nothing is asked of what is drawn. -/
lemma drawn (draw : StateM Draws α) : Quiet (liftM draw : Making α) := draws (.always draw)

/-- What is drawn on behalf of the session. -/
lemma session (draw : StateM Draws α) :
    Quiet (liftM (liftM draw : StateM Session α) : Making α) := fun _ => ⟨trivial, rfl⟩

lemma choose (items : List α) :
    Quiet (liftM (Draws.choose items) : Making (Option α)) fun found => ∀ a ∈ found, a ∈ items :=
  draws (Draws.keeps_choose items)

lemma readDraft : Quiet Making.draft := fun _ => ⟨trivial, rfl⟩

lemma readSession : Quiet Making.session := fun _ => ⟨trivial, rfl⟩

lemma noteSession {event : Event} (h : event.IsIdle) :
    Quiet (liftM (Session.note event) : Making Unit) := by
  intro b
  refine ⟨trivial, ?_⟩
  have hdeposits : (event :: b.session.events).filterMap Event.deposit?
      = b.session.events.filterMap Event.deposit? := List.filterMap_cons_none h.1
  have hhalved : (event :: b.session.events).filterMap Event.halved?
      = b.session.events.filterMap Event.halved? := List.filterMap_cons_none h.2
  change Scene.mk _ _ _ _ _ _ _ _ = Workbench.scene b
  rw [Workbench.scene, ← hdeposits, ← hhalved]
  rfl

lemma note {event : Event} (h : event.IsIdle) : Quiet (Making.note event) := noteSession h

lemma modifyDraft {change : Draft → Draft} (h : ∀ d : Draft, (change d).index = d.index ∧
    (change d).elements = d.elements ∧ (change d).coverables = d.coverables) :
    Quiet (Making.modifyDraft change) := by
  intro b
  obtain ⟨hindex, helements, hcoverables⟩ := h b.draft
  refine ⟨trivial, ?_⟩
  change Scene.mk (change b.draft).index (change b.draft).elements (change b.draft).coverables
    _ _ _ _ _ = Workbench.scene b
  rw [hindex, helements, hcoverables]
  rfl

lemma claim (r : Rect) : Quiet (Making.modifyDraft (·.claim r)) := modifyDraft fun d => by
  rw [Draft.claim]
  generalize d.grid.claim r = grid
  exact ⟨rfl, rfl, rfl⟩

/-- Looking for room leaves the scene. -/
lemma allocateCells (w h : Nat) : Quiet (Making.allocateCells w h) := by
  intro b
  refine ⟨trivial, ?_⟩
  have hstep : Making.allocateCells w h b = (do
      if (Grid.allocate w h b.draft.grid b.session.draws).1.1 = none ∧ Grid.fitsGrid w h then
        Making.note (.noCells w h)
      Pure.pure (Grid.allocate w h b.draft.grid b.session.draws).1.1 : Making (Option Rect))
        ⟨{ b.draft with grid := (Grid.allocate w h b.draft.grid b.session.draws).1.2 },
          { b.session with draws := (Grid.allocate w h b.draft.grid b.session.draws).2 }⟩ := rfl
  rw [hstep]
  dsimp only
  split
  · exact (note ⟨rfl, rfl⟩ _).2
  · rfl

lemma allocate (shape : Shape) (width height : Number) :
    Quiet (Making.allocate shape width height) := allocateCells _ _

end Quiet

/-! ## Computations that change it -/

/-- **From a scene a computation comes to an answer and a scene** that satisfy `R`. -/
def Shows (v : Scene) (act : Making α) (R : α → Scene → Prop) : Prop :=
  ∀ b : Workbench, b.scene = v → R (act b).1 (act b).2.scene

namespace Shows

variable {v : Scene} {R : α → Scene → Prop} {Q : β → Scene → Prop}

lemma pure {a : α} (h : R a v) : Shows v (Pure.pure a) R := fun b hb => by
  change R a b.scene
  rwa [hb]

/-- What comes after is read off the answer and the scene of what comes before. -/
lemma bind {act : Making α} {next : α → Making β} (h : Shows v act R)
    (hnext : ∀ a v', R a v' → Shows v' (next a) Q) : Shows v (act >>= next) Q :=
  fun b hb => hnext _ _ (h b hb) _ rfl

lemma weaken {R' : α → Scene → Prop} {act : Making α} (h : Shows v act R)
    (hR : ∀ a v', R a v' → R' a v') : Shows v act R' := fun b hb => hR _ _ (h b hb)

/-- A computation is followed by nothing. -/
lemma last {act : Making α} (h : Shows v (act >>= Pure.pure) R) : Shows v act R := h

/-- Two things are seen together. -/
lemma and {act : Making α} {T : α → Scene → Prop} (h : Shows v act R) (h' : Shows v act T) :
    Shows v act fun a v' => R a v' ∧ T a v' := fun b hb => ⟨h b hb, h' b hb⟩

/-- What is done in several steps is done step by step. -/
lemma assoc {γ : Type} {act : Making α} {next : α → Making β} {rest : β → Making γ}
    {T : γ → Scene → Prop} (h : Shows v (act >>= fun a => next a >>= rest) T) :
    Shows v (act >>= next >>= rest) T := h

/-- So is what is done in the session. -/
lemma lift {γ : Type} {act : StateM Session α} {next : α → StateM Session β} {rest : β → Making γ}
    {T : γ → Scene → Prop}
    (h : Shows v (liftM act >>= fun a => (liftM (next a) : Making β) >>= rest) T) :
    Shows v ((liftM (act >>= next) : Making β) >>= rest) T := h

/-- What is answered is what comes after goes on with. -/
lemma answer {a : α} {next : α → Making β} (h : Shows v (next a) Q) :
    Shows v (Pure.pure a >>= next) Q := h

/-- A step that leaves the scene. -/
lemma skip {act : Making α} {next : α → Making β} {T : α → Prop} (h : Quiet act T)
    (hnext : ∀ a, T a → Shows v (next a) Q) : Shows v (act >>= next) Q :=
  fun b hb => hnext _ (h b).1 _ ((h b).2.trans hb)

/-- The draft that is read is the one of the scene. -/
lemma draft {next : Draft → Making β}
    (h : ∀ d : Draft, d.index = v.index → d.elements = v.elements → d.coverables = v.coverables →
      Shows v (next d) Q) : Shows v (Making.draft >>= next) Q := by
  rintro b rfl
  exact h b.draft rfl rfl rfl b rfl

lemma newElement {shape : Shape} {width height : Number} {next : Element → Making β}
    (h : Shows v.tick (next (v.fresh shape width height)) Q) :
    Shows v (liftM (Session.newElement shape width height) >>= next) Q := by
  rintro b rfl
  exact h ⟨b.draft, { b.session with lastId := b.session.lastId + 1 }⟩ rfl

lemma push {e : Element} {next : Nat → Making β}
    (h : Shows (v.push e) (next v.elements.length) Q) : Shows v (Making.push e >>= next) Q := by
  rintro b rfl
  exact h ⟨b.draft.push e, b.session⟩ rfl

lemma cover {place : Nat} {role : CoverRole} {next : Unit → Making β}
    (h : Shows (v.cover place role) (next ()) Q) : Shows v (Making.cover place role >>= next) Q := by
  rintro b rfl
  refine h ⟨b.draft.coverElement place role, b.session⟩ ?_
  have helements : b.scene.elements = b.draft.elements := rfl
  unfold Draft.coverElement Scene.cover
  rw [helements]
  cases b.draft.elements[place]? with
  | none => rfl
  | some e => rfl

lemma coverElement {place : Nat} {e : Element} {role : CoverRole} {next : Unit → Making β}
    (he : v.elements[place]? = some e)
    (h : Shows (v.addCoverable (Draft.coverableOf e place role)) (next ()) Q) :
    Shows v (Making.cover place role >>= next) Q := cover (by rwa [Scene.cover_of_getElem? he])

/-- An element becomes coverable as it is put on the panel. -/
lemma pushCoverable {e : Element} {role : CoverRole} {next : Unit → Making β}
    (h : Shows ((v.push e).addCoverable (Draft.coverableOf e v.elements.length role)) (next ()) Q) :
    Shows v (Making.pushCoverable e role >>= next) Q :=
  assoc (push (coverElement (v.getElem?_concat_push e) h))

lemma modifyElement {place : Nat} {change : Element → Element} {next : Unit → Making β}
    (h : Shows (v.modifyElement place change) (next ()) Q) :
    Shows v (Making.modifyElement place change >>= next) Q := by
  rintro b rfl
  exact h ⟨b.draft.modifyElement place change, b.session⟩ rfl

lemma modifyCoverable {place : Nat} {change : Coverable → Coverable} {next : Unit → Making β}
    (h : Shows (v.modifyCoverable place change) (next ()) Q) :
    Shows v (Making.modifyDraft (·.modifyCoverable place change) >>= next) Q := by
  rintro b rfl
  exact h ⟨b.draft.modifyCoverable place change, b.session⟩ rfl

lemma addCoverable {c : Coverable} {next : Unit → Making β}
    (h : Shows (v.addCoverable c) (next ()) Q) :
    Shows v (Making.modifyDraft (·.addCoverable c) >>= next) Q := by
  rintro b rfl
  exact h ⟨b.draft.addCoverable c, b.session⟩ rfl

lemma noteHalved {id : String} {size : Number} {next : Unit → Making β}
    (h : Shows (v.noteHalved id) (next ()) Q) :
    Shows v (Making.note (.semicirclePlaced id size) >>= next) Q := by
  rintro b rfl
  exact h ⟨b.draft, { b.session with events := .semicirclePlaced id size :: b.session.events }⟩ rfl

lemma deposit {plug : Plug} {next : Unit → Making β} (h : Shows (v.deposit plug) (next ()) Q) :
    Shows v (liftM (Session.deposit plug) >>= next) Q := by
  rintro b rfl
  refine h _ ?_
  have hpool : ((b.session.pool.plugs ++ [plug] : List Plug) : Multiset Plug)
      = plug ::ₘ (b.session.pool.plugs : Multiset Plug) :=
    Multiset.coe_eq_coe.mpr (List.perm_append_singleton plug _)
  change Scene.mk _ _ _ ((b.session.pool.plugs ++ [plug] : List Plug) : Multiset Plug) _ _ _ _ = _
  rw [hpool]
  rfl

lemma depositPlug {shape : Shape} {width height : Number} {color : UInt8} {next : Unit → Making β}
    (h : ∀ remote,
      Shows (v.tick.deposit (v.freshPlug shape width height color remote)) (next ()) Q) :
    Shows v (Making.depositPlug shape width height color >>= next) Q := by
  change Shows v (Making.draft >>= fun d =>
    liftM (Session.depositPlug d.index shape width height color) >>= next) Q
  refine draft fun d hindex _ _ => ?_
  rw [hindex]
  refine lift (newElement (lift ?_))
  refine skip (T := fun _ => True) (fun b => ⟨trivial, rfl⟩) fun s _ => lift ?_
  exact skip (Quiet.session _) fun remote _ => deposit (h remote)

lemma withdrawWhere {panel : Nat} {condition : Plug → Bool} {next : Option Plug → Making β}
    (hnone : Shows v (next none) Q)
    (hsome : ∀ plug rest, v.pool = plug ::ₘ rest → plug.origin ≠ panel → condition plug = true →
      Shows (v.withPool rest) (next (some plug)) Q) :
    Shows v (liftM (Session.withdrawWhere panel condition) >>= next) Q := by
  rintro b rfl
  have hanswer := (PlugPool.keeps_pool_withdrawWhere panel condition b.session.pool
    b.session.draws trivial).1
  have hstep : (liftM (Session.withdrawWhere panel condition) : Making (Option Plug)) b
      = ((b.session.pool.withdrawWhere panel condition b.session.draws).1.1,
        ⟨b.draft, { b.session with
          pool := (b.session.pool.withdrawWhere panel condition b.session.draws).1.2
          draws := (b.session.pool.withdrawWhere panel condition b.session.draws).2 }⟩) := rfl
  rw [Making.bind_apply, hstep]
  generalize b.session.pool.withdrawWhere panel condition b.session.draws = answer at hanswer
  obtain ⟨⟨found, left⟩, draws⟩ := answer
  obtain ⟨rfl, rfl⟩ | ⟨plug, rfl, hpool, horigin, hcondition⟩ := hanswer
  · exact hnone ⟨b.draft, { b.session with draws }⟩ rfl
  · exact hsome plug left.plugs hpool horigin hcondition
      ⟨b.draft, { b.session with pool := left, draws }⟩ rfl

lemma recordPlacement {plug : Plug} {panel : Nat} {next : Unit → Making β}
    (hpanel : v.index = panel) (h : Shows (v.record plug) (next ()) Q) :
    Shows v (liftM (Session.recordPlacement plug panel) >>= next) Q := by
  rintro b rfl
  obtain rfl := hpanel
  exact h ⟨b.draft, { b.session with
    placements := b.session.placements ++ [⟨plug.element.id, plug.origin, b.draft.index⟩] }⟩ rfl

end Shows

end Making

end PanelPuzzle
