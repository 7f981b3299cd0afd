import PanelPuzzle.Proofs.Draws.Bounds
import PanelPuzzle.Proofs.Grid.Room
import PanelPuzzle.Proofs.Making.Claiming
import PanelPuzzle.Proofs.Making.Showing
/-!
# The desk: a workbench without draws and events

A scene leaves out where things lie and how many remote mechanisms there are.  The `Desk` of a workbench
leaves out less: the whole draft is on it, and of the session all but the draws, what is asked for and
what happened.  The order of the pool is left out too, as draws decide what is taken out of it.

`Making.Works` follows a computation from a desk to the next one.  The search for room has two outcomes,
and both tell something of the grid; whatever else is done to the draft has one rule,
`Works.modifyDraft`.  `Making.Still` operations leave the desk, and `Making.Keeping` ones keep a property
of it.
-/

namespace PanelPuzzle

variable {α β : Type}

/-- **A plug that a panel may take is found.** -/
lemma PlugPool.keeps_withdrawWhere_ne_none {panel : Nat} {condition : Plug → Bool} {pool : PlugPool}
    {plug : Plug} (hplug : plug ∈ pool.plugs) (horigin : plug.origin ≠ panel)
    (hcondition : condition plug = true) :
    Keeps (fun _ => True) (pool.withdrawWhere panel condition) fun left => left.1 ≠ none := by
  obtain ⟨i, hi⟩ := List.mem_iff_getElem?.mp hplug
  have hplaces : (List.range pool.size).filter (fun place => pool.plugs[place]?.any fun plug =>
      plug.origin ≠ panel && condition plug) ≠ [] := by
    refine List.ne_nil_of_mem (List.mem_filter.mpr ⟨?_, ?_⟩ : i ∈ _)
    · exact List.mem_range.mpr (List.getElem?_eq_some_iff.mp hi).1
    · rw [hi, Option.any_some, hcondition, Bool.and_true]
      exact decide_eq_true horigin
  refine .bind (Draws.keeps_choose_of_ne_nil hplaces) fun chosen hchosen => ?_
  obtain ⟨place, hplace, rfl⟩ := hchosen
  have hlt := List.mem_range.mp (List.mem_filter.mp hplace).1
  have hlast := List.getLast?_eq_some_getLast (List.ne_nil_of_length_pos (Nat.zero_lt_of_lt hlt))
  rw [Option.bind_some, removeAt?, List.getElem?_eq_getElem hlt, hlast]
  exact .pure nofun

/-- **The desk of a workbench.** -/
structure Desk where
  draft : Draft
  profile : Profile
  /-- Whether the panel has to leave a plug. -/
  requirePlug : Bool
  pool : Multiset Plug
  placements : List Placement
  lastId : Nat

/-- The desk of a workbench. -/
def Workbench.desk (b : Workbench) : Desk where
  draft := b.draft
  profile := b.session.profile
  requirePlug := b.session.requirePlug
  pool := b.session.pool.plugs
  placements := b.session.placements
  lastId := b.session.lastId

namespace Desk

/-- The elements of the panel. -/
abbrev elements (d : Desk) : List Element := d.draft.elements

/-- The desk with another draft. -/
def alter (d : Desk) (change : Draft → Draft) : Desk := { d with draft := change d.draft }

/-- The id that the next element gets. -/
def nextId (d : Desk) (shape : Shape) : String := shape.idOf (d.lastId + 1)

/-- The next element of a shape and a size. -/
def fresh (d : Desk) (shape : Shape) (width height : Number) : Element :=
  .numbered shape width height (d.lastId + 1)

/-- The desk when one more number has been given. -/
def tick (d : Desk) : Desk := { d with lastId := d.lastId + 1 }

/-- The desk with another grid. -/
def withGrid (d : Desk) (grid : Grid) : Desk := d.alter fun draft => { draft with grid }

/-- A free rectangle, and the grid on which it is claimed.  The grid is a variable where this is
used: its cells are never computed. -/
structure Claims (d : Desk) (r : Rect) (grid : Grid) : Prop where
  free : d.draft.grid.isFree r = true
  grid_eq : grid = d.draft.grid.claim r

/-- The desk with one more element. -/
def push (d : Desk) (e : Element) : Desk := d.alter (·.push e)

/-- The desk with several new elements. -/
def build (d : Desk) (es : List Element) : Desk :=
  { d with draft := d.draft.withElements (d.elements ++ es), lastId := d.lastId + es.length }

/-- The desk with one more thing to cover. -/
def addCoverable (d : Desk) (c : Coverable) : Desk := d.alter (·.addCoverable c)

/-- The desk with other plugs in the pool. -/
def withPool (d : Desk) (pool : Multiset Plug) : Desk := { d with pool }

/-- The desk with plugs that are in hand put back into the pool. -/
def hold (d : Desk) (hand : Multiset Plug) : Desk := d.withPool (d.pool + hand)

/-- The desk with one more plug in the pool. -/
def deposit (d : Desk) (plug : Plug) : Desk := d.withPool (plug ::ₘ d.pool)

/-- The desk with one more placement on this panel. -/
def record (d : Desk) (plug : Plug) : Desk :=
  { d with placements := d.placements ++ [⟨plug.element.id, plug.origin, d.draft.index⟩] }

/-- The next plug of a panel. -/
def freshPlug (d : Desk) (shape : Shape) (width height : Number) (color : UInt8) (remote : Bool) :
    Plug where
  element := { d.fresh shape width height with
    elevation := .raised, color := .plain color }.interact .drag .none 0
  origin := d.draft.index
  remote

/-- The coverable record of an element that is put on the panel. -/
def pushCoverable (d : Desk) (e : Element) (role : CoverRole) : Desk :=
  (d.push e).addCoverable (Draft.coverableOf e d.elements.length role)

lemma build_nil (d : Desk) : d.build [] = d := by
  rw [build, List.append_nil]
  rfl

lemma build_cons (d : Desk) (e : Element) (es : List Element) :
    d.build (e :: es) = (d.tick.push e).build es := by
  rw [build, build, List.append_cons, List.length_cons, Nat.add_comm es.length, ← Nat.add_assoc]
  rfl

/-- What is in hand and what is left make up the pool. -/
lemma hold_withPool {d : Desk} {rest hand : Multiset Plug} (h : d.pool = rest + hand) :
    (d.withPool rest).hold hand = d := by
  rw [hold, withPool, withPool, ← h]

lemma hold_zero (d : Desk) : d.hold 0 = d := by
  rw [hold, withPool, add_zero]

end Desk

namespace Making

/-! ## Computations that leave the desk -/

/-- A computation leaves the desk as it is, and its answer satisfies `R`. -/
def Still (act : Making α) (R : α → Prop := fun _ => True) : Prop :=
  ∀ b : Workbench, R (act b).1 ∧ (act b).2.desk = b.desk

namespace Still

lemma pure {a : α} {R : α → Prop} (h : R a) : Still (Pure.pure a) R := fun _ => ⟨h, rfl⟩

lemma bind {act : Making α} {next : α → Making β} {R : α → Prop} {T : β → Prop} (h : Still act R)
    (hnext : ∀ a, R a → Still (next a) T) : Still (act >>= next) T := fun b =>
  ⟨(hnext _ (h b).1 _).1, (hnext _ (h b).1 _).2.trans (h b).2⟩

/-- What is drawn is known as far as it is known of every stream. -/
lemma draws {draw : StateM Draws α} {R : α → Prop} (h : Keeps (fun _ => True) draw R) :
    Still (liftM draw : Making α) R := fun b => ⟨(h b.session.draws trivial).1, rfl⟩

/-- Nothing is asked of what is drawn. -/
lemma drawn (draw : StateM Draws α) : Still (liftM draw : Making α) := draws (.always draw)

/-- What is drawn on behalf of the session. -/
lemma session {draw : StateM Draws α} {R : α → Prop} (h : Keeps (fun _ => True) draw R) :
    Still (liftM (liftM draw : StateM Session α) : Making α) R := fun b =>
  ⟨(h b.session.draws trivial).1, rfl⟩

lemma sessionDrawn (draw : StateM Draws α) :
    Still (liftM (liftM draw : StateM Session α) : Making α) := session (.always draw)

/-- **A random color is not the neutral one.** -/
lemma randomColor : Still (liftM Session.randomColor : Making UInt8) (· ≠ Palette.neutral) :=
  session (Session.keeps_drawColor _)

lemma choose (items : List α) :
    Still (liftM (Draws.choose items) : Making (Option α)) fun found => ∀ a ∈ found, a ∈ items :=
  draws (Draws.keeps_choose items)

lemma readDraft : Still Making.draft := fun _ => ⟨trivial, rfl⟩

lemma readSession : Still Making.session := fun _ => ⟨trivial, rfl⟩

lemma noteSession (event : Event) : Still (liftM (Session.note event) : Making Unit) :=
  fun _ => ⟨trivial, rfl⟩

lemma note (event : Event) : Still (Making.note event) := noteSession event

end Still

/-! ## Computations that change it -/

/-- **From a desk a computation comes to an answer and a desk** that satisfy `R`. -/
def Works (d : Desk) (act : Making α) (R : α → Desk → Prop) : Prop :=
  ∀ b : Workbench, b.desk = d → R (act b).1 (act b).2.desk

namespace Works

variable {d : Desk} {R : α → Desk → Prop} {Q : β → Desk → Prop}

lemma pure {a : α} (h : R a d) : Works d (Pure.pure a) R := fun b hb => by
  change R a b.desk
  rwa [hb]

/-- What comes after is read off the answer and the desk of what comes before. -/
lemma bind {act : Making α} {next : α → Making β} (h : Works d act R)
    (hnext : ∀ a d', R a d' → Works d' (next a) Q) : Works d (act >>= next) Q :=
  fun b hb => hnext _ _ (h b hb) _ rfl

lemma weaken {R' : α → Desk → Prop} {act : Making α} (h : Works d act R)
    (hR : ∀ a d', R a d' → R' a d') : Works d act R' := fun b hb => hR _ _ (h b hb)

/-- Two things are told of the same computation. -/
lemma and {T : α → Desk → Prop} {act : Making α} (h : Works d act R) (h' : Works d act T) :
    Works d act fun a d' => R a d' ∧ T a d' := fun b hb => ⟨h b hb, h' b hb⟩

/-- A computation is followed by nothing. -/
lemma last {act : Making α} (h : Works d (act >>= Pure.pure) R) : Works d act R := h

/-- What is done in several steps is done step by step. -/
lemma assoc {γ : Type} {act : Making α} {next : α → Making β} {rest : β → Making γ}
    {T : γ → Desk → Prop} (h : Works d (act >>= fun a => next a >>= rest) T) :
    Works d (act >>= next >>= rest) T := h

/-- So is what is done in the session. -/
lemma lift {γ : Type} {act : StateM Session α} {next : α → StateM Session β} {rest : β → Making γ}
    {T : γ → Desk → Prop}
    (h : Works d (liftM act >>= fun a => (liftM (next a) : Making β) >>= rest) T) :
    Works d ((liftM (act >>= next) : Making β) >>= rest) T := h

/-- What is answered is what comes after goes on with. -/
lemma answer {a : α} {next : α → Making β} (h : Works d (next a) Q) :
    Works d (Pure.pure a >>= next) Q := h

/-- A step that leaves the desk. -/
lemma skip {act : Making α} {next : α → Making β} {T : α → Prop} (h : Still act T)
    (hnext : ∀ a, T a → Works d (next a) Q) : Works d (act >>= next) Q :=
  fun b hb => hnext _ (h b).1 _ ((h b).2.trans hb)

/-- The draft that is read is the one on the desk. -/
lemma draft {next : Draft → Making β} (h : Works d (next d.draft) Q) :
    Works d (Making.draft >>= next) Q := by
  rintro b rfl
  exact h b rfl

/-- The session that is read is one of the desk. -/
lemma readSession {next : Session → Making β}
    (h : ∀ s : Session, Workbench.desk ⟨d.draft, s⟩ = d → Works d (next s) Q) :
    Works d (Making.session >>= next) Q := by
  rintro b rfl
  exact h b.session rfl b rfl

/-- **Whatever is done to the draft.** -/
lemma modifyDraft {change : Draft → Draft} {next : Unit → Making β}
    (h : Works (d.alter change) (next ()) Q) : Works d (Making.modifyDraft change >>= next) Q := by
  rintro b rfl
  exact h ⟨change b.draft, b.session⟩ rfl

lemma newElement {shape : Shape} {width height : Number} {next : Element → Making β}
    (h : Works d.tick (next (d.fresh shape width height)) Q) :
    Works d (liftM (Session.newElement shape width height) >>= next) Q := by
  rintro b rfl
  exact h ⟨b.draft, { b.session with lastId := b.session.lastId + 1 }⟩ rfl

lemma push {e : Element} {next : Nat → Making β}
    (h : Works (d.push e) (next d.elements.length) Q) : Works d (Making.push e >>= next) Q :=
  assoc (draft (assoc (modifyDraft h)))

lemma cover {place : Nat} {e : Element} {role : CoverRole} {next : Unit → Making β}
    (he : d.elements[place]? = some e)
    (h : Works (d.addCoverable (Draft.coverableOf e place role)) (next ()) Q) :
    Works d (Making.cover place role >>= next) Q := by
  refine modifyDraft ?_
  rwa [Desk.alter, Draft.coverElement, he]

/-- An element becomes coverable as it is put on the panel. -/
lemma pushCoverable {e : Element} {role : CoverRole} {next : Unit → Making β}
    (h : Works (d.pushCoverable e role) (next ()) Q) :
    Works d (Making.pushCoverable e role >>= next) Q :=
  assoc (push (cover List.getElem?_concat_length h))

/-- **The search for room** finds none if there is none, and else claims what it finds. -/
lemma allocateCells {w h : Nat} {next : Option Rect → Making β}
    (hno : (Grid.fitsGrid w h = true → d.draft.grid.Blocked w h) → Works d (next none) Q)
    (hyes : ∀ r grid, d.Claims r grid → r.w = w → r.h = h →
      Works (d.withGrid grid) (next (some r)) Q) :
    Works d (Making.allocateCells w h >>= next) Q := by
  rintro b rfl
  obtain ⟨events, hstep⟩ := allocateCells_eq w h b
  rw [bind_apply, hstep]
  obtain ⟨hnone, hblocked⟩ | ⟨r, hsome, hfree, hw, hh⟩ :=
    Grid.allocate_cases b.draft.grid w h b.session.draws
  · rw [hnone]
    exact hno hblocked _ rfl
  · rw [hsome]
    exact hyes r _ ⟨hfree, rfl⟩ hw hh _ rfl

lemma allocate {shape : Shape} {width height : Number} {next : Option Rect → Making β}
    (hno : (Grid.fitsGrid (shape.footprint width height).1 (shape.footprint width height).2 = true →
      d.draft.grid.Blocked (shape.footprint width height).1 (shape.footprint width height).2) →
        Works d (next none) Q)
    (hyes : ∀ r grid, d.Claims r grid → r.w = (shape.footprint width height).1 →
      r.h = (shape.footprint width height).2 → Works (d.withGrid grid) (next (some r)) Q) :
    Works d (Making.allocate shape width height >>= next) Q := allocateCells hno hyes

lemma deposit {plug : Plug} {next : Unit → Making β} (h : Works (d.deposit plug) (next ()) Q) :
    Works d (liftM (Session.deposit plug) >>= next) Q := by
  rintro b rfl
  refine h _ ?_
  have hpool : ((b.session.pool.plugs ++ [plug] : List Plug) : Multiset Plug)
      = plug ::ₘ (b.session.pool.plugs : Multiset Plug) :=
    Multiset.coe_eq_coe.mpr (List.perm_append_singleton plug _)
  change Desk.mk _ _ _ ((b.session.pool.plugs ++ [plug] : List Plug) : Multiset Plug) _ _ = _
  rw [hpool]
  rfl

lemma depositPlug {shape : Shape} {width height : Number} {color : UInt8} {next : Unit → Making β}
    (h : ∀ remote,
      Works (d.tick.deposit (d.freshPlug shape width height color remote)) (next ()) Q) :
    Works d (Making.depositPlug shape width height color >>= next) Q := by
  refine assoc (draft (lift (newElement (lift ?_))))
  refine skip (T := fun _ => True) (fun b => ⟨trivial, rfl⟩) fun s _ => lift ?_
  exact skip (Still.sessionDrawn _) fun remote _ => deposit (h remote)

lemma withdrawWhere {panel : Nat} {condition : Plug → Bool} {next : Option Plug → Making β}
    (hnone : (∀ plug ∈ d.pool, plug.origin ≠ panel → condition plug = false) → Works d (next none) Q)
    (hsome : ∀ plug rest, d.pool = plug ::ₘ rest → plug.origin ≠ panel → condition plug = true →
      Works (d.withPool rest) (next (some plug)) Q) :
    Works d (liftM (Session.withdrawWhere panel condition) >>= next) Q := by
  rintro b rfl
  have hanswer := (PlugPool.keeps_pool_withdrawWhere panel condition b.session.pool
    b.session.draws trivial).1
  have hfound : ∀ plug ∈ b.session.pool.plugs, plug.origin ≠ panel → condition plug = true →
      (b.session.pool.withdrawWhere panel condition b.session.draws).1.1 ≠ none :=
    fun plug hplug horigin hcondition =>
      (PlugPool.keeps_withdrawWhere_ne_none hplug horigin hcondition b.session.draws trivial).1
  have hstep : (liftM (Session.withdrawWhere panel condition) : Making (Option Plug)) b
      = ((b.session.pool.withdrawWhere panel condition b.session.draws).1.1,
        ⟨b.draft, { b.session with
          pool := (b.session.pool.withdrawWhere panel condition b.session.draws).1.2
          draws := (b.session.pool.withdrawWhere panel condition b.session.draws).2 }⟩) := rfl
  rw [Making.bind_apply, hstep]
  generalize b.session.pool.withdrawWhere panel condition b.session.draws = answer at hanswer hfound
  obtain ⟨⟨found, left⟩, draws⟩ := answer
  obtain ⟨rfl, rfl⟩ | ⟨plug, rfl, hpool, horigin, hcondition⟩ := hanswer
  · refine hnone (fun plug hplug horigin => ?_) ⟨b.draft, { b.session with draws }⟩ rfl
    by_contra hcondition
    exact hfound plug hplug horigin (Bool.not_eq_false _ ▸ hcondition) rfl
  · exact hsome plug left.plugs hpool horigin hcondition
      ⟨b.draft, { b.session with pool := left, draws }⟩ rfl

lemma recordPlacement {plug : Plug} {panel : Nat} {next : Unit → Making β}
    (hpanel : d.draft.index = panel) (h : Works (d.record plug) (next ()) Q) :
    Works d (liftM (Session.recordPlacement plug panel) >>= next) Q := by
  rintro b rfl
  obtain rfl := hpanel
  exact h ⟨b.draft, { b.session with
    placements := b.session.placements ++ [⟨plug.element.id, plug.origin, b.draft.index⟩] }⟩ rfl

end Works

/-! ## Computations that keep something -/

/-- A computation keeps what holds of a desk. -/
def Keeping (I : Desk → Prop) (act : Making α) : Prop := ∀ d, I d → Works d act fun _ d' => I d'

namespace Keeping

variable {I : Desk → Prop}

lemma pure (a : α) : Keeping I (Pure.pure a) := fun _ hd => Works.pure hd

lemma bind {act : Making α} {next : α → Making β} (h : Keeping I act)
    (hnext : ∀ a, Keeping I (next a)) : Keeping I (act >>= next) :=
  fun d hd => .bind (h d hd) hnext

lemma still {act : Making α} {R : α → Prop} (h : Still act R) : Keeping I act :=
  fun _ hd => .last (.skip h fun _ _ => .pure hd)

end Keeping

end Making

end PanelPuzzle
