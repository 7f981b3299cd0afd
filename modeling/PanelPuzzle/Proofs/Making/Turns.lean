import PanelPuzzle.Cover.SizeObscure
import PanelPuzzle.Cover.ResetTrap
import PanelPuzzle.Proofs.Making.Controls
import PanelPuzzle.Proofs.Making.Desk
/-!
# What can happen to a desk

`Desk.Turn` lists what techniques, the placing of plugs and covers do to a desk, with what each of them
has made sure of before.  It tells more than the moves of a scene: what is claimed is free, a remote
mechanism is added only while there is a slot for it, and what a cover takes over was not taken over
before.

* `Element.Inert` — an element has no part in any remote mechanism, size button or trap.
* `Desk.Turn`, `Desk.Turns` — one thing that happens, and any number of them.
* `Element.Stays` — what is kept of an element.
* `Desk.HasGoal`, `Desk.Leaves` — a goal stays a goal, and a plug of the panel waits until the panel is
  finished.
-/

namespace PanelPuzzle

variable {α β : Type}

/-! ## Elements -/

/-- An action that an element may have on its own: it lets itself be dragged, changes the color of a
switch or is linked to one. -/
def Action.Local (own : String) : Action → Prop
  | configure id .. => id = own
  | cycle _ | link _ => True
  | moveStep .. | reset _ | size _ => False

namespace Element

/-- **An element has no part in a remote mechanism,** nor is it the button of a size or a trap. -/
def Inert (e : Element) : Prop := ∀ a ∈ e.actions, a.Local e.id

lemma inert_of_actions_eq_nil {e : Element} (h : e.actions = []) : e.Inert := fun _ ha =>
  absurd (h ▸ ha) List.not_mem_nil

lemma inert_of_actions_eq_singleton {e : Element} {a : Action} (h : e.actions = [a])
    (ha : a.Local e.id) : e.Inert := by
  rw [Inert, h]
  exact List.forall_mem_singleton.mpr ha

/-- What is kept of an element, whatever happens to its panel. -/
structure Stays (e e' : Element) : Prop where
  id_eq : e'.id = e.id
  shape_eq : e'.shape = e.shape
  actions_eq : e'.actions = e.actions
  change_eq : e'.change = e.change
  target_eq : e'.target = e.target
  comparison_eq : e'.comparison = e.comparison

namespace Stays

variable {e e' e'' : Element}

lemma refl (e : Element) : e.Stays e := ⟨rfl, rfl, rfl, rfl, rfl, rfl⟩

lemma trans (h : e.Stays e') (h' : e'.Stays e'') : e.Stays e'' :=
  ⟨h'.1.trans h.1, h'.2.trans h.2, h'.3.trans h.3, h'.4.trans h.4, h'.5.trans h.5, h'.6.trans h.6⟩

lemma lockable (h : e.Stays e') (he : e.Lockable) : e'.Lockable :=
  ⟨⟨h.comparison_eq.trans he.comparison, h.change_eq.trans_ne he.change⟩,
    h.actions_eq.trans he.actions⟩

/-- **A goal stays a goal.** -/
lemma isGoal_eq (h : e.Stays e') : e'.isGoal = e.isGoal := by
  rw [isGoal, isGoal, isSocket, isSocket, h.comparison_eq, h.change_eq, h.target_eq]

end Stays

lemma isGoal_of_comparison {e : Element} {c : Comparison} (h : e.comparison = some c) :
    e.isGoal = true := by
  rw [isGoal, isSocket, h, Option.isSome_some, Bool.true_or, Bool.true_or]

/-- An element whose target is above zero is a goal. -/
lemma isGoal_of_target {e : Element} (hchange : e.change ≠ .none) (htarget : 0 < e.target) :
    e.isGoal = true := by
  rw [isGoal, decide_eq_true hchange, decide_eq_true htarget, Bool.and_self, Bool.or_true]

end Element

/-- A small number above zero is one of 32 bits above zero. -/
lemma int32_ofNat_pos {n : Nat} (hpos : 0 < n) (hsmall : n < 256) : 0 < Int32.ofNat n := by
  rw [Int32.lt_iff_toInt_lt, Int32.toInt_ofNat_of_lt (by omega)]
  exact Int.natCast_pos.mpr hpos

/-- A plug whose color is not the neutral one, so that a key that turns into it is to be turned. -/
def Plug.Colored (p : Plug) : Prop := p.element.color.primary ≠ Palette.neutral

/-- An element of a shape and a size takes cells, and no more than a square of two by two. -/
def Shape.FitsSquare (shape : Shape) (width height : Number) : Prop :=
  0 < (shape.footprint width height).1 ∧ (shape.footprint width height).1 ≤ 2 ∧
    0 < (shape.footprint width height).2 ∧ (shape.footprint width height).2 ≤ 2

instance (shape : Shape) (width height : Number) : Decidable (shape.FitsSquare width height) :=
  inferInstanceAs (Decidable (_ ∧ _ ∧ _ ∧ _))

/-- Whatever fits a small square fits an empty panel. -/
lemma Shape.FitsSquare.fitsGrid {shape : Shape} {width height : Number}
    (h : shape.FitsSquare width height) :
    Grid.fitsGrid (shape.footprint width height).1 (shape.footprint width height).2 = true := by
  obtain ⟨hw, hw', hh, hh'⟩ := h
  exact Grid.fitsGrid_iff.mpr ⟨hw, hh, by omega, by omega⟩

/-! ## Turns -/

namespace Desk

/-- The next plug of a desk. -/
structure NewPlug (d : Desk) (p : Plug) : Prop where
  id_eq : p.element.id = d.nextId p.element.shape
  origin : p.origin = d.draft.index
  plain : p.Plain
  colored : p.Colored
  small : p.element.shape.FitsSquare p.element.width p.element.height

/-- A plug in the pool that may go to the panel, as an element of the panel. -/
structure TakenAs (d : Desk) (p : Plug) (rest : Multiset Plug) (e : Element) : Prop where
  pool : d.pool = p ::ₘ rest
  origin : p.origin ≠ d.draft.index
  id_eq : e.id = p.element.id
  shape_eq : e.shape = p.element.shape

/-- The desk of a panel that has to leave a plug or need not. -/
def require (d : Desk) (required : Bool) : Desk := { d with requirePlug := required }

/-- The desk with one more remote mechanism. -/
def addRemote (d : Desk) : Desk :=
  d.alter fun draft => { draft with remoteSets := draft.remoteSets + 1 }

/-- The desk with the quartet that moves an element, on the cells of a rectangle. -/
def control (d : Desk) (r : Rect) (grid : Grid) (color : UInt8) (targetId : String) : Desk :=
  ((d.withGrid grid).build (Scene.quartet r color targetId d.lastId Remote.quartet)).addRemote

/-- The desk with the element at a place locked. -/
def lock (d : Desk) (place : Nat) : Desk := d.alter (·.modifyElement place Element.locked)

/-- The desk on which an element is controlled by others: it is locked, and this is recorded. -/
def takeOver (d : Desk) (target source : Nat) : Desk :=
  (d.lock source).alter (·.modifyCoverable target fun c => { c with hasRemote := true })

/-- The desk with a plug on the panel, which can be covered. -/
def pushPlug (d : Desk) (p : Plug) (rest : Multiset Plug) (e : Element) : Desk :=
  (((d.withPool rest).push e).addCoverable
    (Draft.coverableOf e d.elements.length .plug)).record p

/-- The desk with a plug on the panel that remote controls move, which can be covered. -/
def pushSteered (d : Desk) (p : Plug) (rest : Multiset Plug) (e : Element) (r : Rect) (grid : Grid)
    (color : UInt8) : Desk :=
  ((((d.withPool rest).push e).control r grid color e.id).addCoverable
    { Draft.coverableOf e d.elements.length .plug with hasRemote := true }).record p

/-- The element at a place belongs to the coverable at another place. -/
structure SourceAt (d : Desk) (target : Nat) (c : Coverable) (source : Nat) (e : Element) :
    Prop where
  coverable : d.draft.coverables[target]? = some c
  source_eq : c.source = some source
  element : d.elements[source]? = some e

/-- **What can happen to a desk.** -/
inductive Turn (d : Desk) : Desk → Prop
  /-- A free rectangle is claimed. -/
  | claim {r : Rect} {grid : Grid} : d.Claims r grid → Turn d (d.withGrid grid)
  /-- It is settled whether the panel has to leave a plug. -/
  | require {required : Bool} : Turn d (d.require required)
  /-- A new element. -/
  | add {e : Element} : e.id = d.nextId e.shape → e.Inert → Turn d (d.tick.push e)
  /-- A new plug for the pool. -/
  | deposit {p : Plug} : d.NewPlug p → Turn d (d.tick.deposit p)
  /-- A socket counts as filled. -/
  | fill {id : String} :
      Turn d (d.alter fun draft => { draft with filledSockets := draft.filledSockets ++ [id] })
  /-- Something that is no plug becomes coverable. -/
  | cover {c : Coverable} : c.role ≠ .plug → Turn d (d.addCoverable c)
  /-- A plug in disguise. -/
  | key {p : Plug} {rest : Multiset Plug} {e : Element} : d.TakenAs p rest e → e.Inert →
      Turn d (((d.withPool rest).push e).record p)
  /-- A plug that the player drags. -/
  | place {p : Plug} {rest : Multiset Plug} {e : Element} : d.TakenAs p rest e → e.Lockable →
      Turn d (d.pushPlug p rest e)
  /-- A plug that remote controls move. -/
  | placeSteered {p : Plug} {rest : Multiset Plug} {e : Element} {r : Rect} {grid : Grid}
      {color : UInt8} : d.TakenAs p rest e → e.Lockable → d.draft.hasRemoteSlot = true →
      d.Claims r grid → Turn d (d.pushSteered p rest e r grid color)
  /-- A lid that remote controls move. -/
  | lid {e : Element} {r : Rect} {grid : Grid} {color : UInt8} : e.id = d.nextId e.shape →
      e.actions = [] → d.draft.hasRemoteSlot = true → d.Claims r grid →
      Turn d ((d.tick.push e).control r grid color e.id)
  /-- Remote controls for a plug. -/
  | steer {target source : Nat} {c : Coverable} {e : Element} {r : Rect} {grid : Grid}
      {color : UInt8} : d.SourceAt target c source e → c.role = .plug → c.hasRemote = false →
      d.draft.hasRemoteSlot = true → d.Claims r grid →
      Turn d ((d.control r grid color e.id).takeOver target source)
  /-- A switch that releases a plug. -/
  | release {target source : Nat} {c : Coverable} {e switch : Element} :
      d.SourceAt target c source e → c.role = .plug → c.hasRemote = false →
      d.draft.hasRemoteSlot = true → switch.id = d.nextId .switch → switch.shape = .switch →
      switch.method = .tap → switch.actions = [.release e.id] →
      Turn d ((d.tick.push switch).addRemote.takeOver target source)
  /-- A switch that a button drives. -/
  | lock {place : Nat} {e : Element} : d.elements[place]? = some e → e.Lockable →
      Turn d (d.lock place)
  /-- A button for the size of an element, which starts with a wrong one. -/
  | obscure {target source : Nat} {c : Coverable} {e button : Element} {size : Number} :
      d.SourceAt target c source e → c.sizeObscured = false → button.id = d.nextId button.shape →
      button.actions = [.size e.id] →
      Turn d (((d.tick.push button).alter (·.modifyElement source (·.resized size c.footprint))).alter
        (·.modifyCoverable target fun c => { c with sizeObscured := true }))
  /-- A button that brings a socket back to the start. -/
  | trap {id : String} {button : Element} : id ∈ Cover.trapCandidates d.draft →
      button.id = d.nextId button.shape → button.actions = [.reset id] →
      Turn d ((d.tick.push button).alter fun draft =>
        { draft with resetTargets := draft.resetTargets ++ [id] })

/-- One desk comes from another by turns. -/
def Turns : Desk → Desk → Prop := Relation.ReflTransGen Turn

variable {d d' d'' : Desk}

namespace Turns

lemma refl : d.Turns d := Relation.ReflTransGen.refl

lemma trans (h : d.Turns d') (h' : d'.Turns d'') : d.Turns d'' := Relation.ReflTransGen.trans h h'

lemma tail (h : d.Turns d') (h' : d'.Turn d'') : d.Turns d'' := Relation.ReflTransGen.tail h h'

lemma claim {r : Rect} {grid : Grid} (h : d.Turns d') (hclaims : d'.Claims r grid) :
    d.Turns (d'.withGrid grid) := h.tail (.claim hclaims)

lemma cover {c : Coverable} (h : d.Turns d') (hrole : c.role ≠ .plug) : d.Turns (d'.addCoverable c) :=
  h.tail (.cover hrole)

/-- An element without actions is added. -/
lemma add {e : Element} (h : d.Turns d') (hid : e.id = d'.nextId e.shape) (hactions : e.actions = []) :
    d.Turns (d'.tick.push e) := h.tail (.add hid (Element.inert_of_actions_eq_nil hactions))

/-- An element with one action is added. -/
lemma addActing {e : Element} {a : Action} (h : d.Turns d') (hid : e.id = d'.nextId e.shape)
    (hactions : e.actions = [a]) (ha : a.Local e.id) : d.Turns (d'.tick.push e) :=
  h.tail (.add hid (Element.inert_of_actions_eq_singleton hactions ha))

/-- What every turn keeps is kept by turns. -/
lemma keeps {I : Desk → Prop} (hI : ∀ {d d'}, I d → Turn d d' → I d') (h : d.Turns d')
    (hd : I d) : I d' := by
  induction h with
  | refl => exact hd
  | tail _ hturn ih => exact hI ih hturn

end Turns

lemma Turn.profile_eq (h : d.Turn d') : d'.profile = d.profile := by
  cases h <;> rfl

lemma Turns.profile_eq (h : d.Turns d') : d'.profile = d.profile :=
  h.keeps (I := fun w => w.profile = d.profile)
    (fun hprofile hturn => hturn.profile_eq.trans hprofile) rfl

/-- Placements are only added. -/
lemma Turn.placements_isPrefix (h : d.Turn d') : d.placements <+: d'.placements := by
  cases h with
  | key | place | placeSteered => exact List.prefix_append _ _
  | claim | require | add | deposit | fill | cover | lid | steer | release | lock | obscure | trap =>
    exact List.prefix_rfl

lemma Turns.placements_isPrefix (h : d.Turns d') : d.placements <+: d'.placements :=
  h.keeps (I := fun w => d.placements <+: w.placements)
    (fun hbefore hturn => hbefore.trans hturn.placements_isPrefix) List.prefix_rfl

/-! ## Elements stay -/

lemma Turn.index_eq (h : d.Turn d') : d'.draft.index = d.draft.index := by
  cases h <;> rfl

lemma Turns.index_eq (h : d.Turns d') : d'.draft.index = d.draft.index :=
  h.keeps (I := fun w => w.draft.index = d.draft.index) (fun hindex hturn => hturn.index_eq.trans hindex)
    rfl

/-- An element that is changed at one place stays, if the change lets it. -/
lemma exists_stays_modify {es : List Element} {place : Nat} {e : Element} (he : es[place]? = some e)
    (place' : Nat) {change : Element → Element} (hchange : ∀ e : Element, e.Stays (change e)) :
    ∃ e', (es.modify place' change)[place]? = some e' ∧ e.Stays e' := by
  refine ⟨if place' = place then change e else e, ?_, ?_⟩
  · rw [List.getElem?_modify, he]
    split <;> rfl
  · split
    · exact hchange e
    · exact .refl e

lemma stays_locked (e : Element) : e.Stays e.locked := ⟨rfl, rfl, rfl, rfl, rfl, rfl⟩

lemma stays_resized (size : Number) (r : Rect) (e : Element) : e.Stays (e.resized size r) :=
  ⟨rfl, rfl, rfl, rfl, rfl, rfl⟩

lemma getElem?_append {es : List Element} {place : Nat} {e : Element} (he : es[place]? = some e)
    (es' : List Element) : (es ++ es')[place]? = some e :=
  List.getElem?_append_left (List.getElem?_eq_some_iff.mp he).1 ▸ he

/-- **An element stays in its place.** -/
lemma Turn.stays (h : d.Turn d') {place : Nat} {e : Element} (he : d.elements[place]? = some e) :
    ∃ e', d'.elements[place]? = some e' ∧ e.Stays e' := by
  cases h with
  | claim | require | deposit | fill | cover => exact ⟨e, he, .refl e⟩
  | add | key | place | trap => exact ⟨e, getElem?_append he _, .refl e⟩
  | placeSteered | lid => exact ⟨e, getElem?_append (getElem?_append he _) _, .refl e⟩
  | lock => exact exists_stays_modify he _ stays_locked
  | steer | release => exact exists_stays_modify (getElem?_append he _) _ stays_locked
  | obscure => exact exists_stays_modify (getElem?_append he _) _ (stays_resized _ _)

lemma Turns.stays (h : d.Turns d') {place : Nat} {e : Element} (he : d.elements[place]? = some e) :
    ∃ e', d'.elements[place]? = some e' ∧ e.Stays e' := by
  induction h with
  | refl => exact ⟨e, he, .refl e⟩
  | tail _ hturn ih =>
    obtain ⟨e', he', hstays⟩ := ih
    obtain ⟨e'', he'', hstays'⟩ := hturn.stays he'
    exact ⟨e'', he'', hstays.trans hstays'⟩

/-- The player has something to achieve on the panel. -/
def HasGoal (d : Desk) : Prop := ∃ e ∈ d.elements, e.isGoal = true

/-- **A goal stays on the panel.** -/
lemma HasGoal.turns (h : d.HasGoal) (hturns : d.Turns d') : d'.HasGoal := by
  obtain ⟨e, he, hgoal⟩ := h
  obtain ⟨place, hplace⟩ := List.mem_iff_getElem?.mp he
  obtain ⟨e', he', hstays⟩ := hturns.stays hplace
  exact ⟨e', List.mem_of_getElem? he', hstays.isGoal_eq.trans hgoal⟩

/-- There is a ball on the panel, to be moved to its socket. -/
def HasBall (d : Desk) : Prop := ∃ e ∈ d.elements, e.change = .move

lemma HasBall.turns (h : d.HasBall) (hturns : d.Turns d') : d'.HasBall := by
  obtain ⟨e, he, hmove⟩ := h
  obtain ⟨place, hplace⟩ := List.mem_iff_getElem?.mp he
  obtain ⟨e', he', hstays⟩ := hturns.stays hplace
  exact ⟨e', List.mem_of_getElem? he', hstays.change_eq.trans hmove⟩

lemma hasGoal_push {e : Element} (h : e.isGoal = true) : (d.push e).HasGoal :=
  ⟨e, List.mem_append_right _ (List.mem_singleton.mpr rfl), h⟩

/-! ## Plugs -/

/-- What turns rely on: the plugs that wait are plain and small, and their colors can be told from the
neutral one. -/
structure Sound (d : Desk) : Prop where
  plain : ∀ p ∈ d.pool, p.Plain
  colored : ∀ p ∈ d.pool, p.Colored
  small : ∀ p ∈ d.pool, p.element.shape.FitsSquare p.element.width p.element.height

/-- Where fewer plugs wait, all of them are as sound. -/
lemma Sound.of_subset (h : d.Sound) (hpool : ∀ p ∈ d'.pool, p ∈ d.pool) : d'.Sound :=
  ⟨fun p hp => h.plain p (hpool p hp), fun p hp => h.colored p (hpool p hp),
    fun p hp => h.small p (hpool p hp)⟩

lemma TakenAs.mem_of_mem {p q : Plug} {rest : Multiset Plug} {e : Element} (h : d.TakenAs p rest e)
    (hq : q ∈ rest) : q ∈ d.pool := h.pool ▸ Multiset.mem_cons_of_mem hq

/-- **A turn keeps what turns rely on.** -/
lemma Turn.sound (h : d.Turn d') (hd : d.Sound) : d'.Sound := by
  cases h with
  | deposit hp =>
    exact ⟨Multiset.forall_mem_cons.mpr ⟨hp.plain, hd.plain⟩,
      Multiset.forall_mem_cons.mpr ⟨hp.colored, hd.colored⟩,
      Multiset.forall_mem_cons.mpr ⟨hp.small, hd.small⟩⟩
  | key htaken | place htaken | placeSteered htaken =>
    exact hd.of_subset fun q hq => htaken.mem_of_mem hq
  | claim | require | add | fill | cover | lid | steer | release | lock | obscure | trap =>
    exact ⟨hd.plain, hd.colored, hd.small⟩

lemma Turns.sound (h : d.Turns d') (hd : d.Sound) : d'.Sound :=
  h.keeps (fun hd hturn => hturn.sound hd) hd

/-- All plugs that wait come from this panel or from earlier ones. -/
def Past (d : Desk) : Prop := ∀ p ∈ d.pool, p.origin ≤ d.draft.index

lemma Turn.past (h : d.Turn d') (hd : d.Past) : d'.Past := by
  cases h with
  | deposit hp => exact Multiset.forall_mem_cons.mpr ⟨hp.origin.le, hd⟩
  | key htaken | place htaken | placeSteered htaken =>
    exact fun q hq => hd q (htaken.mem_of_mem hq)
  | claim | require | add | fill | cover | lid | steer | release | lock | obscure | trap => exact hd

lemma Turns.past (h : d.Turns d') (hd : d.Past) : d'.Past :=
  h.keeps (fun hd hturn => hturn.past hd) hd

/-- A plug of this panel waits. -/
def Leaves (d : Desk) : Prop := ∃ p ∈ d.pool, p.origin = d.draft.index

/-- A plug waits that this panel may take. -/
def Serves (d : Desk) : Prop := ∃ p ∈ d.pool, p.origin ≠ d.draft.index

/-- **No plug of this panel leaves the pool.** -/
lemma Turn.leaves (h : d.Turn d') (hd : d.Leaves) : d'.Leaves := by
  obtain ⟨p, hp, horigin⟩ := hd
  refine ⟨p, ?_, horigin.trans h.index_eq.symm⟩
  cases h with
  | deposit => exact Multiset.mem_cons_of_mem hp
  | key htaken | place htaken | placeSteered htaken =>
    refine (Multiset.mem_cons.mp (htaken.pool ▸ hp)).resolve_left ?_
    rintro rfl
    exact htaken.origin horigin
  | claim | require | add | fill | cover | lid | steer | release | lock | obscure | trap => exact hp

lemma Leaves.turns (h : d.Leaves) (hturns : d.Turns d') : d'.Leaves :=
  hturns.keeps (fun hd hturn => hturn.leaves hd) h

lemma leaves_deposit {p : Plug} (h : p.origin = d.draft.index) : (d.deposit p).Leaves :=
  ⟨p, Multiset.mem_cons_self p _, h⟩

/-- A new element that is changed before anything else happens. -/
lemma alter_modifyElement_push (e : Element) (change : Element → Element) :
    (d.push e).alter (·.modifyElement d.elements.length change) = d.push (change e) := by
  have helements : (d.elements ++ [e]).modify d.elements.length change = d.elements ++ [change e] := by
    rw [List.modify_eq_take_drop, List.take_left, List.drop_left, List.modifyHead_cons]
  exact congrArg (fun elements => d.alter (·.withElements elements)) helements

end Desk

/-! ## Computations that are turns -/

namespace Making

/-- **What a computation does to a sound desk** is turns. -/
def Turning (act : Making α) : Prop := ∀ d : Desk, d.Sound → Works d act fun _ d' => d.Turns d'

namespace Turning

lemma bind {act : Making α} {next : α → Making β} (h : Turning act) (hnext : ∀ a, Turning (next a)) :
    Turning (act >>= next) := fun d hd =>
  .bind (h d hd) fun a d' hturns => (hnext a d' (hturns.sound hd)).weaken fun _ _ h => hturns.trans h

end Turning

end Making

end PanelPuzzle
