import PanelPuzzle.Fit
import PanelPuzzle.Making.Remote
import PanelPuzzle.Proofs.Making.Showing
/-!
# What can happen to a scene

Techniques, the placing of plugs and covers are many, but what they do to a scene is put together
from a few moves.  `Scene.Move` lists them, with what each of them sees to; whatever every move keeps
is kept by the making of a whole panel.

Some moves belong to one phase only.  Sockets, and the ball of a maze, appear while a panel is
populated.  What is done to an element that is there already is done while the panel is finished, but
for the locking of a switch.

* `Element.FreeIn` — the player can move an element, by hand or with the help of others.
* `Scene.Move`, `Scene.Leads` — one move, and any number of them.
* `Element.Keeps` — what moves keep of an element.
* `Scene.Sound` — what the moves rely on, and keep.
-/

namespace PanelPuzzle

/-! ## Elements that can be moved -/

namespace Element

/-- The player drags the element, or acts on it until it lets itself be dragged.  A switch need not
be dragged. -/
def Handy (e : Element) : Prop :=
  e.method = .drag ∨
    (e.method = .tap ∨ e.method = .hold) ∧ (e.shape = .switch ∨ Action.release e.id ∈ e.actions)

/-- Four buttons among some elements move an element up, right, left and down, each of them in one
direction. -/
def SteeredIn (e : Element) (es : List Element) : Prop :=
  ∀ step ∈ ([(0, -1), (1, 0), (-1, 0), (0, 1)] : List (Number × Number)),
    ∃ b ∈ es, b.method = .tap ∧ b.actions = [Action.moveStep e.id step.1 step.2]

/-- A switch among some elements lets an element be dragged. -/
def UnlockedIn (e : Element) (es : List Element) : Prop :=
  ∃ b ∈ es, b.shape = .switch ∧ b.method = .tap ∧ b.change = .state ∧
    Action.release e.id ∈ b.actions

/-- An element is a theme-colored switch, and a button among some elements drives it. -/
def CycledIn (e : Element) (es : List Element) : Prop :=
  e.shape = .switch ∧ (∃ target ball, e.color = .themeCycle target ball) ∧
    ∃ b ∈ es, b.method = .tap ∧ Action.cycle e.id ∈ b.actions

/-- Some elements do what the player cannot do to an element. -/
def ControlledIn (e : Element) (es : List Element) : Prop :=
  e.SteeredIn es ∨ e.UnlockedIn es ∨ e.CycledIn es

/-- **An element is not stuck** among some elements: the player can act on it, or on others that
control it. -/
def FreeIn (e : Element) (es : List Element) : Prop :=
  e.Handy ∨ e.method = .none ∧ e.ControlledIn es

/-- An element is neither a socket nor the ball of a maze. -/
structure Aside (e : Element) : Prop where
  comparison : e.comparison = none
  change : e.change ≠ .move

/-- An element whose way to act on it can be taken away, as it acts on nothing. -/
structure Lockable (e : Element) : Prop extends e.Aside where
  actions : e.actions = []

/-- An element without a way to act on it. -/
def locked (e : Element) : Element := { e with method := .none }

/-- An element of another size in the middle of a rectangle. -/
def resized (e : Element) (size : Number) (r : Rect) : Element :=
  { e with width := size, height := size }.centered r

end Element

/-- A plug as it waits in the pool. -/
structure Plug.Plain (p : Plug) : Prop where
  method : p.element.method = .drag
  lockable : p.element.Lockable
  draggable : p.element.shape.draggable = true

/-! ## Moves -/

/-- The two parts of the making of a panel. -/
inductive Phase where
  /-- Mechanisms are made. -/
  | populating
  /-- Plugs are placed, and all is covered. -/
  | finishing

/-- The shapes of elements that are to be moved when they are new: a rectangle is a lid or a tile,
once the mechanisms are there. -/
def Phase.movable : Phase → List Shape
  | populating => [.switch, .screw]
  | finishing => [.switch, .screw, .rectangle]

namespace Scene

/-- The scene with the element at a place locked. -/
def lock (v : Scene) (place : Nat) : Scene := v.modifyElement place Element.locked

/-- What the actions of an element on a scene may act on: itself and what is there. -/
def Reaches (v : Scene) (e : Element) : Prop :=
  ∀ a ∈ e.actions, a.targetId = e.id ∨ a.targetId ∈ v.ids

/-- The next element of a scene, which is a socket. -/
structure NewSocket (v : Scene) (e : Element) (c : Comparison) : Prop where
  id_eq : e.id = v.nextId e.shape
  comparison : e.comparison = some c
  actions : e.actions = []
  change : e.change ≠ .move
  shape : e.shape ∉ Phase.movable .populating

/-- The next plug of a scene. -/
structure NewPlug (v : Scene) (p : Plug) : Prop where
  id_eq : p.element.id = v.nextId p.element.shape
  origin : p.origin = v.index
  plain : p.Plain

/-- The next element of a scene, which is the ball of a maze. -/
structure NewBall (v : Scene) (e : Element) : Prop where
  id_eq : e.id = v.nextId e.shape
  comparison : e.comparison = none
  actions : e.actions = []
  method : e.method = .drag
  change : e.change = .move
  shape : e.shape = .circle

/-- A coverable that is a plug can be locked. -/
def Locks (v : Scene) (c : Coverable) : Prop :=
  c.role = .plug → ∃ place e, c.source = some place ∧ v.elements[place]? = some e ∧ e.Lockable

/-- **What can happen to a scene.** -/
inductive Move (phase : Phase) (v : Scene) : Scene → Prop
  /-- A new element that is no socket. -/
  | add {e : Element} : e.id = v.nextId e.shape → e.Aside → v.Reaches e →
      (e.shape ∈ phase.movable → e.Handy) → Move phase v (v.tick.push e)
  /-- A new socket, and a plug that fills it. -/
  | socket {e : Element} {c : Comparison} {p : Plug} : phase = .populating → v.NewSocket e c →
      v.tick.NewPlug p → c.fits e p.element = true → Move phase v ((v.tick.push e).tick.deposit p)
  /-- A new socket, and two halves that fill it. -/
  | halves {e : Element} {c : Comparison} {a b : Plug} : phase = .populating → v.NewSocket e c →
      v.tick.NewPlug a → v.tick.tick.NewPlug b → c.fitsPair e a.element b.element = true →
      Move phase v ((((v.tick.noteHalved e.id).push e).tick.deposit a).tick.deposit b)
  /-- The socket at the exit of a maze, and the ball that fills it. -/
  | exit {e ball : Element} {c : Comparison} : phase = .populating → v.NewSocket e c →
      v.tick.NewBall ball → c.fits e ball = true → Move phase v ((v.tick.push e).tick.push ball)
  /-- A plug of another panel. -/
  | place {p : Plug} {rest : Multiset Plug} {e : Element} : v.pool = p ::ₘ rest →
      p.origin ≠ v.index → e.id = p.element.id → e.shape = p.element.shape → e.Aside →
      v.Reaches e → e.Handy → Move phase v (((v.withPool rest).push e).record p)
  /-- An element that others control is locked. -/
  | lock {place : Nat} {e : Element} : v.elements[place]? = some e → e.Lockable →
      e.ControlledIn v.elements → Move phase v (v.lock place)
  /-- An element gets another size. -/
  | resize {place : Nat} {size : Number} {r : Rect} : phase = .finishing →
      Move phase v (v.modifyElement place (·.resized size r))
  /-- Something becomes coverable. -/
  | cover {c : Coverable} : v.Locks c → Move phase v (v.addCoverable c)
  /-- It is recorded what covers something. -/
  | mark {target : Nat} {change : Coverable → Coverable} :
      (∀ c, (change c).role = c.role ∧ (change c).source = c.source) →
      Move phase v (v.modifyCoverable target change)
  /-- It is noted that a plug is in the pool. -/
  | noted {p : Plug} : p ∈ v.pool → Move phase v (v.noteDeposit p)

/-- One scene comes from another by moves. -/
def Leads (phase : Phase) : Scene → Scene → Prop := Relation.ReflTransGen (Move phase)

/-! ## What moves rely on -/

/-- **What moves rely on:** the plugs that wait are plain, and those on the panel can be locked. -/
structure Sound (v : Scene) : Prop where
  plain : ∀ p ∈ v.pool, p.Plain
  locks : ∀ c ∈ v.coverables, v.Locks c

end Scene

/-! ## What moves keep of an element -/

/-- What moves keep of an element: all but its size and its place, and its method as long as it
cannot be locked. -/
structure Element.Keeps (e e' : Element) : Prop where
  id_eq : e'.id = e.id
  shape_eq : e'.shape = e.shape
  color_eq : e'.color = e.color
  change_eq : e'.change = e.change
  comparison_eq : e'.comparison = e.comparison
  actions_eq : e'.actions = e.actions
  method : e'.method = e.method ∨ e.Lockable ∧ e'.method = .none

namespace Element.Keeps

variable {e e' e'' : Element}

lemma refl (e : Element) : e.Keeps e := ⟨rfl, rfl, rfl, rfl, rfl, rfl, .inl rfl⟩

lemma lockable (h : e.Keeps e') : e'.Lockable ↔ e.Lockable :=
  ⟨fun ⟨⟨hcomparison, hchange⟩, hactions⟩ => ⟨⟨h.comparison_eq ▸ hcomparison,
      h.change_eq ▸ hchange⟩, h.actions_eq ▸ hactions⟩,
    fun ⟨⟨hcomparison, hchange⟩, hactions⟩ => ⟨⟨h.comparison_eq ▸ hcomparison,
      h.change_eq ▸ hchange⟩, h.actions_eq ▸ hactions⟩⟩

lemma trans (h : e.Keeps e') (h' : e'.Keeps e'') : e.Keeps e'' where
  id_eq := h'.id_eq.trans h.id_eq
  shape_eq := h'.shape_eq.trans h.shape_eq
  color_eq := h'.color_eq.trans h.color_eq
  change_eq := h'.change_eq.trans h.change_eq
  comparison_eq := h'.comparison_eq.trans h.comparison_eq
  actions_eq := h'.actions_eq.trans h.actions_eq
  method := by
    rcases h'.method with hmethod | ⟨hlockable, hnone⟩
    · exact h.method.imp hmethod.trans fun ⟨hlockable, hnone⟩ => ⟨hlockable, hmethod.trans hnone⟩
    · exact .inr ⟨h.lockable.mp hlockable, hnone⟩

end Element.Keeps

namespace Scene

variable {phase : Phase} {v v' v'' : Scene}

lemma getElem?_push {place : Nat} {e : Element} (h : v.elements[place]? = some e) (e' : Element) :
    (v.push e').elements[place]? = some e :=
  List.getElem?_append_left (List.getElem?_eq_some_iff.mp h).1 ▸ h

lemma getElem?_modifyElement {place : Nat} {e : Element} (h : v.elements[place]? = some e)
    (place' : Nat) (change : Element → Element) :
    (v.modifyElement place' change).elements[place]?
      = some (if place' = place then change e else e) := by
  rw [modifyElement, List.getElem?_modify, h]
  split <;> rfl

lemma getElem?_lock {place : Nat} {e : Element} (h : v.elements[place]? = some e) :
    (v.lock place).elements[place]? = some e.locked := by
  rw [Scene.lock, getElem?_modifyElement h, if_pos rfl]

/-- **An element stays in its place,** and a move keeps most of it.  It keeps its method, or others
control it. -/
lemma Move.keeps (h : Move phase v v') {place : Nat} {e : Element}
    (he : v.elements[place]? = some e) : ∃ e', v'.elements[place]? = some e' ∧ e.Keeps e' ∧
      (e'.method = e.method ∨ e.ControlledIn v.elements) := by
  cases h with
  | add | socket | place => exact ⟨e, getElem?_push he _, .refl e, .inl rfl⟩
  | halves => exact ⟨e, getElem?_push (v := v.tick.noteHalved _) he _, .refl e, .inl rfl⟩
  | exit => exact ⟨e, getElem?_push (getElem?_push he _) _, .refl e, .inl rfl⟩
  | lock hplace hlockable hcontrolled =>
    refine ⟨_, getElem?_modifyElement he _ _, ?_⟩
    split
    · rename_i heq
      obtain rfl := Option.some.inj ((heq ▸ hplace).symm.trans he)
      exact ⟨⟨rfl, rfl, rfl, rfl, rfl, rfl, .inr ⟨hlockable, rfl⟩⟩, .inr hcontrolled⟩
    · exact ⟨.refl e, .inl rfl⟩
  | resize _ =>
    refine ⟨_, getElem?_modifyElement he _ _, ?_⟩
    split
    · exact ⟨⟨rfl, rfl, rfl, rfl, rfl, rfl, .inl rfl⟩, .inl rfl⟩
    · exact ⟨.refl e, .inl rfl⟩
  | cover | mark | noted => exact ⟨e, he, .refl e, .inl rfl⟩

/-- What was not there before is what was pushed. -/
lemma eq_of_getElem?_push {place : Nat} {d e : Element} (he : (v.push d).elements[place]? = some e)
    (hplace : v.elements.length ≤ place) : e = d := (eq_of_getElem?_concat he hplace).2

/-- **A new element** is handy, if it is to be moved, and no socket once the panel is populated. -/
lemma Move.fresh (h : Move phase v v') {place : Nat} {e : Element}
    (he : v'.elements[place]? = some e) (hplace : v.elements.length ≤ place) :
    (e.shape ∈ phase.movable → e.Handy) ∧ (phase = .finishing → e.Aside) := by
  have hsocket : ∀ {w : Scene} {c : Comparison}, phase = .populating → w.NewSocket e c →
      (e.shape ∈ phase.movable → e.Handy) ∧ (phase = .finishing → e.Aside) := by
    rintro w c rfl hnew
    exact ⟨fun h => absurd h hnew.shape, Phase.noConfusion⟩
  have hold : v'.elements.length = v.elements.length → False := by
    intro hlength
    have hlt := (List.getElem?_eq_some_iff.mp he).1
    omega
  cases h with
  | add _ haside _ hhandy =>
    obtain rfl := eq_of_getElem?_push he hplace
    exact ⟨hhandy, fun _ => haside⟩
  | socket hphase hnew =>
    obtain rfl := eq_of_getElem?_push he hplace
    exact hsocket hphase hnew
  | halves hphase hnew =>
    obtain rfl := eq_of_getElem?_push he hplace
    exact hsocket hphase hnew
  | @exit socket ball _ hphase hnew hball =>
    by_cases hlast : (v.tick.push socket).elements.length ≤ place
    · obtain rfl := eq_of_getElem?_push (v := (v.tick.push socket).tick) he hlast
      exact ⟨fun _ => .inl hball.method, fun h => Phase.noConfusion (hphase.symm.trans h)⟩
    · have hbelow := (List.getElem?_append_left (not_le.mp hlast)).symm.trans he
      obtain rfl := eq_of_getElem?_push (v := v.tick) hbelow hplace
      exact hsocket hphase hnew
  | place _ _ _ _ haside _ hhandy =>
    obtain rfl := eq_of_getElem?_push he hplace
    exact ⟨fun _ => hhandy, fun _ => haside⟩
  | lock | resize => exact (hold (List.length_modify ..)).elim
  | cover | mark | noted => exact (hold rfl).elim

/-- While a panel is populated an element that cannot be locked stays as it is. -/
lemma Move.stays (h : Move .populating v v') {place : Nat} {e : Element}
    (he : v.elements[place]? = some e) (hfixed : ¬ e.Lockable) :
    v'.elements[place]? = some e := by
  cases h with
  | add | socket | place => exact getElem?_push he _
  | halves => exact getElem?_push (v := v.tick.noteHalved _) he _
  | exit => exact getElem?_push (getElem?_push he _) _
  | lock hplace hlockable _ =>
    rw [Scene.lock, getElem?_modifyElement he, if_neg]
    rintro rfl
    exact hfixed (Option.some.inj (hplace.symm.trans he) ▸ hlockable)
  | resize hphase => cases hphase
  | cover | mark | noted => exact he

lemma Move.index_eq (h : Move phase v v') : v'.index = v.index := by
  cases h <;> rfl

namespace Leads

lemma index_eq (h : v.Leads phase v') : v'.index = v.index := by
  induction h with
  | refl => rfl
  | tail _ hmove ih => exact hmove.index_eq.trans ih

lemma trans (h : v.Leads phase v') (h' : v'.Leads phase v'') : v.Leads phase v'' :=
  Relation.ReflTransGen.trans h h'

lemma keeps (h : v.Leads phase v') {place : Nat} {e : Element}
    (he : v.elements[place]? = some e) : ∃ e', v'.elements[place]? = some e' ∧ e.Keeps e' := by
  induction h with
  | refl => exact ⟨e, he, .refl e⟩
  | tail _ hmove ih =>
    obtain ⟨e', he', hkeeps⟩ := ih
    obtain ⟨e'', he'', hkeeps', -⟩ := hmove.keeps he'
    exact ⟨e'', he'', hkeeps.trans hkeeps'⟩

/-- What is there stays there. -/
lemma mem_ids (h : v.Leads phase v') {id : String} (hid : id ∈ v.ids) : id ∈ v'.ids := by
  obtain ⟨e, he, rfl⟩ := List.mem_map.mp hid
  obtain ⟨place, hplace⟩ := List.mem_iff_getElem?.mp he
  obtain ⟨e', he', hkeeps⟩ := h.keeps hplace
  exact List.mem_map.mpr ⟨e', List.mem_of_getElem? he', hkeeps.id_eq⟩

end Leads

/-! ## What moves rely on -/

lemma Move.locks (h : Move phase v v') {c : Coverable} (hc : v.Locks c) : v'.Locks c := by
  intro hrole
  obtain ⟨place, e, hsource, he, hlockable⟩ := hc hrole
  obtain ⟨e', he', hkeeps, -⟩ := h.keeps he
  exact ⟨place, e', hsource, he', hkeeps.lockable.mpr hlockable⟩

/-- **A move keeps what moves rely on.** -/
lemma Move.sound (h : Move phase v v') (hv : v.Sound) : v'.Sound := by
  have hlocks : ∀ c ∈ v.coverables, v'.Locks c := fun c hc => h.locks (hv.locks c hc)
  cases h with
  | add | exit | lock | resize | noted => exact ⟨hv.plain, hlocks⟩
  | socket _ _ hp =>
    exact ⟨Multiset.forall_mem_cons.mpr ⟨hp.plain, hv.plain⟩, hlocks⟩
  | halves _ _ ha hb =>
    exact ⟨Multiset.forall_mem_cons.mpr
      ⟨hb.plain, Multiset.forall_mem_cons.mpr ⟨ha.plain, hv.plain⟩⟩, hlocks⟩
  | place hpool =>
    exact ⟨fun p hp => hv.plain p (hpool ▸ Multiset.mem_cons_of_mem hp), hlocks⟩
  | cover hc => exact ⟨hv.plain, List.forall_mem_append.mpr ⟨hlocks, List.forall_mem_singleton.mpr hc⟩⟩
  | mark hsame =>
    refine ⟨hv.plain, fun c hc => ?_⟩
    obtain ⟨old, hold, rfl | rfl⟩ := exists_of_mem_modify hc
    · exact hlocks _ hold
    · rw [Locks, (hsame old).1, (hsame old).2]
      exact hlocks old hold

lemma Leads.sound (h : v.Leads phase v') (hv : v.Sound) : v'.Sound := by
  induction h with
  | refl => exact hv
  | tail _ hmove ih => exact hmove.sound ih

end Scene

end PanelPuzzle
