import PanelPuzzle.Proofs.Making.Ledger
/-!
# Every socket has what fills it

Sockets are made while a panel is populated, and each is made with its filling.  From then on nothing
is done to a socket or to the ball of a maze until the panel is populated, and no plug of the panel
leaves the pool.

* `Filling`, `Scene.Fills` — what fills a socket, and that it does.
* `Scene.Filled` — **every socket of a scene is filled,** and nothing fills two of them, for a filling
  is made of numbers that were not given before its socket.

While the panel is finished no socket is added, `Leads.exists_made`.
-/

namespace PanelPuzzle

/-! ## Fillings -/

/-- What fills a socket. -/
inductive Filling where
  /-- The ball of a maze, for its exit. -/
  | ball (element : Element)
  /-- A plug. -/
  | plug (plug : Plug)
  /-- Two halves of a circle. -/
  | halves (first second : Plug)

namespace Filling

/-- The plugs of a filling. -/
def plugs : Filling → List Plug
  | ball _ => []
  | plug p => [p]
  | halves a b => [a, b]

/-- The ids of what fills a socket. -/
def ids : Filling → List String
  | ball e => [e.id]
  | plug p => [p.element.id]
  | halves a b => [a.element.id, b.element.id]

/-- Whether a filling is two halves. -/
def isHalves : Filling → Bool
  | halves .. => true
  | _ => false

/-- **A filling fits a socket** that has a comparison. -/
def Fits (socket : Element) (c : Comparison) : Filling → Prop
  | ball e => c.fits socket e = true
  | plug p => c.fits socket p.element = true
  | halves a b => c.fitsPair socket a.element b.element = true

/-- A filling is made of numbers between two others, each of them used once. -/
structure Between (low high : Nat) (f : Filling) : Prop where
  nodup : f.ids.Nodup
  numbered : ∀ id ∈ f.ids, ∃ shape n, low < n ∧ n ≤ high ∧ id = Shape.idOf shape n

lemma Between.mono {low low' high high' : Nat} {f : Filling} (h : f.Between low high)
    (hlow : low' ≤ low) (hhigh : high ≤ high') : f.Between low' high' :=
  ⟨h.nodup, fun id hid =>
    let ⟨shape, n, hn, hn', heq⟩ := h.numbered id hid
    ⟨shape, n, hlow.trans_lt hn, hn'.trans hhigh, heq⟩⟩

/-- Fillings that are made of earlier and of later numbers have no id in common. -/
lemma Between.not_mem {low middle high : Nat} {f g : Filling} (hf : f.Between low middle)
    (hg : g.Between middle high) {id : String} (hid : id ∈ f.ids) : id ∉ g.ids := by
  intro hid'
  obtain ⟨_, n, -, hn, rfl⟩ := hf.numbered id hid
  obtain ⟨_, m, hm, -, heq⟩ := hg.numbered _ hid'
  have hnumber := (Shape.idOf_inj heq).2
  omega

end Filling

namespace Scene

variable {phase : Phase} {place : Nat} {v v' : Scene} {socket : Element} {f : Filling}

/-! ## Sockets -/

/-- There is a socket at a place. -/
structure SocketAt (v : Scene) (place : Nat) (socket : Element) : Prop where
  getElem? : v.elements[place]? = some socket
  comparison : socket.comparison ≠ none

lemma SocketAt.lt_length (h : v.SocketAt place socket) : place < v.elements.length :=
  (List.getElem?_eq_some_iff.mp h.getElem?).1

lemma SocketAt.not_lockable (h : v.SocketAt place socket) : ¬ socket.Lockable := fun hlockable =>
  h.comparison hlockable.comparison

/-- **What fills a socket:** the ball of a maze if it comes right after the socket, two halves if it
was noted that the socket waits for them, or else one plug.  Plugs wait in the pool. -/
structure Fills (v : Scene) (place : Nat) (socket : Element) (f : Filling) : Prop where
  fits : ∀ c, socket.comparison = some c → f.Fits socket c
  waits : ∀ p ∈ f.plugs, p ∈ v.pool ∧ p.origin = v.index
  ball : ∀ b, f = .ball b ↔ v.elements[place + 1]? = some b ∧ b.change = .move
  dragged : ∀ b, f = .ball b → b.method = .drag
  halved : f.isHalves = true ↔ socket.id ∈ v.halved

/-- It was noted of sockets that are there only, that they wait for halves. -/
def Marked (v : Scene) : Prop := ∀ id ∈ v.halved, Named v.lastId id

/-! ## What moves keep -/

/-- **No plug of this panel leaves the pool.** -/
lemma Move.mem_pool (h : Move phase v v') {p : Plug} (hp : p ∈ v.pool) (horigin : p.origin = v.index) :
    p ∈ v'.pool := by
  cases h with
  | add | exit | lock | resize | cover | mark | noted => exact hp
  | socket => exact Multiset.mem_cons_of_mem hp
  | halves => exact Multiset.mem_cons_of_mem (Multiset.mem_cons_of_mem hp)
  | @place q rest _ hpool hother =>
    rcases Multiset.mem_cons.mp (hpool ▸ hp) with rfl | hrest
    · exact absurd horigin hother
    · exact hrest

/-- What a move pushes first is not the ball of a maze. -/
lemma Move.change_ne (h : Move phase v v') {b : Element}
    (hb : v'.elements[v.elements.length]? = some b) : b.change ≠ .move := by
  have hpushed : ∀ {e : Element}, (v.push e).elements[v.elements.length]? = some b →
      e.change ≠ .move → b.change ≠ .move := fun {e} hb he =>
    Option.some.inj ((v.getElem?_concat_push e).symm.trans hb) ▸ he
  have hsame : v'.elements.length ≠ v.elements.length := fun hlength =>
    absurd (List.getElem?_eq_some_iff.mp hb).1 (hlength ▸ lt_irrefl _)
  cases h with
  | add _ haside => exact hpushed hb haside.change
  | socket _ he => exact hpushed hb he.change
  | halves _ he => exact hpushed hb he.change
  | @exit e ball _ _ he =>
    have hbelow := getElem?_push (v := (v.tick.push e).tick) (v.tick.getElem?_concat_push e) ball
    exact Option.some.inj (hbelow.symm.trans hb) ▸ he.change
  | place _ _ _ _ haside => exact hpushed hb haside.change
  | lock | resize => exact absurd (List.length_modify ..) hsame
  | cover | mark | noted => exact absurd rfl hsame

/-- **The ball of a maze stays what it is** while the panel is populated, and no other element becomes
one. -/
lemma Move.ball_iff (h : Move .populating v v') (hplace : place < v.elements.length) (b : Element) :
    v'.elements[place + 1]? = some b ∧ b.change = .move ↔
      v.elements[place + 1]? = some b ∧ b.change = .move := by
  have hstays : ∀ {e}, v.elements[place + 1]? = some e → e.change = .move →
      v'.elements[place + 1]? = some e := fun he hmove =>
    h.stays he fun hlockable => hlockable.change hmove
  refine ⟨fun ⟨hb, hmove⟩ => ⟨?_, hmove⟩, fun ⟨hb, hmove⟩ => ⟨hstays hb hmove, hmove⟩⟩
  cases hold : v.elements[place + 1]? with
  | none =>
    -- nothing comes after the socket, so the next element does
    have hlast : v.elements.length = place + 1 :=
      le_antisymm (List.getElem?_eq_none_iff.mp hold) hplace
    exact absurd hmove (h.change_ne (hlast ▸ hb))
  | some e =>
    obtain ⟨e', he', hkeeps, -⟩ := h.keeps hold
    obtain rfl := Option.some.inj (he'.symm.trans hb)
    rw [← he', hstays hold (hkeeps.change_eq.symm.trans hmove)]

/-- What is noted later of sockets for halves is about new ones. -/
lemma Later.mem_halved_iff (h : v.Later v') {id : String} (hid : Named v.lastId id) :
    id ∈ v'.halved ↔ id ∈ v.halved := by
  refine ⟨fun hmem => (h.added id hmem).resolve_right ?_, fun hmem => h.halved hmem⟩
  rintro ⟨_, k, hk, rfl⟩
  obtain ⟨_, n, -, hn, heq⟩ := hid
  have hnumber := (Shape.idOf_inj heq).2
  omega

/-- **What fills a socket goes on to fill it** while the panel is populated. -/
lemma Fills.move (h : v.Fills place socket f) (hsocket : v.SocketAt place socket)
    (hnumbered : socket.Numbered v.lastId) (hmove : Move .populating v v') :
    v'.Fills place socket f where
  fits := h.fits
  waits p hp := ⟨hmove.mem_pool (h.waits p hp).1 (h.waits p hp).2,
    (h.waits p hp).2.trans hmove.index_eq.symm⟩
  ball b := (h.ball b).trans (hmove.ball_iff hsocket.lt_length b).symm
  dragged := h.dragged
  halved := h.halved.trans (hmove.steps.later.mem_halved_iff hnumbered.named).symm

lemma Move.marked (h : Move phase v v') (hv : v.Marked) : v'.Marked := by
  have hle : v.lastId ≤ v'.lastId := h.steps.later.lastId
  have hkept : ∀ id ∈ v.halved, Named v'.lastId id := fun id hid => (hv id hid).mono hle
  cases h with
  | add | socket | exit | place | lock | resize | cover | mark | noted => exact hkept
  | @halves e _ a b _ he =>
    refine List.forall_mem_cons.mpr ⟨?_, hkept⟩
    exact ⟨e.shape, v.lastId + 1, Nat.succ_pos _, Nat.le_add_right _ 2, he.id_eq⟩

lemma Leads.marked (h : v.Leads phase v') (hv : v.Marked) : v'.Marked := by
  induction h with
  | refl => exact hv
  | tail _ hmove ih => exact hmove.marked ih

/-! ## New sockets -/

/-- The id of a new socket was not noted before. -/
lemma NewSocket.not_mem_halved {c : Comparison} (h : v.NewSocket socket c) (hv : v.Marked) :
    socket.id ∉ v.halved := fun hid => (hv _ hid).ne_next socket.shape h.id_eq

/-- What fits by the comparison of a new socket fits it. -/
lemma NewSocket.fits {c : Comparison} (h : v.NewSocket socket c) (hfits : f.Fits socket c) :
    ∀ c', socket.comparison = some c' → f.Fits socket c' := fun _ hc' =>
  Option.some.inj (h.comparison.symm.trans hc') ▸ hfits

/-- What is pushed last has nothing after it. -/
lemma getElem?_after_push (v : Scene) (e : Element) :
    (v.push e).elements[v.elements.length + 1]? = none :=
  List.getElem?_eq_none_iff.mpr (List.length_append ▸ le_rfl)

/-- What fills a socket that is new on a later scene: it is the one right after what was there, and
its filling is made of numbers that were not given before. -/
def FillsNew (v v' : Scene) (f : Filling) : Prop :=
  ∀ place socket, v'.SocketAt place socket → v.elements.length ≤ place →
    place = v.elements.length ∧ v'.Fills place socket f ∧ f.Between v.lastId v'.lastId

/-- Where only one element is new, it is enough to look at it. -/
lemma FillsNew.of_push {e : Element} (helements : v'.elements = v.elements ++ [e])
    (h : e.comparison ≠ none → v'.Fills v.elements.length e f ∧ f.Between v.lastId v'.lastId) :
    v.FillsNew v' f := by
  intro place socket hsocket hplace
  have hlast := hsocket.getElem?
  rw [helements] at hlast
  obtain ⟨rfl, rfl⟩ := eq_of_getElem?_concat hlast hplace
  exact ⟨rfl, h hsocket.comparison⟩

lemma FillsNew.of_aside {e : Element} (he : e.Aside) (helements : v'.elements = v.elements ++ [e]) :
    v.FillsNew v' f := .of_push helements fun h => absurd he.comparison h

lemma FillsNew.of_length (h : v'.elements.length = v.elements.length) : v.FillsNew v' f :=
  fun _ _ hsocket hplace => absurd (h ▸ hsocket.lt_length) (not_lt.mpr hplace)

/-- A plug fills the socket that it is made for. -/
lemma fillsNew_plug {c : Comparison} {p : Plug} (hv : v.Marked) (he : v.NewSocket socket c)
    (hp : v.tick.NewPlug p) (hfits : c.fits socket p.element = true) :
    v.FillsNew ((v.tick.push socket).tick.deposit p) (.plug p) := by
  refine .of_push rfl fun _ => ⟨⟨he.fits hfits, ?_, fun b => ?_, fun b => nofun, ?_⟩, ?_, ?_⟩
  · exact List.forall_mem_singleton.mpr ⟨Multiset.mem_cons_self _ _, hp.origin⟩
  · have hafter := getElem?_after_push v socket
    exact ⟨nofun, fun h => absurd (hafter.symm.trans h.1) nofun⟩
  · exact ⟨nofun, fun h => absurd h (he.not_mem_halved hv)⟩
  · exact List.nodup_singleton _
  · exact List.forall_mem_singleton.mpr ⟨_, v.lastId + 2, by omega, le_rfl, hp.id_eq⟩

/-- Two halves fill the socket that they are made for. -/
lemma fillsNew_halves {c : Comparison} {a b : Plug} (he : v.NewSocket socket c)
    (ha : v.tick.NewPlug a) (hb : v.tick.tick.NewPlug b)
    (hfits : c.fitsPair socket a.element b.element = true) :
    v.FillsNew ((((v.tick.noteHalved socket.id).push socket).tick.deposit a).tick.deposit b)
      (.halves a b) := by
  refine .of_push rfl fun _ => ⟨⟨he.fits hfits, ?_, fun b => ?_, fun b => nofun, ?_⟩, ?_, ?_⟩
  · refine List.forall_mem_cons.mpr ⟨⟨?_, ha.origin⟩, List.forall_mem_singleton.mpr ⟨?_, hb.origin⟩⟩
    · exact Multiset.mem_cons_of_mem (Multiset.mem_cons_self _ _)
    · exact Multiset.mem_cons_self _ _
  · have hafter := getElem?_after_push v socket
    exact ⟨nofun, fun h => absurd (hafter.symm.trans h.1) nofun⟩
  · exact ⟨fun _ => List.mem_cons_self, fun _ => rfl⟩
  · refine List.nodup_cons.mpr ⟨fun h => ?_, List.nodup_singleton _⟩
    have heq := ha.id_eq.symm.trans ((List.mem_singleton.mp h).trans hb.id_eq)
    exact absurd (Shape.idOf_inj heq).2 (Nat.succ_ne_self _).symm
  · refine List.forall_mem_cons.mpr ⟨⟨_, v.lastId + 2, by omega, Nat.le_succ _, ha.id_eq⟩, ?_⟩
    exact List.forall_mem_singleton.mpr ⟨_, v.lastId + 3, by omega, le_rfl, hb.id_eq⟩

/-- The ball of a maze fills its exit. -/
lemma fillsNew_ball {c : Comparison} {ball : Element} (hv : v.Marked) (he : v.NewSocket socket c)
    (hball : v.tick.NewBall ball) (hfits : c.fits socket ball = true) :
    v.FillsNew ((v.tick.push socket).tick.push ball) (.ball ball) := by
  have hlength : (v.tick.push socket).elements.length = v.elements.length + 1 := List.length_append
  have hafter : ((v.tick.push socket).tick.push ball).elements[v.elements.length + 1]? = some ball :=
    hlength ▸ (v.tick.push socket).tick.getElem?_concat_push ball
  have hbelow : ((v.tick.push socket).tick.push ball).elements[v.elements.length]? = some socket :=
    getElem?_push (v := (v.tick.push socket).tick) (v.tick.getElem?_concat_push socket) ball
  intro place exit hexit hplace
  have hlt := hexit.lt_length
  rw [push, List.length_append, List.length_singleton] at hlt
  -- the ball is no socket itself
  have hne : place ≠ v.elements.length + 1 := by
    rintro rfl
    exact hexit.comparison (Option.some.inj (hafter.symm.trans hexit.getElem?) ▸ hball.comparison)
  obtain rfl : place = v.elements.length := by
    have hlt' : place < (v.tick.push socket).elements.length + 1 := hlt
    omega
  obtain rfl := Option.some.inj (hbelow.symm.trans hexit.getElem?)
  refine ⟨rfl, ⟨he.fits hfits, ?_, fun b => ?_, fun b hb => ?_, ?_⟩, ?_, ?_⟩
  · exact List.forall_mem_nil _
  · rw [hafter, Option.some.injEq, Filling.ball.injEq]
    exact ⟨fun h => ⟨h, h ▸ hball.change⟩, fun h => h.1⟩
  · exact Filling.ball.inj hb ▸ hball.method
  · exact ⟨nofun, fun h => absurd h (he.not_mem_halved hv)⟩
  · exact List.nodup_singleton _
  · exact List.forall_mem_singleton.mpr ⟨_, v.lastId + 2, by omega, le_rfl, hball.id_eq⟩

/-- **A new socket is made with what fills it,** out of the next numbers. -/
lemma Move.exists_fillsNew (h : Move .populating v v') (hv : v.Marked) :
    ∃ f, v.FillsNew v' f := by
  -- where no socket is new, any filling will do
  let any : Filling := .ball (.numbered .circle 0 0 0)
  cases h with
  | add _ he => exact ⟨any, .of_aside he rfl⟩
  | place _ _ _ _ he => exact ⟨any, .of_aside he rfl⟩
  | lock | resize => exact ⟨any, .of_length (List.length_modify ..)⟩
  | cover | mark | noted => exact ⟨any, .of_length rfl⟩
  | socket _ he hp hfits => exact ⟨_, fillsNew_plug hv he hp hfits⟩
  | halves _ he ha hb hfits => exact ⟨_, fillsNew_halves he ha hb hfits⟩
  | exit _ he hball hfits => exact ⟨_, fillsNew_ball hv he hball hfits⟩

/-! ## All sockets of a scene -/

/-- **Every socket is filled** with numbers from `first` on, and nothing fills two sockets. -/
structure Filled (first : Nat) (filling : Nat → Filling) (v : Scene) : Prop where
  fills : ∀ place socket, v.SocketAt place socket → v.Fills place socket (filling place)
  between : ∀ place socket, v.SocketAt place socket → (filling place).Between first v.lastId
  apart : ∀ place socket place' socket' id, v.SocketAt place socket → v.SocketAt place' socket' →
    id ∈ (filling place).ids → id ∈ (filling place').ids → place = place'

/-- A socket that was there before a move is there still. -/
lemma SocketAt.before (h : v'.SocketAt place socket) (hmove : Move .populating v v')
    (hplace : place < v.elements.length) : v.SocketAt place socket := by
  have hold := List.getElem?_eq_getElem hplace
  obtain ⟨e', he', hkeeps, -⟩ := hmove.keeps hold
  obtain rfl := Option.some.inj (he'.symm.trans h.getElem?)
  have hsocket : v.SocketAt place v.elements[place] := ⟨hold, hkeeps.comparison_eq ▸ h.comparison⟩
  obtain rfl := Option.some.inj ((hmove.stays hold hsocket.not_lockable).symm.trans h.getElem?)
  exact hsocket

namespace Filled

variable {first : Nat} {filling : Nat → Filling} {others : Multiset String}

lemma of_empty (h : v.elements = []) : v.Filled first filling := by
  have hnone : ∀ place socket, ¬ v.SocketAt place socket := fun place socket hsocket =>
    absurd hsocket.lt_length (h ▸ Nat.not_lt_zero place)
  exact ⟨fun place socket hsocket => absurd hsocket (hnone place socket),
    fun place socket hsocket => absurd hsocket (hnone place socket),
    fun place socket _ _ _ hsocket => absurd hsocket (hnone place socket)⟩

/-- **A move leaves every socket filled.** -/
lemma move (h : v.Filled first filling) (hfirst : first ≤ v.lastId) (hv : v.Marked)
    (hdistinct : v.Distinct others) (hmove : Move .populating v v') :
    ∃ filling, v'.Filled first filling := by
  obtain ⟨f, hf⟩ := hmove.exists_fillsNew hv
  have hle : v.lastId ≤ v'.lastId := hmove.steps.later.lastId
  set filling' := fun place => if place < v.elements.length then filling place else f with hfilling
  have hold : ∀ {place}, place < v.elements.length → filling' place = filling place := fun h =>
    if_pos h
  have hnew : ∀ {place}, v.elements.length ≤ place → filling' place = f := fun h =>
    if_neg (not_lt.mpr h)
  -- what fills a socket that was there has earlier numbers than what fills a new one
  have hearlier : ∀ {place socket place' socket'}, v'.SocketAt place socket →
      v'.SocketAt place' socket' → place < v.elements.length → v.elements.length ≤ place' →
      ∀ id ∈ (filling place).ids, id ∉ f.ids := fun hsocket hsocket' hplace hplace' _ hid =>
    (h.between _ _ (hsocket.before hmove hplace)).not_mem (hf _ _ hsocket' hplace').2.2 hid
  refine ⟨filling', fun place socket hsocket => ?_, fun place socket hsocket => ?_, ?_⟩
  · rcases lt_or_ge place v.elements.length with hplace | hplace
    · have hbefore := hsocket.before hmove hplace
      have hnumbered := hdistinct.elements socket (List.mem_of_getElem? hbefore.getElem?)
      exact hold hplace ▸ (h.fills place socket hbefore).move hbefore hnumbered hmove
    · exact hnew hplace ▸ (hf place socket hsocket hplace).2.1
  · rcases lt_or_ge place v.elements.length with hplace | hplace
    · exact hold hplace ▸ (h.between place socket (hsocket.before hmove hplace)).mono le_rfl hle
    · exact hnew hplace ▸ (hf place socket hsocket hplace).2.2.mono hfirst le_rfl
  · intro place socket place' socket' id hsocket hsocket' hid hid'
    rcases lt_or_ge place v.elements.length with hplace | hplace <;>
      rcases lt_or_ge place' v.elements.length with hplace' | hplace'
    · rw [hold hplace] at hid
      rw [hold hplace'] at hid'
      exact h.apart place socket place' socket' id (hsocket.before hmove hplace)
        (hsocket'.before hmove hplace') hid hid'
    · rw [hold hplace] at hid
      rw [hnew hplace'] at hid'
      exact absurd hid' (hearlier hsocket hsocket' hplace hplace' id hid)
    · rw [hnew hplace] at hid
      rw [hold hplace'] at hid'
      exact absurd hid (hearlier hsocket' hsocket hplace' hplace id hid')
    · rw [(hf place socket hsocket hplace).1, (hf place' socket' hsocket' hplace').1]

end Filled

/-- **When a panel is populated every socket is filled,** with numbers that no other panel has. -/
lemma Leads.exists_filled {others : Multiset String} (h : v.Leads .populating v')
    (hempty : v.elements = []) (hv : v.Marked) (hdistinct : v.Distinct others) :
    ∃ filling, v'.Filled v.lastId filling := by
  induction h with
  | refl => exact ⟨fun _ => .ball (.numbered .circle 0 0 0), .of_empty hempty⟩
  | @tail w _ hleads hmove ih =>
    obtain ⟨filling, hfilled⟩ := ih
    have hsteps : v.Steps w := Leads.steps hleads
    exact hfilled.move hsteps.later.lastId (Leads.marked hleads hv)
      (hsteps.keeps Distinct.step hdistinct) hmove

/-! ## While a panel is finished -/

/-- **Neither a socket nor the ball of a maze is added to a populated panel:** each was there. -/
lemma Leads.exists_made (h : v.Leads .finishing v') {e : Element} (he : v'.elements[place]? = some e)
    (haside : ¬ e.Aside) : ∃ made, v.elements[place]? = some made ∧ made.Keeps e := by
  induction h generalizing e with
  | refl => exact ⟨e, he, .refl e⟩
  | @tail w _ _ hmove ih =>
    rcases lt_or_ge place w.elements.length with hplace | hplace
    · have hold := List.getElem?_eq_getElem hplace
      obtain ⟨e', he', hkeeps, -⟩ := hmove.keeps hold
      obtain rfl := Option.some.inj (he'.symm.trans he)
      obtain ⟨made, hmade, hkeeps'⟩ := ih hold fun ⟨hcomparison, hchange⟩ =>
        haside ⟨hkeeps.comparison_eq.trans hcomparison, hkeeps.change_eq ▸ hchange⟩
      exact ⟨made, hmade, hkeeps'.trans hkeeps⟩
    · exact absurd ((hmove.fresh he hplace).2 rfl) haside

/-- A panel that is not populated has no socket. -/
lemma Leads.comparison_eq_none (h : v.Leads .finishing v') (hempty : v.elements = []) :
    ∀ e ∈ v'.elements, e.comparison = none := by
  intro e he
  by_contra hne
  obtain ⟨place, hplace⟩ := List.mem_iff_getElem?.mp he
  obtain ⟨made, hmade, -⟩ := h.exists_made hplace fun haside => hne haside.comparison
  exact absurd (List.getElem?_eq_some_iff.mp hmade).1 (hempty ▸ Nat.not_lt_zero place)

end Scene

end PanelPuzzle
