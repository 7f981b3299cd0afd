import PanelPuzzle.Proofs.Making.Controls
import PanelPuzzle.Technique.Hole
import PanelPuzzle.Technique.Maze
import PanelPuzzle.Technique.Screw
import PanelPuzzle.Technique.Semicircle
import PanelPuzzle.Technique.SwitchPattern
import PanelPuzzle.Technique.Tumbler
/-!
# Techniques make moves

Every technique but the group, which takes plugs out of the pool, is put together from moves of the
scene.  That a plug fits its socket is seen here, where both are made: they have the same size and
color, or the two halves join to a circle of the size of the socket.
-/

namespace PanelPuzzle

variable {β : Type} {phase : Phase} {v : Scene}

/-! ## Sockets and what fills them -/

/-- **A plug fits a socket of its size and color,** strictly or not. -/
lemma Comparison.fits_alike {c : Comparison} {socket plug : Element} (hc : c = equal ∨ c = strict)
    (haccepts : socket.shape.accepts plug.shape = true) (hwidth : plug.width = socket.width)
    (hheight : plug.height = socket.height)
    (hsize : equal.fitsSize socket.width socket.height socket.width socket.height = true)
    (hcolor : plug.color.primary = socket.color.primary) : c.fits socket plug = true := by
  have hfits : c.fitsSize socket.width socket.height plug.width plug.height = true := by
    rw [hwidth, hheight]
    rcases hc with rfl | rfl <;> exact hsize
  rw [fits, haccepts, hfits, hcolor, decide_eq_true rfl, Bool.or_true]
  rfl

/-- A left and a right half stand side by side. -/
lemma Comparison.joined?_sideways {a b : Element} (ha : a.shape = .semicircleLeft)
    (hb : b.shape = .semicircleRight) (hsame : tolerance.lt (a.height - b.height).abs = false) :
    joined? a b = some (a.width + b.width, a.height) := by
  simp only [joined?, ha, hb, hsame, Bool.false_eq_true, if_false]

/-- An upper half stands on a lower one. -/
lemma Comparison.joined?_upright {a b : Element} (ha : a.shape = .semicircleTop)
    (hb : b.shape = .semicircleBottom) (hsame : tolerance.lt (a.width - b.width).abs = false) :
    joined? a b = some (a.width, a.height + b.height) := by
  simp only [joined?, ha, hb, hsame, Bool.false_eq_true, if_false]

/-- **Two halves fill a round socket of the size of their circle.** -/
lemma Comparison.fitsPair_joined {c : Comparison} {socket a b : Element} {width height : Number}
    (hc : c = equal ∨ c = strict) (hshape : socket.shape = .circle)
    (hjoined : joined? a b = some (width, height))
    (hsize : equal.fitsSize socket.width socket.height width height = true)
    (hcolor : c = strict →
      a.color.primary = socket.color.primary ∧ b.color.primary = socket.color.primary) :
    c.fitsPair socket a b = true := by
  have hfits : c.fitsSize socket.width socket.height width height = true := by
    rcases hc with rfl | rfl <;> exact hsize
  rw [fitsPair, hshape, hjoined]
  dsimp only
  rw [hfits, decide_eq_true rfl, Bool.true_and, Bool.true_and, Bool.or_eq_true, Bool.and_eq_true,
    decide_eq_true_eq, decide_eq_true_eq, decide_eq_true_eq]
  exact or_iff_not_imp_left.mpr fun hstrict => hcolor (not_not.mp hstrict)

lemma Comparison.eq_ite (b : Bool) :
    (if b then strict else equal) = equal ∨ (if b then strict else equal) = strict := by
  cases b
  · exact .inl rfl
  · exact .inr rfl

namespace Scene

/-- The next element of a scene as it is made for a socket. -/
structure NewSunken (v : Scene) (shape : Shape) (width height : Number) (color : UInt8)
    (e : Element) : Prop where
  id_eq : e.id = v.nextId shape
  shape_eq : e.shape = shape
  width_eq : e.width = width
  height_eq : e.height = height
  color_eq : e.color = .plain color
  actions : e.actions = []
  change : e.change = .none

/-- It becomes a socket with its comparison. -/
lemma NewSunken.socket {shape : Shape} {width height : Number} {color : UInt8} {e : Element}
    (he : v.NewSunken shape width height color e) (hshape : shape ∉ Phase.movable .populating)
    (c : Comparison) : v.NewSocket { e with comparison := some c } c where
  id_eq := he.id_eq.trans (congrArg v.nextId he.shape_eq.symm)
  comparison := rfl
  actions := he.actions
  change := he.change ▸ Change.noConfusion
  shape := he.shape_eq ▸ hshape

lemma newPlug_freshPlug (v : Scene) {shape : Shape} (hshape : shape.draggable = true)
    (width height : Number) (color : UInt8) (remote : Bool) :
    v.NewPlug (v.freshPlug shape width height color remote) :=
  ⟨rfl, rfl, ⟨rfl, ⟨⟨rfl, Change.noConfusion⟩, rfl⟩, hshape⟩⟩

/-- A new socket and its plug may be coverable. -/
lemma leads_socket {e : Element} {c : Comparison} {p : Plug} {k : Coverable} (he : v.NewSocket e c)
    (hp : v.tick.NewPlug p) (hfits : c.fits e p.element = true) (hk : k.role ≠ .plug) :
    v.Leads .populating (((v.tick.push e).addCoverable k).tick.deposit p) :=
  (Relation.ReflTransGen.single (.socket rfl he hp hfits)).tail (.cover fun h => absurd h hk)

/-- A new round socket and its halves may be coverable. -/
lemma leads_halves {e : Element} {c : Comparison} {a b : Plug} {k : Coverable}
    (he : v.NewSocket e c) (ha : v.tick.NewPlug a) (hb : v.tick.tick.NewPlug b)
    (hfits : c.fitsPair e a.element b.element = true) (hk : k.role ≠ .plug) :
    v.Leads .populating
      (((((v.tick.noteHalved e.id).push e).addCoverable k).tick.deposit a).tick.deposit b) :=
  (Relation.ReflTransGen.single (.halves rfl he ha hb hfits)).tail (.cover fun h => absurd h hk)

/-- The plug may be made before its socket is put on the panel. -/
lemma leads_socket_over {e : Element} {c : Comparison} {p : Plug} (he : v.NewSocket e c)
    (hp : v.tick.NewPlug p) (hfits : c.fits e p.element = true) :
    v.Leads .populating ((v.tick.tick.deposit p).push e) := .single (.socket rfl he hp hfits)

end Scene

/-! ## Parts of techniques -/

/-- The next element of a scene, which is a switch. -/
structure Scene.NewSwitch (v : Scene) (target : Nat) (e : Element) : Prop where
  id_eq : e.id = v.nextId e.shape
  shape_eq : e.shape = .switch
  method : e.method = .tap
  change : e.change = .state
  target_eq : e.target = Int32.ofNat target
  comparison : e.comparison = none
  actions : e.actions = []

namespace Scene.NewSwitch

variable {target : Nat} {e : Element}

lemma lockable (he : v.NewSwitch target e) : e.Lockable :=
  ⟨⟨he.comparison, he.change ▸ Change.noConfusion⟩, he.actions⟩

lemma handy (he : v.NewSwitch target e) : e.Handy := .inr ⟨.inl he.method, .inl he.shape_eq⟩

lemma move (he : v.NewSwitch target e) : v.Move phase (v.tick.push e) := by
  refine .add he.id_eq he.lockable.toAside ?_ fun _ => he.handy
  rw [Scene.Reaches, he.actions]
  exact List.forall_mem_nil _

lemma look (he : v.NewSwitch target e) (color : Color) : v.NewSwitch target { e with color } :=
  ⟨he.id_eq, he.shape_eq, he.method, he.change, he.target_eq, he.comparison, he.actions⟩

/-- A switch is below its button. -/
lemma getElem?_buttoned (v : Scene) (e button : Element) :
    ((v.tick.push e).tick.push button).elements[v.elements.length]? = some e :=
  getElem?_push (v := (v.tick.push e).tick) (v.tick.getElem?_concat_push e) button

/-- **A theme-colored switch is locked** when its button is there. -/
lemma leads_lock (he : v.NewSwitch target e) {theme ball : UInt8}
    (hcolor : e.color = .themeCycle theme ball) {button : Element}
    (hb : (v.tick.push e).NewButton (.cycle e.id) button) :
    v.Leads phase (((v.tick.push e).tick.push button).lock v.elements.length) := by
  have hid : e.id ∈ (v.tick.push e).ids := by
    rw [ids_push]
    exact List.mem_append_right _ (List.mem_singleton.mpr rfl)
  refine ((Relation.ReflTransGen.single he.move).tail (hb.move hid)).tail
    (.lock (getElem?_buttoned v e button) he.lockable (.inr (.inr ?_)))
  refine ⟨he.shape_eq, ⟨theme, ball, hcolor⟩, button, ?_, hb.method, ?_⟩
  · exact List.mem_append_right _ (List.mem_singleton.mpr rfl)
  · rw [hb.actions]
    exact List.mem_singleton.mpr rfl

/-- To let a switch no longer be tapped is to lock it. -/
lemma modifyElement_eq_lock (he : v.NewSwitch target e) (button : Element) :
    ((v.tick.push e).tick.push button).modifyElement v.elements.length
      (·.interact .none .state (Int32.ofNat target))
      = ((v.tick.push e).tick.push button).lock v.elements.length := by
  refine modifyElement_congr (getElem?_buttoned v e button) ?_
  change { e with method := .none, change := .state, target := Int32.ofNat target } = e.locked
  rw [← he.change, ← he.target_eq]
  rfl

end Scene.NewSwitch

namespace Making.Shows

open Technique

variable {Q : β → Scene → Prop}

lemma newSocket {shape : Shape} {width height : Number} {color : UInt8} {r : Rect}
    {next : Element → Making β}
    (h : ∀ e, v.NewSunken shape width height color e → Shows v.tick (next e) Q) :
    Shows v (Making.newSocket shape width height color r >>= next) Q :=
  assoc (newElement (answer (h _ ⟨rfl, rfl, rfl, rfl, rfl, rfl, rfl⟩)))

lemma newSwitch {r : Rect} {target : Nat} {next : Element → Making β}
    (h : ∀ e, v.NewSwitch target e → Shows v.tick (next e) Q) :
    Shows v (Technique.newSwitch r target >>= next) Q := by
  refine .assoc (.newElement (.assoc (.skip (.session _) fun unsatisfied _ => ?_)))
  refine .assoc (.skip (.session _) fun satisfied _ => .assoc (.skip (.session _) fun ball _ => ?_))
  exact h _ ⟨rfl, rfl, rfl, rfl, rfl, rfl, rfl⟩

/-- **A hole that is filled** becomes a socket, and its plug waits. -/
lemma fillHole {hole : Element} {color : UInt8} {next : Element → Making β}
    (h : ∀ c remote, c = .equal ∨ c = .strict →
      Shows (v.tick.deposit (v.freshPlug .circle screwHoleSize screwHoleSize color remote))
        (next { hole with comparison := some c }) Q) :
    Shows v (Technique.fillHole hole color >>= next) Q := by
  refine .assoc (.skip .readSession fun s _ => .assoc (.skip (.session _) fun strict _ => ?_))
  refine .assoc (.depositPlug fun remote => .assoc ?_)
  refine .skip (.modifyDraft fun d => ⟨rfl, rfl, rfl⟩) fun _ _ => ?_
  exact h _ remote (Comparison.eq_ite strict)

/-- **Two halves wait,** of the color that is asked for, if one is. -/
lemma depositHalves {color : Option UInt8} {first second : Shape × Number × Number}
    {next : Unit → Making β} (h : ∀ color₁ color₂ remote₁ remote₂,
      (∀ c ∈ color, color₁ = c ∧ color₂ = c) →
      Shows ((v.tick.deposit
        (v.freshPlug first.1 first.2.1 first.2.2 color₁ remote₁)).tick.deposit
        (v.tick.freshPlug second.1 second.2.1 second.2.2 color₂ remote₂)) (next ()) Q) :
    Shows v (Technique.depositHalves color [first, second] >>= next) Q := by
  cases color with
  | none =>
    refine .assoc (.skip (.session _) fun color₁ _ => .assoc (.depositPlug fun remote₁ => ?_))
    refine .assoc (.skip (.session _) fun color₂ _ => .assoc (.depositPlug fun remote₂ => ?_))
    exact h color₁ color₂ remote₁ remote₂ fun c hc => absurd hc (Option.not_mem_none c)
  | some color =>
    refine .assoc (.answer (.assoc (.depositPlug fun remote₁ => ?_)))
    refine .assoc (.answer (.assoc (.depositPlug fun remote₂ => ?_)))
    refine h color color remote₁ remote₂ fun c hc => ?_
    obtain rfl := Option.mem_some_iff.mp hc
    exact ⟨rfl, rfl⟩

end Making.Shows

namespace Making.Moves

open Technique

/-! ## Holes -/

lemma kinds_hole : ∀ kind ∈ holeKinds, kind.1.draggable = true ∧
    kind.1 ∉ Phase.movable .populating ∧ kind.1.accepts kind.1 = true ∧
    Comparison.equal.fitsSize kind.2.1 kind.2.2 kind.2.1 kind.2.2 = true := by
  decide +kernel

lemma placeHole : Moves .populating Technique.placeHole := by
  intro v hv
  refine .skip (.choose _) fun kind hkind => ?_
  rcases kind with _ | ⟨shape, width, height⟩
  · exact .pure .refl
  obtain ⟨hdraggable, hshape, haccepts, hsize⟩ := kinds_hole _ (hkind _ rfl)
  refine .skip (.allocate _ _ _) fun found _ => ?_
  cases found with
  | none => exact .pure .refl
  | some r =>
    refine .skip (.session _) fun color _ => .newSocket fun socket hsocket => ?_
    refine .skip (.note ⟨rfl, rfl⟩) fun _ _ => .pushCoverable (.depositPlug fun remote => .pure ?_)
    refine Scene.leads_socket (hsocket.socket hshape .equal)
      (v.tick.newPlug_freshPlug hdraggable _ _ _ _) ?_ CoverRole.noConfusion
    obtain ⟨-, rfl, rfl, rfl, hcolor, -, -⟩ := hsocket
    exact Comparison.fits_alike (.inl rfl) haccepts rfl rfl hsize (congrArg Color.primary hcolor.symm)

lemma hole : Moves .populating Technique.hole :=
  .bind (.quiet (.drawn _)) fun _ => .repeatPlacing (fun _ => placeHole) _ _

/-! ## Screws -/

/-- The sizes that are the same on every panel fit themselves. -/
lemma fitsSize_self : ∀ size ∈ [screwHoleSize, tumblerSize, ballSize],
    Comparison.equal.fitsSize size size size size = true := by
  decide +kernel

lemma circle_not_mem_movable : Shape.circle ∉ Phase.movable .populating := by decide

lemma placeScrew (first : Bool) : Moves .populating (Technique.placeScrew first) := by
  intro v hv
  refine .skip (.allocate _ _ _) fun found _ => ?_
  cases found with
  | none => exact .pure .refl
  | some r =>
    refine .skip (.session _) fun color _ => .newElement (.skip .readSession fun s _ => ?_)
    extract_lets screwed settled
    -- the hole is on the panel by whatever moves, and the screw goes over it
    have hscrewed : ∀ hole v', v.Leads .populating (v'.push hole) →
        Shows v' (screwed hole) fun _ v'' => v.Leads .populating v'' := by
      intro hole v' hleads
      refine .push (.newElement (.skip (.session _) fun screwColor _ => ?_))
      refine .skip (.drawn _) fun rotation _ => .skip (.drawn _) fun turns _ => ?_
      refine .skip (.note ⟨rfl, rfl⟩) fun _ _ => .pushCoverable (.pure ?_)
      refine (hleads.tail (.add rfl ⟨rfl, Change.noConfusion⟩ ?_ fun _ => ?_)).tail
        (.cover fun h => CoverRole.noConfusion h)
      · exact List.forall_mem_singleton.mpr (.inl rfl)
      · exact .inr ⟨.inr rfl, .inr (List.mem_singleton.mpr rfl)⟩
    clear_value screwed
    have hsettled : ∀ waits, Shows v.tick (settled waits) fun _ v' => v.Leads .populating v' := by
      intro waits
      unfold settled
      split
      · refine .fillHole fun c remote hc => hscrewed _ _ (Scene.leads_socket_over (c := c) ?_
          (v.tick.newPlug_freshPlug rfl _ _ _ _) (Comparison.fits_alike hc rfl rfl rfl ?_ rfl))
        · exact ⟨rfl, rfl, rfl, Change.noConfusion, circle_not_mem_movable⟩
        · exact fitsSize_self screwHoleSize (by simp)
      · refine .answer (hscrewed _ _ (.single (.add rfl ⟨rfl, Change.noConfusion⟩ ?_ fun h => ?_)))
        · exact List.forall_mem_nil _
        · exact absurd h circle_not_mem_movable
    split
    · exact hsettled true
    · exact .skip (.session _) fun waits _ => hsettled waits

lemma screw : Moves .populating Technique.screw :=
  .bind (.quiet (.drawn _)) fun _ => .repeatPlacing placeScrew _ _

/-! ## Round sockets and tumblers -/

/-- The two halves join to the whole, sideways or not. -/
lemma joins_halves : ∀ size ∈ semicircleSizes, tolerance.lt (size - size).abs = false ∧
    Comparison.equal.fitsSize size size (size / 2 + size / 2) size = true ∧
    Comparison.equal.fitsSize size size size (size / 2 + size / 2) = true := by
  decide +kernel

lemma semicircle : Moves .populating Technique.semicircle := by
  intro v hv
  refine .skip (.choose _) fun chosen hchosen => ?_
  have hsize : chosen.getD 1.5 ∈ semicircleSizes := by
    cases chosen with
    | none => exact List.mem_cons_self
    | some size => exact hchosen size rfl
  obtain ⟨hsame, hacross, hdown⟩ := joins_halves _ hsize
  generalize chosen.getD 1.5 = size at *
  refine .skip (.allocate _ _ _) fun found _ => ?_
  cases found with
  | none => exact .skip (.note ⟨rfl, rfl⟩) fun _ _ => .pure .refl
  | some r =>
    refine .skip (.session _) fun color _ => .skip (.session _) fun strict _ => ?_
    refine .newSocket fun socket hsocket => .noteHalved (.pushCoverable ?_)
    refine .skip (.session _) fun sideways _ => ?_
    have hnew := hsocket.socket circle_not_mem_movable (if strict then .strict else .equal)
    have hcolor : ∀ color₁ color₂, (∀ c ∈ if strict then some color else none,
        color₁ = c ∧ color₂ = c) → (if strict then Comparison.strict else .equal) = .strict →
        color₁ = socket.color.primary ∧ color₂ = socket.color.primary := by
      intro color₁ color₂ hcolors hstrict
      rw [hsocket.color_eq]
      cases strict with
      | false => cases hstrict
      | true => exact hcolors color rfl
    obtain ⟨-, hshape, rfl, hsquare, -, -, -⟩ := hsocket
    cases sideways with
    | false =>
      rw [if_neg Bool.false_ne_true]
      refine .depositHalves fun color₁ color₂ remote₁ remote₂ hcolors => .pure ?_
      refine Scene.leads_halves hnew (v.tick.newPlug_freshPlug rfl _ _ _ _)
        (v.tick.tick.newPlug_freshPlug rfl _ _ _ _) ?_ CoverRole.noConfusion
      exact Comparison.fitsPair_joined (Comparison.eq_ite _) hshape
        (Comparison.joined?_upright rfl rfl hsame) (hsquare ▸ hdown) (hcolor color₁ color₂ hcolors)
    | true =>
      rw [if_pos rfl]
      refine .depositHalves fun color₁ color₂ remote₁ remote₂ hcolors => .pure ?_
      refine Scene.leads_halves hnew (v.tick.newPlug_freshPlug rfl _ _ _ _)
        (v.tick.tick.newPlug_freshPlug rfl _ _ _ _) ?_ CoverRole.noConfusion
      exact Comparison.fitsPair_joined (Comparison.eq_ite _) hshape
        (Comparison.joined?_sideways rfl rfl hsame) (hsquare ▸ hacross) (hcolor color₁ color₂ hcolors)

lemma tumbler : Moves .populating Technique.tumbler := by
  intro v hv
  refine .skip (.allocate _ _ _) fun found _ => ?_
  cases found with
  | none => exact .skip (.note ⟨rfl, rfl⟩) fun _ _ => .pure .refl
  | some r =>
    refine .skip (.session _) fun color _ => .newSocket fun socket hsocket => ?_
    refine .skip (.note ⟨rfl, rfl⟩) fun _ _ => .pushCoverable (.depositPlug fun remote => .pure ?_)
    -- the tumbler turns, which is no move
    have hnew := hsocket.socket (by decide : Shape.tumbler ∉ Phase.movable .populating) .strict
    refine Scene.leads_socket (c := .strict)
      ⟨hnew.id_eq, rfl, hnew.actions, Change.noConfusion, hnew.shape⟩
      (v.tick.newPlug_freshPlug rfl _ _ _ _) ?_ CoverRole.noConfusion
    obtain ⟨-, hshape, hwidth, hheight, hcolor, -, -⟩ := hsocket
    have hsize : Comparison.equal.fitsSize socket.width socket.height socket.width socket.height
        = true := by
      rw [hwidth, hheight, fitsSize_self tumblerSize (by simp)]
    exact Comparison.fits_alike (.inr rfl) ((congrArg (Shape.accepts · .key) hshape).trans rfl)
      hwidth.symm hheight.symm hsize (congrArg Color.primary hcolor.symm)

/-! ## Switches -/

lemma placeSwitch (first : Bool) : Moves phase (Technique.placeSwitch first) := by
  intro v hv
  refine .skip (.allocate _ _ _) fun found _ => ?_
  cases found with
  | none => exact .pure .refl
  | some r =>
    refine .skip (.drawn _) fun target _ => .newSwitch fun switch hswitch => ?_
    refine .skip (.note ⟨rfl, rfl⟩) fun _ _ => .pushCoverable (.pure ?_)
    exact .tail (.single hswitch.move) (.cover fun h => CoverRole.noConfusion h)

/-- **Switches can be added at any time.** -/
lemma switch : Moves phase Technique.switch :=
  .bind (.quiet (.drawn _)) fun _ => .repeatPlacing placeSwitch _ _

lemma placeLinked (pattern : TargetPattern) (target : Nat) (v : Scene) :
    Shows v (Technique.placeLinked pattern target) fun placed v' =>
      v.Leads .populating v' ∧ ∀ id ∈ placed, id ∈ v'.ids := by
  refine .skip (.allocate _ _ _) fun found _ => ?_
  cases found with
  | none => exact .pure ⟨.refl, fun id hid => absurd hid (Option.not_mem_none id)⟩
  | some r =>
    refine .newSwitch fun plain hplain => ?_
    extract_lets answered
    -- whatever is done to the switch, it becomes coverable at the end, and its id is answered
    have hdone : ∀ {w : Scene} {e : Element}, v.Leads .populating w →
        w.elements[v.elements.length]? = some e → e.id = plain.id →
        Shows w (Making.cover v.elements.length .switch >>= answered) fun placed v' =>
          v.Leads .populating v' ∧ ∀ id ∈ placed, id ∈ v'.ids := by
      intro w e hleads he hid
      refine .coverElement he (.pure ⟨hleads.tail (.cover fun h => CoverRole.noConfusion h), ?_⟩)
      rintro id hmem
      rw [← Option.mem_some_iff.mp hmem, ← hid]
      exact List.mem_map_of_mem (List.mem_of_getElem? he)
    clear_value answered
    split
    · refine .skip (.session _) fun ball _ => .push ?_
      have hcycler := hplain.look (.themeCycle (themeStateColor target) ball)
      refine .addButton (hdone (.single hcycler.move) (v.tick.getElem?_concat_push _) rfl)
        fun button hbutton => .modifyElement ?_
      exact (hcycler.modifyElement_eq_lock button).symm ▸ hdone (hcycler.leads_lock rfl hbutton)
        (Scene.getElem?_lock (Scene.NewSwitch.getElem?_buttoned v _ button)) rfl
    · exact .assoc (.push (hdone (.single hplain.move) (v.tick.getElem?_concat_push plain) rfl))

lemma placeAllLinked (pattern : TargetPattern) : ∀ (targets : List Nat) (v : Scene),
    Shows v (Technique.placeAllLinked pattern targets) fun ids v' =>
      v.Leads .populating v' ∧ ∀ id ∈ ids, id ∈ v'.ids
  | [], v => .pure ⟨.refl, fun id hid => absurd hid List.not_mem_nil⟩
  | target :: targets, v => by
    refine .bind (placeLinked pattern target v) fun placed v' hplaced => ?_
    obtain ⟨hleads, hid⟩ := hplaced
    cases placed with
    | none => exact .pure ⟨hleads, fun id hid => absurd hid List.not_mem_nil⟩
    | some id =>
      refine .bind (placeAllLinked pattern targets v') fun others v'' hothers => .pure ?_
      exact ⟨hleads.trans hothers.1,
        List.forall_mem_cons.mpr ⟨hothers.1.mem_ids (hid id rfl), hothers.2⟩⟩

lemma placeMaster {linked : List String} (hlinked : ∀ id ∈ linked, id ∈ v.ids) :
    Shows v (Technique.placeMaster linked) fun _ v' => v.Leads .populating v' := by
  refine .skip (.allocate _ _ _) fun found _ => ?_
  cases found with
  | none => exact .last (.skip (.note ⟨rfl, rfl⟩) fun _ _ => .pure .refl)
  | some r =>
    refine .newSwitch fun plain hplain => .last (.pushCoverable (.pure ?_))
    have hreaches : v.Reaches { plain with actions := plain.actions ++ linked.map Action.link } := by
      intro action haction
      change action ∈ plain.actions ++ linked.map Action.link at haction
      rw [hplain.actions, List.nil_append] at haction
      obtain ⟨id, hid, rfl⟩ := List.mem_map.mp haction
      exact .inr (hlinked id hid)
    have hmove : v.Move .populating
        (v.tick.push { plain with actions := plain.actions ++ linked.map Action.link }) :=
      .add hplain.id_eq ⟨hplain.comparison, hplain.lockable.change⟩ hreaches fun _ =>
        .inr ⟨.inl hplain.method, .inl hplain.shape_eq⟩
    exact .tail (.single hmove) (.cover fun h => CoverRole.noConfusion h)

lemma switchPattern : Moves .populating Technique.switchPattern := by
  intro v hv
  refine .skip (.drawn _) fun number _ => .skip (.drawn _) fun count _ => ?_
  refine .skip (.drawn _) fun targets _ => .skip (.note ⟨rfl, rfl⟩) fun _ _ => ?_
  refine .bind (placeAllLinked _ targets v) fun linked v' hlinked => ?_
  split
  · exact .pure hlinked.1
  · exact .bind (placeMaster hlinked.2) fun _ v'' hmaster => .pure (hlinked.1.trans hmaster)

/-! ## Mazes -/

lemma quiet_allocateMaze : ∀ sizes, Quiet (Technique.allocateMaze sizes)
  | [] => .pure trivial
  | (width, height) :: others => by
    refine .bind (.allocateCells _ _) fun found _ => ?_
    cases found with
    | none => exact quiet_allocateMaze others
    | some r => exact .pure trivial

lemma quiet_noteRows : ∀ rows, Quiet (liftM (Technique.noteRows rows) : Making Unit)
  | [] => .pure trivial
  | _ :: rows => .bind (.noteSession ⟨rfl, rfl⟩) fun _ _ => quiet_noteRows rows

lemma pushWalls (r : Rect) (color : UInt8) :
    ∀ runs, Moves .populating (Technique.pushWalls r color runs)
  | [] => .pure _
  | run :: others => by
    intro v hv
    refine .newElement (.push (.moves (pushWalls r color others) (.single (.add ?_ ?_ ?_ ?_)) hv))
    · rfl
    · exact ⟨rfl, Change.noConfusion⟩
    · exact List.forall_mem_nil _
    · exact fun h => absurd h (by decide : Shape.rectangle ∉ Phase.movable .populating)

lemma maze : Moves .populating Technique.maze := by
  refine .bind (.quiet (.drawn _)) fun first => .bind (.quiet (quiet_allocateMaze _)) fun found => ?_
  rcases found with _ | ⟨width, height, r⟩
  · exact .bind (.quiet (.note ⟨rfl, rfl⟩)) fun _ => .pure _
  refine .bind (.quiet (.session _)) fun layout => .bind (.quiet (.note ⟨rfl, rfl⟩)) fun _ => ?_
  refine .bind (.quiet (quiet_noteRows _)) fun _ => .bind (.quiet (.session _)) fun wallColor => ?_
  refine .bind (pushWalls r wallColor _) fun _ v hv => .skip (.session _) fun color _ => ?_
  refine .newElement (.push (.newElement (.push ?_)))
  refine .moves ?_ (.single (.exit (c := .equal) rfl ?_ ?_ ?_)) hv
  · refine .bind (.quiet (.choose _)) fun corridor v hv => ?_
    cases corridor with
    | none => exact .pure .refl
    | some c => exact .addCoverable (.pure (.single (.cover fun h => CoverRole.noConfusion h)))
  · exact ⟨rfl, rfl, rfl, Change.noConfusion, circle_not_mem_movable⟩
  · exact ⟨rfl, rfl, rfl, rfl, rfl, rfl⟩
  · exact Comparison.fits_alike (.inl rfl) rfl rfl rfl (fitsSize_self ballSize (by simp)) rfl

end Making.Moves

end PanelPuzzle
