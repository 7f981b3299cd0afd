import PanelPuzzle.Making.Session
import PanelPuzzle.Proofs.Making.Keeping
import PanelPuzzle.Proofs.Making.Sides
/-!
# New elements and waiting plugs

Elements are made without a place.  Until they have one they are `Element.Regular`, and what is done
to them keeps that.

`Session.Exact` says of the pool that its plugs are regular and of sizes that fit the middle of
their cells.  Everything that happens in a session keeps it.
-/

namespace PanelPuzzle

variable {α : Type}

/-! ## Regular elements -/

namespace Element.Regular

variable {e : Element}

lemma moveTo (h : e.Regular) (x y : Number) : (e.moveTo x y).Regular :=
  ⟨h.isElementId, h.code, h.flat, h.target_ne, h.settled, h.actions⟩

lemma look (h : e.Regular) (color : Color) (rotation : Int32) (method : Method)
    (comparison : Option Comparison) :
    Regular { e with color, rotation, method, comparison } :=
  ⟨h.isElementId, h.code, h.flat, h.target_ne, h.settled, h.actions⟩

lemma elevate (h : e.Regular) (hnone : e.elevationTarget = none) (elevation : Elevation) :
    Regular { e with elevation } :=
  ⟨h.isElementId, h.code, fun _ => hnone, h.target_ne, h.settled, h.actions⟩

lemma interact (h : e.Regular) (method : Method) (change : Change) (target : Int32) :
    (e.interact method change target).Regular := by
  refine ⟨h.isElementId, h.code, h.flat, h.target_ne, ?_, h.actions⟩
  cases change <;> rfl

lemma addActions (h : e.Regular) {actions : List Action} (ha : ∀ a ∈ actions, a.Exact) :
    Regular { e with actions := e.actions ++ actions } :=
  ⟨h.isElementId, h.code, h.flat, h.target_ne, h.settled, List.forall_mem_append.mpr ⟨h.actions, ha⟩⟩

end Element.Regular

namespace Element.Exact

variable {e : Element}

lemma look (h : e.Exact) (color : Color) (rotation : Int32) (method : Method)
    (comparison : Option Comparison) : Exact { e with color, rotation, method, comparison } :=
  ⟨h.regular.look _ _ _ _, h.inside.across, h.inside.down⟩

lemma elevate (h : e.Exact) (hnone : e.elevationTarget = none) (elevation : Elevation) :
    Exact { e with elevation } :=
  ⟨h.regular.elevate hnone _, h.inside.across, h.inside.down⟩

lemma interact (h : e.Exact) (method : Method) (change : Change) (target : Int32) :
    (e.interact method change target).Exact :=
  ⟨h.regular.interact _ _ _, h.inside.across, h.inside.down⟩

lemma addActions (h : e.Exact) {actions : List Action} (ha : ∀ a ∈ actions, a.Exact) :
    Exact { e with actions := e.actions ++ actions } :=
  ⟨h.regular.addActions ha, h.inside.across, h.inside.down⟩

lemma addAction (h : e.Exact) {action : Action} (ha : action.Exact) : (e.addAction action).Exact :=
  h.addActions (List.forall_mem_singleton.mpr ha)

/-- An element may release itself. -/
lemma release (h : e.Exact) : (e.addAction (.release e.id)).Exact :=
  h.addAction (Action.exact_release h.regular.isElementId)

end Element.Exact

/-- A regular element that can be put in the middle of its cells. -/
structure Element.Ready (e : Element) : Prop where
  regular : e.Regular
  width_mem : e.width ∈ Side.sizes
  height_mem : e.height ∈ Side.sizes

/-- **A ready element in the middle of enough cells** is exact. -/
lemma Element.Ready.exact_centered {e : Element} (h : e.Ready) {r : Rect} (hr : r.inBounds = true)
    (hw : e.footprint.1 ≤ r.w) (hh : e.footprint.2 ≤ r.h) : (e.centered r).Exact :=
  ⟨h.regular.moveTo _ _, inside_centered hr h.width_mem h.height_mem hw hh⟩

/-! ## New elements -/

/-- An element of a shape and a size that has an id, but no place yet. -/
structure Element.Fresh (shape : Shape) (width height : Number) (e : Element) : Prop where
  regular : e.Regular
  shape_eq : e.shape = shape
  width_eq : e.width = width
  height_eq : e.height = height
  target_none : e.elevationTarget = none

namespace Element.Fresh

variable {e : Element} {shape : Shape} {width height : Number} {r : Rect}

lemma exact_moveTo (h : e.Fresh shape width height) {m n x y : Nat} {o o' : Number}
    (hacross : Side.Fits shape.scale (shape = .switch) width m o)
    (hdown : Side.Fits shape.scale false height n o')
    (hx : x + m ≤ gridSize) (hy : y + n ≤ gridSize) :
    (e.moveTo (.ofNat x + o) (.ofNat y + o')).Exact := by
  refine ⟨h.regular.moveTo _ _, ?_⟩
  obtain ⟨-, rfl, rfl, rfl, -⟩ := h
  exact inside_moveTo hacross hdown hx hy

lemma ready (h : e.Fresh shape width height) (hwidth : width ∈ Side.sizes)
    (hheight : height ∈ Side.sizes) : e.Ready := by
  obtain ⟨hregular, -, rfl, rfl, -⟩ := h
  exact ⟨hregular, hwidth, hheight⟩

lemma footprint_eq (h : e.Fresh shape width height) :
    e.footprint = shape.footprint width height := by
  obtain ⟨-, rfl, rfl, rfl, -⟩ := h
  rfl

/-- **A new element in the corner of cells that it fits** is exact. -/
lemma exact_cornered (h : e.Fresh shape width height) (hr : r.inBounds = true)
    (hacross : Side.Fits shape.scale (shape = .switch) width r.w 0)
    (hdown : Side.Fits shape.scale false height r.h 0) : (e.cornered r).Exact := by
  refine ⟨h.regular.moveTo _ _, ?_⟩
  obtain ⟨-, rfl, rfl, rfl, -⟩ := h
  exact inside_cornered hr hacross hdown

end Element.Fresh

/-- The code letter of a shape and the digits of a number make an id. -/
lemma isElementId_ofList (shape : Shape) (n : Nat) :
    isElementId (String.ofList (shape.code :: Nat.toDigits 10 n)) = true := by
  have hne : Nat.toDigits 10 n ≠ [] := List.ne_nil_of_length_pos Nat.length_toDigits_pos
  have hdigits : (Nat.toDigits 10 n).all Char.isDigit = true :=
    List.all_eq_true.mpr fun c hc => isDigit_of_mem_toDigits hc
  simp [isElementId, Shape.ofCode?_code, hne, hdigits]

/-! ## The pool -/

lemma PlugPool.mem_of_removeAt? {plugs others : List Plug} {place : Nat} {plug : Plug}
    (h : removeAt? plugs place = some (plug, others)) :
    plugs[place]? = some plug ∧ ∀ p ∈ others, p ∈ plugs := by
  unfold removeAt? at h
  split at h
  · rename_i found last hfound hlast
    obtain ⟨rfl, rfl⟩ := Prod.mk.inj (Option.some.inj h)
    refine ⟨hfound, fun p hp => ?_⟩
    rcases List.mem_or_eq_of_mem_set (List.mem_of_mem_dropLast hp) with hp | rfl
    · exact hp
    · exact List.mem_of_getLast? hlast
  · cases h

/-- **What is withdrawn was in the pool** and satisfies the condition, and what stays was there. -/
lemma PlugPool.keeps_withdrawWhere (panel : Nat) (condition : Plug → Bool) (pool : PlugPool) :
    Keeps (fun _ => True) (pool.withdrawWhere panel condition) fun left =>
      (∀ plug ∈ left.1, plug ∈ pool.plugs ∧ condition plug = true) ∧
        ∀ plug ∈ left.2.plugs, plug ∈ pool.plugs := by
  refine .bind (Draws.keeps_choose _) fun chosen hchosen => ?_
  split
  · rename_i plug others hremoved
    obtain ⟨place, hplace, hremoved⟩ := Option.bind_eq_some_iff.mp hremoved
    obtain ⟨hplug, hothers⟩ := mem_of_removeAt? hremoved
    have hcondition := (List.mem_filter.mp (hchosen place hplace)).2
    rw [hplug, Option.any_some, Bool.and_eq_true] at hcondition
    refine .pure ⟨?_, hothers⟩
    intro p hp
    rw [← Option.mem_some_iff.mp hp]
    exact ⟨List.mem_of_getElem? hplug, hcondition.2⟩
  · exact .pure ⟨fun p hp => absurd hp (Option.not_mem_none p), fun p hp => hp⟩

/-! ## Sessions -/

/-- All plugs that wait are ready. -/
def Session.Exact (s : Session) : Prop := ∀ plug ∈ s.pool.plugs, plug.element.Ready

namespace Session

lemma keeps_draws {draw : StateM Draws α} {R : α → Prop} (h : Keeps (fun _ => True) draw R) :
    Keeps Session.Exact (liftM draw : StateM Session α) R :=
  fun s hs => ⟨(h s.draws trivial).1, hs⟩

lemma keeps_note (event : Event) : Keeps Session.Exact (note event) fun _ => True :=
  fun _ hs => ⟨trivial, hs⟩

lemma keeps_newElement (shape : Shape) (width height : Number) :
    Keeps Session.Exact (newElement shape width height) (Element.Fresh shape width height) := by
  intro s hs
  have hcode : (String.ofList (shape.code :: Nat.toDigits 10 (s.lastId + 1))).toList.head?
      = some shape.code := by rw [String.toList_ofList, List.head?_cons]
  refine ⟨⟨?_, rfl, rfl, rfl, rfl⟩, hs⟩
  exact
    { isElementId := isElementId_ofList shape (s.lastId + 1), code := hcode
      flat := fun _ => rfl, target_ne := nofun, settled := rfl, actions := nofun }

lemma keeps_deposit {plug : Plug} (h : plug.element.Ready) :
    Keeps Session.Exact (deposit plug) fun _ => True :=
  fun _ hs => ⟨trivial, List.forall_mem_append.mpr ⟨hs, List.forall_mem_singleton.mpr h⟩⟩

lemma keeps_withdrawWhere (panel : Nat) (condition : Plug → Bool) :
    Keeps Session.Exact (withdrawWhere panel condition) fun found =>
      ∀ plug ∈ found, plug.element.Ready ∧ condition plug = true := by
  intro s hs
  obtain ⟨⟨hfound, hothers⟩, -⟩ :=
    PlugPool.keeps_withdrawWhere panel condition s.pool s.draws trivial
  refine ⟨fun plug hplug => ?_, fun plug hplug => hs plug (hothers plug hplug)⟩
  obtain ⟨hmem, hcondition⟩ := hfound plug hplug
  exact ⟨hs plug hmem, hcondition⟩

lemma keeps_recordPlacement (plug : Plug) (panel : Nat) :
    Keeps Session.Exact (recordPlacement plug panel) fun _ => True :=
  fun _ hs => ⟨trivial, hs⟩

/-- **A plug of a size that fits the middle of its cells** is deposited. -/
lemma keeps_depositPlug (origin : Nat) (shape : Shape) {width height : Number} (color : UInt8)
    (hwidth : width ∈ Side.sizes) (hheight : height ∈ Side.sizes) :
    Keeps Session.Exact (depositPlug origin shape width height color) fun _ => True := by
  refine .bind (keeps_newElement shape width height) fun plain hplain => ?_
  refine .bind (fun s hs => ⟨trivial, hs⟩) fun s (_ : True) => ?_
  refine .bind (keeps_draws (.always _)) fun remote _ => keeps_deposit ?_
  obtain ⟨hregular, -, rfl, rfl, hnone⟩ := hplain
  exact ⟨((hregular.elevate hnone .raised).look (.plain color) _ _ _).interact .drag .none 0,
    hwidth, hheight⟩

end Session

end PanelPuzzle
