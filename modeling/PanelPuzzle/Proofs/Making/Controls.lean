import PanelPuzzle.Proofs.Making.Moves
/-!
# Computations that make moves

`Making.Moves` says of a computation that what it does to a sound scene is moves.  Buttons come
first: a quartet steers the element that it is for, and it can be put on the panel whatever the
element looks like by then.  So an element that is made without a way to act on it can be thought of
as made with one, and locked when its controls are there.
-/

namespace PanelPuzzle

variable {α β : Type} {phase : Phase}

/-! ## Several elements at once -/

namespace Scene

variable {v v' : Scene}

/-- The scene with several new elements. -/
def build (v : Scene) (es : List Element) : Scene :=
  { v with elements := v.elements ++ es, lastId := v.lastId + es.length }

lemma build_nil (v : Scene) : v.build [] = v := by
  rw [build, List.append_nil]
  rfl

lemma build_cons (v : Scene) (e : Element) (es : List Element) :
    v.build (e :: es) = (v.tick.push e).build es := by
  rw [build, build, List.append_cons, List.length_cons, Nat.add_comm es.length, ← Nat.add_assoc]
  rfl

lemma getElem?_build {place : Nat} {e : Element} (h : v.elements[place]? = some e)
    (es : List Element) : (v.build es).elements[place]? = some e :=
  List.getElem?_append_left (List.getElem?_eq_some_iff.mp h).1 ▸ h

lemma modifyElement_congr {place : Nat} {e : Element} {change change' : Element → Element}
    (he : v.elements[place]? = some e) (h : change e = change' e) :
    v.modifyElement place change = v.modifyElement place change' := by
  rw [modifyElement, modifyElement, List.modify_eq_set_getElem?, List.modify_eq_set_getElem?, he,
    Option.map_eq_map, Option.map_some, Option.map_eq_map, Option.map_some, h]

/-- **An element is changed before or after others are built.** -/
lemma modifyElement_build (v : Scene) (e : Element) (es : List Element)
    (change : Element → Element) :
    ((v.push e).build es).modifyElement v.elements.length change
      = (v.push (change e)).build es := by
  have helements : (v.elements ++ [e] ++ es).modify v.elements.length change
      = v.elements ++ [change e] ++ es := by
    rw [← List.append_cons, List.modify_eq_take_drop, List.take_left, List.drop_left,
      List.modifyHead_cons, List.append_cons]
  rw [modifyElement, build, push, helements]
  rfl

lemma modifyElement_push (v : Scene) (e : Element) (change : Element → Element) :
    (v.push e).modifyElement v.elements.length change = v.push (change e) := by
  rw [← build_nil (v.push e), modifyElement_build, build_nil]

/-! ## Buttons -/

/-- A button for an action that is the next element of a scene. -/
structure NewButton (v : Scene) (action : Action) (b : Element) : Prop where
  id_eq : b.id = v.nextId b.shape
  shape : b.shape = .circle ∨ b.shape = .triangle
  method : b.method = .tap
  aside : b.Aside
  actions : b.actions = [action]

/-- A button is put on a scene that has what it acts on. -/
lemma NewButton.move {action : Action} {b : Element} (hb : v.NewButton action b)
    (htarget : action.targetId ∈ v.ids) : v.Move phase (v.tick.push b) := by
  refine .add hb.id_eq hb.aside ?_ fun hmovable => ?_
  · rw [Reaches, hb.actions]
    exact List.forall_mem_singleton.mpr (.inr htarget)
  · rcases hb.shape with hshape | hshape <;> rw [hshape] at hmovable <;> cases phase <;>
      exact absurd hmovable (by decide)

/-- The buttons of a quartet, where `n` is the number of the last element. -/
def quartet (r : Rect) (color : UInt8) (targetId : String) :
    Nat → List Remote.QuartetButton → List Element
  | _, [] => []
  | n, b :: others =>
    b.element (.numbered .triangle Remote.buttonSize Remote.buttonSize (n + 1)) r color targetId ::
      quartet r color targetId (n + 1) others

lemma leads_quartet (r : Rect) (color : UInt8) {targetId : String} :
    ∀ (buttons : List Remote.QuartetButton) {v : Scene}, targetId ∈ v.ids →
      v.Leads phase (v.build (quartet r color targetId v.lastId buttons))
  | [], v, _ => by
    rw [quartet, build_nil]
    exact .refl
  | b :: others, v, htarget => by
    rw [quartet, build_cons]
    have hbutton : v.NewButton (.moveStep targetId b.dx b.dy)
        (b.element (v.fresh .triangle Remote.buttonSize Remote.buttonSize) r color targetId) :=
      ⟨rfl, .inr rfl, rfl, ⟨rfl, Change.noConfusion⟩, rfl⟩
    refine .head (hbutton.move htarget) (leads_quartet r color others ?_)
    rw [ids_push]
    exact List.mem_append_left _ htarget

lemma exists_mem_quartet (r : Rect) (color : UInt8) (targetId : String) {b : Remote.QuartetButton} :
    ∀ {buttons : List Remote.QuartetButton} {n : Nat}, b ∈ buttons →
      ∃ e ∈ quartet r color targetId n buttons, e.method = .tap ∧
        e.actions = [Action.moveStep targetId b.dx b.dy]
  | first :: others, n, hb => by
    rcases List.mem_cons.mp hb with rfl | hb
    · exact ⟨_, List.mem_cons_self, rfl, rfl⟩
    · obtain ⟨e, he, hacts⟩ := exists_mem_quartet r color targetId (n := n + 1) hb
      exact ⟨e, List.mem_cons_of_mem _ he, hacts⟩

/-- **The element that a quartet is for is steered.** -/
lemma steeredIn_build (v : Scene) (r : Rect) (color : UInt8) (e : Element) (n : Nat) :
    e.SteeredIn (v.build (quartet r color e.id n Remote.quartet)).elements := by
  intro step hstep
  have hbutton : ∃ b ∈ Remote.quartet, (b.dx, b.dy) = step := by
    simp only [List.mem_cons, List.not_mem_nil, or_false] at hstep
    rcases hstep with rfl | rfl | rfl | rfl <;>
      simp only [Remote.quartet, List.mem_cons, List.not_mem_nil, or_false, exists_eq_or_imp,
        exists_eq_left, true_or, or_true]
  obtain ⟨b, hb, rfl⟩ := hbutton
  obtain ⟨button, hmem, hacts⟩ := exists_mem_quartet r color e.id (n := n) hb
  exact ⟨button, List.mem_append_right _ hmem, hacts⟩

/-- An element that is made without a way to act on it, and a quartet for it, are an element that is
made with one, its quartet, and the locking of the element. -/
lemma leads_steered {e : Element} (hadd : v.Leads phase (v'.push e)) (hlockable : e.Lockable)
    (r : Rect) (color : UInt8) :
    v.Leads phase ((v'.push e.locked).build (quartet r color e.id v'.lastId Remote.quartet)) := by
  rw [← modifyElement_build]
  refine (hadd.trans (leads_quartet r color _ ?_)).tail (.lock ?_ hlockable (.inl ?_))
  · rw [ids_push]
    exact List.mem_append_right _ (List.mem_singleton.mpr rfl)
  · exact getElem?_build (getElem?_concat_push v' e) _
  · exact steeredIn_build _ r color e _

end Scene

/-! ## Computations that make moves -/

namespace Making

/-- **What a computation does to a sound scene is moves.** -/
def Moves (phase : Phase) (act : Making α) : Prop :=
  ∀ v : Scene, v.Sound → Shows v act fun _ v' => v.Leads phase v'

/-- Moves come before the moves of a computation. -/
lemma Shows.moves {v w : Scene} {act : Making α} (hact : Moves phase act) (h : v.Leads phase w)
    (hv : v.Sound) : Shows w act fun _ v' => v.Leads phase v' :=
  (hact w (h.sound hv)).weaken fun _ _ => h.trans

namespace Moves

lemma pure (a : α) : Moves phase (Pure.pure a : Making α) := fun _ _ => .pure .refl

lemma bind {act : Making α} {next : α → Making β} (h : Moves phase act)
    (hnext : ∀ a, Moves phase (next a)) : Moves phase (act >>= next) :=
  fun _ hv => (h _ hv).bind fun a _ hleads => .moves (hnext a) hleads hv

lemma quiet {act : Making α} {R : α → Prop} (h : Quiet act R) : Moves phase act :=
  fun _ _ => .last (.skip h fun _ _ => .pure .refl)

lemma repeatPlacing {place : Bool → Making Bool} (h : ∀ first, Moves phase (place first)) :
    ∀ count first, Moves phase (Making.repeatPlacing place count first)
  | 0, _ => .pure _
  | count + 1, first => by
    refine .bind (h first) fun placed => ?_
    split
    · exact repeatPlacing h count false
    · exact .pure _

end Moves

namespace Shows

variable {v : Scene} {Q : β → Scene → Prop}

lemma pushQuartet (r : Rect) (color : UInt8) (targetId : String) {next : Unit → Making β} :
    ∀ (buttons : List Remote.QuartetButton) {v : Scene},
      Shows (v.build (Scene.quartet r color targetId v.lastId buttons)) (next ()) Q →
        Shows v (Remote.pushQuartet r color targetId buttons >>= next) Q
  | [], v, h => by rwa [Scene.quartet, Scene.build_nil] at h
  | b :: others, v, h => by
    rw [Scene.quartet, Scene.build_cons] at h
    exact assoc (newElement (assoc (push (pushQuartet r color targetId others h))))

/-- **The controls for an element** are a quartet, or there is no room and nothing changes. -/
lemma addControllers {targetId : String} {next : Bool → Making β} (hno : Shows v (next false) Q)
    (hyes : ∀ r color, Shows (v.build (Scene.quartet r color targetId v.lastId Remote.quartet))
      (next true) Q) : Shows v (Remote.addControllers targetId >>= next) Q := by
  refine assoc (draft fun d _ _ _ => ?_)
  split
  · exact assoc (skip (.note ⟨rfl, rfl⟩) fun _ _ => hno)
  refine assoc (skip (.allocateCells 2 2) fun found _ => ?_)
  cases found with
  | none => exact assoc (skip (.note ⟨rfl, rfl⟩) fun _ _ => hno)
  | some r =>
    refine assoc (skip (.session _) fun color _ => assoc (pushQuartet r color targetId _ ?_))
    refine assoc (skip (.modifyDraft fun d => ⟨rfl, rfl, rfl⟩) fun _ _ => ?_)
    exact assoc (skip (.note ⟨rfl, rfl⟩) fun _ _ => hyes r color)

/-- **A button for an action** is the next element, or there is no room and nothing changes. -/
lemma addButton {action : Action} {next : Option Nat → Making β} (hno : Shows v (next none) Q)
    (hyes : ∀ b, v.NewButton action b → Shows (v.tick.push b) (next (some v.elements.length)) Q) :
    Shows v (Remote.addButton action >>= next) Q := by
  refine assoc (skip (.allocate _ _ _) fun found _ => ?_)
  cases found with
  | none => exact hno
  | some r =>
    refine assoc (newElement (assoc (skip (.session _) fun color _ => assoc (push ?_))))
    exact hyes _ ⟨rfl, .inl rfl, rfl, ⟨rfl, Change.noConfusion⟩, rfl⟩

end Shows

end Making

end PanelPuzzle
