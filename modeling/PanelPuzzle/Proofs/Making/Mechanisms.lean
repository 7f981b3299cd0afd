import Mathlib.Data.List.Dedup
import PanelPuzzle.Proofs.Making.Turns
/-!
# Remote mechanisms

An element can be moved by a quartet of buttons, or released by a switch.  A panel has slots for two such
mechanisms, and no element is controlled by more than one of them.

* `Element.parts` — what of an element tells that it belongs to a mechanism.
* `Mechanism` — a quartet or a switch, and its parts.
* `Panel.WellControlled` — **what a player sees of this on a panel.**
* `Panel.wellControlled` — so it is if the parts on the panel are those of few mechanisms, one after the
  other, for different elements.
-/

namespace PanelPuzzle

variable {α β : Type}

/-- A list that is changed at one place. -/
lemma exists_modify_eq {items : List α} {place : Nat} {a : α} (h : items[place]? = some a)
    (change : α → α) : ∃ before after, items = before ++ a :: after ∧
      items.modify place change = before ++ change a :: after := by
  obtain ⟨hlt, rfl⟩ := List.getElem?_eq_some_iff.mp h
  refine ⟨items.take place, items.drop (place + 1), ?_, List.modify_eq_take_cons_drop hlt⟩
  rw [List.getElem_cons_drop, List.take_append_drop]

/-! ## Elements of mechanisms -/

namespace Action

/-- The element that an action moves by a step. -/
def steered? : Action → Option String
  | moveStep id .. => some id
  | _ => none

/-- The element that an action lets the player drag. -/
def unlocked? : Action → Option String
  | configure id .drag .. => some id
  | _ => none

/-- An action that moves no element, and lets none be dragged but its own. -/
def Tame (own : String) (a : Action) : Prop := a.steered? = none ∧ ∀ id ∈ a.unlocked?, id = own

lemma Local.tame {own : String} {a : Action} (h : a.Local own) : a.Tame own := by
  cases a with
  | configure id method =>
    refine ⟨rfl, fun other hother => ?_⟩
    cases method <;> cases hother
    exact h
  | cycle | link => exact ⟨rfl, nofun⟩
  | moveStep | reset | size => exact absurd h not_false

end Action

/-- What of an element tells that it belongs to a mechanism. -/
structure Part where
  shape : Shape
  method : Method
  actions : List Action
  /-- The other elements that it lets the player drag, if it is a switch. -/
  unlocked : List String

/-- The elements that are moved by steps. -/
def Part.steered (p : Part) : List String := p.actions.filterMap Action.steered?

namespace Element

/-- The elements that an element moves by steps. -/
def steered (e : Element) : List String := e.actions.filterMap Action.steered?

/-- The other elements that a switch lets the player drag. -/
def unlocked (e : Element) : List String :=
  if e.shape = .switch then (e.actions.filterMap Action.unlocked?).filter (· ≠ e.id) else []

/-- What of an element tells that it belongs to a mechanism. -/
def part (e : Element) : Part := ⟨e.shape, e.method, e.actions, e.unlocked⟩

/-- An element as a part of a mechanism, if it belongs to one. -/
def parts (e : Element) : List Part := if e.steered = [] ∧ e.unlocked = [] then [] else [e.part]

/-- An element whose actions are tame belongs to no mechanism. -/
lemma parts_eq_nil {e : Element} (h : ∀ a ∈ e.actions, a.Tame e.id) : e.parts = [] := by
  refine if_pos ⟨List.filterMap_eq_nil_iff.mpr fun a ha => (h a ha).1, ?_⟩
  unfold unlocked
  split
  · refine List.filter_eq_nil_iff.mpr fun id hid => ?_
    obtain ⟨a, ha, hunlocked⟩ := List.mem_filterMap.mp hid
    rw [(h a ha).2 id hunlocked, decide_eq_true_eq]
    exact not_not_intro rfl
  · rfl

lemma Inert.parts_eq_nil {e : Element} (h : e.Inert) : e.parts = [] :=
  e.parts_eq_nil fun a ha => (h a ha).tame

lemma parts_eq_nil_of_actions {e : Element} (h : e.actions = []) : e.parts = [] :=
  (inert_of_actions_eq_nil h).parts_eq_nil

/-- So does a button for a size or a trap. -/
lemma parts_eq_nil_of_singleton {e : Element} {a : Action} (h : e.actions = [a])
    (ha : a.Tame e.id) : e.parts = [] := by
  refine parts_eq_nil ?_
  rw [h]
  exact List.forall_mem_singleton.mpr ha

variable {es : List Element}

/-- **What parts tell is read off the elements.** -/
lemma flatMap_parts {f : Part → List β} (hf : ∀ p, p.steered = [] → p.unlocked = [] → f p = []) :
    (es.flatMap parts).flatMap f = es.flatMap fun e => f e.part := by
  rw [List.flatMap_assoc]
  refine List.flatMap_congr fun e _ => ?_
  unfold parts
  split
  · next h => exact (hf e.part h.1 h.2).symm
  · exact List.flatMap_singleton ..

/-- Parts of a kind come from elements of this kind. -/
lemma filter_parts {P : Part → Bool} (hP : ∀ p, p.steered = [] → p.unlocked = [] → P p = false) :
    ∀ es : List Element, (es.flatMap parts).filter P = (es.filter (P ·.part)).map part
  | [] => rfl
  | e :: es => by
    rw [List.flatMap_cons, List.filter_append, filter_parts hP es]
    unfold parts
    split
    · next h => simp [hP e.part h.1 h.2]
    · cases hpart : P e.part <;> simp [hpart]

/-- An element that stays the part that it is. -/
lemma flatMap_parts_modify {place : Nat} {e : Element} (he : es[place]? = some e)
    {change : Element → Element} (h : (change e).parts = e.parts) :
    (es.modify place change).flatMap parts = es.flatMap parts := by
  obtain ⟨before, after, hes, hmodify⟩ := exists_modify_eq he change
  rw [hmodify, hes, List.flatMap_append, List.flatMap_cons, h, List.flatMap_append, List.flatMap_cons]

lemma flatMap_parts_append {e : Element} (h : e.parts = []) :
    (es ++ [e]).flatMap parts = es.flatMap parts := by
  rw [List.flatMap_append, List.flatMap_singleton, h, List.append_nil]

end Element

/-! ## Mechanisms -/

/-- **A remote mechanism.** -/
inductive Mechanism where
  /-- Four buttons move an element. -/
  | quartet (targetId : String)
  /-- A switch lets the player drag an element. -/
  | release (targetId : String)

namespace Mechanism

/-- The element that is controlled. -/
def target : Mechanism → String
  | quartet id | release id => id

/-- The parts of a mechanism. -/
def parts : Mechanism → List Part
  | quartet id => [(0, -1), (1, 0), (-1, 0), (0, 1)].map fun (dx, dy) =>
      ⟨.triangle, .tap, [.moveStep id dx dy], []⟩
  | release id => [⟨.switch, .tap, [.release id], [id]⟩]

/-- The element that is moved. -/
def steered : Mechanism → List String
  | quartet id => [id]
  | release _ => []

/-- The element that is released. -/
def released : Mechanism → List String
  | quartet _ => []
  | release id => [id]

/-- **The buttons of a quartet** are the parts of a mechanism. -/
lemma parts_quartet (r : Rect) (color : UInt8) (id : String) (n : Nat) :
    (Scene.quartet r color id n Remote.quartet).flatMap Element.parts = (quartet id).parts := rfl

/-- A switch that releases another element is the part of a mechanism. -/
lemma parts_release {switch : Element} {id : String} (hshape : switch.shape = .switch)
    (hmethod : switch.method = .tap) (hactions : switch.actions = [.release id])
    (hid : id ≠ switch.id) : switch.parts = (release id).parts := by
  have hunlocked : switch.unlocked = [id] := by
    rw [Element.unlocked, if_pos hshape, hactions]
    exact List.filter_cons_of_pos (decide_eq_true hid)
  rw [Element.parts, if_neg fun h => List.cons_ne_nil _ _ (hunlocked.symm.trans h.2), Element.part,
    hshape, hmethod, hactions, hunlocked]
  rfl

variable (ms : List Mechanism)

/-- Whatever is moved or released is controlled. -/
lemma perm_targets : (ms.flatMap steered ++ ms.flatMap released).Perm (ms.map target) := by
  induction ms with
  | nil => exact .refl _
  | cons m ms ih =>
    cases m with
    | quartet id => exact .cons id ih
    | release id => exact List.perm_middle.trans (.cons id ih)

lemma flatMap_unlocked : (ms.flatMap parts).flatMap Part.unlocked = ms.flatMap released := by
  rw [List.flatMap_assoc]
  refine List.flatMap_congr fun m _ => ?_
  cases m <;> rfl

/-- There is one switch for each element that is released. -/
lemma length_filter_unlocked :
    ((ms.flatMap parts).filter (·.unlocked ≠ [])).length = (ms.flatMap released).length := by
  induction ms with
  | nil => rfl
  | cons m ms ih =>
    rw [List.flatMap_cons, List.flatMap_cons, List.filter_append, List.length_append,
      List.length_append, ih]
    cases m <;> rfl

variable {ms}

/-- **Where no element is controlled twice,** one is moved by each quartet. -/
lemma dedup_steered (h : (ms.map target).Nodup) :
    ((ms.flatMap parts).flatMap Part.steered).dedup = ms.flatMap steered := by
  induction ms with
  | nil => rfl
  | cons m ms ih =>
    obtain ⟨hnew, hms⟩ := List.nodup_cons.mp h
    rw [List.flatMap_cons, List.flatMap_append, List.flatMap_cons, ← ih hms]
    cases m with
    | release id => rfl
    | quartet id =>
      have hnew' : id ∉ (ms.flatMap parts).flatMap Part.steered := fun hmem => hnew <| by
        rw [← List.mem_dedup, ih hms] at hmem
        exact (perm_targets ms).subset (List.mem_append_left _ hmem)
      have hfour : (quartet id).parts.flatMap Part.steered = [id, id, id, id] := rfl
      rw [hfour]
      simp only [List.cons_append, List.nil_append, List.mem_cons, true_or, List.dedup_cons_of_mem,
        List.dedup_cons_of_notMem hnew', steered]

/-- What is moved by a part is controlled by the mechanism. -/
lemma eq_target_of_mem_parts {m : Mechanism} {p : Part} (hp : p ∈ m.parts) {id : String}
    (hid : id ∈ p.steered) : id = m.target := by
  cases m with
  | quartet _ =>
    obtain ⟨step, -, rfl⟩ := List.mem_map.mp hp
    exact List.mem_singleton.mp hid
  | release _ =>
    rw [List.mem_singleton.mp hp] at hid
    exact absurd hid List.not_mem_nil

/-- **An element is moved by the buttons of its quartet only.** -/
lemma filter_parts (h : (ms.map target).Nodup) {id : String} (hid : id ∈ ms.flatMap steered) :
    (ms.flatMap parts).filter (id ∈ ·.steered) = (quartet id).parts := by
  obtain ⟨m, hm, hsteered⟩ := List.mem_flatMap.mp hid
  obtain rfl : m = quartet id := by
    cases m with
    | quartet _ => rw [List.mem_singleton.mp hsteered]
    | release _ => exact absurd hsteered List.not_mem_nil
  obtain ⟨before, after, rfl⟩ := List.append_of_mem hm
  have hother : ∀ others : List Mechanism, id ∉ others.map target →
      (others.flatMap parts).filter (id ∈ ·.steered) = [] := by
    refine fun others hnot => List.filter_eq_nil_iff.mpr fun p hp hmem => hnot ?_
    obtain ⟨m, hm, hp⟩ := List.mem_flatMap.mp hp
    rw [eq_target_of_mem_parts hp (of_decide_eq_true hmem)]
    exact List.mem_map_of_mem hm
  rw [List.map_append, List.map_cons, List.nodup_append] at h
  obtain ⟨-, hafter, hbefore⟩ := h
  rw [List.flatMap_append, List.filter_append, List.flatMap_cons, List.filter_append,
    hother before fun hmem => hbefore _ hmem _ List.mem_cons_self rfl,
    hother after (List.nodup_cons.mp hafter).1, List.append_nil, List.nil_append]
  refine List.filter_eq_self.mpr fun p hp => ?_
  obtain ⟨step, -, rfl⟩ := List.mem_map.mp hp
  exact decide_eq_true (List.mem_singleton.mpr rfl)

end Mechanism

/-! ## Panels -/

namespace Panel

/-- The elements that are moved by steps, each of them once. -/
def steered (p : Panel) : List String := (p.elements.flatMap Element.steered).dedup

/-- The elements that switches let the player drag. -/
def unlocked (p : Panel) : List String := p.elements.flatMap Element.unlocked

/-- The number of remote mechanisms: the elements that are moved, and the switches that release one. -/
def remoteCount (p : Panel) : Nat := p.steered.length + p.elements.countP (·.unlocked ≠ [])

/-- **Remote mechanisms are complete, few and apart.**  Four buttons move each element that is moved by
steps, one of them in each direction.  There are two mechanisms at most, and no element is controlled by
two of them. -/
structure WellControlled (p : Panel) : Prop where
  quartets : ∀ id ∈ p.steered,
    (p.elements.filter (id ∈ ·.steered)).map (fun e => (e.shape, e.method, e.actions)) =
      [(0, -1), (1, 0), (-1, 0), (0, 1)].map fun (dx, dy) =>
        (.triangle, .tap, [.moveStep id dx dy])
  few : p.remoteCount ≤ 2
  apart : (p.steered ++ p.unlocked).Nodup

variable {p : Panel} {ms : List Mechanism}

lemma steered_eq (hparts : p.elements.flatMap Element.parts = ms.flatMap Mechanism.parts)
    (h : (ms.map Mechanism.target).Nodup) : p.steered = ms.flatMap Mechanism.steered := by
  rw [← Mechanism.dedup_steered h, ← hparts, Element.flatMap_parts fun _ hsteered _ => hsteered]
  rfl

lemma unlocked_eq (hparts : p.elements.flatMap Element.parts = ms.flatMap Mechanism.parts) :
    p.unlocked = ms.flatMap Mechanism.released := by
  rw [← Mechanism.flatMap_unlocked, ← hparts, Element.flatMap_parts fun _ _ hunlocked => hunlocked]
  rfl

/-- **The mechanisms are counted** by the elements that they control. -/
lemma remoteCount_eq (hparts : p.elements.flatMap Element.parts = ms.flatMap Mechanism.parts)
    (h : (ms.map Mechanism.target).Nodup) : p.remoteCount = ms.length := by
  have hswitches : p.elements.countP (·.unlocked ≠ []) = (ms.flatMap Mechanism.released).length := by
    rw [← Mechanism.length_filter_unlocked, ← hparts,
      Element.filter_parts fun p _ hunlocked => by rw [hunlocked]; rfl, List.length_map,
      List.countP_eq_length_filter]
    rfl
  rw [remoteCount, steered_eq hparts h, hswitches, ← List.length_append,
    (Mechanism.perm_targets ms).length_eq, List.length_map]

/-- **A panel whose parts are those of two mechanisms at most,** for different elements. -/
lemma wellControlled (hparts : p.elements.flatMap Element.parts = ms.flatMap Mechanism.parts)
    (h : (ms.map Mechanism.target).Nodup) (hfew : ms.length ≤ 2) : p.WellControlled where
  quartets id hid := by
    rw [steered_eq hparts h] at hid
    have hbuttons := congrArg (List.map fun p : Part => (p.shape, p.method, p.actions))
      (Mechanism.filter_parts h hid)
    rw [← hparts, Element.filter_parts fun p hsteered _ => by rw [hsteered]; rfl, List.map_map]
      at hbuttons
    exact hbuttons
  few := (remoteCount_eq hparts h).trans_le hfew
  apart := by
    rw [steered_eq hparts h, unlocked_eq hparts]
    exact (Mechanism.perm_targets ms).nodup_iff.mpr h

end Panel

end PanelPuzzle
