import PanelPuzzle.Proofs.Making.Extents
import PanelPuzzle.Proofs.Making.Turns
/-!
# Elements on cells of their own

Whatever makes a part of a panel first claims cells and then puts elements on them.  The cells are free
when they are claimed, and nothing ever makes a cell free, so they were free from the beginning.

A computation is compared with the draft that it starts from.  `Desk.Laid d₀` says of a desk that all
elements since `d₀` sit in rectangles claimed since `d₀`.  It is stated for a fixed `d₀` and a growing
desk, so that each operation has one rule, `Laid.claim`, `LaidOn.push` and so on, and loops are inductions
with these.

* `Grid.Gained`, `Element.HasOwnCells` — what is said of the elements in the end.
* `Desk.Orderly` — what is known of every desk: sizes of plugs, and places of what can be covered.
* `Laid.control` — remote controls.
-/

namespace PanelPuzzle

/-! ## Gained cells -/

/-- **A rectangle is gained since an earlier grid:** it was claimed in between, and all its cells were
free. -/
structure Grid.Gained (g g' : Grid) (r : Rect) : Prop where
  claimed : r ∈ g'.claims.drop g.claims.length
  free : g.isFree r = true

namespace Grid

variable {g g' g'' : Grid} {r s : Rect}

lemma Grows.claims_isPrefix (h : g.Grows g') : g.claims <+: g'.claims := by
  induction h with
  | refl => exact List.prefix_refl _
  | claim _ _ ih => exact ih.trans (List.prefix_append _ _)

/-- A claim makes no cell free. -/
lemma isFree_of_claim (hr : r.inBounds = true) (h : (g.claim r).isFree s = true) :
    g.isFree s = true := by
  have hs := inBounds_of_isFree h
  obtain ⟨hx, hy⟩ := Rect.inBounds_iff.mp hs
  refine isFree_of_forall hs fun x y hxy => ?_
  have hcell := Rect.covers_iff.mp hxy
  have hfree := isOccupied_of_isFree h hxy
  rw [isOccupied_claim hr (by omega) (by omega), Bool.or_eq_false_iff] at hfree
  exact hfree.1

/-- **What is free now was free before.** -/
lemma Grows.isFree (h : g.Grows g') (hr : g'.isFree r = true) : g.isFree r = true := by
  induction h with
  | refl => exact hr
  | claim _ hfree ih => exact ih (isFree_of_claim (inBounds_of_isFree hfree) hr)

/-- What is claimed next is gained. -/
lemma Grows.gained (h : g.Grows g') (hr : g'.isFree r = true) : g.Gained (g'.claim r) r := by
  refine ⟨?_, h.isFree hr⟩
  rw [Grid.claim, List.drop_append_of_le_length h.claims_isPrefix.length_le]
  exact List.mem_append_right _ (List.mem_singleton.mpr rfl)

/-- What was gained stays so. -/
lemma Gained.grow (h : g.Gained g' r) (hgrows : g'.Grows g'') : g.Gained g'' r := by
  obtain ⟨more, hmore⟩ := hgrows.claims_isPrefix
  refine ⟨?_, h.free⟩
  rw [← hmore, List.drop_append]
  exact List.mem_append_left _ h.claimed

end Grid

/-- **An element has cells of its own:** it lies in a rectangle gained since an earlier grid. -/
def Element.HasOwnCells (e : Element) (g g' : Grid) : Prop := ∃ r, g.Gained g' r ∧ e.LiesIn r

/-! ## Desks -/

namespace Desk

lemma Claims.grows {d : Desk} {r : Rect} {grid : Grid} (h : d.Claims r grid) :
    d.draft.grid.Grows grid := by
  rw [h.grid_eq]
  exact .claim .refl h.free

/-- **What holds of every desk:** each plug that waits fits the middle of its cells, and what can be covered
lies in the grid. -/
structure Orderly (d : Desk) : Prop where
  sized : ∀ p ∈ d.pool, p.element.width ∈ Side.sizes ∧ p.element.height ∈ Side.sizes
  footprints : ∀ c ∈ d.draft.coverables, c.footprint.Proper

/-- **A desk is laid since a draft:** all elements since then sit in rectangles that were gained. -/
structure Laid (d₀ : Draft) (d : Desk) : Prop where
  orderly : d.Orderly
  grows : d₀.grid.Grows d.draft.grid
  /-- The elements that were there keep their places. -/
  ids : d₀.elements.map (·.id) <+: d.elements.map (·.id)
  sits : ∀ place e, d₀.elements.length ≤ place → d.elements[place]? = some e →
    ∃ r, d₀.grid.Gained d.draft.grid r ∧ e.Sits r

variable {d₀ : Draft} {d d' : Desk} {e : Element} {r : Rect} {grid : Grid}

namespace Laid

lemma refl (h : d.Orderly) : Laid d.draft d :=
  ⟨h, .refl, List.prefix_refl _, fun _ _ hplace he =>
    absurd (List.getElem?_eq_some_iff.mp he).1 (Nat.not_lt.mpr hplace)⟩

/-- What else is on the desk does not matter. -/
lemma congr (h : Laid d₀ d) (hgrid : d'.draft.grid = d.draft.grid) (helements : d'.elements = d.elements)
    (hcoverables : d'.draft.coverables = d.draft.coverables) (hpool : ∀ p ∈ d'.pool, p ∈ d.pool) :
    Laid d₀ d' where
  orderly := ⟨fun p hp => h.orderly.sized p (hpool p hp), hcoverables ▸ h.orderly.footprints⟩
  grows := hgrid ▸ h.grows
  ids := helements ▸ h.ids
  sits := by
    rw [hgrid, helements]
    exact h.sits

lemma length_le (h : Laid d₀ d) : d₀.elements.length ≤ d.elements.length := by
  simpa using h.ids.length_le

lemma ids_push (h : Laid d₀ d) (e : Element) :
    d₀.elements.map (·.id) <+: (d.push e).elements.map (·.id) := by
  change _ <+: (d.elements ++ [e]).map (·.id)
  rw [List.map_append]
  exact h.ids.trans (List.prefix_append _ _)

lemma tick (h : Laid d₀ d) : Laid d₀ d.tick := h.congr rfl rfl rfl fun _ hp => hp

lemma claim (h : Laid d₀ d) (hclaims : d.Claims r grid) : Laid d₀ (d.withGrid grid) where
  orderly := ⟨h.orderly.sized, h.orderly.footprints⟩
  grows := h.grows.trans hclaims.grows
  ids := h.ids
  sits place e hplace he := by
    obtain ⟨s, hs, hsits⟩ := h.sits place e hplace he
    exact ⟨s, hs.grow hclaims.grows, hsits⟩

lemma addCoverable (h : Laid d₀ d) {c : Coverable} (hc : c.footprint.Proper) :
    Laid d₀ (d.addCoverable c) where
  orderly := ⟨h.orderly.sized,
    List.forall_mem_append.mpr ⟨h.orderly.footprints, List.forall_mem_singleton.mpr hc⟩⟩
  grows := h.grows
  ids := h.ids
  sits := h.sits

lemma deposit (h : Laid d₀ d) {p : Plug} (hwidth : p.element.width ∈ Side.sizes)
    (hheight : p.element.height ∈ Side.sizes) : Laid d₀ (d.deposit p) where
  orderly := ⟨Multiset.forall_mem_cons.mpr ⟨⟨hwidth, hheight⟩, h.orderly.sized⟩,
    h.orderly.footprints⟩
  grows := h.grows
  ids := h.ids
  sits := h.sits

/-- **An element is changed,** and sits where it sat if it is a new one. -/
lemma modifyElement (h : Laid d₀ d) {place : Nat} {change : Element → Element}
    (hid : ∀ e, (change e).id = e.id)
    (hchange : d₀.elements.length ≤ place → ∀ e r, Element.Sits e r → (change e).Sits r) :
    Laid d₀ (d.alter (·.modifyElement place change)) where
  orderly := ⟨h.orderly.sized, h.orderly.footprints⟩
  grows := h.grows
  ids := by
    have hids : (d.elements.modify place change).map (·.id) = d.elements.map (·.id) := by
      refine List.ext_getElem? fun i => ?_
      rw [List.getElem?_map, List.getElem?_map, List.getElem?_modify, Option.map_eq_map, Option.map_map]
      congr 1
      funext e
      simp only [Function.comp_apply]
      split
      · exact hid e
      · rfl
    exact h.ids.trans (hids ▸ List.prefix_refl _)
  sits i e' hi he' := by
    change (d.elements.modify place change)[i]? = some e' at he'
    rw [List.getElem?_modify, Option.map_eq_map, Option.map_eq_some_iff] at he'
    obtain ⟨e, he, rfl⟩ := he'
    obtain ⟨r, hr, hsits⟩ := h.sits i e hi he
    refine ⟨r, hr, ?_⟩
    split
    · rename_i heq
      exact hchange (heq ▸ hi) e r hsits
    · exact hsits

lemma modifyCoverable (h : Laid d₀ d) (place : Nat) {change : Coverable → Coverable}
    (hchange : ∀ c, (change c).footprint = c.footprint) :
    Laid d₀ (d.alter (·.modifyCoverable place change)) where
  orderly := by
    refine ⟨h.orderly.sized, Draft.Exact.forall_mem_modify h.orderly.footprints fun c hc => ?_⟩
    rw [hchange]
    exact h.orderly.footprints c (List.mem_of_getElem? hc)
  grows := h.grows
  ids := h.ids
  sits := h.sits

/-- A new element becomes coverable. -/
lemma coverElement (h : Laid d₀ d) {place : Nat} (hplace : d₀.elements.length ≤ place)
    (role : CoverRole) : Laid d₀ (d.alter (·.coverElement place role)) := by
  cases he : d.elements[place]? with
  | none =>
    have hsame : d.draft.coverElement place role = d.draft := by rw [Draft.coverElement, he]
    exact h.congr (congrArg Draft.grid hsame) (congrArg Draft.elements hsame)
      (congrArg Draft.coverables hsame) fun _ hp => hp
  | some e =>
    obtain ⟨r, -, hsits⟩ := h.sits place e hplace he
    have hcover : d.alter (·.coverElement place role)
        = d.addCoverable (Draft.coverableOf e place role) := by
      rw [alter, Draft.coverElement, he]
      rfl
    exact hcover ▸ h.addCoverable hsits.inside.proper

end Laid

/-- **A desk with a rectangle for new elements,** which was gained. -/
structure LaidOn (d₀ : Draft) (r : Rect) (d : Desk) : Prop extends Laid d₀ d where
  gained : d₀.grid.Gained d.draft.grid r

/-- **What is claimed is gained.** -/
lemma Laid.on (h : Laid d₀ d) (hclaims : d.Claims r grid) : LaidOn d₀ r (d.withGrid grid) := by
  refine ⟨h.claim hclaims, ?_⟩
  change d₀.grid.Gained grid r
  rw [hclaims.grid_eq]
  exact h.grows.gained hclaims.free

namespace LaidOn

lemma inBounds (h : LaidOn d₀ r d) : r.inBounds = true := Grid.inBounds_of_isFree h.gained.free

/-- **A new element** in a rectangle that was gained. -/
lemma push (h : LaidOn d₀ r d) (he : e.Sits r) : LaidOn d₀ r (d.push e) where
  orderly := ⟨h.orderly.sized, h.orderly.footprints⟩
  grows := h.grows
  ids := h.ids_push e
  sits place e' hplace he' := by
    change (d.elements ++ [e])[place]? = some e' at he'
    rcases Nat.lt_or_ge place d.elements.length with hlt | hle
    · rw [List.getElem?_append_left hlt] at he'
      exact h.sits place e' hplace he'
    · rw [List.getElem?_append_right hle] at he'
      obtain rfl := List.mem_singleton.mp (List.mem_of_getElem? he')
      exact ⟨r, h.gained, he⟩
  gained := h.gained

/-- A new element with a new id. -/
lemma add (h : LaidOn d₀ r d) (he : e.Sits r) : LaidOn d₀ r (d.tick.push e) :=
  push ⟨h.tick, h.gained⟩ he

/-- A new element that can be covered. -/
lemma addCovered (h : LaidOn d₀ r d) (he : e.Sits r) (role : CoverRole) :
    Laid d₀ (d.tick.pushCoverable e role) :=
  (h.add he).addCoverable he.inside.proper

/-- **A quartet** sits in its four cells. -/
lemma build_quartet (hw : r.w = 2) (hh : r.h = 2) (color : UInt8) (targetId : String) :
    ∀ {buttons : List Remote.QuartetButton}, (∀ b ∈ buttons, b ∈ Remote.quartet) →
      ∀ {d : Desk}, LaidOn d₀ r d →
        LaidOn d₀ r (d.build (Scene.quartet r color targetId d.lastId buttons))
  | [], _, d, h => by rwa [Scene.quartet, build_nil]
  | b :: others, hbuttons, d, h => by
    obtain ⟨hb, hothers⟩ := List.forall_mem_cons.mp hbuttons
    obtain ⟨hcolumn, hrow, -⟩ := Making.KeepsExact.exact_quartet b hb
    rw [Scene.quartet, build_cons]
    refine build_quartet hw hh color targetId hothers (h.add ?_)
    exact Element.sits_onCell b.column b.row Remote.sits_button h.inBounds (hw ▸ hcolumn) (hh ▸ hrow)
      ⟨rfl, Shape.noConfusion⟩ rfl rfl rfl rfl

end LaidOn

/-- **Remote controls** have cells of their own. -/
lemma Laid.control (h : Laid d₀ d) (hclaims : d.Claims r grid) (hw : r.w = 2) (hh : r.h = 2)
    (color : UInt8) (targetId : String) : Laid d₀ (d.control r grid color targetId) :=
  (LaidOn.build_quartet hw hh color targetId (fun _ hb => hb) (h.on hclaims)).congr rfl rfl rfl
    fun _ hp => hp

end Desk

/-! ## Computations -/

namespace Making

open Desk

namespace Keeping

variable {I : Desk → Prop} {d₀ : Draft}

lemma repeatPlacing {place : Bool → Making Bool} (h : ∀ first, Keeping I (place first)) :
    ∀ count first, Keeping I (Making.repeatPlacing place count first)
  | 0, _ => .pure _
  | count + 1, first => by
    refine .bind (h first) fun placed => ?_
    split
    · exact repeatPlacing h count false
    · exact .pure _

/-- **What is laid anyway** leaves a rectangle for new elements. -/
lemma on {α : Type} {act : Making α} {r : Rect} (h : ∀ d₀, Keeping (Laid d₀) act) :
    Keeping (LaidOn d₀ r) act :=
  fun d hd => ((h d₀ d hd.toLaid).and (h d.draft d (.refl hd.orderly))).weaken fun _ _ hlaid =>
    ⟨hlaid.1, hd.gained.grow hlaid.2.grows⟩

lemma modifyDraft {change : Draft → Draft} (h : ∀ d, I d → I (d.alter change)) :
    Keeping I (Making.modifyDraft change) := fun d hd => .last (.modifyDraft (.pure (h d hd)))

lemma depositPlug (shape : Shape) {width height : Number} (color : UInt8)
    (hwidth : width ∈ Side.sizes) (hheight : height ∈ Side.sizes) :
    Keeping (Laid d₀) (Making.depositPlug shape width height color) := fun _ hd =>
  .last (.depositPlug fun _ => .pure (hd.tick.deposit hwidth hheight))

lemma recordPlacement (plug : Plug) (panel : Nat) :
    Keeping (Laid d₀) (liftM (Session.recordPlacement plug panel) : Making Unit) := by
  rintro _ hd b rfl
  exact hd.congr rfl rfl rfl fun _ hp => hp

/-- Another way to act on an element leaves it where it is. -/
lemma modifyMethod (place : Nat) (change : Element → Element)
    (hid : ∀ e, (change e).id = e.id) (hsits : ∀ e r, Element.Sits e r → (change e).Sits r) :
    Keeping (Laid d₀) (Making.modifyElement place change) :=
  modifyDraft fun _ hd => hd.modifyElement hid fun _ => hsits

lemma cover {place : Nat} (hplace : d₀.elements.length ≤ place) (role : CoverRole) :
    Keeping (Laid d₀) (Making.cover place role) := modifyDraft fun _ hd => hd.coverElement hplace role

end Keeping

end Making

end PanelPuzzle
