import PanelPuzzle.Proofs.Cover.Exact
import PanelPuzzle.Proofs.Cover.OnTop
import PanelPuzzle.Proofs.PuzzleText.Nearness
/-!
# Wrong sizes

A cover gives an element another size of the cycle, in the middle of the cells that were reserved for it, and
a button goes through the cycle.  So the player can bring the size back, and meanwhile the element stays where
nothing else is.

**Exact sizes.**  Sizes are compared with a tolerance, but those of a panel have two decimals.  Of them only
equal ones are close: `Cover.eq_of_closeTo`.

**Only once.**  The record of the coverable tells that its size was changed, and no cover takes a mark away,
whether it is legal or not: `Draft.Covered.marks`.

* `Side.stays_middle` — a size of the cycle stays in the cells in whose middle it is.
* `Element.Missized` — **what is changed of an element,** and how.
* `Draft.Missizes`, `Making.works_missizes` — what the cover leaves.
-/

namespace PanelPuzzle

/-! ## Places -/

namespace Side

open Cover

/-- How far a size of the cycle is from the first of its cells, and what is left after it.  If that is
anything, it is more than what rounding adds. -/
lemma room_cycle : ∀ kind ∈ kinds, ∀ size ∈ sizeCycle, ∀ n < 9, cells kind.1 kind.2 size ≤ n →
    ∃ s ∈ kind.1.toRat?, ∃ t ∈ size.toRat?, ∃ q ∈ (margin kind.1 kind.2 size n).toRat?,
      t * s + (if kind.2 then 1 else 0) ≤ n ∧
      (q = 0 ∨ q + 1 / 100 + (t * s + (if kind.2 then 1 else 0)) ≤ n) ∧
      q + 1 / 100 + cells kind.1 kind.2 size < n + 1 := by decide +kernel

/-- A place along a side is not before the cells that it is counted from, and at most a hundredth too far. -/
lemma roundTwo_within {start : Nat} (hstart : start ≤ gridSize) {q : Rat} (hzero : 0 ≤ q) (hle : q ≤ 8) :
    ∃ p : Rat, (Number.ofNat start + .finite q).roundTwo = .finite p ∧ (start : Rat) ≤ p ∧
      p ≤ start + q + 1 / 100 ∧ (q = 0 → p = start) := by
  have hpos : 0 ≤ (start + q : Rat) := add_nonneg (Nat.cast_nonneg start) hzero
  have hstart8 : (start : Rat) ≤ 8 := by exact_mod_cast hstart
  obtain ⟨p₀, p, hp₀, hp, -, hlow, -⟩ :=
    roundTwo_mono hstart hstart le_rfl hle (add_le_add_right hzero _)
  have hcorner := Element.toRat?_roundTwo_ofNat start (Nat.lt_succ_of_le hstart)
  rw [← Number.ofNat_add_zero hstart, Number.zero_eq, hp₀] at hcorner
  obtain rfl := Option.some.inj hcorner
  refine ⟨p, hp, hlow, ?_, ?_⟩
  · have hend : (start + q : Rat) ≤ 2 ^ (4 : Int) := by
      norm_num
      linarith
    have hround := Number.roundMagnitude_le_zpow hpos hend (by norm_num)
    rw [Number.ofNat_add hstart, Number.ofRat_eq hpos (hend.trans (by norm_num)),
      Number.roundTwo_of_toRat? rfl (Number.roundMagnitude_nonneg hpos)
        (hround.trans (by norm_num))] at hp
    exact Number.finite.inj hp ▸ Number.twoPlaces_roundMagnitude_le hpos hend
  · rintro rfl
    exact Number.finite.inj (hp.symm.trans hp₀)

/-- **A size of the cycle stays in the cells** in whose middle it is, and so do the cells that it covers
there. -/
lemma stays_middle {kind : Number × Bool} (hkind : kind ∈ kinds) {size : Number} (hsize : size ∈ sizeCycle)
    {n start : Nat} (hn : start + n ≤ gridSize) (hle : cells kind.1 kind.2 size ≤ n) :
    ∃ s ∈ kind.1.toRat?, ∃ t ∈ size.toRat?, ∃ p : Rat,
      (Number.ofNat start + margin kind.1 kind.2 size n).roundTwo = .finite p ∧ (start : Rat) ≤ p ∧
      p + t * s + (if kind.2 then 1 else 0) ≤ start + n ∧
      start ≤ (Number.finite p).floorNat ∧
      (Number.finite p).floorNat + cells kind.1 kind.2 size ≤ start + n := by
  have hn8 : n ≤ gridSize := Nat.le_of_add_left_le hn
  have hgrid : gridSize = 8 := rfl
  obtain ⟨s, hs, t, ht, q, hq, hfits, hroom, hcells⟩ :=
    room_cycle kind hkind size hsize n (Nat.lt_succ_of_le hn8) hle
  obtain ⟨q', hq', hzero, hle8⟩ :=
    (fits_margin hkind (sizes_sizeCycle size hsize) hn8 hle).offset.exists_finite
  rw [hq'] at hq ⊢
  obtain rfl := Option.some.inj hq
  obtain ⟨p, hp, hlow, hhigh, hexact⟩ := roundTwo_within (Nat.le_of_add_right_le hn) hzero hle8
  refine ⟨s, hs, t, ht, p, hp, hlow, ?_, ?_, ?_⟩
  · rcases hroom with rfl | hroom
    · rw [hexact rfl]
      linarith
    · linarith
  · have hfloor : (start : Int) ≤ p.floor := Rat.le_floor_iff.mpr (by exact_mod_cast hlow)
    rw [Number.floorNat, Number.unsigned]
    omega
  · have hfloor : (p.floor : Rat) ≤ p := Rat.floor_le p
    have hless : (p.floor : Rat) + cells kind.1 kind.2 size < start + n + 1 := by linarith
    have hless' : p.floor + cells kind.1 kind.2 size < start + n + 1 := by exact_mod_cast hless
    rw [Number.floorNat, Number.unsigned]
    omega

end Side

/-! ## Elements -/

namespace Cover

/-- The sizes of the cycle are written as they are, and each is close to itself. -/
lemma holds_sizeCycle : ∀ size ∈ sizeCycle, Side.SizeHolds Shape.circle.scale size ∧
    closeTo size size = true := by decide +kernel

/-- **Of sizes that are written as they are only equal ones are close.** -/
lemma eq_of_closeTo {s t : Shape} {a b : Number} (ha : Side.SizeHolds s.scale a)
    (hb : Side.SizeHolds t.scale b) (h : closeTo a b = true) : a = b := by
  refine ha.eq_of_near hb (Number.lt_eq_false_of_le ?_)
  rw [Number.le]
  exact Bool.or_eq_true_iff.mpr (.inl h)

end Cover

namespace Element

open Cover

/-- The cells that an element covers. -/
def cells (e : Element) : Rect := ⟨e.x.floorNat, e.y.floorNat, e.footprint.1, e.footprint.2⟩

/-- **An element gets a wrong size** in the cells of a rectangle.  It is as high as wide before and after, and
goes from one size of the cycle to another one.  Both what it takes of the panel and the cells that it covers
stay in the rectangle. -/
structure Missized (e e' : Element) (r : Rect) : Prop where
  rest : e' = { e with width := e'.width, height := e'.height, x := e'.x, y := e'.y }
  square : e.height = e.width
  cycle : e.width ∈ sizeCycle
  wrong_square : e'.height = e'.width
  wrong_cycle : e'.width ∈ sizeCycle
  wrong_ne : e'.width ≠ e.width
  extent : ∃ s ∈ e'.extent?, s.Within 0 r.extent
  cells : e'.cells.extent.Within 0 r.extent

variable {e : Element} {r : Rect}

/-- **An element with sizes of the cycle** in the middle of enough cells stays in them. -/
lemma within_centered (hr : r.inBounds = true) (hwidth : e.width ∈ sizeCycle) (hheight : e.height ∈ sizeCycle)
    (hw : e.footprint.1 ≤ r.w) (hh : e.footprint.2 ≤ r.h) :
    (∃ s ∈ (e.centered r).extent?, s.Within 0 r.extent) ∧ (e.centered r).cells.extent.Within 0 r.extent := by
  obtain ⟨hx, hy⟩ := Rect.inBounds_iff.mp hr
  obtain ⟨hslider, hplain⟩ := Side.mem_kinds e.shape
  rw [footprint_fst] at hw
  obtain ⟨scale, hscale, width, hwidth', p, hp, hleft, hright, hfirst, hlast⟩ :=
    Side.stays_middle hslider hwidth hx hw
  obtain ⟨scale', hscale', height, hheight', q, hq, htop, hbottom, hfirst', hlast'⟩ :=
    Side.stays_middle hplain hheight hy hh
  obtain rfl := Option.some.inj (hscale.symm.trans hscale')
  dsimp only at hscale hp hright hlast hq hbottom hlast'
  simp only [decide_eq_true_eq, Bool.false_eq_true, if_false, add_zero] at hright hbottom
  rw [centered_eq r (sizes_sizeCycle _ hwidth)]
  refine ⟨⟨_, extent?_moveTo hscale hwidth' hheight' (congrArg Number.toRat? hp)
    (congrArg Number.toRat? hq), ?_⟩, ?_⟩
  · exact ⟨hleft.trans_eq (add_zero p).symm, hright.trans_eq (add_zero _).symm,
      htop.trans_eq (add_zero q).symm, hbottom.trans_eq (add_zero _).symm⟩
  · have hcells : (e.moveTo (.ofNat r.x + Side.margin e.shape.scale (e.shape = .switch) e.width r.w)
        (.ofNat r.y + Side.margin e.shape.scale false e.height r.h)).cells =
        ⟨(Number.finite p).floorNat, (Number.finite q).floorNat, e.footprint.1, e.footprint.2⟩ := by
      rw [← hp, ← hq]
      rfl
    rw [hcells]
    exact Rect.extent_within hfirst (footprint_fst e ▸ hlast) hfirst' hlast'

/-- **A wrong size** of an element whose sizes are written as they are. -/
lemma missized_resized {size : Number} (hr : r.inBounds = true) (he : e.Inside)
    (hsquare : closeTo e.width e.height = true) (hcycle : sizeCycle.any (closeTo · e.width) = true)
    (hsize : size ∈ wrongSizes e r) : e.Missized (e.resized size r) r := by
  obtain ⟨hmem, hother, hw, hh⟩ := mem_wrongSizes hsize
  obtain ⟨hextent, hcells⟩ := within_centered (e := { e with width := size, height := size }) hr hmem hmem hw hh
  obtain ⟨own, hown, hclose⟩ := List.any_eq_true.mp hcycle
  obtain rfl := eq_of_closeTo (holds_sizeCycle own hown).1 he.across.size_holds hclose
  refine ⟨rfl, (eq_of_closeTo he.across.size_holds he.down.size_holds hsquare).symm, hown, rfl, hmem, ?_,
    hextent, hcells⟩
  rintro (rfl : size = e.width)
  exact Bool.false_ne_true (hother.symm.trans (holds_sizeCycle _ hmem).2)

end Element

/-! ## Drafts -/

/-- **A coverable gets a wrong size on a draft:** its element does, and one button is new, which takes the
element through the cycle. -/
def Draft.Missizes (d d' : Draft) (c : Coverable) : Prop :=
  ∃ source e e' button, c.source = some source ∧ d.elements[source]? = some e ∧
    d'.elements = d.elements.set source e' ++ [button] ∧ button.method = .tap ∧
    button.actions = [.size e.id] ∧ e.Missized e' c.footprint

namespace Making

open Cover Desk

variable {d : Desk}

/-- An element is changed after others were put on top. -/
lemma modify_append_eq_set {es : List Element} {place : Nat} {e : Element} (he : es[place]? = some e)
    (es' : List Element) (change : Element → Element) :
    (es ++ es').modify place change = es.set place (change e) ++ es' := by
  rw [List.modify_eq_set_getElem?, getElem?_append he]
  exact List.set_append_left _ _ (List.getElem?_eq_some_iff.mp he).1

/-- What is known of an element that may get a wrong size. -/
lemma of_canObscureSize {target source : Nat} {c : Coverable} {e : Element} (hsource : d.SourceAt target c source e)
    (h : canObscureSize d.draft c = true) :
    closeTo e.width e.height = true ∧ sizeCycle.any (closeTo · e.width) = true := by
  have he : d.draft.elements[source]? = some e := hsource.element
  simp only [canObscureSize, hsource.source_eq, Option.bind_some, he, Bool.and_eq_true,
    Bool.not_eq_true'] at h
  exact ⟨h.2.1.1, h.2.1.2⟩

/-- An element that has a wrong size does not get another one. -/
lemma not_canObscureSize (draft : Draft) {c : Coverable} (h : c.sizeObscured = true) :
    canObscureSize draft c = false := by
  rw [canObscureSize, h, Bool.not_true, Bool.false_and, Bool.false_and]

/-- **What the cover leaves** of an exact draft, and what it records. -/
lemma works_missizes {target : Nat} {c : Coverable} (hc : d.draft.coverables[target]? = some c)
    (hlegal : canObscureSize d.draft c = true) (hd : d.draft.Exact) :
    Works d (Cover.sizeObscure target) fun applied d' => applied = true →
      d.draft.Missizes d'.draft c ∧
        d'.draft.coverables[target]? = some { c with sizeObscured := true } := by
  have hproper := hd.footprints c (List.mem_of_getElem? hc)
  refine .draft ?_
  rw [hc]
  cases hfound : d.draft.sourceOf? target with
  | none => exact .pure nofun
  | some found =>
    obtain ⟨source, e⟩ := found
    have hsource := sourceAt_of_sourceOf? hc hfound
    have he := hd.elements e (List.mem_of_getElem? hsource.element)
    obtain ⟨hsquare, hcycle⟩ := of_canObscureSize hsource hlegal
    refine .skip (.choose _) fun size hsize => ?_
    cases size with
    | none => exact .pure nofun
    | some size =>
      have hwrong := Element.missized_resized hproper.inBounds he.inside hsquare hcycle (hsize size rfl)
      refine .assoc (.allocate (fun _ => .pure nofun) fun r grid hclaims _ _ => ?_)
      refine .assoc (.newElement (.assoc (.skip .randomColor fun color _ => .assoc (.push ?_))))
      refine .answer (.modifyDraft (.modifyDraft (.pure fun _ => ?_)))
      refine ⟨⟨source, e, _, _, hsource.source_eq, hsource.element,
        modify_append_eq_set hsource.element [_] (·.resized size c.footprint), ?_, ?_, hwrong⟩, ?_⟩
      · rfl
      · rfl
      · exact (List.getElem?_modify_eq _ _ _).trans (congrArg _ hsource.coverable)

/-! ## Marks -/

section Marking

variable {α : Type} {cs : List Coverable}

/-- A computation that sets marks on what can be covered, and takes none away. -/
abbrev Marking (cs : List Coverable) (act : Making α) : Prop :=
  Keeping (fun d => Coverable.Marks cs d.draft.coverables) act

namespace Marking

/-- What only adds on top only marks. -/
lemma of_tops {act : Making α} (h : ∀ d₀ : Draft, Tops d₀ act) : Marking cs act := fun d hd =>
  (h d.draft d (.refl d.draft)).weaken fun _ _ htopped => hd.trans htopped.coverables

lemma remoteOnly (target : Nat) : Marking cs (Cover.remoteOnly target) := by
  refine fun d hd => .draft ?_
  cases d.draft.sourceOf? target with
  | none => exact .pure hd
  | some found =>
    refine .addControllers (.pure hd) fun r grid color _ _ _ _ => .takeOver (.pure ?_)
    exact hd.modify target .takeOver

lemma switchRelease (target : Nat) : Marking cs (Cover.switchRelease target) := by
  refine fun d hd => .draft ?_
  cases d.draft.sourceOf? target with
  | none => exact .pure hd
  | some found =>
    refine .allocate (fun _ => .pure hd) fun r grid _ _ _ => .newSwitch fun colors => ?_
    refine .skip (.note _) fun _ _ => .push (.modifyDraft (.takeOver (.pure ?_)))
    exact hd.modify target .takeOver

lemma sizeObscure (target : Nat) : Marking cs (Cover.sizeObscure target) := by
  refine fun d hd => .draft ?_
  split
  · refine .skip (.choose _) fun size _ => ?_
    cases size with
    | none => exact .pure hd
    | some size =>
      refine .addButton (fun _ => .pure hd) fun r grid button _ _ _ _ => ?_
      exact .modifyDraft (.modifyDraft (.pure (hd.modify target .obscure)))
  · exact .pure hd

/-- **Every cover only marks,** whether it is legal or not. -/
lemma style (target : Nat) : ∀ style : CoverStyle, Marking cs (style.apply target)
  | .physical => of_tops fun _ => .physical target
  | .groupObscure => of_tops fun _ => .groupObscure target
  | .remoteOnly => remoteOnly target
  | .switchRelease => switchRelease target
  | .sizeObscure => sizeObscure target

end Marking

end Marking

end Making

namespace Draft

/-- **Covers and traps are applied to a draft,** one after the other, whether they are legal or not and
whatever is drawn. -/
inductive Covered (d : Draft) : Draft → Prop
  | refl : Covered d d
  | cover {d' : Draft} (style : CoverStyle) (target : Nat) (s : Session) : Covered d d' →
    Covered d (style.apply target ⟨d', s⟩).2.draft
  | trap {d' : Draft} (s : Session) : Covered d d' → Covered d (Cover.resetTrap ⟨d', s⟩).2.draft

namespace Covered

variable {d d' : Draft}

/-- **No cover takes a mark away.** -/
lemma marks (h : d.Covered d') : Coverable.Marks d.coverables d'.coverables := by
  induction h with
  | refl => exact .refl _
  | @cover d' style target s _ ih => exact Making.Marking.style target style _ ih ⟨d', s⟩ rfl
  | @trap d' s _ ih => exact Making.Marking.of_tops (fun _ => .resetTrap) _ ih ⟨d', s⟩ rfl

/-- **The covering of a panel** applies covers and traps. -/
lemma addCoverings (probability : Number) (b : Workbench) :
    b.draft.Covered (Cover.addCoverings probability b).2.draft := by
  have hcovering : Making.Covering fun b' => b.draft.Covered b'.draft :=
    { drawn _ h := h
      noted _ _ _ h := h
      cover _ h := .cover _ _ _ h
      trap h := .trap _ h }
  exact (hcovering.keeps_addCoverings probability b .refl).2

end Covered

end Draft

end PanelPuzzle
