import PanelPuzzle.Proofs.Making.Wiring
import PanelPuzzle.Proofs.Technique.Laying
/-!
# Groups hide plugs

A group takes one or two plugs that wait and puts them on the panel among decoys.  No tile tells by its
looks whether it is a key, and each has cells of its own.

* `Session.Stocked` — what is known of plugs that were made in a session.
* `Technique.Tiles` — the tiles that are put on several cells, by recursion on these.
* `Technique.works_tiles` — they are what is put there.
* `Tiles.distinct`, `Tiles.alike`, `Tiles.lies` — **what is known of them.**
* `Technique.Hides`, `group_hides_plugs` — **what a group leaves.**
-/

namespace PanelPuzzle

/-! ## Plugs that were made -/

/-- **A plug as it is made:** raised, of one color and ready to be dragged. -/
def Plug.Made (p : Plug) : Prop := ∃ id shape width height color,
  p.element = ({ id, shape, width, height, elevation := .raised, color := .plain color } :
    Element).interact .drag .none 0

namespace Session

/-- **A session in which the plugs that wait were made:** no id was given to two of them. -/
structure Stocked (s : Session) : Prop where
  made : ∀ p ∈ s.pool.plugs, p.Made
  given : Given s.lastId ((s.pool.plugs : Multiset Plug).map (·.element.id))

variable {s : Session}

/-- No plug waits at first. -/
lemma stocked_of_pool_eq (h : s.pool = {}) : s.Stocked := by
  have hnone : (s.pool.plugs : Multiset Plug) = 0 := by rw [h]; rfl
  refine ⟨fun p hp => absurd hp (by simp [h]), ?_⟩
  rw [hnone]
  exact ⟨Multiset.nodup_zero, fun id hid => absurd hid (Multiset.notMem_zero id)⟩

/-- **One more plug is made.** -/
lemma Stocked.depositPlug (h : s.Stocked) (origin : Nat) (shape : Shape) (width height : Number)
    (color : UInt8) : (Session.depositPlug origin shape width height color s).2.Stocked := by
  obtain ⟨p, hp, hid, hpool, hlast⟩ : ∃ p : Plug, p.Made ∧ p.element.id = shape.idOf (s.lastId + 1) ∧
      (Session.depositPlug origin shape width height color s).2.pool.plugs = s.pool.plugs ++ [p] ∧
      (Session.depositPlug origin shape width height color s).2.lastId = s.lastId + 1 :=
    ⟨_, ⟨_, shape, width, height, color, rfl⟩, rfl, rfl, rfl⟩
  refine ⟨?_, ?_⟩
  · rw [hpool]
    exact List.forall_mem_append.mpr ⟨h.made, List.forall_mem_singleton.mpr hp⟩
  · rw [hpool, hlast, Multiset.coe_eq_coe.mpr (List.perm_append_singleton p _), ← Multiset.cons_coe,
      Multiset.map_cons, hid]
    exact h.given.next shape

end Session

/-! ## Numbers of equal value -/

namespace Number

variable {a b : Number}

lemma same_comm (a b : Number) : a.same b = b.same a := by
  unfold same
  cases a.toRat? with
  | none =>
    cases b.toRat? with
    | none =>
      by_cases h : a = b
      · rw [h]
      · rw [decide_eq_false h, decide_eq_false (Ne.symm h)]
        rfl
    | some q => rfl
  | some p =>
    cases b.toRat? with
    | none => rfl
    | some q => exact decide_eq_decide.mpr eq_comm

/-- Two numbers are the same or have the same value. -/
def Alike (a b : Number) : Prop := a = b ∨ a.same b = true

lemma Alike.symm (h : a.Alike b) : b.Alike a := h.imp Eq.symm fun h => same_comm b a ▸ h

lemma Alike.trans {c : Number} (h : a.Alike b) (h' : b.Alike c) : a.Alike c := by
  rcases h with rfl | h
  · exact h'
  rcases h' with rfl | h'
  · exact .inr h
  refine .inr ?_
  unfold same at h h' ⊢
  cases ha : a.toRat? <;> cases hb : b.toRat? <;> cases hc : c.toRat? <;> simp_all

end Number

/-! ## Tiles -/

namespace Technique

open Making Desk

/-- Two elements that look the same, and of which each can be acted on as the other one. -/
structure LooksLike (a b : Element) : Prop where
  shape_eq : a.shape = b.shape
  width : a.width.Alike b.width
  height : a.height.Alike b.height
  color_eq : a.color = b.color
  rotation_eq : a.rotation = b.rotation
  elevation_eq : a.elevation = b.elevation
  method_eq : a.method = b.method

/-- **A key hides a plug:** a tap shows the color of the plug and releases it. -/
structure Conceals (e : Element) (plug : Plug) : Prop where
  id_eq : e.id = plug.element.id
  change_eq : e.change = .color
  target_eq : e.target = Int32.ofNat plug.element.color.primary.toNat
  actions_eq : e.actions = [.release plug.element.id]

/-- **A decoy** does nothing, and its number is greater than those that were given before. -/
structure IsDecoy (n : Nat) (e : Element) : Prop where
  fresh : ¬ Named n e.id
  change_eq : e.change = .none
  actions_eq : e.actions = []

/-- The next decoy. -/
def decoy (model : Element) (n : Nat) : Element :=
  { Element.numbered model.shape model.width model.height (n + 1) with
    color := .plain Palette.neutral }.interact .tap .none 0

/-- The place of a tile in the block at a rectangle. -/
def tilePlace (r : Rect) (tile c : Nat × Nat) : Rect :=
  ⟨r.x + c.2 * tile.1, r.y + c.1 * tile.2, tile.1, tile.2⟩

/-- **The tiles on several cells,** after `n` numbers were given.  Some of them hide plugs. -/
inductive Tiles (model : Element) (place : Nat × Nat → Rect) :
    Nat → List (Nat × Nat) → List Plug → List Element → Prop
  | nil {n : Nat} : Tiles model place n [] [] []
  | key {n : Nat} {c : Nat × Nat} {cells : List (Nat × Nat)} {plug : Plug} {plugs : List Plug}
      {tiles : List Element} : Tiles model place n cells plugs tiles →
      Tiles model place n (c :: cells) (plug :: plugs)
        ((disguise plug.element).centered (place c) :: tiles)
  | decoy {n : Nat} {c : Nat × Nat} {cells : List (Nat × Nat)} {plugs : List Plug}
      {tiles : List Element} : Tiles model place (n + 1) cells plugs tiles →
      Tiles model place n (c :: cells) plugs ((decoy model n).centered (place c) :: tiles)

/-- **What is put on the cells of a group** are tiles, and each plug on them is recorded. -/
lemma works_tiles {panel : Nat} (model : Element) (r : Rect) (tile : Nat × Nat)
    (keys : List ((Nat × Nat) × Plug)) : ∀ (cells : List (Nat × Nat)) {d : Desk},
      d.draft.index = panel →
      Works d (Technique.placeTiles panel model r tile keys cells) fun _ d' => ∃ tiles,
        Tiles model (tilePlace r tile) d.lastId cells (cells.filterMap (keys.lookup ·)) tiles ∧
        d'.elements = d.elements ++ tiles ∧ d'.draft.grid = d.draft.grid ∧ d'.pool = d.pool ∧
        d'.placements = d.placements ++ (cells.filterMap (keys.lookup ·)).map fun plug =>
          ⟨plug.element.id, plug.origin, panel⟩
  | [], d, _ => .pure ⟨[], .nil, (List.append_nil _).symm, rfl, rfl, (List.append_nil _).symm⟩
  | (row, column) :: cells, d, hpanel => by
    unfold Technique.placeTiles
    cases hkey : keys.lookup (row, column) with
    | some plug =>
      rw [List.filterMap_cons_some (by exact hkey)]
      refine .recordPlacement hpanel (.push ?_)
      refine .weaken (works_tiles model r tile keys cells hpanel) fun _ d' h => ?_
      obtain ⟨tiles, htiles, helements, hgrid, hpool, hplacements⟩ := h
      refine ⟨_, htiles.key, helements.trans (List.append_assoc ..), hgrid, hpool, ?_⟩
      rw [hplacements, List.map_cons, List.append_cons, ← hpanel]
      rfl
    | none =>
      rw [List.filterMap_cons_none (by exact hkey)]
      refine .newElement (.push ?_)
      refine .weaken (works_tiles model r tile keys cells hpanel) fun _ d' h => ?_
      obtain ⟨tiles, htiles, helements, hgrid, hpool, hplacements⟩ := h
      exact ⟨_, htiles.decoy, helements.trans (List.append_assoc ..), hgrid, hpool, hplacements⟩

namespace Tiles

variable {model e : Element} {place : Nat × Nat → Rect} {n : Nat} {cells : List (Nat × Nat)}
  {plugs : List Plug} {tiles : List Element}

/-- A tile is a key or a decoy. -/
lemma mem (h : Tiles model place n cells plugs tiles) (he : e ∈ tiles) :
    (∃ plug ∈ plugs, ∃ c, e = (disguise plug.element).centered (place c)) ∨
      ∃ m, n ≤ m ∧ ∃ c, e = (Technique.decoy model m).centered (place c) := by
  induction h with
  | nil => exact absurd he List.not_mem_nil
  | key _ ih =>
    rcases List.mem_cons.mp he with rfl | he
    · exact .inl ⟨_, List.mem_cons_self, _, rfl⟩
    · exact (ih he).imp_left fun ⟨plug, hplug, hc⟩ => ⟨plug, List.mem_cons_of_mem _ hplug, hc⟩
  | decoy _ ih =>
    rcases List.mem_cons.mp he with rfl | he
    · exact .inr ⟨_, le_rfl, _, rfl⟩
    · exact (ih he).imp_right fun ⟨m, hm, hc⟩ => ⟨m, Nat.le_of_succ_le hm, hc⟩

/-- **Each plug** has a key. -/
lemma exists_conceals (h : Tiles model place n cells plugs tiles) {plug : Plug} (hplug : plug ∈ plugs)
    (hmade : plug.Made) : ∃ e ∈ tiles, Conceals e plug := by
  induction h with
  | nil => exact absurd hplug List.not_mem_nil
  | key _ ih =>
    rcases List.mem_cons.mp hplug with rfl | hplug
    · refine ⟨_, List.mem_cons_self, rfl, rfl, rfl, ?_⟩
      obtain ⟨id, shape, width, height, color, helement⟩ := hmade
      rw [helement]
      rfl
    · exact (ih hplug).imp fun _ h => ⟨List.mem_cons_of_mem _ h.1, h.2⟩
  | decoy _ ih => exact (ih hplug).imp fun _ h => ⟨List.mem_cons_of_mem _ h.1, h.2⟩

/-- A tile that does nothing is a decoy. -/
lemma isDecoy (h : Tiles model place n cells plugs tiles) (he : e ∈ tiles) (hactions : e.actions = []) :
    IsDecoy n e := by
  obtain ⟨plug, -, c, rfl⟩ | ⟨m, hm, c, rfl⟩ := h.mem he
  · exact absurd hactions (List.append_ne_nil_of_right_ne_nil _ (List.cons_ne_nil _ _))
  · exact ⟨fun hnamed => (hnamed.mono hm).ne_next model.shape rfl, rfl, rfl⟩

/-- **All cells but those of the keys** have decoys. -/
lemma decoys_add (h : Tiles model place n cells plugs tiles) :
    (tiles.filter (·.actions = [])).length + plugs.length = cells.length := by
  induction h with
  | nil => rfl
  | @key n c cells plug plugs tiles h ih =>
    have hkey : ¬ ((disguise plug.element).centered (place c)).actions = [] :=
      List.append_ne_nil_of_right_ne_nil _ (List.cons_ne_nil _ _)
    have hfilter : ((disguise plug.element).centered (place c) :: tiles).filter (·.actions = []) =
        tiles.filter (·.actions = []) := List.filter_cons_of_neg (mt of_decide_eq_true hkey)
    rw [hfilter, List.length_cons, List.length_cons, ← Nat.add_assoc, ih]
  | @decoy n c cells plugs tiles h ih =>
    have hfilter : ((Technique.decoy model n).centered (place c) :: tiles).filter (·.actions = []) =
        (Technique.decoy model n).centered (place c) :: tiles.filter (·.actions = []) :=
      List.filter_cons_of_pos (decide_eq_true rfl)
    rw [hfilter, List.length_cons, List.length_cons, ← ih]
    exact Nat.add_right_comm _ _ _

/-- **No id is given twice.** -/
lemma distinct (h : Tiles model place n cells plugs tiles)
    (hgiven : Given n ((plugs : Multiset Plug).map (·.element.id))) : (tiles.map (·.id)).Nodup := by
  induction h with
  | nil => exact List.nodup_nil
  | @key n c cells plug plugs tiles h ih =>
    rw [← Multiset.cons_coe, Multiset.map_cons] at hgiven
    refine List.nodup_cons.mpr ⟨fun hmem => ?_, ih (hgiven.mono (Multiset.le_cons_self _ _) le_rfl)⟩
    obtain ⟨e, he, hid⟩ := List.mem_map.mp hmem
    obtain ⟨other, hother, c', rfl⟩ | ⟨m, hm, c', rfl⟩ := h.mem he
    · have hid' : other.element.id = plug.element.id := hid
      have hmem' : other.element.id ∈ (plugs : Multiset Plug).map (·.element.id) :=
        Multiset.mem_map_of_mem _ hother
      exact (Multiset.nodup_cons.mp hgiven.nodup).1 (hid' ▸ hmem')
    · exact ((hgiven.named _ (Multiset.mem_cons_self _ _)).mono hm).ne_next model.shape hid.symm
  | @decoy n c cells plugs tiles h ih =>
    refine List.nodup_cons.mpr ⟨fun hmem => ?_, ih (hgiven.mono le_rfl (Nat.le_succ n))⟩
    obtain ⟨e, he, hid⟩ := List.mem_map.mp hmem
    obtain ⟨other, hother, c', rfl⟩ | ⟨m, hm, c', rfl⟩ := h.mem he
    · have hnamed := hgiven.named _ (Multiset.mem_map_of_mem (fun p : Plug => p.element.id) hother)
      exact hnamed.ne_next model.shape hid
    · have hnumber : m + 1 = n + 1 := (Shape.idOf_inj hid).2
      omega

/-- **The tiles look the same** if the plugs have the shape and the size of the model. -/
lemma looksLike (h : Tiles model place n cells plugs tiles) (hmade : ∀ plug ∈ plugs, plug.Made)
    (hplugs : ∀ plug ∈ plugs, plug.element.shape = model.shape ∧
      plug.element.width.Alike model.width ∧ plug.element.height.Alike model.height) :
    ∀ e ∈ tiles, LooksLike e (Technique.decoy model 0) := by
  intro e he
  obtain ⟨plug, hplug, c, rfl⟩ | ⟨m, -, c, rfl⟩ := h.mem he
  · obtain ⟨hshape, hwidth, hheight⟩ := hplugs plug hplug
    obtain ⟨id, shape, width, height, color, helement⟩ := hmade plug hplug
    have hrotation : plug.element.rotation = 0 := by rw [helement]; rfl
    exact ⟨hshape, hwidth, hheight, rfl, hrotation, rfl, rfl⟩
  · exact ⟨rfl, .inl rfl, .inl rfl, rfl, rfl, rfl, rfl⟩

/-- Each tile is in the middle of its place. -/
lemma centered (h : Tiles model place n cells plugs tiles) :
    List.Forall₂ (fun c e => e.centered (place c) = e) cells tiles := by
  induction h with
  | nil => exact .nil
  | key _ ih => exact .cons rfl ih
  | decoy _ ih => exact .cons rfl ih

/-- **Each tile lies in its place,** if its size is one of those that are made. -/
lemma lies {r : Rect} (h : Tiles model (tilePlace r model.footprint) n cells plugs tiles)
    (hr : r.inBounds = true) {rows columns : Nat} (hw : r.w = columns * model.footprint.1)
    (hh : r.h = rows * model.footprint.2) (hcells : ∀ c ∈ cells, c.1 < rows ∧ c.2 < columns)
    (hwidth : model.width ∈ Side.sizes) (hheight : model.height ∈ Side.sizes)
    (hplugs : ∀ plug ∈ plugs, Keeping.Fitting model plug.element) :
    List.Forall₂ (fun c e => e.LiesIn (tilePlace r model.footprint c)) cells tiles := by
  have hsits : ∀ {e : Element} {c : Nat × Nat}, c.1 < rows ∧ c.2 < columns → Keeping.Fitting model e →
      (e.centered (tilePlace r model.footprint c)).LiesIn (tilePlace r model.footprint c) :=
    fun hc he => (Keeping.sits_place hr hwidth hheight hw hh hc.1 hc.2 he).lies
  induction h with
  | nil => exact .nil
  | key _ ih =>
    obtain ⟨hc, hcells⟩ := List.forall_mem_cons.mp hcells
    obtain ⟨hplug, hplugs⟩ := List.forall_mem_cons.mp hplugs
    exact .cons (hsits hc ⟨hplug.shape_eq, hplug.width_eq, hplug.height_eq⟩) (ih hcells hplugs)
  | decoy _ ih =>
    obtain ⟨hc, hcells⟩ := List.forall_mem_cons.mp hcells
    exact .cons (hsits hc ⟨rfl, rfl, rfl⟩) (ih hcells hplugs)

end Tiles

/-! ## Places -/

/-- **Different cells of a block** have places that do not meet. -/
lemma tilePlace_apart (r : Rect) (tile : Nat × Nat) {c c' : Nat × Nat} (hne : c ≠ c') :
    (tilePlace r tile c).Apart (tilePlace r tile c') := by
  have hsame : ∀ {m n start size x : Nat}, start + m * size ≤ x → x < start + m * size + size →
      start + n * size ≤ x → x < start + n * size + size → m = n := by
    intro m n start size x hm hm' hn hn'
    have hdiv : ∀ {k}, start + k * size ≤ x → x < start + k * size + size → (x - start) / size = k :=
      fun hk hk' => Nat.div_eq_of_lt_le (by omega) (by rw [Nat.succ_mul]; omega)
    exact (hdiv hm hm').symm.trans (hdiv hn hn')
  rintro x y ⟨h, h'⟩
  obtain ⟨hleft, hright, htop, hbottom⟩ := Rect.covers_iff.mp h
  obtain ⟨hleft', hright', htop', hbottom'⟩ := Rect.covers_iff.mp h'
  exact hne (Prod.ext (hsame htop hbottom htop' hbottom') (hsame hleft hright hleft' hright'))

/-- The place of a tile is a part of the block. -/
lemma covers_of_tilePlace {r : Rect} {tile c : Nat × Nat} {rows columns x y : Nat}
    (hw : r.w = columns * tile.1) (hh : r.h = rows * tile.2) (hc : c.1 < rows ∧ c.2 < columns)
    (h : (tilePlace r tile c).covers x y = true) : r.covers x y = true := by
  obtain ⟨hleft, hright, htop, hbottom⟩ := Rect.covers_iff.mp h
  have hacross : (c.2 + 1) * tile.1 ≤ columns * tile.1 := Nat.mul_le_mul_right _ hc.2
  have hdown : (c.1 + 1) * tile.2 ≤ rows * tile.2 := Nat.mul_le_mul_right _ hc.1
  rw [Nat.add_one_mul] at hacross hdown
  dsimp only [tilePlace] at hleft hright htop hbottom
  exact Rect.covers_iff.mpr ⟨by omega, by omega, by omega, by omega⟩

/-! ## Groups -/

/-- **The tiles of a group lie in a block** of a rectangle that was free and is claimed: each is in the
middle of its own cells, and no two of them have a cell in common. -/
structure Blocks (tile : Nat × Nat) (g : Grid) (r : Rect) (cells : List (Nat × Nat))
    (tiles : List Element) (g' : Grid) : Prop where
  free : g.isFree r = true
  grid_eq : g' = g.claim r
  block : ∃ rows columns, r.w = columns * tile.1 ∧ r.h = rows * tile.2 ∧
    cells.Sublist (TilePattern.block rows columns)
  inside : ∀ c ∈ cells, ∀ x y, (tilePlace r tile c).covers x y = true → r.covers x y = true
  apart : (cells.map (tilePlace r tile)).Pairwise Rect.Apart
  centered : List.Forall₂ (fun c e => e.centered (tilePlace r tile c) = e) cells tiles

/-- **A group hides plugs.**  They leave the pool and are recorded, and each of them has a tile.  At least
two other tiles are decoys. -/
structure Hides (d : Desk) (keys : List Plug) (r : Rect) (cells : List (Nat × Nat))
    (tiles : List Element) (d' : Desk) : Prop where
  count : keys.length = 1 ∨ keys.length = 2
  pool_eq : d.pool = d'.pool + keys
  origin : ∀ key ∈ keys, key.origin ≠ d.draft.index
  placements : ∃ placed, d'.placements = d.placements ++ placed ∧
    placed.Perm (keys.map fun key => ⟨key.element.id, key.origin, d.draft.index⟩)
  elements_eq : d'.elements = d.elements ++ tiles
  /-- No two plugs, and no two tiles, have the same id. -/
  keys_nodup : (keys.map (·.element.id)).Nodup
  tiles_nodup : (tiles.map (·.id)).Nodup
  conceals : ∀ key ∈ keys, ∃ e ∈ tiles, Conceals e key
  /-- A tile that does nothing is a decoy. -/
  isDecoy : ∀ e ∈ tiles, e.actions = [] → IsDecoy d.lastId e
  decoys : 2 ≤ (tiles.filter (·.actions = [])).length
  looksLike : ∀ e ∈ tiles, ∀ e' ∈ tiles, LooksLike e e'
  blocks : ∃ key ∈ keys, Blocks key.element.footprint d.draft.grid r cells tiles d'.draft.grid ∧
    ((∀ key ∈ keys, key.element.width ∈ Side.sizes ∧ key.element.height ∈ Side.sizes) →
      List.Forall₂ (fun c e => e.LiesIn (tilePlace r key.element.footprint c)) cells tiles)

lemma LooksLike.trans_symm {a b model : Element} (ha : LooksLike a model) (hb : LooksLike b model) :
    LooksLike a b where
  shape_eq := ha.shape_eq.trans hb.shape_eq.symm
  width := ha.width.trans hb.width.symm
  height := ha.height.trans hb.height.symm
  color_eq := ha.color_eq.trans hb.color_eq.symm
  rotation_eq := ha.rotation_eq.trans hb.rotation_eq.symm
  elevation_eq := ha.elevation_eq.trans hb.elevation_eq.symm
  method_eq := ha.method_eq.trans hb.method_eq.symm

variable {d : Desk}

/-- Two plugs of the same shape and size. -/
structure Twins (a b : Element) : Prop where
  shape_eq : a.shape = b.shape
  width : a.width.Alike b.width
  height : a.height.Alike b.height

/-- Sizes that are made are equal if their values are. -/
lemma Twins.fitting {a b : Element} (h : Twins a b)
    (ha : a.width ∈ Side.sizes ∧ a.height ∈ Side.sizes)
    (hb : b.width ∈ Side.sizes ∧ b.height ∈ Side.sizes) : Keeping.Fitting b a where
  shape_eq := h.shape_eq
  width_eq := h.width.elim id (KeepsExact.eq_of_same _ ha.1 _ hb.1)
  height_eq := h.height.elim id (KeepsExact.eq_of_same _ ha.2 _ hb.2)

/-- **Plugs in hand** are hidden when the tiles are placed. -/
lemma works_hide (hmade : ∀ plug ∈ d.pool, plug.Made)
    (hgiven : Given d.lastId (d.pool.map (·.element.id))) {r : Rect} {grid : Grid}
    (hclaims : d.Claims r grid) {keys : List Plug} {rest : Multiset Plug} (hpool : d.pool = rest + keys)
    (hcount : keys.length = 1 ∨ keys.length = 2) (horigin : ∀ key ∈ keys, key.origin ≠ d.draft.index)
    {model : Plug} (hmodel : model ∈ keys) (htwins : ∀ key ∈ keys, Twins key.element model.element)
    {rows columns : Nat} (hw : r.w = columns * model.element.footprint.1)
    (hh : r.h = rows * model.element.footprint.2) {cells shuffled : List (Nat × Nat)}
    (hblock : cells.Sublist (TilePattern.block rows columns)) (hperm : shuffled.Perm cells)
    (hlength : keys.length + 2 ≤ cells.length) :
    Works ((d.withPool rest).withGrid grid)
      (Technique.placeTiles d.draft.index model.element r model.element.footprint (shuffled.zip keys)
        cells) fun _ d' => ∃ tiles, Hides d keys r cells tiles d' := by
  have hnodup := (TilePattern.nodup_block rows columns).sublist hblock
  have hcells : ∀ c ∈ cells, c.1 < rows ∧ c.2 < columns :=
    fun c hc => KeepsExact.mem_block (hblock.subset hc)
  have hplaced : (cells.filterMap ((shuffled.zip keys).lookup ·)).Perm keys := by
    refine (hperm.symm.filterMap _).trans (.of_eq (filterMap_lookup_zip ?_ ?_))
    · exact hperm.nodup_iff.mpr hnodup
    · rw [hperm.length_eq]
      omega
  have hwaits : (keys : Multiset Plug) ≤ d.pool := hpool ▸ Multiset.le_add_left _ _
  have hkeys : ∀ key ∈ keys, key.Made := fun key hkey => hmade key (Multiset.mem_of_le hwaits hkey)
  have hids : Given d.lastId ((keys : Multiset Plug).map (·.element.id)) :=
    hgiven.mono (Multiset.map_le_map hwaits) le_rfl
  refine .weaken (works_tiles model.element r _ (shuffled.zip keys) cells rfl) fun _ d' h => ?_
  obtain ⟨tiles, htiles, helements, hgrid, hrest, hplacements⟩ := h
  generalize cells.filterMap ((shuffled.zip keys).lookup ·) = plugs at *
  have hdecoys := htiles.decoys_add
  rw [hplaced.length_eq] at hdecoys
  have hlooks := htiles.looksLike (fun plug hplug => hkeys plug (hplaced.mem_iff.mp hplug))
    fun plug hplug => ⟨(htwins plug (hplaced.mem_iff.mp hplug)).shape_eq,
      (htwins plug (hplaced.mem_iff.mp hplug)).width, (htwins plug (hplaced.mem_iff.mp hplug)).height⟩
  exact ⟨tiles,
    { count := hcount
      pool_eq := hpool.trans (congrArg (· + _) hrest.symm)
      origin := horigin
      placements := ⟨_, hplacements, hplaced.map _⟩
      elements_eq := helements
      keys_nodup := Multiset.coe_nodup.mp hids.nodup
      tiles_nodup := htiles.distinct (Multiset.coe_eq_coe.mpr hplaced ▸ hids)
      conceals := fun key hkey => htiles.exists_conceals (hplaced.mem_iff.mpr hkey) (hkeys key hkey)
      isDecoy := fun e he => htiles.isDecoy he
      decoys := by omega
      looksLike := fun e he e' he' => (hlooks e he).trans_symm (hlooks e' he')
      blocks := ⟨model, hmodel,
        { free := hclaims.free
          grid_eq := hgrid.trans hclaims.grid_eq
          block := ⟨rows, columns, hw, hh, hblock⟩
          inside := fun c hc x y => covers_of_tilePlace hw hh (hcells c hc)
          apart := List.pairwise_map.mpr (hnodup.imp (tilePlace_apart r _))
          centered := htiles.centered },
        fun hsizes => htiles.lies (Grid.inBounds_of_isFree hclaims.free) hw hh hcells
          (hsizes model hmodel).1 (hsizes model hmodel).2 fun plug hplug =>
            have hkey := hplaced.mem_iff.mp hplug
            (htwins plug hkey).fitting (hsizes plug hkey) (hsizes model hmodel)⟩ }⟩

/-- **What becomes of a desk** when a group is placed on it. -/
lemma works_group_hides (hmade : ∀ plug ∈ d.pool, plug.Made)
    (hgiven : Given d.lastId (d.pool.map (·.element.id))) :
    Works d Technique.group fun applied d' =>
      applied = true → ∃ keys r cells tiles, Hides d keys r cells tiles d' := by
  refine .draft (.readSession fun s _ => .withdrawWhere (fun _ => ?_) fun plug rest hpool horigin _ => ?_)
  · exact .skip (.note _) fun _ _ => .pure Bool.noConfusion
  refine .skip (.draws (Draws.keeps_inRange _ _)) fun rows hrows => ?_
  refine .skip (.draws (Draws.keeps_inRange _ _)) fun columns hcolumns => ?_
  refine .bind (works_allocateBlock _ _ _) fun found d₁ hfound => ?_
  rcases found with _ | ⟨rows', columns', r⟩
  · exact .skip (.note _) fun _ _ => .deposit (.pure Bool.noConfusion)
  obtain ⟨hsize, ⟨hw, hh⟩, grid, hclaims, rfl⟩ := hfound.2 _ rfl
  have hmany : 2 * 3 ≤ (TilePattern.block rows' columns').length := by
    simp only [List.mem_cons, List.not_mem_nil, or_false, Prod.mk.injEq] at hsize
    rw [TilePattern.length_block]
    exact Nat.mul_le_mul (by omega) (by omega)
  refine .skip (.drawn _) fun number _ => .skip (.draws (TilePattern.keeps_cells_sublist _ _ _)) ?_
  rintro cells ⟨hblock, hthree⟩
  -- whichever keys there are, there are cells for them and for two decoys
  have hkeys : ∀ second rest', d.pool = rest' + (plug :: second : List Plug) →
      (second = [] ∨ second.length = 1 ∧ 3 < cells.length) →
      (∀ key ∈ second, key.origin ≠ d.draft.index ∧ Twins key.element plug.element) →
      Works ((d.withPool rest').withGrid grid) (do
        let shuffled ← Draws.shuffle cells
        Making.note (.groupPlaced rows' columns' (TilePattern.values.getD number .all) r.x r.y
          (plug :: second).length)
        Technique.placeTiles d.draft.index plug.element r plug.element.footprint
          (shuffled.zip (plug :: second)) cells
        Pure.pure true) fun applied d' =>
          applied = true → ∃ keys r cells tiles, Hides d keys r cells tiles d' := by
    intro second rest' hpool' hcount hsecond
    refine .skip (.draws (Draws.keeps_shuffle cells)) fun shuffled hperm => .skip (.note _) fun _ _ => ?_
    refine .bind (works_hide hmade hgiven ⟨hclaims.free, hclaims.grid_eq⟩ hpool' ?_ ?_ List.mem_cons_self
      ?_ hw hh hblock hperm ?_) fun _ d' h => .pure fun _ => ⟨_, r, cells, h⟩
    · rcases hcount with rfl | ⟨hone, -⟩
      · exact .inl rfl
      · exact .inr (congrArg Nat.succ hone)
    · exact List.forall_mem_cons.mpr ⟨horigin, fun key hkey => (hsecond key hkey).1⟩
    · exact List.forall_mem_cons.mpr ⟨⟨rfl, .inl rfl, .inl rfl⟩, fun key hkey => (hsecond key hkey).2⟩
    · rcases hcount with rfl | ⟨hone, hmore⟩
      · rw [List.length_singleton]
        omega
      · rw [List.length_cons]
        omega
  refine .secondKey (hkeys [] rest ?_ (.inl rfl) (List.forall_mem_nil _))
    fun second rest' hmore hrest hsecond hlike =>
      hkeys [second] rest' ?_ (.inr ⟨rfl, hmore⟩) (List.forall_mem_singleton.mpr ⟨hsecond, ?_⟩)
  · rw [hpool, Multiset.coe_singleton, add_comm, Multiset.singleton_add]
  · have hboth : d.pool = plug ::ₘ second ::ₘ rest' := hpool.trans (congrArg _ hrest)
    rw [hboth, add_comm, ← Multiset.cons_coe, ← Multiset.cons_coe, Multiset.coe_nil,
      Multiset.cons_add, Multiset.cons_add, zero_add]
  · simp only [Bool.and_eq_true, decide_eq_true_eq] at hlike
    exact ⟨hlike.1.1, .inr hlike.1.2, .inr hlike.2⟩

/-- **A group hides exactly the plugs that it takes,** among tiles that look the same. -/
theorem group_hides_plugs {b : Workbench} (hstocked : b.session.Stocked)
    (happlied : (Technique.group b).1 = true) : ∃ keys r cells tiles,
      Hides b.desk keys r cells tiles (Technique.group b).2.desk :=
  works_group_hides (d := b.desk) hstocked.made hstocked.given b rfl happlied

/-- A round plug of the first panel is hidden on the second one. -/
theorem group_hides_plugs_round : ∃ b : Workbench, b.session.Stocked ∧
    b.session.pool.plugs.map (·.element.id) = ["c1"] ∧ (Technique.group b).1 = true ∧
    ∃ keys r cells tiles, Hides b.desk keys r cells tiles (Technique.group b).2.desk := by
  have hstocked := (Session.stocked_of_pool_eq
    (s := { draws := .ofWords fun _ => 0, profile := .ofDifficulty .medium }) rfl).depositPlug
      0 .circle 1 1 4
  have happlied : (Technique.group ⟨.new 1 "blue", (Session.depositPlug 0 .circle 1 1 4
      { draws := .ofWords fun _ => 0, profile := .ofDifficulty .medium }).2⟩).1 = true := by
    decide +kernel
  exact ⟨_, hstocked, by decide +kernel, happlied, group_hides_plugs hstocked happlied⟩

end Technique

end PanelPuzzle
