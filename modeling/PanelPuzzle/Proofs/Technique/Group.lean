import PanelPuzzle.Proofs.Technique.Moves
import PanelPuzzle.Technique.Apply
/-!
# Groups place the plugs that they take

A group takes one or two plugs out of the pool before it is known whether there is room for it.
Either the plug goes back, or each plug gets a cell of its own.  For that the cells are in any order,
there is one for each plug, and none of them twice: `leads_placeTiles` and `filterMap_lookup_zip`.

With that every technique makes moves: `Moves.technique`.
-/

namespace PanelPuzzle

variable {α β : Type}

/-! ## Draws -/

namespace Draws

lemma keeps_inRange (low high : Nat) : Keeps (fun _ => True) (inRange low high) (low ≤ ·) :=
  .bind (.always _) fun offset _ => .pure (Nat.le_add_right low offset)

lemma keeps_shuffleFrom : ∀ (count i : Nat) (chunk : Chunk) (items : Array α),
    Keeps (fun _ => True) (shuffleFrom count i chunk items) (·.Perm items)
  | 0, _, _, _ => .pure (.refl _)
  | count + 1, i, chunk, items => by
    refine .bind (.always (nextIndex i chunk)) fun index _ => ?_
    have hswap : (items.swapIfInBounds i index.1).Perm items := by
      rw [Array.swapIfInBounds_def]
      split_ifs
      · exact Array.swap_perm _ _
      · exact .refl _
      · exact .refl _
    exact (keeps_shuffleFrom count (i + 1) index.2 _).weaken fun _ h => h.trans hswap

/-- **A shuffle gives the same items.** -/
lemma keeps_shuffle (items : List α) : Keeps (fun _ => True) (shuffle items) (·.Perm items) := by
  unfold shuffle
  split
  · exact .pure (.refl _)
  · refine .bind (keeps_shuffleFrom _ _ _ _) fun shuffled h => .pure ?_
    exact Array.perm_iff_toList_perm.mp h

end Draws

/-! ## The cells of a group -/

namespace TilePattern

lemma nodup_block (rows columns : Nat) : (block rows columns).Nodup :=
  List.nodup_range.product List.nodup_range

lemma length_block (rows columns : Nat) : (block rows columns).length = rows * columns :=
  (List.length_product _ _).trans (congrArg₂ _ List.length_range List.length_range)

lemma block_ne_nil {rows columns : Nat} (hrows : 0 < rows) (hcolumns : 0 < columns) :
    block rows columns ≠ [] :=
  List.ne_nil_of_mem (List.mem_flatMap.mpr ⟨0, List.mem_range.mpr hrows,
    List.mem_map.mpr ⟨0, List.mem_range.mpr hcolumns, rfl⟩⟩)

lemma keeps_keepByChance (probability : Number) : ∀ items : List α,
    Keeps (fun _ => True) (keepByChance probability items) (·.Sublist items)
  | [] => .pure (List.Sublist.refl _)
  | a :: rest => by
    refine .bind (.always _) fun kept _ => .bind (keeps_keepByChance probability rest)
      fun others hothers => .pure ?_
    split
    · exact hothers.cons_cons a
    · exact hothers.cons a

lemma keeps_pick (pattern : TilePattern) (rows columns : Nat) :
    Keeps (fun _ => True) (pattern.pick rows columns) (·.Sublist (block rows columns)) := by
  cases pattern with
  | all => exact .pure (List.Sublist.refl _)
  | checkerboard => exact .pure List.filter_sublist
  | sparse => exact keeps_keepByChance _ _

/-- **Some cells of a block get a tile,** at least three if the block has as many. -/
lemma keeps_cells_sublist (pattern : TilePattern) (rows columns : Nat) :
    Keeps (fun _ => True) (pattern.cells rows columns) fun cells =>
      cells.Sublist (block rows columns) ∧ min 3 (block rows columns).length ≤ cells.length := by
  refine .bind (keeps_pick pattern rows columns) fun picked hpicked => .pure
    ⟨List.filter_sublist, ?_⟩
  have hblock := nodup_block rows columns
  -- the cells that are not picked, and those of them that make up for what is missing
  set others := (block rows columns).filter (!picked.contains ·) with hothers
  have hmissing : others.take (3 - picked.length) ⊆ others := List.take_subset _ _
  have hfilled : (picked ++ others.take (3 - picked.length)).Subperm
      ((block rows columns).filter (picked ++ others.take (3 - picked.length)).contains) := by
    refine List.Nodup.subperm (List.nodup_append'.mpr ⟨hblock.sublist hpicked,
      (hblock.filter _).sublist (List.take_sublist _ _), ?_⟩) fun c hc => List.mem_filter.mpr ⟨?_, ?_⟩
    · intro c hc hc'
      simpa [hc] using (List.mem_filter.mp (hmissing hc')).2
    · exact (List.mem_append.mp hc).elim (hpicked.subset ·) fun hc => (List.mem_filter.mp (hmissing hc)).1
    · simpa using hc
  have hpart : ((block rows columns).filter picked.contains).length ≤ picked.length := by
    refine ((hblock.filter _).subperm fun c hc => ?_).length_le
    simpa using (List.mem_filter.mp hc).2
  have hwhole := List.length_eq_length_filter_add (l := block rows columns) picked.contains
  have hlength := hfilled.length_le
  rw [List.length_append, List.length_take] at hlength
  rw [← hothers] at hwhole
  omega

/-- None of them gets two. -/
lemma keeps_cells (pattern : TilePattern) {rows columns : Nat}
    (hblock : block rows columns ≠ []) :
    Keeps (fun _ => True) (pattern.cells rows columns) fun cells => cells ≠ [] ∧ cells.Nodup := by
  refine (keeps_cells_sublist pattern rows columns).weaken fun cells h => ⟨?_, ?_⟩
  · have hpos := List.length_pos_iff.mpr hblock
    exact List.length_pos_iff.mp (by omega)
  · exact (nodup_block rows columns).sublist h.1

end TilePattern

/-- **Each key has a cell of its own,** if there are enough of them. -/
lemma filterMap_lookup_zip [BEq α] [LawfulBEq α] : ∀ {cells : List α} {keys : List β},
    cells.Nodup → keys.length ≤ cells.length →
      cells.filterMap ((cells.zip keys).lookup ·) = keys
  | [], keys, _, hlength => (List.length_eq_zero_iff.mp (Nat.le_zero.mp hlength)).symm
  | c :: cells, [], _, _ => by simp
  | c :: cells, key :: keys, hnodup, hlength => by
    obtain ⟨hfresh, hothers⟩ := List.nodup_cons.mp hnodup
    have hrest : cells.filterMap (((c :: cells).zip (key :: keys)).lookup ·)
        = cells.filterMap ((cells.zip keys).lookup ·) := by
      refine List.filterMap_congr fun d hd => ?_
      have hne : d ≠ c := fun h => hfresh (h ▸ hd)
      rw [List.zip_cons_cons, List.lookup_cons, beq_false_of_ne hne]
    rw [List.filterMap_cons_some (b := key), hrest,
      filterMap_lookup_zip hothers (Nat.le_of_succ_le_succ hlength)]
    rw [List.zip_cons_cons, List.lookup_cons, BEq.rfl]

/-! ## Plugs in hand -/

namespace Scene

variable {v : Scene}

/-- A plug that goes back is deposited once more. -/
lemma deposit_withPool {plug : Plug} {rest : Multiset Plug} (h : v.pool = plug ::ₘ rest) :
    (v.withPool rest).deposit plug = v.noteDeposit plug := by
  change { v with pool := plug ::ₘ rest, deposits := _ } = v.noteDeposit plug
  rw [← h]
  rfl

end Scene

namespace Making

open Technique

variable {v : Scene}

/-- A second key is a plug of the shape of the first one, and there are cells enough for it. -/
lemma Shows.secondKey {first : Element} {cellCount : Nat} {next : List Plug → Making β}
    {Q : β → Scene → Prop} (hnone : Shows v (next []) Q)
    (hsome : ∀ plug rest, 3 < cellCount → v.pool = plug ::ₘ rest → plug.origin ≠ v.index →
      Shows (v.withPool rest) (next [plug]) Q) :
    Shows v (liftM (Technique.secondKey v.index first cellCount) >>= next) Q := by
  unfold Technique.secondKey
  split
  · rename_i hcells
    refine .lift (.skip (.session _) fun wanted _ => ?_)
    split
    · exact .lift (.withdrawWhere hnone fun plug rest hpool horigin _ =>
        hsome plug rest hcells hpool horigin)
    · exact hnone
  · exact hnone

lemma not_mem_movable {shape : Shape} (h : shape.draggable = true) :
    shape ∉ Phase.movable .populating := by
  revert h
  cases shape <;> decide

/-- A disguised plug is put on a scene where the plug waits. -/
lemma move_disguise {plug : Plug} {rest : Multiset Plug} (hpool : v.pool = plug ::ₘ rest)
    (hplain : plug.Plain) (horigin : plug.origin ≠ v.index) (r : Rect) :
    v.Move .populating
      (((v.withPool rest).push ((disguise plug.element).centered r)).record plug) := by
  have hactions : ((disguise plug.element).centered r).actions = [.release plug.element.id] :=
    congrArg (· ++ [Action.release plug.element.id]) hplain.lockable.actions
  refine .place hpool horigin rfl rfl ⟨hplain.lockable.comparison, Change.noConfusion⟩ ?_
    (.inr ⟨.inl rfl, .inr ?_⟩)
  · rw [Scene.Reaches, hactions]
    exact List.forall_mem_singleton.mpr (.inl rfl)
  · rw [hactions]
    exact List.mem_singleton.mpr rfl

/-- **The tiles of a group** place the plugs whose cells are among theirs. -/
lemma leads_placeTiles {panel : Nat} {model : Element} (hmodel : model.shape.draggable = true)
    (r : Rect) (tile : Nat × Nat) (keys : List ((Nat × Nat) × Plug)) :
    ∀ (cells : List (Nat × Nat)) {v : Scene}, v.index = panel →
      (∀ plug ∈ cells.filterMap (keys.lookup ·), plug.Plain ∧ plug.origin ≠ panel) →
      Shows v (Technique.placeTiles panel model r tile keys cells) fun _ v' =>
        (v.hold (cells.filterMap (keys.lookup ·))).Leads .populating v'
  | [], v, _, _ => .pure (by
      rw [List.filterMap_nil, Multiset.coe_nil, Scene.hold_zero]
      exact .refl)
  | (row, column) :: cells, v, hpanel, hplugs => by
    unfold Technique.placeTiles
    cases hkey : keys.lookup (row, column) with
    | some plug =>
      rw [List.filterMap_cons_some (by exact hkey)] at hplugs ⊢
      obtain ⟨⟨hplain, horigin⟩, hothers⟩ := List.forall_mem_cons.mp hplugs
      refine .recordPlacement hpanel (.push ?_)
      refine .weaken (leads_placeTiles hmodel r tile keys cells hpanel hothers) fun _ _ hleads => ?_
      have hpool : (v.hold (plug :: cells.filterMap (keys.lookup ·))).pool = _ :=
        Multiset.add_cons plug v.pool (cells.filterMap (keys.lookup ·))
      exact .head (move_disguise hpool hplain (hpanel ▸ horigin) _) hleads
    | none =>
      rw [List.filterMap_cons_none (by exact hkey)] at hplugs ⊢
      refine .newElement (.push ?_)
      refine .weaken (leads_placeTiles hmodel r tile keys cells hpanel hplugs)
        fun _ _ hleads => .head (.add rfl ⟨rfl, Change.noConfusion⟩ ?_ ?_) hleads
      · exact List.forall_mem_nil _
      · exact fun h => absurd h (not_mem_movable hmodel)

lemma quiet_allocateBlock (tile : Nat × Nat) : ∀ blocks : List (Nat × Nat),
    Quiet (Technique.allocateBlock tile blocks) fun found =>
      ∀ block ∈ found, (block.1, block.2.1) ∈ blocks
  | [] => .pure fun block hblock => absurd hblock (Option.not_mem_none block)
  | (rows, columns) :: others => by
    refine .bind (.allocateCells _ _) fun found _ => ?_
    cases found with
    | none =>
      exact (quiet_allocateBlock tile others).weaken fun found hfound block hblock =>
        List.mem_cons_of_mem _ (hfound block hblock)
    | some r =>
      refine .pure fun block hblock => ?_
      rw [← Option.mem_some_iff.mp hblock]
      exact List.mem_cons_self

/-- The plugs of a group are in hand until all tiles are placed. -/
lemma leads_keys {v : Scene} (hv : v.Sound) {model : Element} (hmodel : model.shape.draggable = true)
    (r : Rect) (tile : Nat × Nat) {plugs : List Plug} {rest : Multiset Plug}
    (hpool : v.pool = rest + plugs) (horigin : ∀ plug ∈ plugs, plug.origin ≠ v.index)
    {cells shuffled : List (Nat × Nat)} (hperm : shuffled.Perm cells) (hnodup : cells.Nodup)
    (hlength : plugs.length ≤ cells.length) :
    Shows (v.withPool rest)
      (Technique.placeTiles v.index model r tile (shuffled.zip plugs) cells) fun _ v' =>
        v.Leads .populating v' := by
  have hkeys : (cells.filterMap ((shuffled.zip plugs).lookup ·)).Perm plugs := by
    refine (hperm.symm.filterMap _).trans (.of_eq (filterMap_lookup_zip ?_ ?_))
    · exact hperm.nodup_iff.mpr hnodup
    · rwa [hperm.length_eq]
  refine .weaken (leads_placeTiles hmodel r tile _ cells rfl fun plug hplug => ?_)
    fun _ v' hleads => ?_
  · have hmem := hkeys.mem_iff.mp hplug
    refine ⟨hv.plain plug ?_, horigin plug hmem⟩
    rw [hpool]
    exact Multiset.mem_add.mpr (.inr hmem)
  · rwa [Multiset.coe_eq_coe.mpr hkeys, Scene.hold_withPool hpool] at hleads

namespace Moves

/-- **A group places the plugs that it takes,** or gives them back. -/
lemma group : Moves .populating Technique.group := by
  intro v hv
  refine .draft fun d hindex _ _ => .skip .readSession fun s _ => ?_
  rw [hindex]
  refine .withdrawWhere (.skip (.note ⟨rfl, rfl⟩) fun _ _ => .pure .refl)
    fun plug rest hpool horigin _ => ?_
  refine .skip (.draws (Draws.keeps_inRange _ _)) fun rows hrows => ?_
  refine .skip (.draws (Draws.keeps_inRange _ _)) fun columns hcolumns => ?_
  refine .skip (quiet_allocateBlock _ _) fun found hfound => ?_
  rcases found with _ | ⟨rows', columns', r⟩
  · refine .skip (.note ⟨rfl, rfl⟩) fun _ _ => .deposit (.pure ?_)
    rw [Scene.deposit_withPool hpool]
    exact .single (.noted (hpool ▸ Multiset.mem_cons_self plug rest))
  have hblock : TilePattern.block rows' columns' ≠ [] := by
    have hsize := hfound _ rfl
    simp only [List.mem_cons, List.not_mem_nil, or_false, Prod.mk.injEq] at hsize
    refine TilePattern.block_ne_nil ?_ ?_
    · omega
    · omega
  refine .skip (.drawn _) fun number _ => .skip (.draws (TilePattern.keeps_cells _ hblock)) ?_
  rintro cells ⟨hcells, hnodup⟩
  have hplain := hv.plain plug (hpool ▸ Multiset.mem_cons_self plug rest)
  -- whichever keys there are, they are all of what was taken
  have hkeys : ∀ keys rest', keys.length ≤ cells.length → v.pool = rest' + (keys : List Plug) →
      (∀ key ∈ keys, key.origin ≠ v.index) → Shows (v.withPool rest') (do
        let shuffled ← Draws.shuffle cells
        Making.note (.groupPlaced rows' columns' (TilePattern.values.getD number .all) r.x r.y
          keys.length)
        Technique.placeTiles v.index plug.element r plug.element.footprint (shuffled.zip keys) cells
        Pure.pure true) fun _ v' => v.Leads .populating v' := by
    intro keys rest' hlength hpool' horigins
    refine .skip (.draws (Draws.keeps_shuffle cells)) fun shuffled hperm => ?_
    refine .skip (.note ⟨rfl, rfl⟩) fun _ _ => ?_
    refine .bind (leads_keys hv hplain.draggable r _ hpool' horigins hperm hnodup hlength) ?_
    exact fun _ v' hleads => .pure hleads
  have hfirst : 1 ≤ cells.length := List.length_pos_iff.mpr hcells
  refine .secondKey (hkeys [plug] rest hfirst ?_ ?_) fun second rest' hmany hrest hsecond =>
    hkeys [plug, second] rest' (by simp; omega) ?_ ?_
  · rw [hpool, Multiset.coe_singleton, add_comm, Multiset.singleton_add]
  · exact List.forall_mem_singleton.mpr horigin
  · have hboth : v.pool = plug ::ₘ second ::ₘ rest' := hpool.trans (congrArg _ hrest)
    rw [hboth, add_comm, ← Multiset.cons_coe, ← Multiset.cons_coe, Multiset.coe_nil,
      Multiset.cons_add, Multiset.cons_add, zero_add]
  · exact List.forall_mem_cons.mpr ⟨horigin, List.forall_mem_singleton.mpr hsecond⟩

/-- **Every technique makes moves.** -/
lemma technique : ∀ kind : TechniqueKind, Moves .populating kind.apply
  | .group => group
  | .hole => hole
  | .maze => maze
  | .screw => screw
  | .semicircle => semicircle
  | .switch => switch
  | .switchPattern => switchPattern
  | .tumbler => tumbler

end Moves

end Making

end PanelPuzzle
